/-!
# White space

The characters with the Unicode property White_Space, the parts of a text between runs of them, and
the text without those at its end.
-/

set_option autoImplicit false

namespace Scaffold.Text

def isBlank (c : Char) : Bool :=
  let n := c.toNat
  (9 ≤ n && n ≤ 13) || n = 0x20 || n = 0x85 || n = 0xa0 || n = 0x1680
    || (0x2000 ≤ n && n ≤ 0x200a) || n = 0x2028 || n = 0x2029 || n = 0x202f || n = 0x205f
    || n = 0x3000

def trimEnd (s : List Char) : List Char := (s.reverse.dropWhile isBlank).reverse

/-- The parts between blanks that are not empty; `word` is the current part. -/
def blankSeparatedFrom (word : List Char) : List Char → List (List Char)
  | [] => if word = [] then [] else [word]
  | c :: rest =>
    if isBlank c then
      if word = [] then blankSeparatedFrom [] rest else word :: blankSeparatedFrom [] rest
    else blankSeparatedFrom (word ++ [c]) rest

/-- The parts of a text between runs of blanks, without empty ones. -/
def blankSeparated (s : List Char) : List (List Char) := blankSeparatedFrom [] s

end Scaffold.Text
