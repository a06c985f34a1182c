import Scaffold.Text.Case
import Scaffold.Text.Grapheme

/-!
# Lower camel case

`lowerCamel` cuts a name into words and joins them again, the first in lower case, the others with a
capital first letter.  Words end at underscores, hyphens and spaces, which are dropped, between
letters of rising case, between letters and digits, and inside a run of capitals before the last one
when a small letter follows.  Case is that of whole graphemes; digits are the ASCII ones.
-/

set_option autoImplicit false

namespace Scaffold.Text

/-- What a grapheme counts as when a name is cut into words. -/
inductive LetterKind where
  | upper
  | lower
  | digit
  | separator
  | other
  deriving DecidableEq, Repr

/-- A grapheme is upper or lower case when its two cases differ and it is one of them. -/
def letterKind (grapheme : List Char) : LetterKind :=
  if grapheme = ['_'] ∨ grapheme = ['-'] ∨ grapheme = [' '] then .separator
  else if grapheme.all Char.isDigit then .digit
  else
    let up := Text.upper grapheme
    let low := Text.lower grapheme
    if up = low then .other
    else if grapheme = up then .upper
    else if grapheme = low then .lower
    else .other

/-- A word ends between two graphemes of these kinds; the third is the kind of the one behind
them. -/
def endsWord (first second : LetterKind) (third : Option LetterKind) : Bool :=
  match first, second with
  | .lower, .upper | .lower, .digit | .upper, .digit | .digit, .lower | .digit, .upper => true
  | .upper, .upper => third = some .lower
  | _, _ => false

/-- The words of a name given by its graphemes; `word` is the part of the current word before
them. -/
def wordsFrom (word : List Char) : List (List Char) → List (List Char)
  | [] => [word]
  | grapheme :: rest =>
    let kind := letterKind grapheme
    if kind = .separator then word :: wordsFrom [] rest
    else
      match rest with
      | [] => [word ++ grapheme]
      | next :: others =>
        if endsWord kind (letterKind next) (others.head?.map letterKind) then
          (word ++ grapheme) :: wordsFrom [] rest
        else wordsFrom (word ++ grapheme) rest

def nameWords (name : List Char) : List (List Char) := wordsFrom [] (Grapheme.clusters name)

/-- A word with its first character in upper and the others in lower case. -/
def capitalized : List Char → List Char
  | [] => []
  | c :: rest => upperChar c ++ lower rest

def lowerCamel (name : String) : String :=
  match nameWords name.toList with
  | [] => ""
  | first :: others => String.ofList (lower first ++ others.flatMap capitalized)

end Scaffold.Text
