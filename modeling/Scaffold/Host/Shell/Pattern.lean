import Scaffold.Host.Octets

/-!
# Patterns

In a pattern a star stands for any text, a question mark for any character and brackets for one of
the characters between them; a quoted character stands for itself.
-/

set_option autoImplicit false

namespace Scaffold.Host.Shell

abbrev PatternChar := Char × Bool

namespace Pattern

inductive Choice where
  | range (low high : Char)
  | named (name : String)
  deriving DecidableEq, Repr

inductive Item where
  | one (c : Char)
  | any
  | many
  | set (negated : Bool) (choices : List Choice)
  deriving DecidableEq, Repr

/-- The character belongs to a class of the ASCII characters. -/
def inClass (name : String) (c : Char) : Bool :=
  let code := c.toNat
  match name with
  | "alpha" => c.isAlpha
  | "digit" => c.isDigit
  | "alnum" => c.isAlphanum
  | "lower" => c.isLower
  | "upper" => c.isUpper
  | "space" => code = 32 || (9 ≤ code && code ≤ 13)
  | "blank" => code = 32 || code = 9
  | "cntrl" => code < 32 || code = 127
  | "print" => 32 ≤ code && code < 127
  | "graph" => 32 < code && code < 127
  | "punct" => 32 < code && code < 127 && !c.isAlphanum
  | "xdigit" => c.isDigit || ('a' ≤ c && c ≤ 'f') || ('A' ≤ c && c ≤ 'F')
  | _ => false

def Choice.holds (c : Char) : Choice → Bool
  | range low high => low ≤ c && c ≤ high
  | named name => inClass name c

def Item.holds (c : Char) : Item → Bool
  | one other => c = other
  | any | many => true
  | set negated choices => choices.any (Choice.holds c) != negated

/-- The name of a class behind its opening, and what follows its end. -/
def className? : List PatternChar → Option (String × List PatternChar)
  | (':', false) :: rest =>
    let name := rest.takeWhile fun (c, _) => c.isAlpha
    match rest.dropWhile fun (c, _) => c.isAlpha with
    | (':', _) :: (']', _) :: behind => some (String.ofList (name.map (·.1)), behind)
    | _ => none
  | _ => none

/-- The characters up to the closing bracket, and what follows it; the first character may be a
closing bracket itself. -/
def choices? : Nat → Bool → List PatternChar → Option (List Choice × List PatternChar)
  | 0, _, _ | _, _, [] => none
  | fuel + 1, first, (c, quoted) :: rest =>
    if c = ']' && !quoted && !first then some ([], rest)
    else match if c = '[' && !quoted then className? rest else none with
      | some (name, behind) =>
        (choices? fuel false behind).map fun (others, left) => (.named name :: others, left)
      | none =>
        match rest with
        | ('-', false) :: (high, highQuoted) :: behind =>
          if high = ']' && !highQuoted then
            (choices? fuel false rest).map fun (others, left) => (.range c c :: others, left)
          else
            (choices? fuel false behind).map fun (others, left) => (.range c high :: others, left)
        | _ => (choices? fuel false rest).map fun (others, left) => (.range c c :: others, left)

/-- The items of a pattern; the fuel is its length. -/
def itemsWithin : Nat → List PatternChar → List Item
  | 0, _ => []
  | _, [] => []
  | fuel + 1, (c, quoted) :: rest =>
    if quoted then .one c :: itemsWithin fuel rest
    else if c = '*' then .many :: itemsWithin fuel rest
    else if c = '?' then .any :: itemsWithin fuel rest
    else if c = '[' then
      let (negated, inner) : Bool × List PatternChar := match rest with
        | (mark, false) :: inner =>
            if mark = '!' || mark = '^' then (true, inner) else (false, rest)
        | _ => (false, rest)
      match choices? (inner.length + 1) true inner with
      | some (choices, behind) => .set negated choices :: itemsWithin fuel behind
      | none => .one c :: itemsWithin fuel rest
    else .one c :: itemsWithin fuel rest

def items (pattern : List PatternChar) : List Item := itemsWithin pattern.length pattern

def matchItems : List Item → List Char → Bool
  | [], text => text.isEmpty
  | .many :: rest, [] => matchItems rest []
  | .many :: rest, c :: text => matchItems rest (c :: text) || matchItems (.many :: rest) text
  | _ :: _, [] => false
  | item :: rest, c :: text => item.holds c && matchItems rest text
  termination_by items text => (items.length, text.length)

end Pattern

open Pattern

def matchesPattern (pattern : List PatternChar) (text : List Char) : Bool :=
  matchItems (items pattern) text

/-- Takes off the beginning of a text that a pattern matches, the shortest or the longest. -/
def dropStart (pattern : List PatternChar) (longest : Bool) (text : List Char) : List Char :=
  let lengths := List.range (text.length + 1)
  let found := (if longest then lengths.reverse else lengths).find? fun n =>
    matchesPattern pattern (text.take n)
  text.drop (found.getD 0)

/-- Takes off the end of a text that a pattern matches, the shortest or the longest. -/
def dropEnd (pattern : List PatternChar) (longest : Bool) (text : List Char) : List Char :=
  let lengths := List.range (text.length + 1)
  let found := (if longest then lengths else lengths.reverse).find? fun n =>
    matchesPattern pattern (text.drop n)
  text.take (found.getD text.length)

/-- The pattern has a character that does not stand for itself. -/
def hasMagic (pattern : List PatternChar) : Bool :=
  (items pattern).any fun
    | .one _ => false
    | _ => true

end Scaffold.Host.Shell
