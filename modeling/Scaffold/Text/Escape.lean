/-!
# Backslash escapes in double quotes

`decode` reads what stands between the quotes of a double-quoted literal: a backslash starts one of
the short escapes, or `x`, `u`, `U` with exactly two, four or eight hexadecimal digits that name a
character.  Every other backslash is an error.
-/

set_option autoImplicit false

namespace Scaffold.Text

def hexDigit? (c : Char) : Option Nat :=
  if '0' ≤ c ∧ c ≤ '9' then some (c.toNat - '0'.toNat)
  else if 'a' ≤ c ∧ c ≤ 'f' then some (c.toNat - 'a'.toNat + 10)
  else if 'A' ≤ c ∧ c ≤ 'F' then some (c.toNat - 'A'.toNat + 10)
  else none

/-- The character with a given code point; half surrogates and values above the last plane have
none. -/
def scalar? (code : Nat) : Option Char :=
  if code.isValidChar then some (Char.ofNat code) else none

namespace Escape

def short? : Char → Option Char
  | 'n' => some '\n'
  | 't' => some '\t'
  | 'r' => some '\r'
  | 'a' => some '\x07'
  | 'b' => some '\x08'
  | 'f' => some '\x0c'
  | 'v' => some '\x0b'
  | '\\' => some '\\'
  | '"' => some '"'
  | _ => none

def digitCount? : Char → Option Nat
  | 'x' => some 2
  | 'u' => some 4
  | 'U' => some 8
  | _ => none

inductive State where
  | plain
  | backslash
  /-- Inside a numeric escape: the digits still owed and the value so far. -/
  | digits (owed code : Nat)

def scan : State → List Char → Option (List Char)
  | .plain, [] => some []
  | .plain, c :: rest =>
    if c = '\\' then scan .backslash rest else (scan .plain rest).map (c :: ·)
  | .backslash, [] => none
  | .backslash, c :: rest =>
    match short? c, digitCount? c with
    | some x, _ => (scan .plain rest).map (x :: ·)
    | none, some n => scan (.digits n 0) rest
    | none, none => none
  | .digits _ _, [] => none
  | .digits owed code, c :: rest =>
    match hexDigit? c with
    | none => none
    | some d =>
      if owed ≤ 1 then
        match scalar? (code * 16 + d) with
        | some x => (scan .plain rest).map (x :: ·)
        | none => none
      else scan (.digits (owed - 1) (code * 16 + d)) rest

def decode (s : List Char) : Option (List Char) := scan .plain s

end Escape

end Scaffold.Text
