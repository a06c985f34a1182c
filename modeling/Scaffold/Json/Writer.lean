import Scaffold.Json

/-!
# JSON text of a value

The text is compact.  Strings escape the quote, the backslash and control characters, the latter by
their short escape when they have one.
-/

set_option autoImplicit false

namespace Scaffold.Json

def hexDigit (n : Nat) : Char :=
  if n < 10 then Char.ofNat ('0'.toNat + n) else Char.ofNat ('a'.toNat + (n - 10))

def writeChar (c : Char) : List Char :=
  if c = '"' then ['\\', '"']
  else if c = '\\' then ['\\', '\\']
  else if c = '\n' then ['\\', 'n']
  else if c = '\r' then ['\\', 'r']
  else if c = '\t' then ['\\', 't']
  else if c = '\x08' then ['\\', 'b']
  else if c = '\x0c' then ['\\', 'f']
  else if c < ' ' then ['\\', 'u', '0', '0', hexDigit (c.toNat / 16), hexDigit (c.toNat % 16)]
  else [c]

def writeString (text : String) : List Char :=
  '"' :: (text.toList.flatMap writeChar ++ ['"'])

def writeNumber : Number → List Char
  | .whole (.ofNat n) => Nat.toDigits 10 n
  | .whole (.negSucc n) => '-' :: Nat.toDigits 10 (n + 1)
  | .real negative digits exponent =>
    (if negative then ['-'] else []) ++ Nat.toDigits 10 digits ++ ['e']
      ++ (if exponent < 0 then ['-'] else []) ++ Nat.toDigits 10 exponent.natAbs

mutual

/-- The compact text of a value; what cannot be read is written as null. -/
def write : Json → List Char
  | null => "null".toList
  | bool true => "true".toList
  | bool false => "false".toList
  | number n => writeNumber n
  | string text => writeString text
  | array [] => ['[', ']']
  | array (item :: rest) => '[' :: (item.write ++ writeItems rest)
  | object [] => ['\x7b', '\x7d']
  | object (member :: rest) => '\x7b' :: (writeMember member ++ writeMembers rest)
  | unreadable => "null".toList

/-- The items behind the first one, up to the closing bracket. -/
def writeItems : List Json → List Char
  | [] => [']']
  | item :: rest => ',' :: (item.write ++ writeItems rest)

def writeMember : String × Json → List Char
  | (name, value) => writeString name ++ ':' :: value.write

/-- The members behind the first one, up to the closing brace. -/
def writeMembers : List (String × Json) → List Char
  | [] => ['\x7d']
  | member :: rest => ',' :: (writeMember member ++ writeMembers rest)

end

def text (value : Json) : String := String.ofList value.write

end Scaffold.Json
