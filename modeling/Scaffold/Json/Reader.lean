import Scaffold.Json
import Scaffold.Text.Escape

/-!
# Reading JSON text

The reader is strict: one value between blanks, no trailing commas, comments or leading zeros, no
raw control characters in strings.  It takes nesting of any depth; how deep a value may nest is for
its user to say.  Strings and numbers that no value can hold are read as `unreadable`.
-/

set_option autoImplicit false

namespace Scaffold.Json

def isBlank (c : Char) : Bool := c = ' ' || c = '\n' || c = '\r' || c = '\t'

def skipBlanks (s : List Char) : List Char := s.dropWhile isBlank

/-! ## Strings -/

def shortEscape? : Char → Option Char
  | '"' => some '"'
  | '\\' => some '\\'
  | '/' => some '/'
  | 'b' => some '\x08'
  | 'f' => some '\x0c'
  | 'n' => some '\n'
  | 'r' => some '\r'
  | 't' => some '\t'
  | _ => none

inductive StringState where
  | plain
  | backslash
  /-- Inside a numeric escape: the digits still owed and the value so far. -/
  | digits (owed code : Nat)

/-- The code units of a string up to its closing quote, and the text behind it.  Units are code
points, except that escapes may give halves of a surrogate pair. -/
def readUnits : StringState → List Char → Option (List Nat × List Char)
  | _, [] => none
  | .plain, c :: rest =>
    if c = '"' then some ([], rest)
    else if c = '\\' then readUnits .backslash rest
    else if c < ' ' then none
    else (readUnits .plain rest).map fun (units, behind) => (c.toNat :: units, behind)
  | .backslash, c :: rest =>
    if c = 'u' then readUnits (.digits 4 0) rest
    else match shortEscape? c with
      | some x => (readUnits .plain rest).map fun (units, behind) => (x.toNat :: units, behind)
      | none => none
  | .digits owed code, c :: rest =>
    match Text.hexDigit? c with
    | none => none
    | some d =>
      if owed ≤ 1 then
        (readUnits .plain rest).map fun (units, behind) => ((code * 16 + d) :: units, behind)
      else readUnits (.digits (owed - 1) (code * 16 + d)) rest

def isHighSurrogate (unit : Nat) : Bool := 0xD800 ≤ unit && unit < 0xDC00

def isLowSurrogate (unit : Nat) : Bool := 0xDC00 ≤ unit && unit < 0xE000

/-- The characters that code units spell; none when a surrogate stands alone. -/
def joinUnits? : List Nat → Option (List Char)
  | [] => some []
  | high :: low :: rest =>
    if isHighSurrogate high && isLowSurrogate low then
      (joinUnits? rest).map
        (Char.ofNat (0x10000 + (high - 0xD800) * 0x400 + (low - 0xDC00)) :: ·)
    else match Text.scalar? high with
      | some c => (joinUnits? (low :: rest)).map (c :: ·)
      | none => none
  | [unit] => (Text.scalar? unit).map (fun c => [c])

/-! ## Numbers -/

/-- The smallest number that rounds to infinity in double precision: 2 to the 1024 less half a unit
in the last place of the largest double. -/
def doubleOverflow : Nat := (Nat.pow 2 54 - 1) * Nat.pow 2 970

/-- `digits` times ten to the `exponent` is beyond the range of double precision. -/
def exceedsDouble (digits : Nat) (exponent : Int) : Bool :=
  if digits = 0 then false
  else if 310 < exponent then true
  else if 0 ≤ exponent then doubleOverflow ≤ digits * Nat.pow 10 exponent.toNat
  else doubleOverflow * Nat.pow 10 (min (-exponent).toNat (digits.log2 + 1)) ≤ digits

/-- The value of a number, unless it is too large to be one. -/
def numberOf : Number → Json
  | .whole value => if doubleOverflow ≤ value.natAbs then .unreadable else .number (.whole value)
  | .real negative digits exponent =>
    if exceedsDouble digits exponent then .unreadable else .number (.real negative digits exponent)

def digitsValue (digits : List Char) : Nat := Nat.ofDigitChars 10 digits 0

/-- The fraction digits behind a point, none without a point, and the rest. -/
def readFraction : List Char → Option (List Char × List Char)
  | '.' :: rest =>
    let digits := rest.takeWhile Char.isDigit
    if digits = [] then none else some (digits, rest.dropWhile Char.isDigit)
  | s => some ([], s)

def readExponentDigits (negative : Bool) (s : List Char) : Option (Option Int × List Char) :=
  let digits := s.takeWhile Char.isDigit
  if digits = [] then none
  else
    let value : Int := digitsValue digits
    some (some (if negative then -value else value), s.dropWhile Char.isDigit)

/-- The exponent behind its letter, when there is one, and the rest. -/
def readExponent : List Char → Option (Option Int × List Char)
  | c :: rest =>
    if c = 'e' ∨ c = 'E' then
      match rest with
      | '+' :: behind => readExponentDigits false behind
      | '-' :: behind => readExponentDigits true behind
      | _ => readExponentDigits false rest
    else some (none, c :: rest)
  | [] => some (none, [])

def readUnsigned (negative : Bool) (s : List Char) : Option (Json × List Char) :=
  let digits := s.takeWhile Char.isDigit
  if digits = [] ∨ (digits.head? = some '0' ∧ digits ≠ ['0']) then none
  else
    match readFraction (s.dropWhile Char.isDigit) with
    | none => none
    | some (fraction, behind) =>
      match readExponent behind with
      | none => none
      | some (exponent, behind) =>
        let value := digitsValue (digits ++ fraction)
        let number : Number :=
          if fraction = [] ∧ exponent = none ∧ ¬(negative ∧ value = 0) then
            .whole (if negative then -value else value)
          else .real negative value (exponent.getD 0 - fraction.length)
        some (numberOf number, behind)

def readNumber : List Char → Option (Json × List Char)
  | '-' :: rest => readUnsigned true rest
  | s => readUnsigned false s

/-! ## Values -/

def readWord (word : String) (value : Json) (s : List Char) : Option (Json × List Char) :=
  (word.toList.isPrefixOf? s).map fun behind => (value, behind)

def readString (s : List Char) : Option (Option String × List Char) :=
  (readUnits .plain s).map fun (units, behind) => ((joinUnits? units).map String.ofList, behind)

/-- An object with its members, unless one of its keys cannot be read. -/
def objectOf (members : List (Option String × Json)) : Json :=
  match members.mapM (fun (key, value) => key.map fun key => (key, value)) with
  | some members => .object members
  | none => .unreadable

mutual

/-- One value at the start of a text, and the text behind it.  The fuel bounds the number of steps;
twice the length of the text is enough. -/
def readValue : Nat → List Char → Option (Json × List Char)
  | 0, _ => none
  | _ + 1, [] => none
  | fuel + 1, c :: rest =>
    if c = '"' then
      (readString rest).map fun (text, behind) => (text.elim .unreadable .string, behind)
    else if c = '[' then
      match skipBlanks rest with
      | ']' :: behind => some (.array [], behind)
      | s => (readItems fuel s).map fun (items, behind) => (.array items, behind)
    else if c = '\x7b' then
      match skipBlanks rest with
      | '\x7d' :: behind => some (.object [], behind)
      | s => (readMembers fuel s).map fun (members, behind) => (objectOf members, behind)
    else if c = 'n' then readWord "ull" .null rest
    else if c = 't' then readWord "rue" (.bool true) rest
    else if c = 'f' then readWord "alse" (.bool false) rest
    else readNumber (c :: rest)

/-- The items of an array up to its closing bracket, at least one. -/
def readItems : Nat → List Char → Option (List Json × List Char)
  | 0, _ => none
  | fuel + 1, s =>
    match readValue fuel s with
    | none => none
    | some (item, behind) =>
      match skipBlanks behind with
      | ']' :: behind => some ([item], behind)
      | ',' :: behind =>
        (readItems fuel (skipBlanks behind)).map fun (items, behind) => (item :: items, behind)
      | _ => none

/-- The members of an object up to its closing brace, at least one. -/
def readMembers : Nat → List Char → Option (List (Option String × Json) × List Char)
  | 0, _ => none
  | fuel + 1, '"' :: s =>
    match readString s with
    | none => none
    | some (key, behind) =>
      match skipBlanks behind with
      | ':' :: behind =>
        match readValue fuel (skipBlanks behind) with
        | none => none
        | some (value, behind) =>
          match skipBlanks behind with
          | '\x7d' :: behind => some ([(key, value)], behind)
          | ',' :: behind =>
            (readMembers fuel (skipBlanks behind)).map fun (members, behind) =>
              ((key, value) :: members, behind)
          | _ => none
      | _ => none
  | _ + 1, _ => none

end

def parse (text : String) : Option Json :=
  let s := text.toList
  match readValue (2 * s.length + 2) (skipBlanks s) with
  | some (value, behind) => if skipBlanks behind = [] then some value else none
  | none => none

end Scaffold.Json
