import Scaffold.Decimal
import Scaffold.Host.Escape

/-!
# Filling formats

A format is text with directives in it; each directive takes an argument and says how it is written.
The format is used again as long as arguments are left.  Arguments that spell no number are
complained about and count as far as they can be read.
-/

set_option autoImplicit false

namespace Scaffold.Host.Shell.Printf

/-! ## Backslashes -/

/-- What a sequence behind its backslash stands for: also the escape character. -/
def sequence? : List Char → Option (Char × List Char)
  | 'e' :: rest => some ('\x1b', rest)
  | chars => Escape.sequence? chars

/-- Undoes the backslashes of an argument, in which octal digits may follow a further zero; also
tells whether it asks to stop. -/
def unescaped : Nat → List Char → List Char × Bool
  | 0, chars => (chars, false)
  | _, [] => ([], false)
  | fuel + 1, '\\' :: rest =>
    match rest with
    | 'c' :: _ => ([], true)
    | '0' :: digits =>
      let (code, behind) := Escape.octal 3 0 digits
      let (later, stops) := unescaped fuel behind
      (Escape.ofCode code :: later, stops)
    | _ =>
      match sequence? rest with
      | some (c, behind) =>
        let (later, stops) := unescaped fuel behind
        (c :: later, stops)
      | none =>
        let (later, stops) := unescaped fuel rest
        ('\\' :: later, stops)
  | fuel + 1, c :: rest =>
    let (later, stops) := unescaped fuel rest
    (c :: later, stops)

/-- An argument without its backslashes, and whether it asks to stop. -/
def unescape (text : String) : String × Bool :=
  let (chars, stops) := unescaped text.length text.toList
  (String.ofList chars, stops)

/-- What `echo` prints. -/
def echo (args : List String) : String :=
  let (words, ending) : List String × String := match args with
    | "-n" :: words => (words, "")
    | words => (words, "\n")
  let (text, stops) := unescape (" ".intercalate words)
  if stops then text else text ++ ending

/-! ## Numbers -/

inductive Conversion where
  | whole
  | none
  | part
  | outOfRange
  deriving DecidableEq, Repr

def Conversion.complaint? (arg : String) : Conversion → Option String
  | whole => .none
  | none => some (arg ++ ": expected numeric value")
  | part => some (arg ++ ": not completely converted")
  | outOfRange => some (arg ++ ": Numerical result out of range")

def isBlank (c : Char) : Bool := c = ' ' || ('\t' ≤ c && c ≤ '\x0d')

def digitValue (c : Char) : Nat :=
  if c.isDigit then c.toNat - '0'.toNat
  else if 'a' ≤ c && c ≤ 'f' then c.toNat - 'a'.toNat + 10
  else if 'A' ≤ c && c ≤ 'F' then c.toNat - 'A'.toNat + 10
  else 99

def valueOf (base : Nat) (digits : List Char) : Nat :=
  digits.foldl (fun value c => value * base + digitValue c) 0

def signed (chars : List Char) : Bool × List Char :=
  match chars.dropWhile isBlank with
  | '-' :: rest => (true, rest)
  | '+' :: rest => (false, rest)
  | rest => (false, rest)

/-- The natural number in front in the base that its beginning tells, and what follows; none without
digits. -/
def natural? : List Char → Option (Nat × List Char)
  | '0' :: x :: c :: rest =>
    if (x = 'x' || x = 'X') && digitValue c < 16 then some (split 16 (c :: rest))
    else some (split 8 ('0' :: x :: c :: rest))
  | '0' :: rest => some (split 8 ('0' :: rest))
  | c :: rest => if c.isDigit then some (split 10 (c :: rest)) else none
  | [] => none
where
  split (base : Nat) (chars : List Char) : Nat × List Char :=
    (valueOf base (chars.takeWhile fun c => digitValue c < base),
      chars.dropWhile fun c => digitValue c < base)

/-- The integer that an argument spells, within 64 bits, with a sign or without. -/
def integer (withSign : Bool) (arg : String) : Int × Conversion :=
  match arg.toList with
  | [] => (0, .whole)
  | quote :: c :: _ =>
    if quote = '"' || quote = '\'' then (c.toNat, .whole) else number
  | _ => if arg = "\"" || arg = "'" then (0, .whole) else number
where
  bounded (negative : Bool) (value : Nat) : Int × Bool :=
    if withSign then
      if negative then (max (-(value : Int)) (-9223372036854775808), value ≤ 9223372036854775808)
      else (min value 9223372036854775807, value ≤ 9223372036854775807)
    else if value ≤ 18446744073709551615 then
      ((if negative then (18446744073709551616 - value) % 18446744073709551616 else value), true)
    else (18446744073709551615, false)
  number : Int × Conversion :=
    let (negative, chars) := signed arg.toList
    match natural? chars with
    | none => (0, .none)
    | some (value, behind) =>
      let (value, fits) := bounded negative value
      (value, if behind ≠ [] then .part else if fits then .whole else .outOfRange)

inductive Real where
  | finite (negative : Bool) (size : Decimal.Double)
  | infinite (negative : Bool)
  | undefined
  deriving DecidableEq, Repr

def real (arg : String) : Real × Conversion :=
  let (negative, chars) := signed arg.toList
  let lower := chars.map Char.toLower
  if arg = "" then (.finite false .zero, .whole)
  else if lower = "inf".toList || lower = "infinity".toList then (.infinite negative, .whole)
  else if lower = "nan".toList then (.undefined, .whole)
  else
    let whole := chars.takeWhile Char.isDigit
    let behind := chars.dropWhile Char.isDigit
    let (fraction, behind) := match behind with
      | '.' :: rest =>
        if whole = [] && !(rest.head?.map Char.isDigit).getD false then ([], behind)
        else (rest.takeWhile Char.isDigit, rest.dropWhile Char.isDigit)
      | _ => ([], behind)
    if whole = [] && fraction = [] then (.finite false .zero, .none)
    else
      let (exponent, behind) : Int × List Char := match behind with
        | e :: rest =>
          let (down, digits) := match rest with
            | '-' :: digits => (true, digits)
            | '+' :: digits => (false, digits)
            | digits => (false, digits)
          if (e = 'e' || e = 'E') && (digits.head?.map Char.isDigit).getD false then
            let size : Int := valueOf 10 (digits.takeWhile Char.isDigit)
            (if down then -size else size, digits.dropWhile Char.isDigit)
          else (0, behind)
        | [] => (0, behind)
      let mantissa := valueOf 10 (whole ++ fraction)
      let place := exponent - fraction.length
      let left : Conversion := if behind = [] then .whole else .part
      if mantissa ≠ 0 && 400 < place + (Nat.toDigits 10 mantissa).length then
        (.infinite negative, if behind = [] then .outOfRange else .part)
      else if mantissa ≠ 0 && place + (Nat.toDigits 10 mantissa).length < -400 then
        (.finite negative .zero, if behind = [] then .outOfRange else .part)
      else
        let size := Decimal.Double.ofRatio (mantissa * Nat.pow 10 place.toNat)
          (Nat.pow 10 (-place).toNat)
        if 971 < size.exponent then (.infinite negative, if behind = [] then .outOfRange else .part)
        else (.finite negative size, left)

/-! ## Directives -/

structure Directive where
  left : Bool
  plus : Bool
  blank : Bool
  alternate : Bool
  zeros : Bool
  width : Nat
  precision : Option Nat
  deriving DecidableEq, Repr

namespace Directive

def pad (d : Directive) (text : String) : String :=
  let blanks := String.ofList (List.replicate (d.width - text.length) ' ')
  if d.left then text ++ blanks else blanks ++ text

/-- Fills a number up to the width, between its sign and its digits when zeros are asked for. -/
def padNumber (d : Directive) (zeros : Bool) (sign digits : String) : String :=
  if zeros && d.zeros && !d.left then
    sign ++ String.ofList (List.replicate (d.width - sign.length - digits.length) '0') ++ digits
  else d.pad (sign ++ digits)

def sign (d : Directive) (negative : Bool) : String :=
  if negative then "-" else if d.plus then "+" else if d.blank then " " else ""

/-- Digits filled with zeros up to the precision; a zero of precision zero has none. -/
def digits (d : Directive) (base n : Nat) : String :=
  let shown := if n = 0 && d.precision = some 0 then [] else Nat.toDigits base n
  String.ofList (List.replicate (d.precision.getD 1 - shown.length) '0' ++ shown)

def integer (d : Directive) (value : Int) : String :=
  d.padNumber d.precision.isNone (d.sign (value < 0)) (d.digits 10 value.natAbs)

def natural (d : Directive) (conversion : Char) (n : Nat) : String :=
  match conversion with
  | 'o' =>
    let shown := d.digits 8 n
    d.padNumber d.precision.isNone ""
      (if d.alternate && shown.toList.head? ≠ some '0' then "0" ++ shown else shown)
  | 'u' => d.padNumber d.precision.isNone "" (d.digits 10 n)
  | _ =>
    let shown := d.digits 16 n
    let upper := conversion = 'X'
    let mark := if d.alternate && n ≠ 0 then (if upper then "0X" else "0x") else ""
    d.padNumber d.precision.isNone mark (if upper then shown.toUpper else shown)

/-- A natural number with a point in front of its last digits. -/
def fixed (d : Directive) (places n : Nat) : String :=
  let shown := Nat.toDigits 10 n
  let padded := List.replicate (places + 1 - shown.length) '0' ++ shown
  let whole := padded.take (padded.length - places)
  let fraction := padded.drop (padded.length - places)
  String.ofList (if places = 0 && !d.alternate then whole else whole ++ '.' :: fraction)

/-- The power of ten and the digits of a quotient rounded to so many places behind its first
digit. -/
def scientificParts (places num den : Nat) : Int × Nat :=
  if num = 0 then (0, 0)
  else
    let guess : Int := (Nat.toDigits 10 num).length - (Nat.toDigits 10 den).length
    let atLeast (e : Int) : Bool := den * Nat.pow 10 e.toNat ≤ num * Nat.pow 10 (-e).toNat
    let exponent := if atLeast guess then guess else guess - 1
    let shift : Int := places - exponent
    let rounded :=
      Decimal.roundHalfEven (num * Nat.pow 10 shift.toNat) (den * Nat.pow 10 (-shift).toNat)
    if Nat.pow 10 (places + 1) ≤ rounded then (exponent + 1, rounded / 10) else (exponent, rounded)

def exponentText (exponent : Int) : String :=
  let shown := Nat.toDigits 10 exponent.natAbs
  (if exponent < 0 then "e-" else "e+")
    ++ String.ofList (List.replicate (2 - shown.length) '0' ++ shown)

/-- Takes off zeros behind the point, and a point that ends the text. -/
def stripped (text : String) : String :=
  if text.toList.contains '.' then
    let kept := text.toList.reverse.dropWhile (· = '0')
    String.ofList (if kept.head? = some '.' then kept.tail else kept).reverse
  else text

def realDigits (d : Directive) (conversion : Char) (size : Decimal.Double) : String :=
  let (num, den) := size.ratio
  let places := d.precision.getD 6
  match conversion with
  | 'f' => d.fixed places (Decimal.roundHalfEven (num * Nat.pow 10 places) den)
  | 'e' =>
    let (exponent, digits) := scientificParts places num den
    d.fixed places digits ++ exponentText exponent
  | _ =>
    let significant := if places = 0 then 1 else places
    let (exponent, digits) := scientificParts (significant - 1) num den
    let clean (text : String) : String := if d.alternate then text else stripped text
    if -4 ≤ exponent && exponent < significant then
      let behind := (significant - 1 - exponent).toNat
      clean (d.fixed behind (Decimal.roundHalfEven (num * Nat.pow 10 behind) den))
    else clean (d.fixed (significant - 1) digits) ++ exponentText exponent

/-- A number with a fraction; capital conversions write capital letters. -/
def real (d : Directive) (conversion : Char) (value : Real) : String :=
  let text := match value with
    | .finite negative size =>
        d.padNumber true (d.sign negative) (d.realDigits conversion.toLower size)
    | .infinite negative => d.pad (d.sign negative ++ "inf")
    | .undefined => d.pad (d.sign false ++ "nan")
  if conversion.isUpper then text.toUpper else text

def text (d : Directive) (s : String) : String :=
  d.pad (match d.precision with
    | some n => String.ofList (s.toList.take n)
    | none => s)

end Directive

/-! ## Formats -/

structure Filled where
  text : String
  args : List String
  complaints : List String
  stopped : Bool
  fault : Option String

namespace Filled

def say (filled : Filled) (more : String) : Filled := { filled with text := filled.text ++ more }

def next? (filled : Filled) : Option String × Filled :=
  (filled.args.head?, { filled with args := filled.args.tail })

def note (filled : Filled) (complaint : Option String) : Filled :=
  { filled with complaints := filled.complaints ++ complaint.toList }

def integer (withSign : Bool) (filled : Filled) : Int × Filled :=
  match filled.next? with
  | (none, filled) => (0, filled)
  | (some arg, filled) =>
    let (value, conversion) := Printf.integer withSign arg
    (value, filled.note (conversion.complaint? arg))

end Filled

/-- A width or precision: a number, or a star that takes it from an argument. -/
def measure (digits : List Char → List Char × List Char) (chars : List Char) (filled : Filled) :
    Option Int × List Char × Filled :=
  match chars with
  | '*' :: rest =>
    let (value, filled) := filled.integer true
    (some value, rest, filled)
  | chars =>
    let (shown, rest) := digits chars
    (if shown = [] then none else some (valueOf 10 shown), rest, filled)

/-- Writes the next argument as a directive says, whose text is given for complaints. -/
def convert (d : Directive) (conversion : Char) (written : String) (filled : Filled) : Filled :=
  match conversion with
  | 's' =>
    let (arg, filled) := filled.next?
    filled.say (d.text (arg.getD ""))
  | 'b' =>
    let (arg, filled) := filled.next?
    let (text, stops) := unescape (arg.getD "")
    { filled.say (d.text text) with stopped := stops }
  | 'c' =>
    let (arg, filled) := filled.next?
    filled.say (d.pad (String.singleton (((arg.getD "").toList.head?).getD '\x00')))
  | 'd' | 'i' =>
    let (value, filled) := filled.integer true
    filled.say (d.integer value)
  | 'o' | 'u' | 'x' | 'X' =>
    let (value, filled) := filled.integer false
    filled.say (d.natural conversion value.toNat)
  | 'e' | 'E' | 'f' | 'F' | 'g' | 'G' =>
    match filled.next? with
    | (none, filled) => filled.say (d.real conversion (.finite false .zero))
    | (some arg, filled) =>
      let (value, kind) := real arg
      (filled.note (kind.complaint? arg)).say (d.real conversion value)
  | _ => { filled with fault := some (written ++ ": invalid directive") }

def digitsInFront (chars : List Char) : List Char × List Char :=
  (chars.takeWhile Char.isDigit, chars.dropWhile Char.isDigit)

/-- Reads a directive behind its percent sign and writes an argument; gives what follows it. -/
def directive (chars : List Char) (filled : Filled) : Filled × List Char :=
  let isFlag (c : Char) : Bool := "#-+ 0".toList.contains c
  let flags := chars.takeWhile isFlag
  let (width, rest, filled) := measure digitsInFront (chars.dropWhile isFlag) filled
  let (precision, rest, filled) := match rest with
    | '.' :: rest =>
      let (precision, rest, filled) := measure digitsInFront rest filled
      (some (precision.getD 0), rest, filled)
    | rest => (none, rest, filled)
  match rest with
  | [] => ({ filled with fault := some "missing format character" }, [])
  | conversion :: behind =>
    let written := String.ofList ('%' :: chars.take (chars.length - behind.length))
    let width := width.getD 0
    let d : Directive :=
      { left := flags.contains '-' || width < 0
        plus := flags.contains '+'
        blank := flags.contains ' '
        alternate := flags.contains '#'
        zeros := flags.contains '0'
        width := width.natAbs
        precision := (precision.filter (0 ≤ ·)).map Int.toNat }
    (convert d conversion written filled, behind)

/-- Fills a format once; the fuel is its length. -/
def fillOnce : Nat → List Char → Filled → Filled
  | 0, _, filled => filled
  | _, [], filled => filled
  | fuel + 1, '%' :: '%' :: rest, filled => fillOnce fuel rest (filled.say "%")
  | fuel + 1, '%' :: rest, filled =>
    let (filled, behind) := directive rest filled
    if filled.stopped || filled.fault.isSome then filled else fillOnce fuel behind filled
  | fuel + 1, '\\' :: rest, filled =>
    match sequence? rest with
    | some (c, behind) => fillOnce fuel behind (filled.say (String.singleton c))
    | none => fillOnce fuel rest (filled.say "\\")
  | fuel + 1, c :: rest, filled => fillOnce fuel rest (filled.say (String.singleton c))

/-- Fills a format as often as it takes to use up the arguments. -/
def fillAll (format : List Char) : Nat → Filled → Filled
  | 0, filled => filled
  | fuel + 1, before =>
    let filled := fillOnce format.length format before
    if filled.stopped || filled.fault.isSome || filled.args = []
      || filled.args.length = before.args.length then filled
    else fillAll format fuel filled

def fill (format : String) (args : List String) : Filled :=
  fillAll format.toList (args.length + 1) ⟨"", args, [], false, none⟩

end Scaffold.Host.Shell.Printf
