import Scaffold.Host.Arguments
import Scaffold.Host.Escape

/-!
# Translating, deleting and squeezing bytes

A byte set is written as bytes, ranges such as `a-z`, classes such as `[:upper:]` and repetitions
such as `[x*5]`.  `Plan` is what is to be done with the bytes of a text; a table of what each byte
becomes is filled in order, so of two entries for one byte the later counts.  Bytes are characters
below 256.
-/

set_option autoImplicit false

namespace Scaffold.Host.ByteSet

open Escape (Mark)

def range (low high : Nat) : List Char := (List.range' low (high + 1 - low)).map Char.ofNat

def members? (name : String) : Option (List Char) :=
  [("lower", range 97 122), ("upper", range 65 90), ("digit", range 48 57),
    ("alpha", range 65 90 ++ range 97 122),
    ("alnum", range 48 57 ++ range 65 90 ++ range 97 122),
    ("space", range 9 13 ++ [' ']), ("blank", ['\t', ' ']), ("cntrl", range 0 31 ++ ['\x7f']),
    ("punct", range 33 47 ++ range 58 64 ++ range 91 96 ++ range 123 126),
    ("print", range 32 126), ("graph", range 33 126),
    ("xdigit", range 48 57 ++ range 65 70 ++ range 97 102)].lookup name

inductive Element where
  | listed (bytes : List Char)
  | named (name : String) (bytes : List Char)
  | alike (byte : Char)
  /-- A byte some times; none: as often as it takes. -/
  | repeated (byte : Char) (count : Option Nat)
  deriving DecidableEq, Repr

inductive Fault where
  | noOperand
  | noSecond (first : String) (deleting : Bool)
  /-- One set too many; the flag: for deleting. -/
  | extraOperand (operand : String) (deleting : Bool)
  | wrongOption (fault : OptionFault)
  | backwards (low high : Char)
  | noClassName
  | noAlikeByte
  | unknownClass (name : String)
  | manyAlike (text : String)
  | badCount (text : String)
  | openInFirst
  | manyOpen
  | openWithoutTranslation
  | alikeInSecond
  | classInSecond
  | misaligned
  | endsInClass
  | emptyTarget
  | manyForComplement
  deriving DecidableEq, Repr

namespace Fault

def shown (c : Char) : String :=
  match [('\x07', "\\a"), ('\x08', "\\b"), ('\x0c', "\\f"), ('\n', "\\n"), ('\x0d', "\\r"),
    ('\t', "\\t"), ('\x0b', "\\v"), ('\\', "\\\\")].lookup c with
  | some text => text
  | none =>
    if 32 ≤ c.toNat && c.toNat < 127 then String.singleton c
    else
      let digits := Nat.toDigits 8 c.toNat
      String.ofList ('\\' :: List.replicate (3 - digits.length) '0' ++ digits)

def hint : String := "\nTry 'tr --help' for more information."

def message : Fault → String
  | noOperand => "missing operand" ++ hint
  | noSecond first false =>
    "missing operand after '" ++ first ++ "'\nTwo strings must be given when translating." ++ hint
  | noSecond first true =>
    "missing operand after '" ++ first
      ++ "'\nTwo strings must be given when both deleting and squeezing repeats." ++ hint
  | extraOperand operand false => "extra operand '" ++ operand ++ "'" ++ hint
  | extraOperand operand true =>
    "extra operand '" ++ operand
      ++ "'\nOnly one string may be given when deleting without squeezing repeats." ++ hint
  | wrongOption fault => fault.message "tr"
  | backwards low high =>
    "range-endpoints of '" ++ shown low ++ "-" ++ shown high
      ++ "' are in reverse collating sequence order"
  | noClassName => "missing character class name '[::]'"
  | noAlikeByte => "missing equivalence class character '[==]'"
  | unknownClass name => "invalid character class '" ++ name ++ "'"
  | manyAlike text => text ++ ": equivalence class operand must be a single character"
  | badCount text => "invalid repeat count '" ++ text ++ "' in [c*n] construct"
  | openInFirst => "the [c*] repeat construct may not appear in string1"
  | manyOpen => "only one [c*] repeat construct may appear in string2"
  | openWithoutTranslation => "the [c*] construct may appear in string2 only when translating"
  | alikeInSecond => "[=c=] expressions may not appear in string2 when translating"
  | classInSecond =>
    "when translating, the only character classes that may appear in\nstring2 are 'upper' and 'lower'"
  | misaligned => "misaligned [:upper:] and/or [:lower:] construct"
  | endsInClass =>
    "when translating with string1 longer than string2,\n"
      ++ "the latter string must not end with a character class"
  | emptyTarget => "when not truncating set1, string2 must be non-empty"
  | manyForComplement =>
    "when translating with complemented character classes,\n"
      ++ "string2 must map all characters in the domain to one"

end Fault

/-! ## Written sets -/

/-- The marks in front of a closing mark and a bracket, and what follows these. -/
def splitClosing? (closing : Char) : List Mark → Option (List Mark × List Mark)
  | ⟨c, false⟩ :: ⟨']', false⟩ :: rest =>
    if c = closing then some ([], rest)
    else (splitClosing? closing (⟨']', false⟩ :: rest)).map fun (inner, behind) =>
      (⟨c, false⟩ :: inner, behind)
  | mark :: rest =>
    (splitClosing? closing rest).map fun (inner, behind) => (mark :: inner, behind)
  | [] => none

def textOf (marks : List Mark) : String := String.ofList (marks.map (·.char))

/-- The count of a repetition: octal behind a zero; none when it is not a number. -/
def count? (text : String) : Option Nat :=
  match text.toList with
  | '0' :: digits => if digits.all Escape.isOctal then some (Escape.octal 20 0 digits).1 else none
  | _ => text.toNat?

/-- A repetition behind its opening bracket, and what follows it. -/
def repetition? : List Mark → Except Fault (Option (Element × List Mark))
  | mark :: ⟨'*', false⟩ :: rest =>
    let digits := rest.takeWhile fun m => !(m.char = ']' && !m.escaped)
    match rest.dropWhile fun m => !(m.char = ']' && !m.escaped) with
    | _ :: behind =>
      if digits = [] then .ok (some (.repeated mark.char none, behind))
      else if digits.all fun m => m.char.isDigit then
        match count? (textOf digits) with
        | some 0 => .ok (some (.repeated mark.char none, behind))
        | some n => .ok (some (.repeated mark.char (some n), behind))
        | none => .error (.badCount (textOf digits))
      else .error (.badCount (textOf digits))
    | [] => .ok none
  | _ => .ok none

/-- What stands behind an opening bracket, if that means anything, and what follows. -/
def bracketed? (marks : List Mark) : Except Fault (Option (Element × List Mark)) :=
  match marks with
  | ⟨kind, false⟩ :: rest =>
    match if kind = ':' || kind = '=' then splitClosing? kind rest else none with
    | none => repetition? marks
    | some (inner, behind) =>
      if inner = [] then .error (if kind = ':' then .noClassName else .noAlikeByte)
      else if kind = ':' then
        match members? (textOf inner) with
        | some bytes => .ok (some (.named (textOf inner) bytes, behind))
        | none => .error (.unknownClass (textOf inner))
      else
        match inner with
        | [mark] => .ok (some (.alike mark.char, behind))
        | _ => .error (.manyAlike (textOf inner))
  | _ => repetition? marks

/-- The elements of a written set; the fuel is the number of marks. -/
def elements : Nat → List Mark → Except Fault (List Element)
  | 0, _ | _, [] => .ok []
  | fuel + 1, mark :: rest => do
    let found ← if mark = ⟨'[', false⟩ && 2 ≤ rest.length then bracketed? rest else .ok none
    match found, rest with
    | some (element, behind), _ => return element :: (← elements fuel behind)
    | none, ⟨'-', false⟩ :: high :: behind =>
      if high.char < mark.char then throw (.backwards mark.char high.char)
      else return .listed (range mark.char.toNat high.char.toNat) :: (← elements fuel behind)
    | none, _ => return .listed [mark.char] :: (← elements fuel rest)

def read (text : String) : Except Fault (List Element) :=
  let marks := Escape.marks text.toList
  elements marks.length marks

/-- The bytes of an element, an open repetition standing so many times. -/
def Element.toList (times : Nat) : Element → List Char
  | listed bytes => bytes
  | named _ bytes => bytes
  | alike byte => [byte]
  | repeated byte count => List.replicate (count.getD times) byte

def Element.isOpen : Element → Bool
  | repeated _ none => true
  | _ => false

def Element.isNamed : Element → Bool
  | named _ _ => true
  | _ => false

def Element.isAlike : Element → Bool
  | alike _ => true
  | _ => false

def Element.isCase : Element → Bool
  | named name _ => name = "upper" || name = "lower"
  | _ => false

/-- The bytes of some elements, an open repetition standing for what is missing of a length. -/
def bytesOf (length : Nat) (elements : List Element) : List Char :=
  let known := (elements.flatMap (·.toList 0)).length
  elements.flatMap (·.toList (length - known))

def placed (start : Nat) : List Element → List (Nat × Element)
  | [] => []
  | e :: rest => (start, e) :: placed (start + (e.toList 0).length) rest

/-! ## Plans -/

def complement (bytes : List Char) : List Char := (range 0 255).filter fun b => !bytes.contains b

/-- Pairs each byte of the first set with one of the second, whose last byte is used again when it
is the shorter one. -/
def pairing : List Char → List Char → List (Char × Char)
  | [], _ => []
  | _, [] => []
  | a :: as, [b] => (a, b) :: pairing as [b]
  | a :: as, b :: c :: bs => (a, b) :: pairing as (c :: bs)

def image (pairs : List (Char × Char)) (b : Char) : Char := (pairs.reverse.lookup b).getD b

/-- One of each run of equal bytes of the set; `last` is the byte in front. -/
def squeeze (set : List Char) (last : Option Char) : List Char → List Char
  | [] => []
  | b :: rest =>
    if last = some b && set.contains b then squeeze set last rest
    else b :: squeeze set (some b) rest

/-- What is to be done with the bytes of a text, in this order. -/
structure Plan where
  deleted : List Char
  pairs : List (Char × Char)
  squeezed : List Char
  deriving DecidableEq, Repr

def Plan.apply (plan : Plan) (bytes : List Char) : List Char :=
  squeeze plan.squeezed none
    ((bytes.filter fun b => !plan.deleted.contains b).map (image plan.pairs))

structure Wishes where
  complement : Bool
  delete : Bool
  squeeze : Bool
  truncate : Bool
  deriving DecidableEq, Repr

def optionSet : OptionSet where
  flags := ['c', 'C', 'd', 's', 't']
  valued := []
  names := [("complement", 'c'), ("delete", 'd'), ("squeeze-repeats", 's'), ("truncate-set1", 't')]
  mixed := false

def Wishes.ofArguments (arguments : Arguments) : Wishes :=
  ⟨arguments.has 'c' || arguments.has 'C', arguments.has 'd', arguments.has 's', arguments.has 't'⟩

/-- Each class of the second set that stands for a case stands opposite one of the first. -/
def aligned (first second : List Element) : Bool :=
  (placed 0 second).all fun (at_, e) =>
    !e.isCase || (placed 0 first).any fun (other, f) => at_ = other && f.isCase

def translation (wishes : Wishes) (first second : List Element) :
    Except Fault (List (Char × Char) × List Char) := do
  let plain := bytesOf 0 first
  let set := if wishes.complement then ByteSet.complement plain else plain
  if 1 < second.countP Element.isOpen then throw .manyOpen
  let target := bytesOf set.length second
  if second.any Element.isAlike then throw .alikeInSecond
  if second.any fun e => e.isNamed && !e.isCase then throw .classInSecond
  if !wishes.complement && !aligned first second then throw .misaligned
  if target.length < set.length && !wishes.truncate then
    if target = [] then throw .emptyTarget
    if (second.getLast?.map Element.isNamed).getD false then throw .endsInClass
  if wishes.complement && first.any Element.isNamed &&
    !(target.all fun c => some c = target.head?) then
    throw .manyForComplement
  let source := if wishes.truncate then set.take target.length else set
  return (pairing source target, target)

def Plan.ofArguments (args : List String) : Except Fault Plan := do
  let arguments := Arguments.read optionSet args
  if let some fault := arguments.fault then throw (.wrongOption fault)
  let wishes := Wishes.ofArguments arguments
  let wanted (set : List Char) : List Char :=
    if wishes.complement then ByteSet.complement set else set
  let ofFirst (elements : List Element) : Except Fault (List Char) :=
    if elements.any Element.isOpen then .error .openInFirst else .ok (bytesOf 0 elements)
  match arguments.operands with
  | [] => throw .noOperand
  | [first] =>
    if wishes.delete && wishes.squeeze then throw (.noSecond first true)
    else if !wishes.delete && !wishes.squeeze then throw (.noSecond first false)
    else
      let set ← ofFirst (← read first)
      if wishes.delete then return ⟨wanted set, [], []⟩ else return ⟨[], [], wanted set⟩
  | first :: second :: others =>
    if wishes.delete && !wishes.squeeze then throw (.extraOperand second (others = []))
    match others with
    | extra :: _ => throw (.extraOperand extra false)
    | [] =>
      let elements ← read first
      let targets ← read second
      let set ← ofFirst elements
      if wishes.delete then
        if targets.any Element.isOpen then throw .openWithoutTranslation
        return ⟨wanted set, [], bytesOf 0 targets⟩
      else
        let (pairs, target) ← translation wishes elements targets
        return ⟨[], pairs, if wishes.squeeze then target else []⟩

end Scaffold.Host.ByteSet
