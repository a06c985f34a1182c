import Scaffold.Json
import Scaffold.Text.Grapheme
import Scaffold.Decimal.Shortest

/-!
# Templates

A template is a list of pieces: fixed text, values to print, loops and choices.  Rendering reads the
values from JSON data by path.  It fails when a value to be printed, looped over or compared is
missing; a missing value in a plain condition counts as false.  A path means the innermost variable
of its name under which all of it is found, so data around a loop shows through where an item has no
such member.
-/

set_option autoImplicit false

namespace Scaffold.Template

abbrev Path := List String

inductive Condition where
  /-- The value is there and neither false, zero, null nor empty. -/
  | holds (path : Path)
  | not (condition : Condition)
  | both (first second : Condition)
  /-- The value is a text with a given beginning; it has to be a text. -/
  | beginsWith (path : Path) (text : String)
  /-- Two values, which have to be there, are not the same. -/
  | differ (first second : Path)
  deriving Repr, Inhabited

inductive Piece where
  | text (text : String)
  | value (path : Path)
  /-- Pieces to repeat for each item of a list, which the name stands for. -/
  | each (name : String) (list : Path) (body : List Piece)
  | choice (condition : Condition) (yes no : List Piece)
  deriving Repr, Inhabited

def Piece.when (condition : Condition) (body : List Piece) : Piece := .choice condition body []

/-- The values of the variables in scope, the innermost first. -/
abbrev Scope := List (String × Json)

def member? (value : Json) : List String → Option Json
  | [] => some value
  | name :: rest => (value.member? name).bind fun inner => member? inner rest

/-- The value of a variable or of a part of it: that of the innermost variable which has such a
part. -/
def Scope.get? (scope : Scope) : Path → Option Json
  | [] => none
  | name :: rest =>
    scope.findSome? fun (bound, value) => if bound = name then member? value rest else none

/-! ## Values -/

/-- The size of a number in double precision, and whether it is negative. -/
def measure : Json.Number → Bool × Decimal.Double
  | .whole n => (n < 0, .ofDecimal n.natAbs 0)
  | .real negative digits exponent => (negative, .ofDecimal digits exponent)

/-- A number is a natural number of 64 bits, a negative one of as many, or a double. -/
inductive NumberClass where
  | natural
  | negative
  | double
  deriving DecidableEq, Repr, Inhabited

def numberClass : Json.Number → NumberClass
  | .whole (.ofNat n) => if n < Nat.pow 2 64 then .natural else .double
  | .whole (.negSucc n) => if n < Nat.pow 2 63 then .negative else .double
  | .real .. => .double

/-- Integers of 64 bits are printed exactly, other numbers with the fewest digits. -/
def displayNumber (number : Json.Number) : String :=
  match numberClass number, number with
  | .natural, .whole n | .negative, .whole n => toString n
  | _, _ =>
    let (negative, size) := measure number
    (if negative then "-" else "") ++ Decimal.Shortest.text size

/-- Two numbers are equal in double precision; the zeros are. -/
def sameSize (a b : Json.Number) : Bool :=
  let (negativeA, sizeA) := measure a
  let (negativeB, sizeB) := measure b
  sizeA = sizeB ∧ (negativeA = negativeB ∨ sizeA.mantissa = 0)

def sameNumber (a b : Json.Number) : Bool :=
  numberClass a = numberClass b && (if numberClass a = .double then sameSize a b else a = b)

mutual

def display : Json → String
  | .null => ""
  | .bool true => "true"
  | .bool false => "false"
  | .number number => displayNumber number
  | .string text => text
  | .array [] => "[]"
  | .array (item :: rest) => "[" ++ display item ++ displayRest rest ++ "]"
  | .object _ => "[object]"
  | .unreadable => ""

def displayRest : List Json → String
  | [] => ""
  | item :: rest => ", " ++ display item ++ displayRest rest

end

def truthy : Json → Bool
  | .null => false
  | .bool value => value
  | .number number => (measure number).2.mantissa ≠ 0
  | .string text => text ≠ ""
  | .array items => !items.isEmpty
  | .object members => !members.isEmpty
  | .unreadable => false

/-- The items that a loop goes through; a text is a list of its graphemes. -/
def items? : Json → Option (List Json)
  | .array items => some items
  | .string text =>
    some ((Text.Grapheme.clusters text.toList).map fun cluster => .string (String.ofList cluster))
  | _ => none

mutual

/-- Two values are the same; the order of an object's members does not count, nor does a member
behind another of its name. -/
def same : Json → Json → Bool
  | .null, .null => true
  | .bool a, .bool b => a = b
  | .number a, .number b => sameNumber a b
  | .string a, .string b => a = b
  | .array a, .array b => sameItems a b
  | .object a, .object b => sameMembers a b && b.all fun (name, _) => (a.lookup name).isSome
  | .unreadable, .unreadable => true
  | _, _ => false

def sameItems : List Json → List Json → Bool
  | [], [] => true
  | a :: as, b :: bs => same a b && sameItems as bs
  | _, _ => false

def sameMembers : List (String × Json) → List (String × Json) → Bool
  | [], _ => true
  | (name, a) :: rest, others =>
    (match others.lookup name with
      | some b => same a b
      | none => false) && sameMembers rest others

end

/-- Two values differ; a number and something else cannot be compared and do not. -/
def differ : Json → Json → Bool
  | .number a, .number b => !sameSize a b
  | .number _, _ => false
  | _, .number _ => false
  | a, b => !same a b

/-! ## Rendering -/

/-- Whether a condition holds; none when it cannot be decided. -/
def Condition.eval? (scope : Scope) : Condition → Option Bool
  | holds path => some ((scope.get? path).any truthy)
  | not condition => (condition.eval? scope).map (!·)
  | both first second =>
    match first.eval? scope with
    | some true => second.eval? scope
    | other => other
  | beginsWith path start =>
    match scope.get? path with
    | some (.string text) => some (start.toList.isPrefixOf text.toList)
    | _ => none
  | differ first second =>
    match scope.get? first, scope.get? second with
    | some a, some b => some (Template.differ a b)
    | _, _ => none

/-- Renders each item in turn with the name standing for it; `loop.last` tells the last one. -/
def renderItems (render : Scope → Option String) (scope : Scope) (name : String) :
    List Json → Option String
  | [] => some ""
  | item :: rest =>
    let loop := Json.object [("last", .bool rest.isEmpty)]
    match render ((name, item) :: ("loop", loop) :: scope) with
    | none => none
    | some first => (renderItems render scope name rest).map (first ++ ·)

mutual

def renderPiece (scope : Scope) : Piece → Option String
  | .text text => some text
  | .value path => (scope.get? path).map display
  | .each name list body =>
    match (scope.get? list).bind items? with
    | none => none
    | some items => renderItems (fun inner => renderAll inner body) scope name items
  | .choice condition yes no =>
    match condition.eval? scope with
    | none => none
    | some true => renderAll scope yes
    | some false => renderAll scope no

def renderAll (scope : Scope) : List Piece → Option String
  | [] => some ""
  | piece :: rest =>
    match renderPiece scope piece with
    | none => none
    | some first => (renderAll scope rest).map (first ++ ·)

end

end Scaffold.Template
