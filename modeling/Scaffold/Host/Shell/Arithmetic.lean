import Scaffold.Host.Shell.Script

/-!
# Sums

An expression over integers of 64 bits is read and evaluated at once, so of two faults the one
further in front counts.  Where an operand is not needed it is still read, but neither looked up nor
assigned.
-/

set_option autoImplicit false

namespace Scaffold.Host.Shell

namespace Arithmetic

inductive Token where
  | number (value : Int)
  | name (name : String)
  | sign (text : String)
  | stray
  deriving DecidableEq, Repr, Inhabited

inductive Fault where
  | expectingPrimary
  | expectingEnd
  | expectingParenthesis
  | expectingColon
  | divisionByZero
  | badNumber (text : String)
  | readOnly (name : String)
  deriving DecidableEq, Repr, Inhabited

def Fault.message (expression : String) : Fault → String
  | expectingPrimary => about "expecting primary"
  | expectingEnd => about "expecting EOF"
  | expectingParenthesis => about "expecting ')'"
  | expectingColon => about "expecting ':'"
  | divisionByZero => about "division by zero"
  | badNumber text => "Illegal number: " ++ text
  | readOnly name => name ++ ": is read only"
where
  about (what : String) : String :=
    "arithmetic expression: " ++ what ++ ": \"" ++ expression ++ "\""

/-! ## Numbers -/

def digitValue? (base : Nat) (c : Char) : Option Nat :=
  let value :=
    if c.isDigit then some (c.toNat - '0'.toNat)
    else if 'a' ≤ c && c ≤ 'f' then some (c.toNat - 'a'.toNat + 10)
    else if 'A' ≤ c && c ≤ 'F' then some (c.toNat - 'A'.toNat + 10)
    else none
  value.filter (· < base)

def digitsIn (base : Nat) (value : Nat) : List Char → Nat × List Char
  | [] => (value, [])
  | c :: rest =>
    match digitValue? base c with
    | some digit => digitsIn base (value * base + digit) rest
    | none => (value, c :: rest)

/-- The natural number in front, in the base that its beginning tells, and what follows. -/
def natural : List Char → Nat × List Char
  | '0' :: x :: c :: rest =>
    if (x = 'x' || x = 'X') && (digitValue? 16 c).isSome then digitsIn 16 0 (c :: rest)
    else digitsIn 8 0 ('0' :: x :: c :: rest)
  | '0' :: rest => digitsIn 8 0 ('0' :: rest)
  | chars => digitsIn 10 0 chars

def largest : Int := 9223372036854775807

def wrap (value : Int) : Int := Int.bmod value 18446744073709551616

def isBlank (c : Char) : Bool := c = ' ' || ('\t' ≤ c && c ≤ '\x0d')

/-- The integer that a text spells, between blanks; a blank text spells zero. -/
def ofText? (text : String) : Option Int :=
  match text.toList.dropWhile isBlank with
  | [] => some 0
  | c :: rest =>
    let (negative, chars) :=
      if c = '-' then (true, rest) else if c = '+' then (false, rest) else (false, c :: rest)
    if (chars.head?.map Char.isDigit).getD false then
      let (value, behind) := natural chars
      let value : Int := if negative then -(value : Int) else value
      if behind.all isBlank && -largest - 1 ≤ value && value ≤ largest then some value else none
    else none

/-! ## Tokens -/

def signs : List String :=
  ["<<=", ">>=", "<<", ">>", "<=", ">=", "==", "!=", "&&", "||", "+=", "-=", "*=", "/=", "%=", "&=",
    "|=", "^=", "+", "-", "*", "/", "%", "&", "|", "^", "~", "!", "<", ">", "=", "?", ":", "(", ")"]

/-- The tokens of an expression; the fuel is its length. -/
def tokens : Nat → List Char → List Token
  | 0, _ => []
  | _, [] => []
  | fuel + 1, c :: rest =>
    if c = ' ' || c = '\t' || c = '\n' then tokens fuel rest
    else if c.isDigit then
      let (value, behind) := natural (c :: rest)
      .number (min value largest) :: tokens fuel behind
    else if isNameStart c then
      let chars := c :: rest
      .name (String.ofList (chars.takeWhile isNameRest)) :: tokens fuel (chars.dropWhile isNameRest)
    else match signs.find? fun sign => sign.toList.isPrefixOf (c :: rest) with
      | some sign => .sign sign :: tokens fuel ((c :: rest).drop sign.length)
      | none => [.stray]

/-! ## Values -/

/-- Where evaluation stands: the tokens ahead, and what has been assigned. -/
structure Progress where
  ahead : List Token
  assigned : List (String × Int)

structure Variables where
  value? : String → Option String
  readOnly : String → Bool

abbrev Evaluation := StateT Progress (Except Fault)

def next? : Evaluation (Option Token) := return (← get).ahead.head?

def advance : Evaluation Unit := modify fun s => { s with ahead := s.ahead.tail }

def lookUp (visible : Variables) (name : String) : Evaluation Int := do
  match (← get).assigned.lookup name with
  | some value => return value
  | none =>
    let text := (visible.value? name).getD ""
    match ofText? text with
    | some value => return value
    | none => throw (.badNumber text)

def assign (visible : Variables) (name : String) (value : Int) : Evaluation Unit := do
  if visible.readOnly name then throw (.readOnly name)
  modify fun s => { s with assigned := (name, value) :: s.assigned }

/-- How strongly a sign binds, and whether it is one between operands. -/
def strength? (sign : String) : Option Nat :=
  [("*", 8), ("/", 8), ("%", 8), ("+", 7), ("-", 7), ("<<", 6), (">>", 6), ("<", 5), ("<=", 5),
    (">", 5), (">=", 5), ("==", 4), ("!=", 4), ("&", 3), ("^", 2), ("|", 1)].lookup sign

def ofBool (b : Bool) : Int := if b then 1 else 0

def bits (value : Int) : Nat := (value % 18446744073709551616).toNat

def apply (sign : String) (a b : Int) : Except Fault Int :=
  match sign with
  | "*" => .ok (wrap (a * b))
  | "/" => if b = 0 then .error .divisionByZero else .ok (wrap (Int.tdiv a b))
  | "%" => if b = 0 then .error .divisionByZero else .ok (Int.tmod a b)
  | "+" => .ok (wrap (a + b))
  | "-" => .ok (wrap (a - b))
  | "<<" => .ok (wrap (a * Nat.pow 2 (bits b % 64)))
  | ">>" => .ok (Int.fdiv a (Nat.pow 2 (bits b % 64)))
  | "<" => .ok (ofBool (a < b))
  | "<=" => .ok (ofBool (a ≤ b))
  | ">" => .ok (ofBool (a > b))
  | ">=" => .ok (ofBool (a ≥ b))
  | "==" => .ok (ofBool (a = b))
  | "!=" => .ok (ofBool (a ≠ b))
  | "&" => .ok (wrap (bits a &&& bits b))
  | "^" => .ok (wrap (bits a ^^^ bits b))
  | _ => .ok (wrap (bits a ||| bits b))

mutual

/-- A single operand; with `idle` it is read but not evaluated. -/
def operand (visible : Variables) (fuel : Nat) (idle : Bool) : Evaluation Int :=
  match fuel with
  | 0 => throw .expectingPrimary
  | fuel + 1 => do
    let token ← next?
    advance
    match token with
    | some (.number value) => return value
    | some (.name name) => if idle then return 0 else lookUp visible name
    | some (.sign "(") =>
      let value ← assignment visible fuel idle
      if (← next?) = some (.sign ")") then
        advance
        return value
      else throw .expectingParenthesis
    | some (.sign "+") => operand visible fuel idle
    | some (.sign "-") => return wrap (-(← operand visible fuel idle))
    | some (.sign "!") => return ofBool ((← operand visible fuel idle) = 0)
    | some (.sign "~") => return wrap (-(← operand visible fuel idle) - 1)
    | _ => throw .expectingPrimary

/-- An operand with those that signs at least so strong join to it. -/
def joined (visible : Variables) (fuel : Nat) (idle : Bool) (least : Nat) : Evaluation Int :=
  match fuel with
  | 0 => throw .expectingPrimary
  | fuel + 1 => do
    let first ← operand visible fuel idle
    joinedRest visible fuel idle least first

def joinedRest (visible : Variables) (fuel : Nat) (idle : Bool) (least : Nat) (first : Int) :
    Evaluation Int :=
  match fuel with
  | 0 => throw .expectingPrimary
  | fuel + 1 => do
    match ← next? with
    | some (.sign sign) =>
      match strength? sign with
      | some strength =>
        if least ≤ strength then
          advance
          let second ← joined visible fuel idle (strength + 1)
          let value ← if idle then pure second else
            match apply sign first second with
            | .ok value => pure value
            | .error fault => throw fault
          joinedRest visible fuel idle least value
        else return first
      | none => return first
    | _ => return first

def conjunction (visible : Variables) (fuel : Nat) (idle : Bool) : Evaluation Int :=
  match fuel with
  | 0 => throw .expectingPrimary
  | fuel + 1 => do
    let first ← joined visible fuel idle 0
    if (← next?) = some (.sign "&&") then
      advance
      let second ← conjunction visible fuel (idle || first = 0)
      return ofBool (first ≠ 0 && second ≠ 0)
    else return first

def disjunction (visible : Variables) (fuel : Nat) (idle : Bool) : Evaluation Int :=
  match fuel with
  | 0 => throw .expectingPrimary
  | fuel + 1 => do
    let first ← conjunction visible fuel idle
    if (← next?) = some (.sign "||") then
      advance
      let second ← disjunction visible fuel (idle || first ≠ 0)
      return ofBool (first ≠ 0 || second ≠ 0)
    else return first

def conditional (visible : Variables) (fuel : Nat) (idle : Bool) : Evaluation Int :=
  match fuel with
  | 0 => throw .expectingPrimary
  | fuel + 1 => do
    let test ← disjunction visible fuel idle
    if (← next?) = some (.sign "?") then
      advance
      let yes ← assignment visible fuel (idle || test = 0)
      if (← next?) = some (.sign ":") then
        advance
        let no ← conditional visible fuel (idle || test ≠ 0)
        return if test ≠ 0 then yes else no
      else throw .expectingColon
    else return test

def assignment (visible : Variables) (fuel : Nat) (idle : Bool) : Evaluation Int :=
  match fuel with
  | 0 => throw .expectingPrimary
  | fuel + 1 => do
    match (← get).ahead with
    | .name name :: .sign "=" :: _ =>
      advance
      advance
      let value ← assignment visible fuel idle
      if !idle then assign visible name value
      return value
    | .name name :: .sign sign :: _ =>
      let inner := String.ofList sign.toList.dropLast
      if sign.toList.getLast? = some '=' && (strength? inner).isSome && (strength? sign).isNone then
        advance
        advance
        let second ← assignment visible fuel idle
        if idle then return second
        else
          match apply inner (← lookUp visible name) second with
          | .ok value =>
            assign visible name value
            return value
          | .error fault => throw fault
      else conditional visible fuel idle
    | _ => conditional visible fuel idle

end

/-- The value of an expression, and what it assigns, the last first. -/
def evaluate (visible : Variables) (expression : String) :
    Except Fault (Int × List (String × Int)) := do
  let ahead := tokens expression.length expression.toList
  let (value, progress) ← (assignment visible (8 * ahead.length + 16) false).run ⟨ahead, []⟩
  if progress.ahead = [] then return (value, progress.assigned) else throw .expectingEnd

end Arithmetic

end Scaffold.Host.Shell
