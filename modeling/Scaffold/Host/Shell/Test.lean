import Scaffold.FileSystem
import Scaffold.Host.Shell.Arithmetic

/-!
# Conditions on texts, numbers and files

The arguments of `test` make up an expression.  How an argument is read depends on those behind it:
an operator that lacks its operands is an operand itself.
-/

set_option autoImplicit false

namespace Scaffold.Host.Shell.Test

inductive Meaning where
  | operand
  | unary (op : String)
  | binary (op : String)
  | not
  | conjunction
  | disjunction
  | opening
  | closing
  | missing
  deriving DecidableEq, Repr, Inhabited

inductive Fault where
  | argumentExpected (op : String)
  | unexpectedOperator (arg : String)
  | closingExpected
  | badNumber (text : String)
  deriving DecidableEq, Repr, Inhabited

def Fault.message : Fault → String
  | argumentExpected op => op ++ ": argument expected"
  | unexpectedOperator arg => arg ++ ": unexpected operator"
  | closingExpected => "closing paren expected"
  | badNumber text => "Illegal number: " ++ text

def unaryOperators : List String :=
  ["-r", "-w", "-x", "-e", "-f", "-d", "-c", "-b", "-p", "-u", "-g", "-k", "-s", "-t", "-z", "-n",
    "-h", "-O", "-G", "-L", "-S"]

def binaryOperators : List String :=
  ["=", "!=", "<", ">", "-eq", "-ne", "-ge", "-gt", "-le", "-lt", "-nt", "-ot", "-ef"]

def operator? (arg : String) : Option Meaning :=
  if unaryOperators.contains arg then some (.unary arg)
  else if binaryOperators.contains arg then some (.binary arg)
  else [("!", Meaning.not), ("-a", .conjunction), ("-o", .disjunction), ("(", .opening),
    (")", .closing)].lookup arg

def lacksOperand : List String → Bool
  | [] => true
  | [_] => false
  | next :: _ :: _ =>
    match operator? next with
    | some (.binary _) => true
    | _ => false

def meaning : List String → Meaning
  | [] => .missing
  | arg :: rest =>
    match operator? arg with
    | some (.unary op) => if lacksOperand rest then .operand else .unary op
    | some .opening => if rest = [] then .operand else .opening
    | some other => other
    | none => .operand

structure Facts where
  node? : String → Option Node
  writable : String → Bool
  isTerminal : Nat → Bool

def number (text : String) : Except Fault Int :=
  if text.toList.all Arithmetic.isBlank then .error (.badNumber text)
  else
    let chars := text.toList.dropWhile Arithmetic.isBlank
    let (negative, digits) : Bool × List Char := match chars with
      | '-' :: rest => (true, rest)
      | '+' :: rest => (false, rest)
      | rest => (false, rest)
    let value : Int := (Arithmetic.digitsIn 10 0 digits).1
    let behind := (Arithmetic.digitsIn 10 0 digits).2
    if digits.head?.any Char.isDigit && behind.all Arithmetic.isBlank then
      .ok (if negative then -value else value)
    else .error (.badNumber text)

def unary (facts : Facts) (op arg : String) : Except Fault Bool :=
  let node := facts.node? arg
  match op with
  | "-z" => .ok (arg = "")
  | "-n" => .ok (arg ≠ "")
  | "-t" => (number arg).map fun n => facts.isTerminal n.toNat
  | "-e" | "-r" | "-O" | "-G" => .ok node.isSome
  | "-w" => .ok (node.isSome && facts.writable arg)
  | "-d" => .ok (node = some .directory)
  | "-x" => .ok (node = some .directory)
  | "-f" => .ok (match node with
      | some (.file _) => true
      | _ => false)
  | "-s" => .ok (match node with
      | some (.file content) => content ≠ []
      | some .directory => true
      | none => false)
  | _ => .ok false

def binary (facts : Facts) (first op second : String) : Except Fault Bool :=
  let compared (holds : Int → Int → Bool) : Except Fault Bool := do
    let a ← number first
    return holds a (← number second)
  match op with
  | "=" => .ok (first = second)
  | "!=" => .ok (first ≠ second)
  | "<" => .ok (first < second)
  | ">" => .ok (second < first)
  | "-eq" => compared fun a b => a = b
  | "-ne" => compared fun a b => a ≠ b
  | "-ge" => compared fun a b => a ≥ b
  | "-gt" => compared fun a b => a > b
  | "-le" => compared fun a b => a ≤ b
  | "-lt" => compared fun a b => a < b
  | "-ef" => .ok ((facts.node? first).isSome && first = second)
  | _ => .ok false

/-- Reading goes on with the last argument that was read: it is the head of the state. -/
abbrev Reading := StateT (List String) (Except Fault)

def advance : Reading Meaning := do
  modify List.tail
  return meaning (← get)

mutual

/-- Alternatives, the first of which starts with an argument of a given meaning. -/
def alternatives (facts : Facts) (fuel : Nat) (start : Meaning) : Reading Bool :=
  match fuel with
  | 0 => return false
  | fuel + 1 => do
    let first ← conjunctions facts fuel start
    match meaning (← get).tail with
    | .disjunction =>
      modify List.tail
      let second ← alternatives facts fuel (← advance)
      return first || second
    | _ => return first

def conjunctions (facts : Facts) (fuel : Nat) (start : Meaning) : Reading Bool :=
  match fuel with
  | 0 => return false
  | fuel + 1 => do
    let first ← negations facts fuel start
    match meaning (← get).tail with
    | .conjunction =>
      modify List.tail
      let second ← conjunctions facts fuel (← advance)
      return first && second
    | _ => return first

def negations (facts : Facts) (fuel : Nat) (start : Meaning) : Reading Bool :=
  match fuel with
  | 0 => return false
  | fuel + 1 => do
    match start with
    | .not =>
      let next := meaning (← get).tail
      if next ≠ .missing then modify List.tail
      return !(← negations facts fuel next)
    | other => primary facts fuel other

def primary (facts : Facts) (fuel : Nat) (start : Meaning) : Reading Bool :=
  match fuel with
  | 0 => return false
  | fuel + 1 => do
    match start with
    | .missing => return false
    | .opening =>
      match ← advance with
      | .closing => return false
      | inner =>
        let value ← alternatives facts fuel inner
        match ← advance with
        | .closing => return value
        | _ => throw .closingExpected
    | .unary op =>
      modify List.tail
      match ← get with
      | [] => throw (.argumentExpected op)
      | arg :: _ =>
        match unary facts op arg with
        | .ok value => return value
        | .error fault => throw fault
    | _ =>
      match ← get with
      | [] => return false
      | first :: rest =>
        match meaning rest with
        | .binary op =>
          match rest.tail with
          | [] => throw (.argumentExpected op)
          | second :: _ =>
            set rest.tail
            match binary facts first op second with
            | .ok value => return value
            | .error fault => throw fault
        | _ => return first ≠ ""

end

/-- The value of an expression, of which some arguments are given; three or four of them may be put
in parentheses or negated as a whole. -/
def evaluate (facts : Facts) : Nat → List String → Except Fault Bool
  | 0, _ | _, [] => .ok false
  | fuel + 1, args =>
    let general (start : Meaning) : Except Fault Bool := do
      let (value, left) ← (alternatives facts (4 * args.length + 8) start).run args
      match left with
      | first :: _ :: _ => throw (.unexpectedOperator first)
      | _ => return value
    let special (start : Meaning) : Except Fault Bool :=
      if args.head? = some "(" && args.getLast? = some ")" then
        evaluate facts fuel (args.drop 1).dropLast
      else if args.head? = some "!" then (evaluate facts fuel args.tail).map (!·)
      else general start
    match args with
    | [_, op, _] =>
      if (binaryOperators.contains op) then general .operand else special (meaning args)
    | [_, _, _, _] => special (meaning args)
    | _ => general (meaning args)

end Scaffold.Host.Shell.Test
