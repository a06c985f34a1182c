import Scaffold.Program

/-!
# Shell scripts

A word is made of parts: text, parameters, outputs of other commands and sums.  A part is quoted or
not; what an unquoted part stands for is split into fields, and its characters may be those of a
pattern.  A command is a simple one, with assignments, words and redirections, or it is put together
from others.
-/

set_option autoImplicit false

namespace Scaffold.Host.Shell

inductive Direction where
  | read
  | write
  | overwrite
  | append
  | readWrite
  | copyInput
  | copyOutput
  /-- Reads from the text of a document of the script, given by its number. -/
  | document (index : Nat)
  deriving DecidableEq, Repr, Inhabited

/-- When a parameter is replaced by a word, or the word by it. -/
inductive Replacement where
  | default
  | assign
  | complain
  | alternative
  deriving DecidableEq, Repr, Inhabited

mutual

inductive Part where
  | text (quoted : Bool) (text : String)
  | parameter (quoted : Bool) (name : String) (use : Use)
  | output (quoted : Bool) (command : Option Command)
  | sum (quoted : Bool) (expression : List Part)

inductive Use where
  | value
  | length
  /-- A word instead of it when it is not set; the flag: also when it is empty. -/
  | replace (kind : Replacement) (orEmpty : Bool) (word : List Part)
  /-- Takes off the beginning or the end that a pattern matches, the shortest or the longest one. -/
  | trim (ending longest : Bool) (pattern : List Part)
  | unknown

inductive Redirection where
  | mk (stream : Nat) (direction : Direction) (target : List Part)

/-- A command, with the line it starts on where a complaint may name it. -/
inductive Command where
  | simple (line : Nat) (assignments : List (String × List Part)) (words : List (List Part))
    (redirections : List Redirection)
  | define (line : Nat) (name : String) (body : Command)
  | subshell (line : Nat) (body : Command) (redirections : List Redirection)
  | redirected (line : Nat) (body : Command) (redirections : List Redirection)
  | choose (test yes : Command) (no : Option Command)
  | loop (wanted : Bool) (test body : Command)
  | each (line : Nat) (name : String) (words : List (List Part)) (body : Command)
  | select (line : Nat) (word : List Part) (arms : List (List (List Part) × Option Command))
  | negate (body : Command)
  | pipeline (stages : List Command)
  | both (first second : Command)
  | either (first second : Command)
  | sequence (first second : Command)
  | background (body : Command)

end

instance : Inhabited Part := ⟨.text false ""⟩

instance : Inhabited Command := ⟨.simple 0 [] [] []⟩

abbrev Word := List Part

def isNameStart (c : Char) : Bool := c.isAlpha || c = '_'

def isNameRest (c : Char) : Bool := c.isAlphanum || c = '_'

def isName (text : String) : Bool :=
  match text.toList with
  | [] => false
  | c :: rest => isNameStart c && rest.all isNameRest

/-- The name in front of an equals sign, and what is behind it. -/
def splitAssignment? (text : String) : Option (String × String) :=
  let name := String.ofList (text.toList.takeWhile (· ≠ '='))
  match text.toList.dropWhile (· ≠ '=') with
  | _ :: value => if isName name then some (name, String.ofList value) else none
  | [] => none

end Scaffold.Host.Shell
