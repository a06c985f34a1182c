import Scaffold.Program
import Scaffold.Text.Blank

/-!
# Formatters

A formatter is a command that generated text is piped through.  It accepts the text when it ends
successfully and writes nothing but blanks to its standard error; then its standard output is the
formatted text.  Otherwise it rejects the text, with what it wrote to standard error as the reason,
or its status in words when that is blank.
-/

set_option autoImplicit false

namespace Scaffold.Formatter

open Program

/-- The command that a text spells: its first word is the program, the others are arguments; none
when there is no word. -/
def parse (text : String) : Option Command :=
  match Text.blankSeparated text.toList with
  | [] => none
  | program :: args => some ⟨String.ofList program, args.map String.ofList⟩

inductive Verdict where
  | accepted (text : String)
  | rejected (reason : String)
  | notStarted (cause : StartCause)
  deriving DecidableEq, Repr, Inhabited

/-- What a program wrote to standard error, without the blanks at its end. -/
def report (output : Output) : String :=
  String.ofList (Text.trimEnd (Text.Utf8.decodeLossy output.stderr).toList)

def judge (output : Output) : Verdict :=
  if report output ≠ "" then .rejected (report output)
  else if output.status.success then .accepted (Text.Utf8.decodeLossy output.stdout)
  else .rejected output.status.text

def format (programs : Programs) (command : Command) (text : String) : Verdict :=
  match programs command (Text.Utf8.encode text) with
  | .ok output => judge output
  | .error cause => .notStarted cause

end Scaffold.Formatter
