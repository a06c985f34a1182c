import Scaffold.Failure
import Scaffold.Formatter

/-!
# Emissions

An `Emission` is prepared without touching a file: it says which edit is to be made, if any, and
what is to be reported when that edit succeeds.  Performing it makes at most one edit.

A text is emitted formatted, and unformatted when the formatter rejects it, which is then reported;
when the formatter cannot be started nothing is written.
-/

set_option autoImplicit false

namespace Scaffold

open Program (Command)

inductive Edit where
  | write (path text : String)
  | delete (path : String)
  deriving DecidableEq, Repr, Inhabited

namespace Edit

def path : Edit → String
  | write path _ => path
  | delete path => path

def apply (files : FileSystem) : Edit → Except FileCause FileSystem
  | write path text => files.write path (Text.Utf8.encode text)
  | delete path =>
    match files.remove path with
    | .error .notFound => .ok files
    | result => result

end Edit

/-- A prepared output: the edit to make and the report when it is made. -/
structure Emission (α : Type) where
  edit : Option Edit
  report : Except Failure α

namespace Emission

variable {α β : Type}

def failed (failure : Failure) : Emission α := ⟨none, .error failure⟩

def removal (path : String) (value : α) : Emission α := ⟨some (.delete path), .ok value⟩

def writing (programs : Programs) (formatter : Option Command) (target path text : String)
    (value : α) :
    Emission α :=
  match formatter with
  | none => ⟨some (.write path text), .ok value⟩
  | some command =>
    match Formatter.format programs command text with
    | .accepted formatted => ⟨some (.write path formatted), .ok value⟩
    | .rejected reason => ⟨some (.write path text), .error (.rejected target reason)⟩
    | .notStarted cause => failed (.notStarted target command.program cause)

/-- Makes the edit and reports; an edit that cannot be made is reported instead. -/
def perform (emission : Emission α) (files : FileSystem) : Except Failure α × FileSystem :=
  match emission.edit with
  | none => (emission.report, files)
  | some edit =>
    match edit.apply files with
    | .ok changed => (emission.report, changed)
    | .error cause => (.error (.output edit.path cause), files)

def performAll : List (Emission α) → FileSystem → List (Except Failure α) × FileSystem
  | [], files => ([], files)
  | emission :: others, files =>
    let (result, changed) := emission.perform files
    let (results, last) := performAll others changed
    (result :: results, last)

theorem perform_failed (failure : Failure) (files : FileSystem) :
    (failed failure : Emission α).perform files = (.error failure, files) := rfl

end Emission

end Scaffold
