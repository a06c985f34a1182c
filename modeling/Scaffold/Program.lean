import Scaffold.Text.Utf8

/-!
# Programs that text is piped through

A program reads bytes and ends with a status, bytes on its standard output and bytes on its standard
error; or it cannot be started at all.  `Programs` says for each command line what happens, so that
everything built on it takes the programs at hand as a parameter.
-/

set_option autoImplicit false

namespace Scaffold.Program

inductive Status where
  | exited (code : Nat)
  /-- Killed by a signal, with or without its memory written to a file. -/
  | killed (signal : Nat) (dumped : Bool)
  deriving DecidableEq, Repr, Inhabited

namespace Status

def success : Status → Bool
  | exited 0 => true
  | _ => false

def signalNames : List String :=
  ["SIGHUP", "SIGINT", "SIGQUIT", "SIGILL", "SIGTRAP", "SIGABRT", "SIGBUS", "SIGFPE", "SIGKILL",
    "SIGUSR1", "SIGSEGV", "SIGUSR2", "SIGPIPE", "SIGALRM", "SIGTERM", "SIGSTKFLT", "SIGCHLD",
    "SIGCONT", "SIGSTOP", "SIGTSTP", "SIGTTIN", "SIGTTOU", "SIGURG", "SIGXCPU", "SIGXFSZ",
    "SIGVTALRM", "SIGPROF", "SIGWINCH", "SIGIO", "SIGPWR", "SIGSYS"]

def text : Status → String
  | exited code => "exit status: " ++ toString code
  | killed signal dumped =>
    let name :=
      match signalNames[signal - 1]? with
      | some name => " (" ++ name ++ ")"
      | none => ""
    "signal: " ++ toString signal ++ name ++ if dumped then " (core dumped)" else ""

end Status

structure Output where
  status : Status
  stdout : List UInt8
  stderr : List UInt8
  deriving DecidableEq, Repr, Inhabited

inductive StartCause where
  | notFound
  | denied
  | notDirectory
  | nameTooLong
  | nullCharacter
  deriving DecidableEq, Repr, Inhabited

namespace StartCause

def message : StartCause → String
  | notFound => "No such file or directory (os error 2)"
  | denied => "Permission denied (os error 13)"
  | notDirectory => "Not a directory (os error 20)"
  | nameTooLong => "File name too long (os error 36)"
  | nullCharacter => "nul byte found in provided data"

end StartCause

structure Command where
  program : String
  args : List String
  deriving DecidableEq, Repr, Inhabited

end Scaffold.Program

namespace Scaffold

abbrev Programs := Program.Command → List UInt8 → Except Program.StartCause Program.Output

end Scaffold
