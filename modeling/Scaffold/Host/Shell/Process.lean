import Scaffold.Host.Shell.Run

/-!
# Shells as programs

A shell that is started as a program has three streams, the usual variables and the files of a file
system.
-/

set_option autoImplicit false

namespace Scaffold.Host.Shell

open Program (Output)

/-- So much fuel that only a script without an end uses it up. -/
def fuel : Nat := 1000000

def environment : List (String × Variable) :=
  [("HOME", "/root"), ("PATH", "/usr/local/sbin:/usr/local/bin:/usr/sbin:/usr/bin:/sbin:/bin")].map
    fun (name, value) => (name, ⟨some value, true, false⟩)

/-- The session of a process that is about to become a shell. -/
def startingSession : Session where
  name := "sh"
  process := 2
  root := 2
  arguments := []
  vars := environment
  functions := []
  status := 0
  outputStatus := 0
  flags := []
  descriptors := [(0, ⟨0, true, false⟩), (1, ⟨1, false, true⟩), (2, ⟨2, false, true⟩)]
  line := 0
  tested := false
  functionLine := 0
  command := none
  traps := []
  documents := []
  nextDocument := 0
  locals := []
  loops := 0
  lastJob := none
  directory := ""
  mask := 18
  optionsRead := 0
  aliases := []

/-- The world of such a process: its input stands in the first channel. -/
def startingWorld (files : FileSystem) (input : String) : World where
  channels := #[.pipe input, .pipe "", .pipe ""]
  files := files
  nextProcess := 3
  jobs := []
  signals := []
  waiting := []

def World.written (world : World) (index : Nat) : List UInt8 :=
  match world.channels[index]? with
  | some (.pipe text) => Octets.toBytes text
  | _ => []

def execute (files : FileSystem) (command : Program.Command) (input : List UInt8) : Output :=
  let act := Run.runShell fuel (Octets.ofText command.program) (command.args.map Octets.ofText)
  let start : State := ⟨startingSession, startingWorld files (Octets.ofBytes input)⟩
  match Act.attempt act start with
  | .ok result state =>
    let status := match result with
      | .ok status => status
      | .error jump => Run.ending (.error jump)
    ⟨status, state.world.written 1, state.world.written 2⟩
  | .error jump state =>
    ⟨Run.ending (.error jump), state.world.written 1, state.world.written 2⟩

end Scaffold.Host.Shell
