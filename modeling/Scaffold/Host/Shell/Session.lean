import Scaffold.FileSystem
import Scaffold.Host.Octets
import Scaffold.Host.Shell.Script

/-!
# Sessions

A `Session` is what a shell process has of its own: variables, functions, the streams it has open.
A `World` is what processes share: the channels behind the streams, the files, signals on their way.
A process that forks runs its child to the end before it goes on, with a copy of the session and in
the same world.
-/

set_option autoImplicit false

namespace Scaffold.Host.Shell

structure Variable where
  /-- None when the variable is known but not set. -/
  value : Option String
  exported : Bool
  readOnly : Bool
  deriving DecidableEq, Repr, Inhabited

inductive Channel where
  | void
  | pipe (unread : String)
  /-- A file from a place on; with `atEnd` everything is written behind what it holds. -/
  | file (path : String) (place : Nat) (atEnd : Bool)
  deriving DecidableEq, Repr, Inhabited

structure Descriptor where
  channel : Nat
  readable : Bool
  writable : Bool
  deriving DecidableEq, Repr, Inhabited

/-- What a function is: the line it starts on, and its body. -/
structure Function where
  line : Nat
  body : Command

structure Session where
  name : String
  process : Nat
  /-- The number of the process that the shell was started as. -/
  root : Nat
  arguments : List String
  vars : List (String × Variable)
  functions : List (String × Function)
  status : Nat
  outputStatus : Nat
  flags : List Char
  descriptors : List (Nat × Descriptor)
  line : Nat
  tested : Bool
  /-- The line of the function that is running, zero outside of functions. -/
  functionLine : Nat
  command : Option String
  /-- What to do at signals; zero is the end of the shell. -/
  traps : List (Nat × String)
  documents : List (Nat × Word)
  nextDocument : Nat
  /-- The earlier values of the variables that each running function has of its own. -/
  locals : List (List (String × Option Variable))
  loops : Nat
  lastJob : Option Nat
  /-- The working directory; empty for the one that the shell was started in. -/
  directory : String
  mask : Nat
  /-- The characters of the current argument that `getopts` has read. -/
  optionsRead : Nat
  aliases : List (String × String)

structure World where
  channels : Array Channel
  files : FileSystem
  nextProcess : Nat
  jobs : List (Nat × Nat)
  signals : List (Nat × Nat)
  waiting : List Nat

structure State where
  session : Session
  world : World

inductive Jump where
  | leave (status : Nat)
  | killed (signal : Nat)
  /-- A fault has been complained about, which ends the shell or its own command. -/
  | fault (status : Nat)
  | leaveLoops (count : Nat)
  | nextRound (count : Nat)
  | return (status : Nat)
  | exhausted
  deriving DecidableEq, Repr, Inhabited

abbrev Act := EStateM Jump State

namespace Act

def attempt {α : Type} (act : Act α) : Act (Except Jump α) := fun s =>
  match act s with
  | .ok a s => .ok (.ok a) s
  | .error jump s => .ok (.error jump) s

/-- Goes on with what `attempt` has caught. -/
def resume {α : Type} : Except Jump α → Act α
  | .ok a => return a
  | .error jump => throw jump

def session : Act Session := return (← get).session

def world : Act World := return (← get).world

def changeSession (change : Session → Session) : Act Unit :=
  modify fun s => { s with session := change s.session }

def changeWorld (change : World → World) : Act Unit :=
  modify fun s => { s with world := change s.world }

/-! ## Variables -/

def findVariable (name : String) : Act (Option Variable) := return (← session).vars.lookup name

def put {α : Type} (name : String) (value : α) : List (String × α) → List (String × α)
  | [] => [(name, value)]
  | (other, old) :: rest =>
    if other = name then (name, value) :: rest else (other, old) :: put name value rest

def setVariable (name : String) (var : Variable) : Act Unit :=
  changeSession fun s => { s with vars := put name var s.vars }

def dropVariable (name : String) : Act Unit :=
  changeSession fun s => { s with vars := s.vars.filter (·.1 ≠ name) }

def value? (name : String) : Act (Option String) := return (← findVariable name).bind (·.value)

/-! ## Streams -/

def channel (index : Nat) : Act Channel := return ((← world).channels[index]?).getD .void

def setChannel (index : Nat) (content : Channel) : Act Unit :=
  changeWorld fun w => { w with channels := w.channels.setIfInBounds index content }

def addChannel (content : Channel) : Act Nat := do
  let index := (← world).channels.size
  changeWorld fun w => { w with channels := w.channels.push content }
  return index

def descriptor? (stream : Nat) : Act (Option Descriptor) :=
  return (← session).descriptors.lookup stream

def setDescriptor (stream : Nat) (descriptor : Option Descriptor) : Act Unit :=
  changeSession fun s =>
    let others := s.descriptors.filter (·.1 ≠ stream)
    { s with
      descriptors := match descriptor with
        | some d => (stream, d) :: others
        | none => others }

/-- The path of a file as seen from where the shell was started. -/
def located (path : String) : Act String := do
  let directory := (← session).directory
  return if directory = "" then path else Path.join directory path

def content (path : String) : Act String := do
  match (← world).files.read (Octets.toText path) with
  | .ok bytes => return Octets.ofBytes bytes
  | .error _ => return ""

def unread (index : Nat) : Act String := do
  match ← channel index with
  | .void => return ""
  | .pipe text => return text
  | .file path place _ => return String.ofList ((← content path).toList.drop place)

def leaveUnread (index : Nat) (rest : String) : Act Unit := do
  match ← channel index with
  | .void => return ()
  | .pipe _ => setChannel index (.pipe rest)
  | .file path _ atEnd =>
    setChannel index (.file path ((← content path).length - rest.length) atEnd)

def write (index : Nat) (text : String) : Act Unit := do
  match ← channel index with
  | .void => return ()
  | .pipe earlier => setChannel index (.pipe (earlier ++ text))
  | .file path place atEnd =>
    let before := (← content path).toList
    let start := if atEnd then before.length else place
    let padded := before.take start ++ List.replicate (start - before.length) '\x00'
    let after := padded ++ text.toList ++ before.drop (start + text.length)
    let w ← world
    match w.files.write (Octets.toText path) (Octets.toBytes (String.ofList after)) with
    | .ok files =>
      changeWorld fun w => { w with files := files }
      setChannel index (.file path (start + text.length) atEnd)
    | .error _ => return ()

/-- Writes to an open stream; tells whether that could be done. -/
def emit (stream : Nat) (text : String) : Act Bool := do
  match ← descriptor? stream with
  | some d =>
    if d.writable then
      write d.channel text
      return true
    else return text = ""
  | none => return text = ""

/-! ## Complaints -/

def heading : Act String := do
  let s ← session
  return s.name ++ ": " ++ toString s.line ++ ": " ++
    match s.command with
    | some command => command ++ ": "
    | none => ""

def complain (text : String) : Act Unit := do
  let _ ← emit 2 ((← heading) ++ text ++ "\n")

def fail {α : Type} (text : String) : Act α := do
  complain text
  throw (.fault 2)

def assign (name value : String) : Act Unit := do
  let old ← findVariable name
  if (old.map (·.readOnly)).getD false then fail (name ++ ": is read only")
  let exported := (old.map (·.exported)).getD false || (← session).flags.contains 'a'
  setVariable name ⟨some value, exported, false⟩
  if name = "OPTIND" then changeSession fun s => { s with optionsRead := 0 }

def isNotSet {α : Type} (name : String) : Act α := fail (name ++ ": parameter not set")

end Act

end Scaffold.Host.Shell
