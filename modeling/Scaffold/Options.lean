import Scaffold.Settings
import Scaffold.Text.Split

/-!
# Options

`Options.parse` turns an argument list and the environment into settings.  Arguments are read from
the left, and the first fault ends the reading.  An option's value is attached with an equals sign
or is the next argument; it counts only when the next option or flag, or the end, is reached, so an
argument that is not known at all is reported first.  What no option gives is taken from the
environment, and else from the defaults.
-/

set_option autoImplicit false

namespace Scaffold.Options

inductive Key where
  | dir
  | snapshot
  | formatter
  deriving DecidableEq, Repr, Inhabited

namespace Key

def name : Key → String
  | dir => "dir"
  | snapshot => "snapshot"
  | formatter => "formatter"

def environmentName : Key → String
  | dir => "REPOGEN_DIR"
  | snapshot => "REPOGEN_SNAPSHOT"
  | formatter => "REPOGEN_FORMATTER"

def all : List Key := [dir, snapshot, formatter]

def ofName? (name : String) : Option Key := all.find? fun key => key.name = name

/-- Whether the option takes a value; only the directory must not be empty. -/
def accepts (key : Key) (value : String) : Bool := key ≠ dir || value ≠ ""

end Key

inductive Flag where
  | noFormat
  | help
  | version
  deriving DecidableEq, Repr, Inhabited

namespace Flag

def name : Flag → String
  | noFormat => "no-format"
  | help => "help"
  | version => "version"

def all : List Flag := [noFormat, help, version]

def ofName? (name : String) : Option Flag := all.find? fun flag => flag.name = name

def ofLetter? (letter : Char) : Option Flag :=
  if letter = 'h' then some help else if letter = 'V' then some version else none

end Flag

inductive Fault where
  /-- A value is missing, or the directory is empty. -/
  | invalidValue
  | unknownArgument
  | repeated
  | unexpectedValue
  | helpAsked
  | versionAsked
  deriving DecidableEq, Repr, Inhabited

/-! ## Single arguments -/

inductive Argument where
  | word (text : String)
  | endOfOptions
  | option (key : Key) (value : Option String)
  | flag (flag : Flag) (value : Option String)
  | unknown
  deriving DecidableEq, Repr, Inhabited

namespace Argument

def named (name : String) (value : Option String) : Argument :=
  match Key.ofName? name with
  | some key => option key value
  | none =>
    match Flag.ofName? name with
    | some f => flag f value
    | none => unknown

def ofChars : List Char → Argument
  | ['-', '-'] => endOfOptions
  | '-' :: '-' :: rest =>
    let (name, value) := Text.cut '=' rest
    named (String.ofList name) (value.map String.ofList)
  | '-' :: letter :: _ => ((Flag.ofLetter? letter).map (flag · none)).getD unknown
  | chars => word (String.ofList chars)

def ofText (text : String) : Argument := ofChars text.toList

end Argument

/-! ## Argument lists -/

structure Given where
  dir : Option String
  snapshot : Option String
  formatter : Option String
  noFormat : Bool
  deriving DecidableEq, Repr, Inhabited

namespace Given

def empty : Given := ⟨none, none, none, false⟩

def get? (given : Given) : Key → Option String
  | .dir => given.dir
  | .snapshot => given.snapshot
  | .formatter => given.formatter

def set (given : Given) (value : String) : Key → Given
  | .dir => { given with dir := some value }
  | .snapshot => { given with snapshot := some value }
  | .formatter => { given with formatter := some value }

/-- Takes over the value of an option, which must not have one yet. -/
def put (given : Given) (key : Key) (value : String) : Except Fault Given :=
  if (given.get? key).isSome then .error .repeated
  else if key.accepts value then .ok (given.set value key)
  else .error .invalidValue

def raise (given : Given) : Flag → Except Fault Given
  | .noFormat => if given.noFormat then .error .repeated else .ok { given with noFormat := true }
  | .help => .error .helpAsked
  | .version => .error .versionAsked

end Given

/-- An option that has been met and does not count yet, with its value if that has been met too. -/
structure Pending where
  key : Key
  value : Option String
  deriving DecidableEq, Repr, Inhabited

structure Reading where
  given : Given
  pending : Option Pending
  closed : Bool
  deriving DecidableEq, Repr, Inhabited

namespace Reading

def start : Reading := ⟨.empty, none, false⟩

/-- The pending option counts now; it needs a value. -/
def settle (reading : Reading) : Except Fault Given :=
  match reading.pending with
  | none => .ok reading.given
  | some ⟨_, none⟩ => .error .invalidValue
  | some ⟨key, some value⟩ => reading.given.put key value

def step (reading : Reading) (argument : Argument) : Except Fault Reading :=
  if reading.closed then .error .unknownArgument
  else match argument with
    | .word text =>
      match reading.pending with
      | some ⟨key, none⟩ => .ok { reading with pending := some ⟨key, some text⟩ }
      | _ => .error .unknownArgument
    | .endOfOptions => .ok { reading with closed := true }
    | .option key none => do return ⟨← reading.settle, some ⟨key, none⟩, false⟩
    | .option key (some value) => do return ⟨← (← reading.settle).put key value, none, false⟩
    | .flag f none => do return ⟨← (← reading.settle).raise f, none, false⟩
    | .flag _ (some _) => .error .unexpectedValue
    | .unknown => .error .unknownArgument

end Reading

def read (args : List String) : Except Fault Given := do
  let reading ← (args.map Argument.ofText).foldlM Reading.step Reading.start
  reading.settle

/-! ## Settings -/

/-- The values that stand in for options that are not given. -/
abbrev Environment := Key → Option String

/-- The value of an option: as given, else from the environment, else the default. -/
def effective (environment : Environment) (given : Given) (key : Key) (default : String) :
    Except Fault String :=
  match given.get? key with
  | some value => .ok value
  | none =>
    match environment key with
    | some value => if key.accepts value then .ok value else .error .invalidValue
    | none => .ok default

/-- The settings that the options and the environment give together. -/
def settings (environment : Environment) (given : Given) : Except Fault Settings := do
  let dir ← effective environment given .dir Settings.defaultDir
  let snapshot ← effective environment given .snapshot Settings.defaultSnapshot
  let formatter ← effective environment given .formatter Settings.defaultFormatter
  return ⟨dir, snapshot, if given.noFormat then none else Formatter.parse formatter⟩

/-- The settings that an argument list and the environment give. -/
def parse (environment : Environment) (args : List String) : Except Fault Settings := do
  settings environment (← read args)

end Scaffold.Options
