import Std.Data.ExtTreeMap
import Scaffold.Path
import Scaffold.Text.Utf8

/-!
# File systems

A file system is a finite map from absolute locations to files and directories, together with the
working directory that relative paths start from.  Paths are walked step by step, so that every
directory on the way has to be there.
-/

set_option autoImplicit false

namespace Scaffold

abbrev Location := List String

inductive Node where
  | file (content : List UInt8)
  | directory
  deriving DecidableEq, Repr, Inhabited

inductive FileCause where
  | notFound
  | isDirectory
  | notDirectory
  | nameTooLong
  | nullCharacter
  | notText
  | unknownPackage
  deriving DecidableEq, Repr, Inhabited

namespace FileCause

def message : FileCause → String
  | notFound => "No such file or directory (os error 2)"
  | isDirectory => "Is a directory (os error 21)"
  | notDirectory => "Not a directory (os error 20)"
  | nameTooLong => "File name too long (os error 36)"
  | nullCharacter => "file name contained an unexpected NUL byte"
  | notText => "stream did not contain valid UTF-8"
  | unknownPackage => "entity not found"

end FileCause

structure FileSystem where
  nodes : Std.ExtTreeMap Location Node compare
  workingDirectory : Location

namespace FileSystem

/-- A file system with nothing in it but the working directory. -/
def empty (workingDirectory : Location) : FileSystem := ⟨∅, workingDirectory⟩

/-- What stands at a location; the root and the working directory are always there. -/
def node? (fs : FileSystem) (location : Location) : Option Node :=
  if location.isPrefixOf fs.workingDirectory then some .directory else fs.nodes[location]?

/-- Takes one step from a location, which has to be a directory. -/
def step (fs : FileSystem) (at_ : Location) (name : String) : Except FileCause Location :=
  match fs.node? at_ with
  | none => .error .notFound
  | some (.file _) => .error .notDirectory
  | some .directory =>
    if name = ".." then .ok at_.dropLast
    else if 255 < name.utf8ByteSize then .error .nameTooLong
    else .ok (at_ ++ [name])

/-- The location that a path names; what stands there need not exist. -/
def locate (fs : FileSystem) (path : String) : Except FileCause Location :=
  if path = "" then .error .notFound
  else if path.toList.contains '\x00' then .error .nullCharacter
  else if 4096 ≤ path.utf8ByteSize then .error .nameTooLong
  else
    (Path.steps path).foldlM fs.step (if Path.isAbsolute path then [] else fs.workingDirectory)

def read (fs : FileSystem) (path : String) : Except FileCause (List UInt8) := do
  let location ← fs.locate path
  match fs.node? location with
  | none => .error .notFound
  | some .directory => .error .isDirectory
  | some (.file content) =>
    if Path.endsInDirectory path then .error .notDirectory else .ok content

def readText (fs : FileSystem) (path : String) : Except FileCause String := do
  match Text.Utf8.decode? (← fs.read path) with
  | some text => .ok text
  | none => .error .notText

def put (fs : FileSystem) (location : Location) (node : Node) : FileSystem :=
  { fs with nodes := fs.nodes.insert location node }

def drop (fs : FileSystem) (location : Location) : FileSystem :=
  { fs with nodes := fs.nodes.erase location }

/-- Writes a file whole, in place of an earlier one; its directory has to be there. -/
def write (fs : FileSystem) (path : String) (content : List UInt8) :
    Except FileCause FileSystem := do
  let location ← fs.locate path
  if fs.node? location = some .directory then .error .isDirectory
  else if Path.endsInDirectory path then .error .isDirectory
  else return fs.put location (.file content)

def remove (fs : FileSystem) (path : String) : Except FileCause FileSystem := do
  let location ← fs.locate path
  match fs.node? location with
  | none => .error .notFound
  | some .directory => .error .isDirectory
  | some (.file _) =>
    if Path.endsInDirectory path then .error .notDirectory else return fs.drop location

def makeDirectories (fs : FileSystem) (path : String) : FileSystem :=
  let start := if Path.isAbsolute path then [] else fs.workingDirectory
  ((Path.steps path).foldl (fun (fs, at_) name =>
    if name = ".." then (fs, at_.dropLast)
    else
      let next := at_ ++ [name]
      (if (fs.node? next).isSome then fs else fs.put next .directory, next)) (fs, start)).1

def files (fs : FileSystem) : List (Location × List UInt8) :=
  fs.nodes.toList.filterMap fun (location, node) =>
    match node with
    | .file content => some (location, content)
    | .directory => none

def entries (fs : FileSystem) (location : Location) : List String :=
  fs.nodes.toList.filterMap fun (other, _) =>
    if other ≠ [] && other.dropLast = location then other.getLast? else none

end FileSystem

end Scaffold
