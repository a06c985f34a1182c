import Scaffold.Failure
import Scaffold.Package.Snapshot

/-!
# Loaders

A loader gives the package in a directory.  It may look at the file system, and it may remember what
it was asked before in a state of its own.
-/

set_option autoImplicit false

namespace Scaffold

structure Loader (σ : Type) where
  load : FileSystem → σ → String → Except LoadFailure Package × σ

namespace Loader

/-- The package in the snapshot file of a given name in a directory. -/
def loadSnapshot (fileName : String) (files : FileSystem) (dir : String) :
    Except LoadFailure Package :=
  let path := Path.join dir fileName
  match files.readText path with
  | .error cause => .error (.unreadable path cause)
  | .ok text =>
    match Package.ofText? text with
    | none => .error (.malformed path)
    | some package => .ok package

def snapshots (fileName : String) : Loader Unit :=
  ⟨fun files _ dir => (loadSnapshot fileName files dir, ())⟩

/-- The packages that a directory holds one after the other. -/
abbrev Shelf := List (String × List Package)

/-- Takes the first package of a directory; the last one stays.  Directories are told apart by their
components. -/
def take (dir : String) : Shelf → Option Package × Shelf
  | [] => (none, [])
  | (name, packages) :: others =>
    if Path.parts name = Path.parts dir then
      match packages with
      | [] => (none, (name, []) :: others)
      | [package] => (some package, (name, [package]) :: others)
      | package :: more => (some package, (name, more) :: others)
    else
      let (package, rest) := take dir others
      (package, (name, packages) :: rest)

def shelf : Loader Shelf :=
  ⟨fun _ state dir =>
    match take dir state with
    | (some package, rest) => (.ok package, rest)
    | (none, rest) => (.error (.unreadable dir .unknownPackage), rest)⟩

end Loader

end Scaffold
