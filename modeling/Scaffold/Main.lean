import Scaffold.Options
import Scaffold.Program.Standard
import Scaffold.Run

/-!
# Command line

Takes an image of the files that a run can look at, runs on the image, and carries what has changed
back to the files.
-/

set_option autoImplicit false

namespace Scaffold.CommandLine

def usage : String :=
  "Generate repositories, search data, setters, id parsers and ORM wrappers from annotated declarations

Usage: repogen [OPTIONS]

Options:
      --dir <DIR>        Package directory to generate into [env: REPOGEN_DIR] [default: .]
      --snapshot <FILE>  Package snapshot file name [env: REPOGEN_SNAPSHOT] [default: repogen.snapshot.json]
      --formatter <CMD>  Formatter command [env: REPOGEN_FORMATTER] [default: goimports]
      --no-format        Write generated code without formatting it
  -h, --help             Print help
  -V, --version          Print version"

def version : String := "repogen 0.2.0"

def complaint : Options.Fault → String
  | .invalidValue => "error: a value is missing or empty"
  | .unknownArgument => "error: unexpected argument found"
  | .repeated => "error: an argument cannot be used multiple times"
  | .unexpectedValue => "error: unexpected value for a flag"
  | .helpAsked => usage
  | .versionAsked => version

def environment : IO Options.Environment := do
  let dir ← IO.getEnv Options.Key.dir.environmentName
  let snapshot ← IO.getEnv Options.Key.snapshot.environmentName
  let formatter ← IO.getEnv Options.Key.formatter.environmentName
  return fun
    | .dir => dir
    | .snapshot => snapshot
    | .formatter => formatter

def addEntry (files : FileSystem) (path : String) : IO FileSystem := do
  let content ← (IO.FS.readBinFile (if path = "" then "." else path)).toBaseIO
  match content with
  | .ok bytes => return (files.write path bytes.data.toList).toOption.getD files
  | .error (.inappropriateType _ _ _) => return files.makeDirectories path
  | .error _ => return files

/-- Adds what a path names to an image, and the directory that it is in. -/
def addPath (files : FileSystem) (path : String) : IO FileSystem := do
  addEntry (← addEntry files (Path.parent path)) path

def carryBack (before after : FileSystem) (path : String) : IO Unit := do
  let old := (before.read path).toOption
  let new := (after.read path).toOption
  if old ≠ new then
    match new with
    | some bytes => IO.FS.writeBinFile path ⟨bytes.toArray⟩
    | none => IO.FS.removeFile path

/-- Runs with settings and tells what is wrong, if anything is. -/
def runWith (settings : Settings) : IO (Option RunError) := do
  let here ← IO.currentDir
  let start := FileSystem.empty (Path.steps here.toString)
  let root ← addPath start (Path.join settings.dir settings.snapshot)
  let package :=
    (Loader.loadSnapshot settings.snapshot root settings.dir).toOption.getD ⟨"", "", [], []⟩
  let paths := Run.inputs settings package ++ Run.outputs settings package
  let before ← paths.foldlM addPath root
  let (result, after) := run ⟨Program.standard, .snapshots settings.snapshot⟩ settings ⟨before, ()⟩
  (Run.outputs settings package).forM (carryBack before after.files)
  return match result with
    | .ok _ => none
    | .error e => some e

end Scaffold.CommandLine

open Scaffold in
def main (args : List String) : IO UInt32 := do
  match Options.parse (← CommandLine.environment) args with
  | .error fault =>
    if fault = .helpAsked ∨ fault = .versionAsked then
      IO.println (CommandLine.complaint fault)
      return 0
    else
      IO.eprintln (CommandLine.complaint fault)
      return 2
  | .ok settings =>
    match ← CommandLine.runWith settings with
    | none => return 0
    | some e =>
      IO.eprintln e.message
      return 1
