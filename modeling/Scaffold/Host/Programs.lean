import Scaffold.Host.Shell.Process

/-!
# Programs of the host

The filters and the shell, by bare name or in one of the usual directories.  They see the files of a
file system, but what they write there is lost.
-/

set_option autoImplicit false

namespace Scaffold.Host

open Program

def directories : List String := ["/bin/", "/usr/bin/"]

def usualDirectories : List String :=
  ["/bin", "/dev", "/etc", "/home", "/proc", "/root", "/tmp", "/usr/bin", "/var/tmp"]

def seen (files : FileSystem) : FileSystem :=
  usualDirectories.foldl FileSystem.makeDirectories files

def bareName (program : String) : String :=
  match directories.find? fun dir => dir.toList.isPrefixOf program.toList with
  | some dir => String.ofList (program.toList.drop dir.length)
  | none => program

def Filter.output (filter : Filter) (files : FileSystem) (args : List String) (input : List UInt8) :
    Output :=
  let filtered := filter ⟨args.map Octets.ofText, Octets.ofBytes input, seen files, ""⟩
  ⟨.exited filtered.status, Octets.toBytes (filtered.on .output),
    Octets.toBytes (filtered.on .error)⟩

def run? (files : FileSystem) (command : Command) (input : List UInt8) : Option Output :=
  let name := bareName command.program
  if Shell.Run.shellNames.contains name then some (Shell.execute (seen files) command input)
  else (Filter.ofName? name).map fun filter => filter.output files command.args input

end Scaffold.Host
