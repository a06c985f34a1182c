import Scaffold.Host.Programs

/-!
# The programs at hand

Those of the host.  A command that they do not know, or that has a null character in it, is not
started.
-/

set_option autoImplicit false

namespace Scaffold.Program

def Command.hasNull (command : Command) : Bool :=
  (command.program :: command.args).any fun text => text.toList.contains '\x00'

def missing (files : FileSystem) (program : String) : StartCause :=
  if program.toList.contains '/' then
    match files.locate program with
    | .error .notDirectory => .notDirectory
    | .error .nameTooLong => .nameTooLong
    | .error _ => .notFound
    | .ok location =>
      match files.node? location with
      | none => .notFound
      | some _ => .denied
  else if 255 < program.utf8ByteSize then .nameTooLong
  else .notFound

def standard (files : FileSystem) : Programs := fun command input =>
  if command.hasNull then .error .nullCharacter
  else match Host.run? files command input with
    | some output => .ok output
    | none => .error (missing files command.program)

end Scaffold.Program
