import Scaffold.GoType

/-!
# Types as Go code

`GoType.print? viewer t` spells a type as code in the package with import path `viewer` writes it:
slice, array and pointer layers as markers in front, a named type under its package's short name
unless it belongs to `viewer`, type arguments in brackets.  Functions, interfaces, maps, channels
and unnamed structs have no such form, nor has a type with such a part.
-/

set_option autoImplicit false

namespace Scaffold

namespace NamedType

/-- The name of a named type without its arguments, qualified when it belongs to another package
than the viewer's. -/
def qualifiedBase (viewer : String) (package : Option PackageRef) (name : String) : String :=
  match package with
  | some owner => if owner.path = viewer then name else owner.name ++ "." ++ name
  | none => name

end NamedType

namespace GoType

/-- Type arguments in brackets, nothing when there are none. -/
def bracketed (args : List String) : String :=
  if args.isEmpty then "" else "[" ++ ", ".intercalate args ++ "]"

mutual

/-- The type as code of the package at import path `viewer` spells it. -/
def print? (viewer : String) : GoType → Option String
  | slice elem => (elem.print? viewer).map ("[]" ++ ·)
  | array length elem => (elem.print? viewer).map ("[" ++ toString length.toNat ++ "]" ++ ·)
  | pointer elem => (elem.print? viewer).map ("*" ++ ·)
  | named ⟨package, name, args, _⟩ =>
    (printAll? viewer args).map (NamedType.qualifiedBase viewer package name ++ bracketed ·)
  | basic kind => some kind.name
  | _ => none

def printAll? (viewer : String) : List GoType → Option (List String)
  | [] => some []
  | type :: rest =>
    match type.print? viewer, printAll? viewer rest with
    | some first, some others => some (first :: others)
    | _, _ => none

end

/-- A type with its outer pointer taken off, printed, and whether there was one. -/
structure Pointee where
  name : String
  isPointer : Bool
  deriving DecidableEq, Repr, Inhabited

def pointee? (viewer : String) : GoType → Option Pointee
  | pointer elem => (elem.print? viewer).map (⟨·, true⟩)
  | type => (type.print? viewer).map (⟨·, false⟩)

end GoType

end Scaffold
