/-!
# Types of Go declarations

`BasicKind` lists the predeclared types with their names and integer widths.  `GoType` is the type
of a declaration or field as a package snapshot describes it; named types may carry their type
arguments and, when the snapshot gives it, their definition.
-/

set_option autoImplicit false

namespace Scaffold

inductive BasicKind where
  | bool
  | string
  | int
  | int8
  | int16
  | int32
  | int64
  | uint
  | uint8
  | uint16
  | uint32
  | uint64
  | uintptr
  | byte
  | rune
  | float32
  | float64
  | complex64
  | complex128
  deriving DecidableEq, Repr, Inhabited

namespace BasicKind

def all : List BasicKind :=
  [.bool, .string, .int, .int8, .int16, .int32, .int64, .uint, .uint8, .uint16, .uint32, .uint64,
    .uintptr, .byte, .rune, .float32, .float64, .complex64, .complex128]

def name : BasicKind → String
  | bool => "bool"
  | string => "string"
  | int => "int"
  | int8 => "int8"
  | int16 => "int16"
  | int32 => "int32"
  | int64 => "int64"
  | uint => "uint"
  | uint8 => "uint8"
  | uint16 => "uint16"
  | uint32 => "uint32"
  | uint64 => "uint64"
  | uintptr => "uintptr"
  | byte => "byte"
  | rune => "rune"
  | float32 => "float32"
  | float64 => "float64"
  | complex64 => "complex64"
  | complex128 => "complex128"

def ofName? (name : String) : Option BasicKind := all.find? (fun kind => kind.name = name)

theorem ofName?_name (kind : BasicKind) : ofName? kind.name = some kind := by
  cases kind <;> decide

/-- The width of an integer type that has a fixed or platform width; `uintptr` has none here. -/
def integerBits? : BasicKind → Option Nat
  | int8 | uint8 | byte => some 8
  | int16 | uint16 => some 16
  | int32 | uint32 | rune => some 32
  | int | int64 | uint | uint64 => some 64
  | _ => none

def isInteger (kind : BasicKind) : Bool := kind.integerBits?.isSome || kind = uintptr

def isUnsigned : BasicKind → Bool
  | uint | uint8 | uint16 | uint32 | uint64 | uintptr | byte => true
  | _ => false

end BasicKind

/-- A package as a type refers to it: its import path and its short name. -/
structure PackageRef where
  path : String
  name : String
  deriving DecidableEq, Repr, Inhabited

mutual

inductive GoType where
  | basic (kind : BasicKind)
  | named (type : NamedType)
  | pointer (elem : GoType)
  | slice (elem : GoType)
  | array (length : UInt64) (elem : GoType)
  | map (key value : GoType)
  | chan (elem : GoType)
  | struct (fields : List Field)
  | func
  | interface

/-- A type that is referred to by name.  Without a package the name belongs to the universe or to
the type parameters in scope; `underlying` is the definition, when the snapshot spells it out. -/
structure NamedType where
  package : Option PackageRef
  name : String
  args : List GoType
  underlying : Option GoType

structure Field where
  name : String
  type : GoType
  tag : String
  embedded : Bool

end

deriving instance BEq, Repr for GoType, NamedType, Field

instance : Inhabited GoType := ⟨.func⟩

instance : Inhabited NamedType := ⟨⟨none, "", [], none⟩⟩

instance : Inhabited Field := ⟨⟨"", .func, "", false⟩⟩

namespace GoType

/-- A named type without arguments whose definition is left to look-up. -/
def ofName (package : Option PackageRef) (name : String) : GoType :=
  .named ⟨package, name, [], none⟩

def isPointer : GoType → Bool
  | pointer _ => true
  | _ => false

def isSlice : GoType → Bool
  | slice _ => true
  | _ => false

def deepElement : GoType → GoType
  | slice elem => elem.deepElement
  | array _ elem => elem.deepElement
  | pointer elem => elem.deepElement
  | type => type

end GoType

def findField? (fields : List Field) (name : String) : Option Field :=
  fields.find? (fun field => field.name = name)

end Scaffold
