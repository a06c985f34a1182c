import Scaffold.GoType.Print
import Scaffold.FieldTag

/-!
# Setter types

The type a setter has for a field is the field's own type, or the one that its tag spells under
`settyp`.  A spelled type is qualified with the package of the tag when it is neither qualified nor
predeclared and is printed elsewhere.  The type of a relation is that of the related record's
setter.
-/

set_option autoImplicit false

namespace Scaffold

/-- The type of a setter's value, and which markers it starts with. -/
structure SetterType where
  text : String
  isPointer : Bool
  /-- A slice, on the outside or right behind the pointer. -/
  isSlice : Bool
  deriving DecidableEq, Repr, Inhabited

namespace SetterType

/-- What a relation's type is named behind the related record. -/
def relationSuffix : String := "Setter"

def primitiveNames : List String :=
  ["bool", "string", "int", "int8", "int16", "int32", "int64", "uint", "uint8", "uint16", "uint32",
    "uint64", "float32", "float64", "complex64", "complex128"]

def stripMarker (marker : String) (s : List Char) : List Char :=
  (marker.toList.isPrefixOf? s).getD s

/-- A primitive name, perhaps behind a pointer and a slice marker. -/
def isPrimitive (text : String) : Bool :=
  primitiveNames.contains (String.ofList (stripMarker "[]" (stripMarker "*" text.toList)))

/-- The type that a tag of a field in package `owner` spells, as code of the package at import path
`viewer` writes it. -/
def ofOverride (viewer : String) (owner : PackageRef) (text : String) : SetterType :=
  let s := text.toList
  let isPointer := "*".toList.isPrefixOf s
  let pointee := stripMarker "*" s
  let isSlice := "[]".toList.isPrefixOf pointee
  let qualify := !s.contains '.' && owner.path ≠ viewer && !isPrimitive text
  let full :=
    if qualify then
      (if isPointer then "*" else "") ++ (if isSlice then "[]" else "") ++ owner.name ++ "."
        ++ String.ofList (stripMarker "[]" pointee)
    else text
  ⟨full, isPointer, isSlice⟩

/-- The setter type of a field of package `owner` with a tag and a declared type; none when nothing
is spelled and the declared type cannot be printed. -/
def select? (viewer : String) (owner : PackageRef) (tag : FieldTag) (type : GoType) :
    Option SetterType :=
  let override := tag.value "settyp"
  if override ≠ "" then some (ofOverride viewer owner override)
  else
    (type.print? viewer).map fun name =>
      let full := if tag.value "rel" = "" then name else name ++ relationSuffix
      ⟨full, type.isPointer, type.isSlice⟩

/-- The text without its first `n` characters. -/
def dropText (n : Nat) (text : String) : String := String.ofList (text.toList.drop n)

def unpointed (type : SetterType) : String :=
  if type.isPointer then dropText 1 type.text else type.text

/-- The type without its slice marker, and the pointer marker before that. -/
def unsliced (type : SetterType) : String :=
  if type.isSlice then dropText (if type.isPointer then 3 else 2) type.text else type.text

/-- The element of a slice, else what a pointer points to, else the type itself. -/
def elem (type : SetterType) : String :=
  if type.isSlice then type.unsliced else type.unpointed

/-- The optional-value type of the setter's field: pointers may also be set to null. -/
def optionType (type : SetterType) : String :=
  if type.isPointer then "omitnull.Val[" ++ type.unpointed ++ "]"
  else "omit.Val[" ++ type.text ++ "]"

end SetterType

end Scaffold
