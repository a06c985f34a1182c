import Scaffold.GoType.Print
import Scaffold.Package

/-!
# Following types to their definitions

`Package.baseType` follows named types to what they are defined as, `Package.structOf?` also looks
through slices, arrays and pointers on the way.  Both give up after `maxHops` definitions, so a
snapshot whose definitions run in a circle is no danger.  `TypeDescriptor` sums up what generated
code needs to know of a field's type.
-/

set_option autoImplicit false

namespace Scaffold

def maxHops : Nat := 64

namespace Package

/-- What at most `hops` definitions lead to; a type whose definition is unknown stays. -/
def follow (package : Package) : (hops : Nat) → GoType → GoType
  | hops + 1, .named type =>
    match package.underlying? type with
    | some definition => package.follow hops definition
    | none => .named type
  | _, type => type

def baseType (package : Package) (type : GoType) : GoType := package.follow maxHops type

/-- The struct below any layers that at most `hops - 1` definitions lead to. -/
def structWithin? (package : Package) : (hops : Nat) → GoType → Option (List Field)
  | 0, _ => none
  | hops + 1, type =>
    match type.deepElement with
    | .struct fields => some fields
    | .named named => (package.underlying? named).bind (package.structWithin? hops)
    | _ => none

/-- The fields of the struct that a type leads to through layers and definitions. -/
def structOf? (package : Package) (type : GoType) : Option (List Field) :=
  package.structWithin? maxHops type

end Package

namespace GoType

/-- The argument of the optional-value wrapper `null.Val`. -/
def nullableInner? : GoType → Option GoType
  | .named ⟨some owner, name, [inner], _⟩ =>
    if owner.name = "null" ∧ name = "Val" then some inner else none
  | _ => none

end GoType

structure TypeDescriptor where
  /-- The whole type, an optional-value wrapper taken off. -/
  qualifiedName : String
  /-- The type below one array or pointer layer. -/
  elementName : String
  /-- The type below all array and pointer layers. -/
  trueElementName : String
  /-- An optional value, or a pointer. -/
  isNullable : Bool
  isArray : Bool
  deriving DecidableEq, Repr, Inhabited

namespace TypeDescriptor

def blank : TypeDescriptor := ⟨"", "", "", false, false⟩

/-- The outer layer of a type: what is below it, and whether it is an array or a pointer. -/
inductive Layer where
  | array (elem : GoType)
  | pointer (elem : GoType)

def outerLayer? : GoType → Option Layer
  | .slice elem => some (.array elem)
  | .array _ elem => some (.array elem)
  | .pointer elem => some (.pointer elem)
  | _ => none

def Layer.elem : Layer → GoType
  | .array elem => elem
  | .pointer elem => elem

def Layer.isArray : Layer → Bool
  | .array _ => true
  | .pointer _ => false

/-- The printed forms of what is below a layer: right below it, and below all layers. -/
def elementNames? (viewer : String) (layer : Layer) : Option (String × String) :=
  match layer.elem.print? viewer, layer.elem.deepElement.print? viewer with
  | some element, some trueElement => some (element, trueElement)
  | _, _ => none

/-- Describes a type as printed for the package at import path `viewer`, with definitions from
`package`.  A layer whose element cannot be printed does not count as one. -/
def resolve? (viewer : String) (package : Package) (type : GoType) : Option TypeDescriptor :=
  let wrapped := type.nullableInner?.isSome
  let inner := type.nullableInner?.getD type
  (inner.print? viewer).map fun name =>
    match outerLayer? (package.baseType inner) with
    | none => ⟨name, name, name, wrapped, false⟩
    | some layer =>
      match elementNames? viewer layer with
      | none => ⟨name, name, name, wrapped, false⟩
      | some (element, trueElement) =>
        ⟨name, element, trueElement, wrapped || !layer.isArray, layer.isArray⟩

/-- Describes a type of a package as the package itself sees it. -/
def resolveLocal? (package : Package) (type : GoType) : Option TypeDescriptor :=
  resolve? package.path package type

end TypeDescriptor

end Scaffold
