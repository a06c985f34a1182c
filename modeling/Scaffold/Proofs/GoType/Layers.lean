import Scaffold.Proofs.GoType.Descriptor

/-!
# Layers that descriptors tell of

The flags of a descriptor are those of the outer layer that the definition of the value type has
(`flags_of_definition`).  A layer around something that has no printed form is not told, which a
type that is a layer itself never has, but a named one may (`flags_of_unprintable_element`).
-/

set_option autoImplicit false

namespace Scaffold

def GoType.IsArrayOf (type elem : GoType) : Prop :=
  type = .slice elem ∨ ∃ length, type = .array length elem

namespace TypeDescriptor

variable {viewer : String} {package : Package} {type inner : GoType} {d : TypeDescriptor}

/-! ## The layer that is told -/

/-- The outer layer of a type's definition, when what is right below it has a printed form. -/
def toldLayer? (viewer : String) (package : Package) (type : GoType) : Option Layer :=
  (outerLayer? (package.baseType type)).filter fun layer => (layer.elem.print? viewer).isSome

theorem elementNames?_isSome_eq (viewer : String) (layer : Layer) :
    (elementNames? viewer layer).isSome = (layer.elem.print? viewer).isSome := by
  cases printed : layer.elem.print? viewer with
  | none => simp [elementNames?, printed]
  | some element => exact elementNames?_isSome printed

theorem print?_of_resolve? (value : type.HasValueType inner)
    (resolved : resolve? viewer package type = some d) :
    inner.print? viewer = some d.qualifiedName := by
  obtain ⟨name, printed, ⟨_, rfl⟩ | ⟨_, _, _, _, _, _, rfl⟩⟩ := resolve?_cases value resolved
  · exact printed
  · exact printed

theorem flags_of_resolve? (value : type.HasValueType inner)
    (resolved : resolve? viewer package type = some d) :
    d.isArray = (toldLayer? viewer package inner).any Layer.isArray ∧
      d.isNullable =
        (type.nullableInner?.isSome || (toldLayer? viewer package inner).any fun layer =>
          !layer.isArray) := by
  unfold resolve? at resolved
  dsimp only at resolved
  rw [value.getD_nullableInner?] at resolved
  obtain ⟨name, _, rfl⟩ := Option.map_eq_some_iff.mp resolved
  unfold toldLayer?
  cases outerLayer? (package.baseType inner) with
  | none => simp
  | some layer =>
      have told := elementNames?_isSome_eq viewer layer
      cases names : elementNames? viewer layer with
      | none =>
          rw [names] at told
          simp [← told, names]
      | some both =>
          rw [names] at told
          simp [← told, names]

/-! ## The flags by the definition -/

theorem isArray_of_resolve? (value : type.HasValueType inner)
    (resolved : resolve? viewer package type = some d) :
    d.isArray = true ↔
      ∃ elem, (package.baseType inner).IsArrayOf elem ∧ (elem.print? viewer).isSome = true := by
  rw [(flags_of_resolve? value resolved).1]
  unfold toldLayer? GoType.IsArrayOf
  cases package.baseType inner <;> simp [outerLayer?, Layer.isArray, Layer.elem]

/-- Nullable are the wrapped types and those that are defined as pointers to a type with a name. -/
theorem isNullable_of_resolve? (value : type.HasValueType inner)
    (resolved : resolve? viewer package type = some d) :
    d.isNullable = true ↔
      type.IsNullVal inner ∨
        ∃ elem, package.baseType inner = .pointer elem ∧ (elem.print? viewer).isSome = true := by
  have wrapped : type.nullableInner?.isSome = true ↔ type.IsNullVal inner := by
    constructor
    · exact value.isNullVal
    · intro isVal
      rw [GoType.nullableInner?_eq_some_iff.mpr isVal]
      rfl
  rw [(flags_of_resolve? value resolved).2, Bool.or_eq_true, wrapped]
  refine or_congr_right ?_
  unfold toldLayer?
  cases package.baseType inner <;> simp [outerLayer?, Layer.isArray, Layer.elem]

/-- The flags are those of the outer layer that the definition of the value type has, and of the
wrapper, as long as what is below the layer has a printed form.  It has when the value type is the
layer itself. -/
theorem flags_of_definition (value : type.HasValueType inner)
    (resolved : resolve? viewer package type = some d) :
    (d.isArray = true ↔
        ∃ elem, (package.baseType inner).IsArrayOf elem ∧ (elem.print? viewer).isSome = true) ∧
      (d.isNullable = true ↔ type.IsNullVal inner ∨
        ∃ elem, package.baseType inner = .pointer elem ∧ (elem.print? viewer).isSome = true) ∧
      ∀ (marker : Marker) (elem : GoType), inner = marker.around elem →
        package.baseType inner = marker.around elem ∧ (elem.print? viewer).isSome = true := by
  refine ⟨isArray_of_resolve? value resolved, isNullable_of_resolve? value resolved, ?_⟩
  rintro marker elem rfl
  have printed := print?_of_resolve? value resolved
  rw [GoType.print?_around] at printed
  obtain ⟨text, below, _⟩ := Option.map_eq_some_iff.mp printed
  exact ⟨package.baseType_around marker elem, Option.isSome_of_eq_some below⟩

/-- An optional value of a type that is declared as a name for a slice. -/
theorem flags_of_definition_tags :
    let shop : PackageRef := ⟨"example.com/shop", "shop"⟩
    let labels : GoType := .ofName (some shop) "Labels"
    let optional : GoType :=
      .named ⟨some ⟨"github.com/aarondl/opt/null", "null"⟩, "Val", [labels], none⟩
    let package : Package := ⟨"shop", "example.com/shop", [],
      [⟨"Tags", ⟨"tags.go", 3, 6⟩, .slice (.basic .string)⟩,
        ⟨"Labels", ⟨"tags.go", 5, 6⟩, .ofName (some shop) "Tags"⟩]⟩
    let d : TypeDescriptor := ⟨"Labels", "string", "string", true, true⟩
    optional.HasValueType labels ∧ resolve? "example.com/shop" package optional = some d ∧
      (package.baseType labels).IsArrayOf (.basic .string) ∧ d.isArray = true ∧
        d.isNullable = true := by
  intro shop labels optional package d
  have value : optional.HasValueType labels := .inl ⟨_, none, rfl, rfl⟩
  have resolved : resolve? "example.com/shop" package optional = some d := by decide +kernel
  have defined : (package.baseType labels).IsArrayOf (.basic .string) := .inl rfl
  obtain ⟨array, nullable, _⟩ := flags_of_definition value resolved
  exact ⟨value, resolved, defined, array.mpr ⟨_, defined, by decide +kernel⟩,
    nullable.mpr (.inl ⟨_, none, rfl, rfl⟩)⟩

/-- A name for a slice of functions is a slice by its definition, and its descriptor does not tell
of it. -/
theorem flags_of_unprintable_element :
    let handlers : GoType := .ofName (some ⟨"example.com/shop", "shop"⟩) "Handlers"
    let package : Package :=
      ⟨"shop", "example.com/shop", [], [⟨"Handlers", ⟨"shop.go", 3, 6⟩, .slice .func⟩]⟩
    package.baseType handlers = .slice .func ∧
      resolve? "example.com/shop" package handlers =
        some ⟨"Handlers", "Handlers", "Handlers", false, false⟩ ∧
      ¬ ∀ (viewer : String) (package : Package) (type inner : GoType) (d : TypeDescriptor),
        type.HasValueType inner → resolve? viewer package type = some d →
          (d.isArray = true ↔ ∃ elem, (package.baseType inner).IsArrayOf elem) ∧
            (d.isNullable = true ↔ type.IsNullVal inner ∨
              ∃ elem, package.baseType inner = .pointer elem) := by
  intro handlers package
  have resolved : resolve? "example.com/shop" package handlers =
      some ⟨"Handlers", "Handlers", "Handlers", false, false⟩ := by decide +kernel
  refine ⟨rfl, resolved, fun claimed => ?_⟩
  have plain : handlers.nullableInner? = none := rfl
  have value : handlers.HasValueType handlers := by
    refine .inr ⟨fun other isVal => ?_, rfl⟩
    cases plain.symm.trans (GoType.nullableInner?_eq_some_iff.mpr isVal)
  have told := (claimed _ package handlers handlers _ value resolved).1.mpr ⟨.func, .inl rfl⟩
  cases told

end TypeDescriptor

end Scaffold
