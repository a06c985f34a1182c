import Scaffold.Proofs.GoType.Print
import Scaffold.Proofs.GoType.Layers

/-!
# Types for different viewers

Packages print the same parts of a type and qualify different names among them.  Neither whether
there is a descriptor or a setter type for a package nor the flags of these depend on the package
(`same_for_viewers`).
-/

set_option autoImplicit false

namespace Scaffold

theorem TypeDescriptor.toldLayer?_eq (viewer other : String) (package : Package) (type : GoType) :
    toldLayer? viewer package type = toldLayer? other package type := by
  unfold toldLayer?
  congr 1
  funext layer
  exact GoType.print?_isSome_eq viewer other layer.elem

theorem TypeDescriptor.flags_eq (viewer other : String) (package : Package) (type : GoType) :
    (resolve? viewer package type).map (fun d => (d.isArray, d.isNullable)) =
      (resolve? other package type).map (fun d => (d.isArray, d.isNullable)) := by
  obtain ⟨inner, value⟩ := type.exists_hasValueType
  have described : (resolve? viewer package type).isSome =
      (resolve? other package type).isSome := by
    rw [isSome_resolve? value, isSome_resolve? value]
    exact GoType.print?_isSome_eq viewer other inner
  cases resolved : resolve? viewer package type with
  | none =>
      rw [resolved, Option.isSome_none, eq_comm, Option.isSome_eq_false_iff,
        Option.isNone_iff_eq_none] at described
      rw [described]
  | some d =>
      rw [resolved, Option.isSome_some, eq_comm, Option.isSome_iff_exists] at described
      obtain ⟨d', resolved'⟩ := described
      obtain ⟨array, nullable⟩ := flags_of_resolve? value resolved
      obtain ⟨array', nullable'⟩ := flags_of_resolve? value resolved'
      rw [toldLayer?_eq viewer other] at array nullable
      rw [resolved', Option.map_some, Option.map_some, array, array', nullable, nullable']

theorem SetterType.flags_eq (viewer other : String) (owner : PackageRef) (tag : FieldTag)
    (type : GoType) :
    (select? viewer owner tag type).map (fun setter => (setter.isPointer, setter.isSlice)) =
      (select? other owner tag type).map (fun setter => (setter.isPointer, setter.isSlice)) := by
  unfold select?
  by_cases spelled : tag.value "settyp" = ""
  · have printable := GoType.print?_isSome_eq viewer other type
    simp only [spelled, ne_eq, not_true_eq_false, if_false, Option.map_map, Function.comp_def]
    cases printed : type.print? viewer <;> cases printed' : type.print? other <;>
      simp [printed, printed'] at printable ⊢
  · simp only [ne_eq, spelled, not_false_eq_true, if_true, Option.map_some]
    rfl

/-- Two viewers spell the parts of a type, or neither does, each with the names of other packages
qualified; they have a descriptor of it both or neither, with the same flags, and so a setter
type. -/
theorem GoType.same_for_viewers (viewer other : String) (package : Package) (owner : PackageRef)
    (tag : FieldTag) (type : GoType) :
    (type.print? viewer = type.parts?.map (Part.spell (Part.elsewhere viewer)) ∧
        type.print? other = type.parts?.map (Part.spell (Part.elsewhere other))) ∧
      (TypeDescriptor.resolve? viewer package type).map (fun d => (d.isArray, d.isNullable)) =
        (TypeDescriptor.resolve? other package type).map (fun d => (d.isArray, d.isNullable)) ∧
      (SetterType.select? viewer owner tag type).map (fun setter =>
        (setter.isPointer, setter.isSlice)) =
        (SetterType.select? other owner tag type).map (fun setter =>
          (setter.isPointer, setter.isSlice)) :=
  ⟨⟨print?_eq_parts viewer type, print?_eq_parts other type⟩,
    TypeDescriptor.flags_eq viewer other package type,
    SetterType.flags_eq viewer other owner tag type⟩

/-- The owner of an argument is seen with and without its package. -/
example :
    let shop : PackageRef := ⟨"example.com/shop", "shop"⟩
    let type : GoType :=
      .slice (.named ⟨some ⟨"github.com/aarondl/opt/omit", "omit"⟩, "Val",
        [.ofName (some shop) "ID", .basic .int], none⟩)
    type.print? "example.com/shop" = some "[]omit.Val[ID, int]" ∧
      type.print? "example.com/models" = some "[]omit.Val[shop.ID, int]" := by
  decide +kernel

end Scaffold
