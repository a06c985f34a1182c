import Scaffold.Proofs.GoType.Layers
import Scaffold.Proofs.Model.Origin
import Scaffold.Proofs.Model.WrapperLines

/-!
# Optional values and their accessors

A wrapper reads an optional value of a model through one of two accessors.  It takes for optional
what the descriptor calls nullable and whose printed name is not a pointer's.
`callsAccessor_iff_type` says which declared types these are: `null.Val` of anything but a pointer,
and also each name for a pointer (`accessor_on_named_pointer`).
-/

set_option autoImplicit false

namespace Scaffold

open Text

/-! ## Pointers by their printed name -/

theorem GoType.star_isPrefix_iff {type : GoType} (proper : type.Proper) {viewer name : String}
    (printed : type.print? viewer = some name) :
    "*".toList <+: name.toList ↔ type.isPointer = true := by
  by_cases core : type.IsCore
  · obtain ⟨c, head, star, _⟩ := startsPlain_of_print? core proper printed
    have plain : type.isPointer = false := by
      cases type with
      | pointer elem => exact absurd rfl (core .pointer elem)
      | _ => rfl
    simp only [plain, Bool.false_eq_true, iff_false]
    rintro ⟨rest, same⟩
    rw [← same] at head
    exact star (Option.some.inj head).symm
  · unfold IsCore at core
    push Not at core
    obtain ⟨marker, elem, rfl⟩ := core
    rw [print?_around] at printed
    obtain ⟨text, _, rfl⟩ := Option.map_eq_some_iff.mp printed
    cases marker <;> simp [Marker.around, Marker.text, isPointer]

namespace Wrapper

variable {package models : Package} {model : Model} {record : WrappedRecord} {field : WrappedField}

/-! ## Accessors in the text -/

/-- How an optional value is read: as a pointer, and as a value that may be zero. -/
def accessors : List String := [".Ptr()", ".GetOrZero()"]

namespace WrappedField

/-- The getter's field is set to what an accessor gives for the model's field. -/
def CallsAccessor (field : WrappedField) : Prop :=
  ∃ accessor ∈ accessors, field.literalValue = field.storedText ++ accessor

/-- A converted field is not read through an accessor, whatever it is converted to. -/
theorem conversion_ne_access (type : String) {accessor : String}
    (isAccessor : accessor ∈ accessors) :
    type ++ "(" ++ field.storedText ++ ")" ≠ field.storedText ++ accessor := by
  intro same
  have unused : accessor.toList.count 'm' = 0 := by
    revert isAccessor
    exact (by decide : ∀ accessor ∈ accessors, accessor.toList.count 'm' = 0) accessor
  have chars := congrArg String.toList same
  simp only [storedText, String.toList_append] at chars
  -- The type would start with the model, and have one mention of it too many.
  have counted := congrArg (List.count 'm') chars
  simp only [List.count_append, unused] at counted
  cases start : type.toList with
  | nil =>
      rw [start] at chars
      cases List.head_eq_of_cons_eq chars
  | cons c rest =>
      rw [start] at chars counted
      obtain rfl : c = 'm' := List.head_eq_of_cons_eq chars
      simp at counted

theorem callsAccessor_iff (plain : field.wrapFunc = "") :
    field.CallsAccessor ↔ field.IsOptional := by
  unfold CallsAccessor literalValue
  rw [if_neg fun given => given plain]
  by_cases optional : field.IsOptional
  · simp only [optional, if_true, iff_true]
    cases field.getterType.isNullable
    · exact ⟨".GetOrZero()", by decide, rfl⟩
    · exact ⟨".Ptr()", by decide, rfl⟩
  · simp only [optional, if_false, iff_false]
    rintro ⟨accessor, isAccessor, same⟩
    split at same
    · exact conversion_ne_access _ isAccessor same
    · have nothing : field.storedText ++ "" = field.storedText ++ accessor :=
        String.append_empty.trans same
      rw [String.append_right_inj] at nothing
      rw [← nothing] at isAccessor
      revert isAccessor
      decide

end WrappedField

end Wrapper

/-- A field of the literal without a function of its own calls an accessor exactly when the declared
type of the model's field is nullable, as a wrapper or by its definition, and is not printed as a
pointer. -/
theorem callsAccessor_iff_type {package models : Package} {model : Wrapper.Model}
    (built : Wrapper.build package models = .ok model) {record : Wrapper.WrappedRecord}
    (isRecord : record ∈ model.records) (wraps : record.noWrap = false)
    {field : Wrapper.WrappedField}
    (isField : field ∈ record.fields) (fieldWraps : field.noWrap = false)
    (unrelated : field.relationName = "") (plain : field.wrapFunc = "") :
    ∃ lines type inner name,
      Template.render "bob.go.tera" model.toJson =
        .ok (ended model.headLines ++ ended lines ++ Template.wrapSliceFunction) ∧
      (record.wrapFunction.lines <:+: lines ∧ field.literalSetting ∈ record.wrapFunction.literal ∧
        field.literalSetting.entry ∈ record.wrapFunction.lines) ∧
      (Wrapper.storedType? models record field = some type ∧ type.HasValueType inner ∧
        inner.print? models.path = some name) ∧
      (field.CallsAccessor ↔ ¬ "*".toList <+: name.toList ∧
        (type.IsNullVal inner ∨
          ∃ elem, models.baseType inner = .pointer elem ∧
            (elem.print? models.path).isSome = true)) ∧
      (type.Proper → ("*".toList <+: name.toList ↔ inner.isPointer = true)) := by
  obtain ⟨origin⟩ := Wrapper.exists_origin built isRecord isField
  obtain ⟨type, stored, described⟩ := origin.storedType?_eq unrelated
  obtain ⟨inner, value⟩ := type.exists_hasValueType
  have printed : inner.print? models.path = some field.modelType.qualifiedName :=
    TypeDescriptor.print?_of_resolve? value described
  have isSetting : field.literalSetting ∈ record.wrapFunction.literal :=
    Wrapper.WrappedRecord.literal_mem isField fieldWraps unrelated
  refine ⟨_, type, inner, _, model.render_eq_ended,
    ⟨Wrapper.WrappedRecord.wrapLines_infix isRecord wraps, isSetting,
      Wrapper.WrapFunction.entry_mem isSetting⟩,
    ⟨stored, value, printed⟩, ?_, ?_⟩
  · rw [Wrapper.WrappedField.callsAccessor_iff plain, Wrapper.WrappedField.IsOptional,
      TypeDescriptor.isNullable_of_resolve? value described]
    exact and_comm
  · intro proper
    exact GoType.star_isPrefix_iff (value.proper proper) printed

/-- An optional text that the getter has a pointer for. -/
theorem callsAccessor_iff_type_note :
    let optional : GoType :=
      .named ⟨some ⟨"github.com/aarondl/opt/null", "null"⟩, "Val", [.basic .string], none⟩
    let note (type : GoType) : GoType := .struct [⟨"Note", type, "", false⟩]
    let package : Package := ⟨"shop", "example.com/shop", [⟨"shop.go", [⟨[⟨"//repogen:bob", 2⟩]⟩]⟩],
      [⟨"Widget", ⟨"shop.go", 3, 6⟩, note (.pointer (.basic .string))⟩,
        ⟨"WidgetSetter", ⟨"shop.go", 8, 6⟩, note (.pointer (.basic .string))⟩]⟩
    let models : Package := ⟨"models", "example.com/shop/models", [],
      [⟨"Widget", ⟨"models.go", 3, 6⟩, note optional⟩]⟩
    let field : Wrapper.WrappedField := {
      getterName := "Note"
      getterType := ⟨"*string", "string", "string", true, false⟩
      setterName := "Note"
      setterType := ⟨"*string", "string", true, false⟩
      modelName := "Note"
      modelType := ⟨"string", "string", "string", true, false⟩
      relationName := ""
      relationType := .blank
      noUnwrap := false
      noWrap := false
      unwrapFunc := ""
      wrapFunc := "" }
    let record : Wrapper.WrappedRecord :=
      ⟨"Widget", "shop.Widget", "WidgetSetter", "shop.WidgetSetter", "Widget", "WidgetSetter",
        false, false, [field]⟩
    let model : Wrapper.Model := ⟨"models", "shop", "example.com/shop", [record]⟩
    Wrapper.build package models = .ok model ∧
      Wrapper.storedType? models record field = some optional ∧
      optional.IsNullVal (.basic .string) ∧ field.CallsAccessor ∧
      record.wrapFunction.literal = [⟨"Note", "m.Note.Ptr()"⟩] := by
  intro optional note package models field record model
  have built : Wrapper.build package models = .ok model := by decide +kernel
  have declared : Wrapper.storedType? models record field = some optional := rfl
  have isVal : optional.IsNullVal (.basic .string) := ⟨_, none, rfl, rfl⟩
  obtain ⟨_, type, inner, name, _, _, ⟨stored, value, printed⟩, calls, _⟩ :=
    callsAccessor_iff_type built (List.mem_singleton_self record) rfl
      (List.mem_singleton_self field) rfl rfl rfl
  obtain rfl : optional = type := Option.some.inj (declared.symm.trans stored)
  obtain rfl : .basic .string = inner := value.getD_nullableInner?
  rw [GoType.print?] at printed
  obtain rfl := Option.some.inj printed
  exact ⟨built, declared, isVal, calls.mpr ⟨by decide, .inl isVal⟩, by decide⟩

/-- A name for a pointer is read like an optional value, and an optional pointer like a plain
value. -/
theorem accessor_on_named_pointer :
    let ref : GoType :=
      .named ⟨some ⟨"example.com/refs", "refs"⟩, "Ref", [], some (.pointer (.basic .int64))⟩
    let note : GoType :=
      .named ⟨some ⟨"github.com/aarondl/opt/null", "null"⟩, "Val",
        [.pointer (.basic .string)], none⟩
    let fields (note : GoType) : GoType :=
      .struct [⟨"Ref", ref, "", false⟩, ⟨"Note", note, "", false⟩]
    let package : Package := ⟨"shop", "example.com/shop", [⟨"shop.go", [⟨[⟨"//repogen:bob", 2⟩]⟩]⟩],
      [⟨"Widget", ⟨"shop.go", 3, 6⟩, fields (.pointer (.basic .string))⟩,
        ⟨"WidgetSetter", ⟨"shop.go", 8, 6⟩, fields (.pointer (.basic .string))⟩]⟩
    let models : Package := ⟨"models", "example.com/shop/models", [],
      [⟨"Widget", ⟨"models.go", 3, 6⟩, fields note⟩]⟩
    let converted (name : String) (type : TypeDescriptor) (set : Wrapper.SetterShape) :
      Wrapper.WrappedField :=
      ⟨name, type, name, set, name, type, "", .blank, false, false, "", ""⟩
    let record : Wrapper.WrappedRecord :=
      ⟨"Widget", "shop.Widget", "WidgetSetter", "shop.WidgetSetter", "Widget", "WidgetSetter",
        false, false,
        [converted "Ref" ⟨"refs.Ref", "int64", "int64", true, false⟩
            ⟨"refs.Ref", "refs.Ref", false, false⟩,
          converted "Note" ⟨"*string", "string", "string", true, false⟩
            ⟨"*string", "string", true, false⟩]⟩
    let model : Wrapper.Model := ⟨"models", "shop", "example.com/shop", [record]⟩
    Wrapper.build package models = .ok model ∧
      record.fields.map (Wrapper.storedType? models record) = [some ref, some note] ∧
      record.wrapFunction.literal = [⟨"Ref", "m.Ref.Ptr()"⟩, ⟨"Note", "m.Note"⟩] ∧
      ¬ ∀ (package models : Package) (model : Wrapper.Model),
        Wrapper.build package models = .ok model →
        ∀ record ∈ model.records, record.noWrap = false →
        ∀ field ∈ record.fields, field.noWrap = false → field.wrapFunc = "" →
          field.relationName = "" →
          (field.CallsAccessor ↔
            ∃ type inner, Wrapper.storedType? models record field = some type ∧
              type.IsNullVal inner) := by
  intro ref note fields package models converted record model
  have built : Wrapper.build package models = .ok model := by decide +kernel
  refine ⟨built, rfl, by decide, fun claimed => ?_⟩
  have calls : (converted "Ref" ⟨"refs.Ref", "int64", "int64", true, false⟩
      ⟨"refs.Ref", "refs.Ref", false, false⟩).CallsAccessor := ⟨".Ptr()", by decide, by decide⟩
  obtain ⟨type, inner, stored, isVal⟩ :=
    (claimed package models model built record List.mem_cons_self rfl
      _ List.mem_cons_self rfl rfl rfl).mp calls
  obtain rfl : ref = type := Option.some.inj stored
  have plain : ref.nullableInner? = none := rfl
  cases plain.symm.trans (GoType.nullableInner?_eq_some_iff.mpr isVal)

end Scaffold
