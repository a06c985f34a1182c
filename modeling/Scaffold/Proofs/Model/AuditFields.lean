import Scaffold.Proofs.Model.SetterText
import Scaffold.Proofs.Model.WrapperLines
import Scaffold.Proofs.Model.Wrapper

/-!
# Fields that are not set by hand

A field that records who changed an entity and when is withheld unless its tag names it for the
setter.  What each field of a record gives the setter and the wrapper is pinned down by
`Setter.Yields` and `Wrapper.Yields`; a withheld field gives the setter nothing and is not
unwrapped, whatever else its tag says, so no line of a setter and none of an unwrapping function is
on its account (`audit_fields_withheld`).
-/

set_option autoImplicit false

namespace Scaffold

open Checked Text

/-- An audit field whose tag does not name it for the setter. -/
structure Field.IsWithheld (field : Field) (tag : FieldTag) : Prop where
  audit : field.name ∈ auditFields
  unnamed : tag.get? "set" ∈ [none, some "", some "-"]

theorem isAuditField_iff {name : String} : isAuditField name = true ↔ name ∈ auditFields :=
  List.contains_iff_mem

namespace FieldTag

variable {tag : FieldTag} {key value : String}

theorem value_of_get? (present : tag.get? key = some value) : tag.value key = value := by
  rw [FieldTag.value, present, Option.getD_some]

theorem value_of_absent (absent : tag.get? key = none) : tag.value key = "" := by
  rw [FieldTag.value, absent, Option.getD_none]

end FieldTag

namespace Setter

variable {package : Package} {decl : TypeDecl} {directives : List Directive} {entry : SetterStruct}
  {field : Field} {tag : FieldTag}

/-! ## What a field gives the setter -/

/-- What a field gives the setter, for each value of its tag `set`. -/
structure Yields (field : Field) (tag : FieldTag) (own : List SetterField) : Prop where
  withheld : field.IsWithheld tag → own = []
  skipped : tag.get? "set" = some "-" → own = []
  named : ∀ name, tag.get? "set" = some name → name ≠ "" → name ≠ "-" → ∃ type, own = [⟨name, type⟩]
  kept : field.name ∉ auditFields → tag.get? "set" ∈ [none, some ""] →
    ∃ type, own = [⟨field.name, type⟩]

theorem fieldName?_of_audit (audit : field.name ∈ auditFields) :
    fieldName? field.name "" = none := by
  rw [fieldName?, if_pos rfl, if_pos (isAuditField_iff.mpr audit)]

theorem fieldName?_of_plain (plain : field.name ∉ auditFields) :
    fieldName? field.name "" = some field.name := by
  rw [fieldName?, if_pos rfl, if_neg (mt isAuditField_iff.mp plain)]

theorem fieldName?_of_named {name set : String} (nonempty : set ≠ "") (other : set ≠ "-") :
    fieldName? name set = some set := by
  rw [fieldName?, if_neg nonempty, if_neg other]

theorem fieldName?_of_isWithheld (withheld : field.IsWithheld tag) :
    fieldName? field.name (tag.value "set") = none := by
  have unnamed := withheld.unnamed
  simp only [List.mem_cons, List.not_mem_nil, or_false] at unnamed
  rcases unnamed with absent | empty | hyphen
  · rw [FieldTag.value_of_absent absent, fieldName?_of_audit withheld.audit]
  · rw [FieldTag.value_of_get? empty, fieldName?_of_audit withheld.audit]
  · rw [FieldTag.value_of_get? hyphen]
    rfl

theorem yields_of_setterFieldOf {subject : Subject} {own : List SetterField}
    (ok : setterFieldOf subject package field = .ok own) :
    ∃ tag, FieldTag.ofComposite field.tag = some tag ∧ Yields field tag own := by
  obtain ⟨tag, tagRead, added⟩ := setterFieldOf_eq_ok.mp ok
  have absent (unnamed : fieldName? field.name (tag.value "set") = none) : own = [] := by
    rcases added with ⟨_, rfl⟩ | ⟨name, type, named, _, _⟩
    · rfl
    · cases unnamed.symm.trans named
  have present {name : String} (named : fieldName? field.name (tag.value "set") = some name) :
      ∃ type, own = [⟨name, type⟩] := by
    rcases added with ⟨unnamed, _⟩ | ⟨name', type, named', _, rfl⟩
    · cases unnamed.symm.trans named
    · cases named.symm.trans named'
      exact ⟨_, rfl⟩
  refine ⟨tag, tagRead, ?_, ?_, ?_, ?_⟩
  · intro withheld
    exact absent (fieldName?_of_isWithheld withheld)
  · intro hyphen
    exact absent (by rw [FieldTag.value_of_get? hyphen]; rfl)
  · intro name given nonempty other
    exact present (by rw [FieldTag.value_of_get? given, fieldName?_of_named nonempty other])
  · intro plain unnamed
    simp only [List.mem_cons, List.not_mem_nil, or_false] at unnamed
    rcases unnamed with missing | empty
    · exact present (by rw [FieldTag.value_of_absent missing, fieldName?_of_plain plain])
    · exact present (by rw [FieldTag.value_of_get? empty, fieldName?_of_plain plain])

/-! ## What a record gives the setter -/

def extras (directives : List Directive) : List SetterField :=
  (directives.filter fun d => d.topic = "extra").map fun d =>
    ⟨(splitExtra d.args).1, (splitExtra d.args).2⟩

/-- A setter holds what each field of its record gives, in order, and then the extra fields. -/
def IsDrawnFrom (package : Package) (annotated : TypeDecl × List Directive)
    (entry : SetterStruct) : Prop :=
  ∃ record own, package.baseType annotated.1.type = .struct record ∧
    entry.fields = own.flatten ++ extras annotated.2 ∧
    List.Forall₂ (fun field added =>
      ∃ tag, FieldTag.ofComposite field.tag = some tag ∧ Yields field tag added) record own

theorem isDrawnFrom_of_setterOf
    (made : setterOf (.ofPackage package) decl directives = .ok entry) :
    IsDrawnFrom package (decl, directives) entry := by
  obtain ⟨record, extra, own, resolved, folded, related, _, rfl⟩ := setterOf_eq_ok made
  rw [applyDirective_eq_step] at folded
  have added : extra.fields = extras directives := shape.fields_of_foldlM folded
  refine ⟨record, own, resolved, ?_, related.imp fun _ _ => yields_of_setterFieldOf⟩
  rw [added]

end Setter

namespace Wrapper

variable {package models : Package} {decl : TypeDecl} {directives : List Directive}
  {record : WrappedRecord} {field : Field} {tag : FieldTag}

/-! ## What a field gives the wrapper -/

/-- The setting of an unwrapping function that is on account of a field. -/
def WrappedField.unwrapSettings (field : WrappedField) : List Setting :=
  if field.noUnwrap = false ∧ field.modelName ≠ "" then [field.unwrapSetting] else []

/-- The settings of an unwrapping function are those on account of its fields, in order. -/
theorem WrappedRecord.literal_eq_flatMap (record : WrappedRecord) :
    record.unwrapFunction.literal = record.fields.flatMap WrappedField.unwrapSettings := by
  show record.unwrapFields.map WrappedField.unwrapSetting = _
  unfold unwrapFields
  induction record.fields with
  | nil => rfl
  | cons field rest ih =>
      rw [List.flatMap_cons, ← ih, List.filter_cons, WrappedField.unwrapSettings]
      cases off : field.noUnwrap with
      | true => simp
      | false => by_cases unstored : field.modelName = "" <;> simp [unstored]

/-- A field gives the wrapper itself or nothing; a withheld one is not unwrapped. -/
structure Yields (field : Field) (tag : FieldTag) (own : List WrappedField) : Prop where
  itself : own.map (·.getterName) = if isSkipped tag = true then [] else [field.name]
  withheld : field.IsWithheld tag → ∀ wrapped ∈ own, wrapped.noUnwrap = true
  unset : field.IsWithheld tag → own.flatMap WrappedField.unwrapSettings = []

theorem unwrappedName?_of_isWithheld (withheld : field.IsWithheld tag) :
    unwrappedName? field tag = none := by
  unfold unwrappedName?
  rw [Setter.fieldName?_of_isWithheld withheld, ite_self]

theorem yields_of_wrappedFieldOf {subject : Subject} {other : Counterpart} {own : List WrappedField}
    (ok : wrappedFieldOf subject other field = .ok own) :
    ∃ tag, FieldTag.ofComposite field.tag = some tag ∧ Yields field tag own := by
  obtain ⟨tag, tagRead, ⟨skipped, rfl⟩ |
    ⟨kept, getterType, unwrapping, stored, relationType, _, unwraps, _, _, rfl⟩⟩ :=
      wrappedFieldOf_cases ok
  · exact ⟨tag, tagRead, by rw [if_pos skipped]; rfl, fun _ => by simp, fun _ => rfl⟩
  · have disabled (withheld : field.IsWithheld tag) : unwrapping.disabled = true := by
      obtain ⟨_, rfl⟩ | ⟨name, _, _, named, _⟩ := unwrappingOf_cases unwraps
      · rfl
      · cases (unwrappedName?_of_isWithheld withheld).symm.trans named
    refine ⟨tag, tagRead, ?_, ?_, ?_⟩
    · rw [if_neg (by simp [kept])]
      rfl
    · intro withheld wrapped isOwn
      obtain rfl := List.mem_singleton.mp isOwn
      exact disabled withheld
    · intro withheld
      simp [WrappedField.unwrapSettings, assembled, disabled withheld]

/-! ## What a record gives the wrapper -/

/-- A wrapper holds what each field of its record gives, in order, and so does its unwrapping
function. -/
def IsDrawnFrom (package : Package) (annotated : TypeDecl × List Directive)
    (record : WrappedRecord) :
    Prop :=
  ∃ getter own, package.baseType annotated.1.type = .struct getter ∧
    record.fields = own.flatten ∧
    record.unwrapFunction.literal = own.flatMap (·.flatMap WrappedField.unwrapSettings) ∧
    List.Forall₂ (fun field added =>
      ∃ tag, FieldTag.ofComposite field.tag = some tag ∧ Yields field tag added) getter own

theorem isDrawnFrom_of_wrappedRecordOf
    (made : wrappedRecordOf (.ofPackage package) models decl directives = .ok record) :
    IsDrawnFrom package (decl, directives) record := by
  obtain ⟨getter, setter, model, own, resolved, _, _, related, _, _, fields⟩ :=
    wrappedRecordOf_eq_ok made
  refine ⟨getter, own, resolved, fields, ?_, related.imp fun _ _ => yields_of_wrappedFieldOf⟩
  rw [WrappedRecord.literal_eq_flatMap, fields, ← List.flatMap_id, List.flatMap_assoc]
  rfl

end Wrapper

/-- Setters and wrappers hold what each field of the record gives them, and nothing for it is in the
text of a setter, nor set in an unwrapping function, when the field is withheld. -/
theorem audit_fields_withheld (package : Package) :
    (∀ model, Setter.build package = .ok model →
      List.Forall₂ (Setter.IsDrawnFrom package)
        ((DirectiveIndex.ofPackage package).annotated Setter.target) model.setters ∧
      Template.render Generator.setter.template model.toJson =
        .ok (ended (model.headLines ++ model.setters.flatMap Setter.SetterStruct.lines))) ∧
    ∀ models model, Wrapper.build package models = .ok model →
      List.Forall₂ (Wrapper.IsDrawnFrom package)
        ((DirectiveIndex.ofPackage package).annotated Wrapper.target) model.records ∧
      Template.render (Generator.wrapper models).template model.toJson =
        .ok (ended model.headLines ++ ended (model.records.flatMap Wrapper.WrappedRecord.lines)
          ++ Template.wrapSliceFunction) := by
  constructor
  · intro model built
    have drawn := (Setter.setters_of_build built).imp fun _ _ => Setter.isDrawnFrom_of_setterOf
    exact ⟨drawn, model.render_eq_ended⟩
  · intro models model built
    have drawn := (Wrapper.records_of_build built).imp fun _ _ =>
      Wrapper.isDrawnFrom_of_wrappedRecordOf
    exact ⟨drawn, model.render_eq_ended⟩

/-- An identifier that only an extra field sets, a withheld field with a conversion function, and a
field that is named for the setter. -/
theorem audit_fields_withheld_widget :
    let package : Package := ⟨"shop", "example.com/shop",
      [⟨"shop.go", [⟨[⟨"//repogen:setter", 2⟩, ⟨"//repogen:setter:extra ID omit.Val[int]", 3⟩,
        ⟨"//repogen:bob", 4⟩]⟩]⟩],
      [⟨"Widget", ⟨"shop.go", 5, 6⟩, .struct [⟨"ID", .basic .int, "", false⟩,
          ⟨"CreatedAt", .basic .string, "repogen:\"set:'-' unwrap:'stamp' bob:'Created'\"", false⟩,
          ⟨"UpdatedBy", .basic .string, "repogen:\"set:'Editor'\"", false⟩]⟩,
        ⟨"WidgetSetter", ⟨"setter.go", 9, 6⟩, .struct [⟨"Editor", .basic .string, "", false⟩]⟩]⟩
    let models : Package := ⟨"models", "example.com/models", [],
      [⟨"Widget", ⟨"models.go", 3, 6⟩, .struct [⟨"ID", .basic .int, "", false⟩,
        ⟨"Created", .basic .string, "", false⟩, ⟨"UpdatedBy", .basic .string, "", false⟩]⟩]⟩
    ∃ setters wrappers, Setter.build package = .ok setters ∧
      Wrapper.build package models = .ok wrappers ∧
      List.Forall₂ (Setter.IsDrawnFrom package)
        ((DirectiveIndex.ofPackage package).annotated Setter.target) setters.setters ∧
      List.Forall₂ (Wrapper.IsDrawnFrom package)
        ((DirectiveIndex.ofPackage package).annotated Wrapper.target) wrappers.records ∧
      setters.setters.map (·.fields.map (·.name)) = [["Editor", "ID"]] ∧
      wrappers.records.map (fun record =>
          (record.fields.map (·.getterName), record.unwrapFunction.literal)) =
        [(["ID", "CreatedAt", "UpdatedBy"], [⟨"UpdatedBy", "s.Editor"⟩])] := by
  intro package models
  have settersAre : (Setter.build package).map (·.setters.map (·.fields.map (·.name))) =
      .ok [["Editor", "ID"]] := by decide +kernel
  have wrappersAre : (Wrapper.build package models).map (fun model =>
      model.records.map fun record =>
        (record.fields.map (·.getterName), record.unwrapFunction.literal)) =
      .ok [(["ID", "CreatedAt", "UpdatedBy"], [⟨"UpdatedBy", "s.Editor"⟩])] := by decide +kernel
  obtain ⟨setters, settersBuilt, names⟩ := map_eq_ok.mp settersAre
  obtain ⟨wrappers, wrappersBuilt, settings⟩ := map_eq_ok.mp wrappersAre
  have withheld := audit_fields_withheld package
  exact ⟨setters, wrappers, settersBuilt, wrappersBuilt, (withheld.1 setters settersBuilt).1,
    (withheld.2 models wrappers wrappersBuilt).1, names, settings⟩

end Scaffold
