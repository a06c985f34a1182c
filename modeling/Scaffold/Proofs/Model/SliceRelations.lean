import Scaffold.Proofs.Model.FieldFaults
import Scaffold.Proofs.Model.Origin

/-!
# Relations to many records

A relation that is a slice is never unwrapped.  It is to have no field of its own in the model
either, but that is seen only in the type of the setter's field: a relation that the setter leaves
out is stored like any other field, and the model has to have the field
(`slice_relations_never_unwrapped`, `slice_relation_needs_stored_field`).
-/

set_option autoImplicit false

namespace Scaffold

open Checked

namespace Wrapper

variable {subject : Subject} {package models : Package} {other : Counterpart} {decl : TypeDecl}
  {record : WrappedRecord} {diagnostic : Diagnostic} {tag : FieldTag} {field : Field}

/-- The field takes part as a relation, its type is a slice, and its tag spells no other type for
the setter. -/
structure IsSliceRelation (field : Field) (tag : FieldTag) : Prop where
  tagRead : FieldTag.ofComposite field.tag = some tag
  kept : isSkipped tag = false
  related : tag.value "rel" ≠ ""
  unspelled : tag.value "settyp" = ""
  slice : field.type.isSlice = true

/-- The field is not set: its tags turn that off, or it is an audit field without a name in the
setter. -/
def IsUnset (field : Field) (tag : FieldTag) : Prop :=
  tag.value "unwrap" = "-" ∨ tag.value "set" = "-" ∨ tag.value "set" = "" ∧
    isAuditField field.name = true

instance : Decidable (IsUnset field tag) := inferInstanceAs (Decidable (_ ∨ _ ∨ _ ∧ _))

theorem isUnset_iff : IsUnset field tag ↔ unwrappedName? field tag = none := by
  unfold IsUnset unwrappedName? Setter.fieldName?
  by_cases off : tag.value "unwrap" = "-"
  · simp [off]
  by_cases bare : tag.value "set" = ""
  · simp [off, bare]
  by_cases left : tag.value "set" = "-"
  · simp [left]
  · simp [off, bare, left]

/-! ## What a field gives -/

theorem IsSliceRelation.isSlice_of_select? (isSlice : IsSliceRelation field tag) {viewer : String}
    {owner : PackageRef} {type : SetterType}
    (selected : SetterType.select? viewer owner tag field.type = some type) :
    type.isSlice = true := by
  unfold SetterType.select? at selected
  simp only [isSlice.unspelled, ne_eq, not_true_eq_false, if_false] at selected
  obtain ⟨_, _, rfl⟩ := Option.map_eq_some_iff.mp selected
  exact isSlice.slice

/-- A slice relation is not unwrapped; its setter type is known for an array only if it is set. -/
theorem IsSliceRelation.unwrapping (isSlice : IsSliceRelation field tag) {unwrapping : Unwrapping}
    (ok : unwrappingOf subject other tag field = .ok unwrapping) :
    unwrapping.disabled = true ∧ (unwrapping.setterType.isArray = true ↔ ¬ IsUnset field tag) := by
  rw [isUnset_iff]
  obtain ⟨unset, rfl⟩ | ⟨name, _, type, named, _, selected, rfl⟩ := unwrappingOf_cases ok
  · simp [unset, SetterShape.blank]
  · have array : type.isSlice = true := isSlice.isSlice_of_select? selected
    simp [named, array, isSlice.related, SetterShape.ofSetterType]

theorem IsSliceRelation.storedAs_eq (isSlice : IsSliceRelation field tag) {unwrapping : Unwrapping}
    (ok : unwrappingOf subject other tag field = .ok unwrapping) :
    storedAs subject other tag field unwrapping =
      if IsUnset field tag then storageOf subject other tag field else .ok ("", .blank) := by
  have array := (isSlice.unwrapping ok).2
  unfold storedAs
  by_cases unset : IsUnset field tag
  · have unseen : unwrapping.setterType.isArray = false :=
      Bool.eq_false_iff.mpr fun seen => array.mp seen unset
    simp [unset, unseen]
  · simp [unset, array.mpr unset, isSlice.related]

/-- How a slice relation is converted: the model has a field for it exactly when it is not set. -/
structure SliceConversion (models : Package) (record : WrappedRecord) (field : Field)
    (tag : FieldTag) (wrapped : WrappedField) : Prop where
  getterName : wrapped.getterName = field.name
  relationName : wrapped.relationName = tag.value "rel"
  noUnwrap : wrapped.noUnwrap = true
  unstored : ¬ IsUnset field tag → wrapped.modelName = ""
  stored : IsUnset field tag →
    wrapped.modelName = storageName tag field ∧ (storedType? models record wrapped).isSome = true

theorem IsSliceRelation.converted {setter model : List Field} {added : List WrappedField}
    (isSlice : IsSliceRelation field tag)
    (modelFound : models.recordOf? record.modelName = some model)
    (ok : wrappedFieldOf subject ⟨package, models, setter, model⟩ field = .ok added) :
    ∃ wrapped, added = [wrapped] ∧ SliceConversion models record field tag wrapped := by
  obtain ⟨_, tagRead, told⟩ := wrappedFieldOf_cases ok
  obtain rfl := Option.some.inj (isSlice.tagRead.symm.trans tagRead)
  rcases told with ⟨skipped, _⟩ |
    ⟨_, getterType, unwrapping, stored, relationType, _, unwraps, stores, _, rfl⟩
  · cases skipped.symm.trans isSlice.kept
  refine ⟨_, rfl, rfl, rfl, (isSlice.unwrapping unwraps).1, fun set => ?_, fun unset => ?_⟩
  · rw [isSlice.storedAs_eq unwraps, if_neg set] at stores
    obtain rfl := Except.ok.inj stores
    rfl
  · rw [isSlice.storedAs_eq unwraps, if_pos unset] at stores
    obtain ⟨named, found, foundIs, _⟩ := storageOf_eq_ok stores
    refine ⟨named, ?_⟩
    rw [storedType?, modelFound, Option.bind_some, assembled, foundIs]
    rfl

/-- A model is reported to lack the field that a field is stored in. -/
structure IsMissing (model : List Field) (field : Field) (tag : FieldTag)
    (stored : String) : Prop where
  tagRead : FieldTag.ofComposite field.tag = some tag
  kept : isSkipped tag = false
  named : storageName tag field = stored
  missing : findField? model stored = none
  unset : IsSliceRelation field tag → IsUnset field tag

theorem isMissing_of_wrappedFieldOf {name stored : String}
    (failed : wrappedFieldOf subject other field = .error diagnostic)
    (fault : diagnostic.fault = .noModelField name stored) :
    field.name = name ∧ ∃ tag, IsMissing other.model field tag stored := by
  -- Of all steps only the one that looks the field up in the model has this fault.
  cases failedStep_of_wrappedFieldOf failed with
  | tag cause | type cause => cases fault.symm.trans cause
  | unwrapping _ failed =>
      obtain ⟨_, cause⟩ | cause := fault_of_unwrappingOf failed
      · cases fault.symm.trans cause
      · cases fault.symm.trans cause
  | relation failed =>
      rcases fault_of_relatedTo failed with cause | cause | cause
      · cases fault.symm.trans cause
      · cases fault.symm.trans cause
      · cases fault.symm.trans cause
  | @storage tag unwrapping tagRead kept unwraps failed =>
      have unset : IsSliceRelation field tag → IsUnset field tag := by
        intro isSlice
        by_contra set
        rw [isSlice.storedAs_eq unwraps, if_neg set] at failed
        cases failed
      unfold storedAs at failed
      split at failed
      · cases failed
      unfold storageOf at failed
      rcases bind_eq_error.mp failed with failed | ⟨_, _, failed⟩
      · obtain ⟨missing, rfl⟩ := Subject.expect_eq_error.mp failed
        cases fault
        exact ⟨rfl, tag, tagRead, kept, rfl, missing, unset⟩
      · rcases bind_eq_error.mp failed with failed | ⟨_, _, failed⟩
        · cases fault.symm.trans (Subject.fault_of_expect failed)
        · cases failed

/-! ## What a record gives -/

/-- A record has one converted field for each slice relation of its declaration. -/
def ConvertsSlices (package models : Package) (decl : TypeDecl) (record : WrappedRecord) : Prop :=
  ∃ getter groups, package.baseType decl.type = .struct getter ∧ record.fields = groups.flatten ∧
    List.Forall₂ (fun field added => ∀ tag, IsSliceRelation field tag →
      ∃ wrapped, added = [wrapped] ∧ SliceConversion models record field tag wrapped) getter groups

/-- The model that the directives of a declaration choose lacks the field for one of its fields. -/
def LacksField (package models : Package) (name stored : String) (decl : TypeDecl) : Prop :=
  ∃ getter options model field tag,
    package.baseType decl.type = .struct getter ∧
    (package.directivesAbove decl.pos target).foldlM (applyDirective ⟨target, decl⟩)
      ⟨decl.name, false, false⟩ = .ok options ∧
    models.recordOf? options.modelName = some model ∧
    (field ∈ getter ∧ field.name = name) ∧ IsMissing model field tag stored

theorem convertsSlices_of_entityAt
    (made : package.entityAt target (fun index => wrappedRecordOf index models) decl = .ok record) :
    ConvertsSlices package models decl record := by
  obtain ⟨getter, setter, model, groups, resolved, _, modelOk, related, _, _, fieldsAre⟩ :=
    wrappedRecordOf_eq_ok made
  have modelFound : models.recordOf? record.modelName = some model :=
    Package.recordOf?_eq_some_iff.mpr (modelFieldsOf_eq_ok.mp modelOk)
  refine ⟨getter, groups, resolved, fieldsAre, related.imp fun field added ok tag isSlice => ?_⟩
  exact isSlice.converted modelFound ok

theorem lacksField_of_entityAt {name stored : String}
    (failed : package.entityAt target (fun index => wrappedRecordOf index models) decl =
      .error diagnostic)
    (fault : diagnostic.fault = .noModelField name stored) :
    LacksField package models name stored decl := by
  have about : diagnostic.fault.field? ≠ none := by
    rw [fault]
    nofun
  obtain ⟨getter, setter, options, model, field, resolved, _, optionsOk, modelOk,
    isField, failed⟩ :=
    exists_of_wrappedRecordOf_eq_error failed about
  obtain ⟨named, tag, missing⟩ := isMissing_of_wrappedFieldOf failed fault
  exact ⟨getter, options, model, field, tag, resolved, optionsOk,
    Package.recordOf?_eq_some_iff.mpr (modelFieldsOf_eq_ok.mp modelOk), ⟨isField, named⟩, missing⟩

end Wrapper

/-- Slice relations are converted without being unwrapped.  The model needs no field for those that
are set, and when the field of a relation is reported missing, the relation is not set. -/
theorem slice_relations_never_unwrapped (package models : Package) :
    (∀ model, Wrapper.build package models = .ok model →
      List.Forall₂ (Wrapper.ConvertsSlices package models) (package.annotated Wrapper.target)
        model.records) ∧
    ∀ diagnostic, Wrapper.build package models = .error diagnostic →
      ∀ name stored, diagnostic.fault = .noModelField name stored →
        ∃ decl ∈ package.annotated Wrapper.target,
          Wrapper.LacksField package models name stored decl := by
  constructor
  · intro model built
    rw [Wrapper.build_eq] at built
    obtain ⟨records, made, rfl⟩ := map_eq_ok.mp built
    exact (Package.entities_eq_ok.mp made).imp fun _ _ => Wrapper.convertsSlices_of_entityAt
  · intro diagnostic failed name stored fault
    rw [Wrapper.build_eq] at failed
    obtain ⟨decl, annotated, unmade⟩ := exists_of_mapM_eq_error (map_eq_error.mp failed)
    exact ⟨decl, annotated, Wrapper.lacksField_of_entityAt unmade fault⟩

/-- Tags that are set, and labels that are not and have a field for it. -/
theorem slice_relations_never_unwrapped_widget :
    let tags (path package name tag : String) : Field :=
      ⟨name, .slice (.pointer (.ofName (some ⟨path, package⟩) "Tag")), tag, false⟩
    let package : Package := ⟨"shop", "example.com/shop", [⟨"shop.go", [⟨[⟨"//repogen:bob", 2⟩]⟩]⟩],
      [⟨"Widget", ⟨"shop.go", 3, 6⟩, .struct [
          tags "example.com/shop" "shop" "Tags" "repogen:\"rel:'Tags'\"",
          tags "example.com/shop" "shop" "Labels" "repogen:\"rel:'Labels' unwrap:'-'\""]⟩,
        ⟨"WidgetSetter", ⟨"setter.go", 9, 6⟩, .struct [⟨"Tags", .basic .string, "", false⟩]⟩]⟩
    let models (plain : List Field) : Package := ⟨"models", "example.com/models", [],
      [⟨"Widget", ⟨"models.go", 3, 6⟩, .struct (plain ++ [⟨"R", .struct [
        tags "example.com/models" "models" "Tags" "",
        tags "example.com/models" "models" "Labels" ""], "", false⟩])⟩]⟩
    let labels : Field := ⟨"Labels", .slice (.basic .string), "", false⟩
    let missing : Diagnostic :=
      ⟨⟨"shop.go", 3, 6⟩, "bob", "Widget", .noModelField "Labels" "Labels"⟩
    (∃ model, Wrapper.build package (models [labels]) = .ok model ∧
      List.Forall₂ (Wrapper.ConvertsSlices package (models [labels]))
        (package.annotated Wrapper.target)
        model.records ∧
      model.records.map (fun record => record.fields.map fun field =>
          (field.modelName, field.noUnwrap)) =
        [[("", true), ("Labels", true)]]) ∧
    Wrapper.build package (models []) = .error missing ∧
      ∃ decl ∈ package.annotated Wrapper.target,
        Wrapper.LacksField package (models []) "Labels" "Labels" decl := by
  intro tags package models labels missing
  have converted : (Wrapper.build package (models [labels])).map (fun model =>
      model.records.map fun record => record.fields.map fun field =>
          (field.modelName, field.noUnwrap)) =
        .ok [[("", true), ("Labels", true)]] := by decide +kernel
  obtain ⟨model, built, fields⟩ := map_eq_ok.mp converted
  have failed : Wrapper.build package (models []) = .error missing := by decide +kernel
  exact ⟨⟨model, built, (slice_relations_never_unwrapped package (models [labels])).1 model built,
    fields⟩,
    failed, (slice_relations_never_unwrapped package (models [])).2 missing failed _ _ rfl⟩

/-- A relation to many records that is turned off for the setter: its field is missing in the
model. -/
theorem slice_relation_needs_stored_field :
    let tags (path package tag : String) : Field :=
      ⟨"Tags", .slice (.pointer (.ofName (some ⟨path, package⟩) "Tag")), tag, false⟩
    let field : Field := tags "example.com/shop" "shop" "repogen:\"rel:'Tags' unwrap:'-'\""
    let package : Package := ⟨"shop", "example.com/shop", [⟨"shop.go", [⟨[⟨"//repogen:bob", 2⟩]⟩]⟩],
      [⟨"Widget", ⟨"shop.go", 3, 6⟩, .struct [field]⟩, ⟨"Tag", ⟨"shop.go", 8, 6⟩, .struct []⟩,
        ⟨"WidgetSetter", ⟨"shop.go", 12, 6⟩, .struct []⟩]⟩
    let models : Package := ⟨"models", "example.com/shop/models", [],
      [⟨"Widget", ⟨"models.go", 3, 6⟩, .struct [
          ⟨"R", .struct [tags "example.com/shop/models" "models" ""], "", false⟩]⟩,
        ⟨"Tag", ⟨"models.go", 9, 6⟩, .struct []⟩]⟩
    let missing : Diagnostic := ⟨⟨"shop.go", 3, 6⟩, "bob", "Widget", .noModelField "Tags" "Tags"⟩
    (∃ tag, Wrapper.IsSliceRelation field tag) ∧ Wrapper.build package models = .error missing ∧
      ¬ ∀ (package models : Package) (diagnostic : Diagnostic),
        Wrapper.build package models = .error diagnostic →
        ∀ decl ∈ package.annotated Wrapper.target, diagnostic.decl = decl.name →
        ∀ getter, package.baseType decl.type = .struct getter → ∀ field ∈ getter, ∀ tag,
        Wrapper.IsSliceRelation field tag → (field.type.print? models.path).isSome = true →
        ∀ stored, diagnostic.fault ≠ .noModelField field.name stored := by
  intro tags field package models missing
  obtain ⟨tag, isSlice⟩ : ∃ tag, Wrapper.IsSliceRelation field tag := by
    have read : (FieldTag.ofComposite field.tag).any (fun tag => !Wrapper.isSkipped tag &&
        tag.value "rel" ≠ "" && tag.value "settyp" = "") = true := by decide +kernel
    obtain ⟨tag, tagRead, holds⟩ := (Option.any_eq_true _ _).mp read
    simp only [Bool.and_eq_true, Bool.not_eq_true', decide_eq_true_eq] at holds
    exact ⟨tag, tagRead, holds.1.1, holds.1.2, holds.2, rfl⟩
  have failed : Wrapper.build package models = .error missing := by decide +kernel
  have annotated : package.decls.head (by decide) ∈ package.annotated Wrapper.target :=
    List.mem_filter.mpr ⟨List.mem_cons_self, by decide +kernel⟩
  refine ⟨⟨tag, isSlice⟩, failed, fun claimed => ?_⟩
  have printable : (field.type.print? models.path).isSome = true := by decide +kernel
  exact claimed package models missing failed _ annotated rfl _ rfl field
    List.mem_cons_self tag isSlice
    printable "Tags" rfl

end Scaffold
