import Scaffold.Proofs.Model.Wrapper

/-!
# Where converted fields come from

Each field of a built wrapper was put together for a field of the getter, in steps that all
succeeded.  `Origin` keeps that field with its tag and what the steps gave (`exists_origin`), and
tells which declared types of the model the converted field is about (`Origin.storedType?_eq`,
`Origin.relatedType?_eq`).
-/

set_option autoImplicit false

namespace Scaffold

/-- The fields of the struct that a declaration of a given name leads to. -/
def Package.recordOf? (package : Package) (name : String) : Option (List Field) :=
  (package.lookup? name).bind fun decl =>
    match package.baseType decl.type with
    | .struct fields => some fields
    | _ => none

theorem Package.recordOf?_eq_some_iff {package : Package} {name : String} {fields : List Field} :
    package.recordOf? name = some fields ↔
      ∃ decl, package.lookup? name = some decl ∧ package.baseType decl.type = .struct fields := by
  unfold recordOf?
  rw [Option.bind_eq_some_iff]
  refine exists_congr fun decl => and_congr_right fun _ => ?_
  split
  · next resolved => simp [resolved]
  · next other => simpa using other fields

theorem Package.lookup?_eq_some {package : Package} {name : String} {decl : TypeDecl}
    (found : package.lookup? name = some decl) : decl ∈ package.decls ∧ decl.name = name := by
  refine ⟨List.mem_of_find?_eq_some found, ?_⟩
  have named := List.find?_some found
  simpa using named

namespace Wrapper

open Checked

variable {package models : Package} {record : WrappedRecord} {wrapped : WrappedField}

/-- The declared type of the model's field that a field is stored in. -/
def storedType? (models : Package) (record : WrappedRecord) (wrapped : WrappedField) :
    Option GoType :=
  ((models.recordOf? record.modelName).bind fun fields =>
    findField? fields wrapped.modelName).map (·.type)

/-- The declared type of the model's relation that a field stands for. -/
def relatedType? (models : Package) (record : WrappedRecord) (wrapped : WrappedField) :
    Option GoType :=
  (((models.recordOf? record.modelName).bind (relationsOf models)).bind fun relations =>
    findField? relations wrapped.relationName).map (·.type)

/-- The field of the getter that a converted field was put together for, and what the steps gave. -/
structure Origin (package models : Package) (record : WrappedRecord) (wrapped : WrappedField) where
  decl : TypeDecl
  getter : List Field
  setter : List Field
  model : List Field
  field : Field
  added : List WrappedField
  tag : FieldTag
  getterType : TypeDescriptor
  unwrapping : Unwrapping
  stored : String × TypeDescriptor
  relationType : TypeDescriptor
  declared : decl ∈ package.decls
  resolved : package.baseType decl.type = .struct getter
  isField : field ∈ getter
  modelFound : models.recordOf? record.modelName = some model
  converted : wrappedFieldOf ⟨target, decl⟩ ⟨package, models, setter, model⟩ field = .ok added
  isAdded : wrapped ∈ added
  tagRead : FieldTag.ofComposite field.tag = some tag
  described : TypeDescriptor.resolve? models.path package field.type = some getterType
  unwraps : unwrappingOf ⟨target, decl⟩ ⟨package, models, setter, model⟩ tag field = .ok unwrapping
  stores : storedAs ⟨target, decl⟩ ⟨package, models, setter, model⟩ tag field unwrapping =
    .ok stored
  relates : relatedTo ⟨target, decl⟩ ⟨package, models, setter, model⟩ tag field = .ok relationType
  wrapped_eq : wrapped = assembled field tag getterType unwrapping stored relationType

theorem exists_origin {model : Model} (built : build package models = .ok model)
    (isRecord : record ∈ model.records) (isField : wrapped ∈ record.fields) :
    Nonempty (Origin package models record wrapped) := by
  obtain ⟨⟨decl, directives⟩, annotated, made⟩ :=
    exists_left_of_mem (records_of_build built) isRecord
  obtain ⟨getter, setter, fields, added, resolved, _, modelOk, related, _, _, fieldsAre⟩ :=
    wrappedRecordOf_eq_ok made
  have declared : decl ∈ package.decls := (DirectiveIndex.mem_annotated.mp annotated).1
  have modelFound : models.recordOf? record.modelName = some fields :=
    Package.recordOf?_eq_some_iff.mpr (modelFieldsOf_eq_ok.mp modelOk)
  rw [fieldsAre] at isField
  obtain ⟨group, isGroup, inGroup⟩ := List.mem_flatten.mp isField
  obtain ⟨field, isSource, converted⟩ := exists_left_of_mem related isGroup
  obtain ⟨tag, getterType, unwrapping, stored, relationType, tagRead, _, described, unwraps, stores,
    relates, same⟩ := wrappedFieldOf_eq_ok converted inGroup
  exact ⟨⟨decl, getter, setter, fields, field, group, tag, getterType, unwrapping, stored,
    relationType, declared, resolved, isSource, modelFound, converted, inGroup, tagRead, described,
    unwraps, stores,
    relates, same⟩⟩

namespace Origin

variable (origin : Origin package models record wrapped)
include origin

theorem modelDecl : ∃ decl ∈ models.decls, models.baseType decl.type = .struct origin.model := by
  obtain ⟨decl, found, resolved⟩ := Package.recordOf?_eq_some_iff.mp origin.modelFound
  exact ⟨decl, (Package.lookup?_eq_some found).1, resolved⟩

theorem modelName_eq : wrapped.modelName = origin.stored.1 :=
  congrArg WrappedField.modelName origin.wrapped_eq

theorem modelType_eq : wrapped.modelType = origin.stored.2 :=
  congrArg WrappedField.modelType origin.wrapped_eq

theorem relationName_eq : wrapped.relationName = origin.tag.value "rel" :=
  congrArg WrappedField.relationName origin.wrapped_eq

theorem relationType_eq : wrapped.relationType = origin.relationType :=
  congrArg WrappedField.relationType origin.wrapped_eq

/-- A field that is no relation is stored, and described by the declared type of the model's
field. -/
theorem storedType?_eq (plain : wrapped.relationName = "") :
    ∃ type, storedType? models record wrapped = some type ∧
      TypeDescriptor.resolveLocal? models type = some wrapped.modelType := by
  rw [origin.relationName_eq] at plain
  have stores := origin.stores
  unfold storedAs at stores
  rw [plain] at stores
  simp only [ne_eq, not_true_eq_false, decide_false, Bool.and_false, Bool.false_eq_true,
    if_false] at stores
  obtain ⟨_, found, foundIs, described⟩ := storageOf_eq_ok stores
  refine ⟨found.type, ?_, ?_⟩
  · rw [storedType?, origin.modelFound, Option.bind_some, origin.modelName_eq, foundIs,
      Option.map_some]
  · rw [origin.modelType_eq, described]

/-- A relation is there, and its declared type is what the field's relation type describes. -/
theorem relatedType?_eq (related : wrapped.relationName ≠ "") :
    ∃ type, relatedType? models record wrapped = some type ∧
      TypeDescriptor.resolveLocal? models type = some wrapped.relationType := by
  rw [origin.relationName_eq] at related
  have relates := origin.relates
  unfold relatedTo at relates
  rw [if_neg related] at relates
  obtain ⟨relations, found, relationsFound, foundIs, described⟩ := relationTypeOf_eq_ok relates
  refine ⟨found.type, ?_, ?_⟩
  · rw [relatedType?, origin.modelFound, Option.bind_some, relationsFound, Option.bind_some,
      origin.relationName_eq, foundIs, Option.map_some]
  · rw [origin.relationType_eq, described]

end Origin

end Wrapper

end Scaffold
