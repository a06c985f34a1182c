import Scaffold.Proofs.Model.Wrapper
import Scaffold.Proofs.Model.WrapperText

/-!
# The fields that wrappers select

Generated wrappers select fields of the model, of its relations, of the setter and of the getter.  A
converted field is `Matched` with these structs whatever its tags say, and `selections_exist`
carries that over to the printed text.
-/

set_option autoImplicit false

namespace Scaffold

open Checked
open Template (Chunk)

def HasField (fields : List Field) (name : String) : Prop := ∃ field ∈ fields, field.name = name

theorem hasField_of_findField? {fields : List Field} {name : String} {field : Field}
    (found : findField? fields name = some field) : HasField fields name :=
  ⟨field, findField?_eq_some found⟩

/-- The fields of the structs that the declarations of a package lead to have names. -/
def Package.FieldsNamed (package : Package) : Prop :=
  ∀ decl ∈ package.decls, ∀ fields, package.baseType decl.type = .struct fields →
    ∀ field ∈ fields, field.name ≠ ""

theorem Setter.fieldName?_ne_empty {field set name : String} (named : field ≠ "")
    (found : fieldName? field set = some name) : name ≠ "" := by
  unfold fieldName? at found
  split at found
  · split at found
    · cases found
    · obtain rfl := Option.some.inj found
      exact named
  · next given =>
      split at found
      · cases found
      · obtain rfl := Option.some.inj found
        exact given

namespace Wrapper

variable {subject : Subject} {package models : Package}

/-! ## Converted fields -/

structure Matched (models : Package) (getter setter model : List Field) (field : WrappedField) :
    Prop where
  got : field.getterName ≠ "" ∧ HasField getter field.getterName
  stored : field.modelName ≠ "" → HasField model field.modelName
  related : field.relationName ≠ "" → ∃ relations, relationsOf models model = some relations ∧
    HasField relations field.relationName
  plain : field.relationName = "" → field.modelName ≠ ""
  unwrapped : field.noUnwrap = false →
    field.setterName ≠ "" ∧ HasField setter field.setterName ∧ field.modelName ≠ ""

theorem storageName_ne_empty {tag : FieldTag} {field : Field} (named : field.name ≠ "") :
    storageName tag field ≠ "" := by
  unfold storageName
  split
  · exact named
  · next given => exact given

theorem storedAs_eq_ok {other : Counterpart} {tag : FieldTag} {field : Field}
    {unwrapping : Unwrapping} {stored : String × TypeDescriptor} (named : field.name ≠ "")
    (ok : storedAs subject other tag field unwrapping = .ok stored) :
    (unwrapping.setterType.isArray && tag.value "rel" ≠ "") = true ∧ stored.1 = "" ∨
      (unwrapping.setterType.isArray && tag.value "rel" ≠ "") = false ∧ stored.1 ≠ "" ∧
        HasField other.model stored.1 := by
  unfold storedAs at ok
  split at ok
  · next array =>
      obtain rfl := Except.ok.inj ok
      exact .inl ⟨array, rfl⟩
  · next plain =>
      obtain ⟨name, found, foundIs, _⟩ := storageOf_eq_ok ok
      refine .inr ⟨Bool.eq_false_iff.mpr plain, ?_, hasField_of_findField? foundIs⟩
      rw [name]
      exact storageName_ne_empty named

theorem matched_of_wrappedFieldOf {getter setter model : List Field} {field : Field}
    {added : List WrappedField} {wrapped : WrappedField} (named : field.name ≠ "")
    (isField : field ∈ getter)
    (ok : wrappedFieldOf subject ⟨package, models, setter, model⟩ field = .ok added)
    (member : wrapped ∈ added) : Matched models getter setter model wrapped := by
  obtain ⟨tag, getterType, unwrapping, stored, relationType, _, _, _, unwrappingOk, storedOk,
    relationOk, rfl⟩ := wrappedFieldOf_eq_ok ok member
  have stores := storedAs_eq_ok named storedOk
  constructor
  · exact ⟨named, field, isField, rfl⟩
  · intro given
    rcases stores with ⟨_, missing⟩ | ⟨_, _, there⟩
    · exact absurd missing given
    · exact there
  · intro given
    have given : tag.value "rel" ≠ "" := given
    unfold relatedTo at relationOk
    rw [if_neg given] at relationOk
    obtain ⟨relations, related, found, relatedIs, _⟩ := relationTypeOf_eq_ok relationOk
    exact ⟨relations, found, hasField_of_findField? relatedIs⟩
  · intro missing
    rcases stores with ⟨array, _⟩ | ⟨_, given, _⟩
    · have relation : tag.value "rel" = "" := missing
      simp [relation] at array
    · exact given
  · intro enabled
    have enabled : unwrapping.disabled = false := enabled
    rcases unwrappingOf_eq_ok unwrappingOk with
      ⟨disabled, _⟩ | ⟨name, found, nameIs, foundIs, same, decided⟩
    · rw [enabled] at disabled
      cases disabled
    · subst same
      have set := fieldName?_of_unwrappedName? nameIs
      refine ⟨Setter.fieldName?_ne_empty named set, hasField_of_findField? foundIs, ?_⟩
      rcases stores with ⟨array, _⟩ | ⟨_, given, _⟩
      · rw [array, enabled] at decided
        cases decided
      · exact given

/-! ## Printed selections -/

/-- What the expressions end in that wrappers select from. -/
def owners : List Char := ['g', 'm', 'R', 's']

/-- The struct that an expression of the template denotes. -/
def denoted (models : Package) (getter setter model : List Field) : String → Option (List Field)
  | "g" => some getter
  | "m" => some model
  | "m.R" => relationsOf models model
  | "s" => some setter
  | _ => none

def Selectable (models : Package) (getter setter model : List Field) (owner name : String) : Prop :=
  name ≠ "" ∧ ∃ fields, denoted models getter setter model owner = some fields ∧
    HasField fields name

namespace WrappedField

variable (field : WrappedField)

theorem selections_literalChunks :
    Chunk.selections field.literalChunks = [("m", field.modelName)] := by
  unfold literalChunks
  split
  · rfl
  · split
    · split
      · rfl
      · rfl
    · split
      · rfl
      · rfl

theorem selections_relationChunks :
    ∀ selection ∈ Chunk.selections field.relationChunks,
      selection = ("m", relationsField) ∨ selection = ("m.R", field.relationName) ∨
        selection = ("g", field.getterName) := by
  have block : Chunk.selections field.relationChunks = [("m", relationsField),
      ("m.R", field.relationName), ("g", field.getterName), ("m.R", field.relationName)] := by
    unfold relationChunks
    split
    · rfl
    · split
      · rfl
      · rfl
  rw [block]
  simp

theorem selections_unwrapChunks :
    Chunk.selections field.unwrapChunks = [("s", field.setterName)] := by
  unfold unwrapChunks
  split
  · rfl
  · rfl

theorem isFree_literalChunks : field.literalChunks.all (Chunk.isFree owners) = true := by
  unfold literalChunks
  split
  · rfl
  · split
    · split
      · rfl
      · rfl
    · split
      · rfl
      · rfl

theorem isFree_relationChunks : field.relationChunks.all (Chunk.isFree owners) = true := by
  unfold relationChunks
  split
  · rfl
  · split
    · rfl
    · rfl

theorem isFree_unwrapChunks : field.unwrapChunks.all (Chunk.isFree owners) = true := by
  unfold unwrapChunks
  split
  · rfl
  · rfl

end WrappedField

namespace WrappedRecord

variable (record : WrappedRecord)

theorem selections_wrapChunks :
    Chunk.selections record.wrapChunks =
      (record.literalFields.flatMap fun field => Chunk.selections field.literalChunks) ++
        record.relationFields.flatMap fun field => Chunk.selections field.relationChunks := by
  unfold wrapChunks
  simp

theorem selections_unwrapChunks :
    Chunk.selections record.unwrapChunks =
      record.unwrapFields.flatMap fun field => Chunk.selections field.unwrapChunks := by
  unfold unwrapChunks
  simp

theorem isFree_wrapChunks : record.wrapChunks.all (Chunk.isFree owners) = true := by
  unfold wrapChunks
  simp only [List.all_append, List.all_flatMap, Bool.and_eq_true]
  refine ⟨⟨⟨⟨rfl, ?_⟩, rfl⟩, ?_⟩, rfl⟩
  · exact List.all_eq_true.mpr fun field _ => field.isFree_literalChunks
  · exact List.all_eq_true.mpr fun field _ => field.isFree_relationChunks

theorem isFree_unwrapChunks : record.unwrapChunks.all (Chunk.isFree owners) = true := by
  unfold unwrapChunks
  simp only [List.all_append, List.all_flatMap, Bool.and_eq_true]
  refine ⟨⟨rfl, ?_⟩, rfl⟩
  exact List.all_eq_true.mpr fun field _ => field.isFree_unwrapChunks

theorem isFree_chunks : record.chunks.all (Chunk.isFree owners) = true := by
  unfold chunks
  rw [List.all_append, Bool.and_eq_true]
  constructor
  · split
    · exact record.isFree_wrapChunks
    · rfl
  · split
    · exact record.isFree_unwrapChunks
    · rfl

theorem mem_selections {record : WrappedRecord} {selection : String × String}
    (member : selection ∈ Chunk.selections record.chunks) :
    (∃ field ∈ record.literalFields, selection = ("m", field.modelName)) ∨
      (∃ field ∈ record.relationFields, selection = ("m", relationsField) ∨
        selection = ("m.R", field.relationName) ∨ selection = ("g", field.getterName)) ∨
      ∃ field ∈ record.unwrapFields, selection = ("s", field.setterName) := by
  unfold chunks at member
  rw [Chunk.selections_append, List.mem_append] at member
  rcases member with member | member
  · split at member
    · rw [selections_wrapChunks, List.mem_append] at member
      rcases member with member | member
      · obtain ⟨field, isField, member⟩ := List.mem_flatMap.mp member
        rw [WrappedField.selections_literalChunks] at member
        exact .inl ⟨field, isField, List.mem_singleton.mp member⟩
      · obtain ⟨field, isField, member⟩ := List.mem_flatMap.mp member
        exact .inr (.inl ⟨field, isField, field.selections_relationChunks selection member⟩)
    · cases member
  · split at member
    · rw [selections_unwrapChunks] at member
      obtain ⟨field, isField, member⟩ := List.mem_flatMap.mp member
      rw [WrappedField.selections_unwrapChunks] at member
      exact .inr (.inr ⟨field, isField, List.mem_singleton.mp member⟩)
    · cases member

theorem selectable_of_matched {record : WrappedRecord} {getter setter model : List Field}
    (matched : ∀ field ∈ record.fields, Matched models getter setter model field)
    {owner name : String} (member : (owner, name) ∈ Chunk.selections record.chunks) :
    Selectable models getter setter model owner name := by
  rcases mem_selections member with ⟨field, kept, same⟩ | ⟨field, kept, same⟩ | ⟨field, kept, same⟩
  · obtain ⟨isField, wraps⟩ := List.mem_filter.mp kept
    have plain : field.relationName = "" := by simpa using (Bool.and_eq_true_iff.mp wraps).2
    cases same
    have named := (matched field isField).plain plain
    exact ⟨named, model, rfl, (matched field isField).stored named⟩
  · obtain ⟨isField, wraps⟩ := List.mem_filter.mp kept
    have named : field.relationName ≠ "" := by simpa using (Bool.and_eq_true_iff.mp wraps).2
    obtain ⟨relations, found, there⟩ := (matched field isField).related named
    rcases same with same | same | same
    · cases same
      obtain ⟨holder, isHolder, holderName, _⟩ := exists_of_relationsOf found
      exact ⟨by decide, model, rfl, holder, isHolder, holderName⟩
    · cases same
      exact ⟨named, relations, found, there⟩
    · cases same
      exact ⟨(matched field isField).got.1, getter, rfl, (matched field isField).got.2⟩
  · obtain ⟨isField, unwraps⟩ := List.mem_filter.mp kept
    have enabled : field.noUnwrap = false := by simpa using (Bool.and_eq_true_iff.mp unwraps).1
    cases same
    obtain ⟨named, there, _⟩ := (matched field isField).unwrapped enabled
    exact ⟨named, setter, rfl, there⟩

end WrappedRecord

end Wrapper

/-- In a built model everything that wrappers select is there, and the rendered text selects nothing
else. -/
theorem selections_exist {package models : Package} {model : Wrapper.Model}
    (named : package.FieldsNamed) (built : Wrapper.build package models = .ok model) :
    Template.render "bob.go.tera" model.toJson = .ok (Chunk.spell model.chunks) ∧
    model.chunks.all (Chunk.isFree Wrapper.owners) = true ∧
    Chunk.selections model.chunks =
      (model.records.flatMap fun record => Chunk.selections record.chunks) ∧
    ∀ record ∈ model.records, ∃ decl getter setterDecl setter modelDecl fields,
      decl ∈ package.decls ∧ decl.name = record.getterName ∧
      package.baseType decl.type = .struct getter ∧
      package.lookup? record.setterName = some setterDecl ∧
      package.baseType setterDecl.type = .struct setter ∧
      models.lookup? record.modelName = some modelDecl ∧
      models.baseType modelDecl.type = .struct fields ∧
      (∀ field ∈ record.fields, Wrapper.Matched models getter setter fields field) ∧
      ∀ owner name, (owner, name) ∈ Chunk.selections record.chunks →
        Wrapper.Selectable models getter setter fields owner name := by
  refine ⟨model.render_eq, ?_, ?_, fun record isRecord => ?_⟩
  · unfold Wrapper.Model.chunks
    simp only [List.all_append, List.all_flatMap, Bool.and_eq_true]
    refine ⟨⟨rfl, ?_⟩, by decide +kernel⟩
    exact List.all_eq_true.mpr fun record _ => record.isFree_chunks
  · unfold Wrapper.Model.chunks
    simp
  · obtain ⟨⟨decl, directives⟩, annotated, wrapped⟩ :=
      exists_left_of_mem (Wrapper.records_of_build built) isRecord
    obtain ⟨getter, setter, fields, added, getterIs, setterOk, modelOk, related, getterName, _,
      fieldsAre⟩ := Wrapper.wrappedRecordOf_eq_ok wrapped
    obtain ⟨setterDecl, setterFound, setterIs⟩ := Wrapper.setterFieldsOf_eq_ok.mp setterOk
    obtain ⟨modelDecl, modelFound, modelIs⟩ := Wrapper.modelFieldsOf_eq_ok.mp modelOk
    have declared := (DirectiveIndex.mem_annotated.mp annotated).1
    have matched : ∀ field ∈ record.fields, Wrapper.Matched models getter setter fields field := by
      intro field isField
      rw [fieldsAre] at isField
      obtain ⟨group, isGroup, isField⟩ := List.mem_flatten.mp isField
      obtain ⟨source, isSource, converted⟩ := exists_left_of_mem related isGroup
      exact Wrapper.matched_of_wrappedFieldOf (named decl declared getter getterIs source isSource)
        isSource converted isField
    exact ⟨decl, getter, setterDecl, setter, modelDecl, fields, declared, getterName.symm, getterIs,
      setterFound, setterIs, modelFound, modelIs, matched,
      fun owner name member => Wrapper.WrappedRecord.selectable_of_matched matched member⟩

/-- A stored field and a relation, both under names of their own. -/
theorem selections_exist_widget :
    let package : Package := ⟨"shop", "example.com/shop",
      [⟨"shop.go", [⟨[⟨"//repogen:bob", 2⟩]⟩]⟩],
      [⟨"Widget", ⟨"shop.go", 3, 6⟩, .struct [
          ⟨"Name", .basic .string, "repogen:\"bob:'Title'\"", false⟩,
          ⟨"Owner", .pointer (.basic .string),
            "repogen:\"bob:'OwnerID' rel:'User' unwrap:'-'\"", false⟩]⟩,
        ⟨"WidgetSetter", ⟨"setter.go", 9, 6⟩, .struct [⟨"Name", .basic .string, "", false⟩]⟩]⟩
    let models : Package := ⟨"models", "example.com/models", [],
      [⟨"Widget", ⟨"models.go", 3, 6⟩, .struct [⟨"Title", .basic .string, "", false⟩,
        ⟨"OwnerID", .basic .int, "", false⟩,
        ⟨"R", .struct [⟨"User", .pointer (.basic .string), "", false⟩], "", false⟩]⟩]⟩
    ∃ model, Wrapper.build package models = .ok model ∧
      Chunk.selections model.chunks =
        [("m", "Title"), ("m", "R"), ("m.R", "User"), ("g", "Owner"), ("m.R", "User"),
          ("s", "Name")] ∧
      ∃ getter setter fields, Wrapper.Selectable models getter setter fields "m.R" "User" := by
  intro package models
  have named : package.FieldsNamed := by
    intro decl declared fields is field isField
    rcases List.mem_cons.mp declared with rfl | declared
    · obtain rfl := GoType.struct.inj is
      rcases List.mem_cons.mp isField with rfl | isField
      · decide
      · obtain rfl := List.mem_singleton.mp isField
        decide
    · obtain rfl := List.mem_singleton.mp declared
      obtain rfl := GoType.struct.inj is
      obtain rfl := List.mem_singleton.mp isField
      decide
  have printed : (Wrapper.build package models).map (fun model => Chunk.selections model.chunks) =
    .ok
      [("m", "Title"), ("m", "R"), ("m.R", "User"), ("g", "Owner"), ("m.R", "User"),
        ("s", "Name")] := by
    decide +kernel
  obtain ⟨model, built, selected⟩ := map_eq_ok.mp printed
  obtain ⟨_, _, flat, each⟩ := selections_exist named built
  have member : ("m.R", "User") ∈ Chunk.selections model.chunks := by
    rw [selected]
    decide
  rw [flat] at member
  obtain ⟨record, isRecord, member⟩ := List.mem_flatMap.mp member
  obtain ⟨_, getter, _, setter, _, fields, _, _, _, _, _, _, _, _, selectable⟩ :=
    each record isRecord
  exact ⟨model, built, selected, getter, setter, fields, selectable "m.R" "User" member⟩

end Scaffold
