import Scaffold.Proofs.GoType.Names
import Scaffold.Proofs.Model.Origin
import Scaffold.Proofs.Model.Selectors
import Scaffold.Proofs.Model.WrapperLines

/-!
# What the functions of a wrapper assign

When no name and no tag value of the packages is broken over lines, the text of a wrapper has the
lines of its functions and no others.  From these lines one reads that each function is there unless
it is turned off, and that it sets each of its fields exactly once, in the order of the record
(`fields_assigned_once`).
-/

set_option autoImplicit false

namespace Scaffold

open Text

/-! ## Packages without broken names -/

def Package.recordFields (package : Package) : List Field :=
  package.decls.flatMap fun decl =>
    match package.baseType decl.type with
    | .struct fields => fields
    | _ => []

theorem Package.mem_recordFields {package : Package} {decl : TypeDecl} {fields : List Field}
    {field : Field}
    (declared : decl ∈ package.decls) (resolved : package.baseType decl.type = .struct fields)
    (isField : field ∈ fields) : field ∈ package.recordFields := by
  refine List.mem_flatMap.mpr ⟨decl, declared, ?_⟩
  rw [resolved]
  exact isField

/-- The names in a package and the values in the tags of its fields are each in one line. -/
structure Package.Unbroken (package : Package) : Prop where
  name : Text.Unbroken package.name
  decl : ∀ decl ∈ package.decls, Text.Unbroken decl.name
  type : ∀ name ∈ package.typeNames, Text.Unbroken name
  field : ∀ field ∈ package.recordFields, Text.Unbroken field.name
  tag : ∀ field ∈ package.recordFields, ∀ tag ∈ FieldTag.ofComposite field.tag,
    ∀ entry ∈ tag.entries, Text.Unbroken entry.2

theorem FieldTag.unbroken_value {tag : FieldTag}
    (each : ∀ entry ∈ tag.entries, Text.Unbroken entry.2)
    (key : String) : Text.Unbroken (tag.value key) := by
  unfold value
  cases found : tag.get? key with
  | none => decide
  | some value =>
      obtain ⟨front, behind, entries, _⟩ := List.lookup_eq_some_iff.mp found
      exact each (key, value) (by simp [entries])

theorem Setter.unbroken_of_fieldName? {field set name : String} (fieldPlain : Text.Unbroken field)
    (setPlain : Text.Unbroken set) (found : fieldName? field set = some name) :
    Text.Unbroken name := by
  unfold fieldName? at found
  split at found
  · split at found
    · cases found
    · obtain rfl := Option.some.inj found
      exact fieldPlain
  · split at found
    · cases found
    · obtain rfl := Option.some.inj found
      exact setPlain

namespace Wrapper

open Checked

/-! ## Wrappers without broken names -/

structure WrappedField.Unbroken (field : WrappedField) : Prop where
  getter : Text.Unbroken field.getterName
  getterType : Text.Unbroken field.getterType.qualifiedName
  setter : Text.Unbroken field.setterName
  model : Text.Unbroken field.modelName
  relation : Text.Unbroken field.relationName
  relationType : Text.Unbroken field.relationType.trueElementName
  unwrapFunc : Text.Unbroken field.unwrapFunc
  wrapFunc : Text.Unbroken field.wrapFunc

/-- What is printed of a record is in one line, and so is what is printed of its fields. -/
structure WrappedRecord.Unbroken (record : WrappedRecord) : Prop where
  getter : Text.Unbroken record.getterName
  qualifiedGetter : Text.Unbroken record.qualifiedGetterName
  setter : Text.Unbroken record.setterName
  qualifiedSetter : Text.Unbroken record.qualifiedSetterName
  model : Text.Unbroken record.modelName
  modelSetter : Text.Unbroken record.modelSetterName
  field : ∀ field ∈ record.fields, field.Unbroken

theorem Setting.unbroken_entry {setting : Setting} (field : Text.Unbroken setting.field)
    (value : Text.Unbroken setting.value) : Text.Unbroken setting.entry := by
  simp +decide [entry, field, value]

namespace WrappedField.Unbroken

variable {field : WrappedField} (plain : field.Unbroken)
include plain

theorem literalEntry : Text.Unbroken field.literalSetting.entry := by
  refine Setting.unbroken_entry plain.getter ?_
  show Text.Unbroken field.literalValue
  unfold literalValue storedText
  split_ifs <;> simp +decide [plain.wrapFunc, plain.model, plain.getterType]

theorem unwrapEntry : Text.Unbroken field.unwrapSetting.entry := by
  refine Setting.unbroken_entry plain.model ?_
  show Text.Unbroken field.unwrapValue
  unfold unwrapValue
  split_ifs <;> simp +decide [plain.unwrapFunc, plain.setter]

theorem relationLines : ∀ line ∈ field.relationBlock.lines, Text.Unbroken line := by
  have value : Text.Unbroken field.relationValue := by
    unfold relationValue relationCall
    split_ifs <;> simp +decide [plain.wrapFunc, plain.relation, plain.relationType]
  simp +decide [relationBlock, RelationBlock.lines, plain.relation, plain.getter, value]

end WrappedField.Unbroken

theorem unbroken_headLines {comment declaration argument : String}
    (commentPlain : Text.Unbroken comment)
    (declarationPlain : Text.Unbroken declaration) (argumentPlain : Text.Unbroken argument) :
    ∀ line ∈ headLines comment declaration argument, Text.Unbroken line := by
  simp +decide [headLines, commentPlain, declarationPlain, argumentPlain]

namespace WrappedRecord.Unbroken

variable {record : WrappedRecord} (plain : record.Unbroken)
include plain

theorem wrapLines : ∀ line ∈ record.wrapFunction.lines, Text.Unbroken line := by
  have declaration : Text.Unbroken record.wrapFunction.declaration := by
    simp +decide [WrapFunction.declaration, wrapFunction, plain.getter, plain.model,
      plain.qualifiedGetter]
  unfold WrapFunction.lines
  simp only [List.forall_mem_append]
  refine ⟨⟨⟨⟨⟨unbroken_headLines ?_ declaration (by decide), ?_⟩, ?_⟩, by decide⟩, ?_⟩, by decide⟩
  · simp +decide [wrapFunction, plain.getter, plain.model, plain.qualifiedGetter]
  · simp +decide [wrapFunction, plain.qualifiedGetter]
  · intro line member
    obtain ⟨setting, isSetting, rfl⟩ := List.mem_map.mp member
    obtain ⟨field, kept, rfl⟩ := List.mem_map.mp isSetting
    exact (plain.field field (List.mem_of_mem_filter kept)).literalEntry
  · intro line member
    obtain ⟨block, isBlock, inBlock⟩ := List.mem_flatMap.mp member
    obtain ⟨field, kept, rfl⟩ := List.mem_map.mp isBlock
    exact (plain.field field (List.mem_of_mem_filter kept)).relationLines line inBlock

theorem unwrapLines : ∀ line ∈ record.unwrapFunction.lines, Text.Unbroken line := by
  have declaration : Text.Unbroken record.unwrapFunction.declaration := by
    simp +decide [UnwrapFunction.declaration, unwrapFunction, plain.setter, plain.modelSetter,
      plain.qualifiedSetter]
  unfold UnwrapFunction.lines
  simp only [List.forall_mem_append]
  refine ⟨⟨⟨unbroken_headLines ?_ declaration (by decide), ?_⟩, ?_⟩, by decide⟩
  · simp +decide [unwrapFunction, plain.setter, plain.modelSetter, plain.qualifiedSetter]
  · simp +decide [unwrapFunction, plain.modelSetter]
  · intro line member
    obtain ⟨setting, isSetting, rfl⟩ := List.mem_map.mp member
    obtain ⟨field, kept, rfl⟩ := List.mem_map.mp isSetting
    exact (plain.field field (List.mem_of_mem_filter kept)).unwrapEntry

theorem linesOf_text : linesOf (ended record.lines) = record.lines ++ [""] := by
  refine linesOf_ended fun line member => ?_
  unfold lines at member
  rcases List.mem_append.mp member with member | member
  · split at member
    · cases member
    · exact plain.wrapLines line member
  · split at member
    · cases member
    · exact plain.unwrapLines line member

end WrappedRecord.Unbroken

section Built
variable {package models : Package} {record : WrappedRecord} {wrapped : WrappedField}

theorem unbroken_conversionFunc {value : String} (plain : Text.Unbroken value) :
    Text.Unbroken (conversionFunc value) := by
  unfold conversionFunc
  split
  · decide
  · exact plain

theorem names_of_unwrappingOf {subject : Subject} {other : Counterpart} {tag : FieldTag}
    {field : Field}
    {unwrapping : Unwrapping} (ok : unwrappingOf subject other tag field = .ok unwrapping) :
    unwrapping.func = conversionFunc (tag.value "unwrap") ∧
      (unwrapping.setterName = "" ∨ unwrappedName? field tag = some unwrapping.setterName) := by
  obtain ⟨_, rfl⟩ | ⟨_, _, _, named, _, _, rfl⟩ := unwrappingOf_cases ok
  · exact ⟨rfl, .inl rfl⟩
  · exact ⟨rfl, .inr named⟩

theorem name_of_storedAs {subject : Subject} {other : Counterpart} {tag : FieldTag} {field : Field}
    {unwrapping : Unwrapping} {stored : String × TypeDescriptor}
    (ok : storedAs subject other tag field unwrapping = .ok stored) :
    stored.1 = "" ∨ stored.1 = storageName tag field := by
  unfold storedAs at ok
  split at ok
  · obtain rfl := Except.ok.inj ok
    exact .inl rfl
  · exact .inr (storageOf_eq_ok ok).1

theorem Origin.unbroken (origin : Origin package models record wrapped) (plain : package.Unbroken)
    (modelsPlain : models.Unbroken) : wrapped.Unbroken := by
  have isField : origin.field ∈ package.recordFields :=
    Package.mem_recordFields origin.declared origin.resolved origin.isField
  have fieldPlain : Text.Unbroken origin.field.name := plain.field _ isField
  have tagPlain := FieldTag.unbroken_value (plain.tag _ isField _ origin.tagRead)
  obtain ⟨func, setterName⟩ := names_of_unwrappingOf origin.unwraps
  have getterType : Text.Unbroken origin.getterType.qualifiedName :=
    (TypeDescriptor.unbroken_of_resolve? (fun name member => plain.type name
      (Package.mem_typeNames_of_field origin.declared origin.resolved origin.isField member))
      plain.type origin.described).1
  have setter : Text.Unbroken origin.unwrapping.setterName := by
    rcases setterName with none | named
    · rw [none]
      decide
    · exact Setter.unbroken_of_fieldName? fieldPlain (tagPlain "set")
        (fieldName?_of_unwrappedName? named)
  have model : Text.Unbroken origin.stored.1 := by
    rcases name_of_storedAs origin.stores with none | named
    · rw [none]
      decide
    · rw [named]
      unfold storageName
      split
      · exact fieldPlain
      · exact tagPlain "bob"
  have relationType : Text.Unbroken origin.relationType.trueElementName := by
    have relates := origin.relates
    unfold relatedTo at relates
    split at relates
    · rw [← Except.ok.inj relates]
      decide
    · obtain ⟨relations, related, found, relatedIs, described⟩ := relationTypeOf_eq_ok relates
      obtain ⟨decl, declared, resolved⟩ := origin.modelDecl
      exact (TypeDescriptor.unbroken_of_resolve? (fun name member => modelsPlain.type name
        (Package.mem_typeNames_of_relation declared resolved found
          (findField?_eq_some relatedIs).1 member))
        modelsPlain.type described).2
  have unwrapFunc : Text.Unbroken origin.unwrapping.func := by
    rw [func]
    exact unbroken_conversionFunc (tagPlain "unwrap")
  rw [origin.wrapped_eq]
  exact {
    getter := fieldPlain
    getterType
    setter
    model
    relation := tagPlain "rel"
    relationType
    unwrapFunc
    wrapFunc := unbroken_conversionFunc (tagPlain "wrap") }

theorem unbroken_of_build {model : Model} (built : build package models = .ok model)
    (plain : package.Unbroken) (modelsPlain : models.Unbroken) (isRecord : record ∈ model.records) :
    record.Unbroken := by
  obtain ⟨⟨decl, directives⟩, annotated, made⟩ :=
    exists_left_of_mem (records_of_build built) isRecord
  have fields : ∀ field ∈ record.fields, field.Unbroken := by
    intro field isField
    obtain ⟨origin⟩ := exists_origin built isRecord isField
    exact origin.unbroken plain modelsPlain
  obtain ⟨getter, setter, options, model, _, _, setterOk, _, modelOk, _, _, rfl⟩ :=
    exists_steps_of_wrappedRecordOf made
  obtain ⟨setterDecl, setterFound, _⟩ := setterFieldsOf_eq_ok.mp setterOk
  obtain ⟨modelDecl, modelFound, _⟩ := modelFieldsOf_eq_ok.mp modelOk
  have getterPlain : Text.Unbroken decl.name :=
    plain.decl _ (DirectiveIndex.mem_annotated.mp annotated).1
  have setterPlain : Text.Unbroken (setterNameOf (.ofPackage package) decl) := by
    obtain ⟨declared, named⟩ := Package.lookup?_eq_some setterFound
    exact named ▸ plain.decl _ declared
  have modelPlain : Text.Unbroken options.modelName := by
    obtain ⟨declared, named⟩ := Package.lookup?_eq_some modelFound
    exact named ▸ modelsPlain.decl _ declared
  have qualified {name : String} (namePlain : Text.Unbroken name) :
      Text.Unbroken (qualifiedIn models package name) :=
    NamedType.unbroken_qualifiedBase namePlain fun owner same => by
      obtain rfl := Option.some.inj same
      exact plain.name
  exact {
    getter := getterPlain
    qualifiedGetter := qualified getterPlain
    setter := setterPlain
    qualifiedSetter := qualified setterPlain
    model := modelPlain
    modelSetter := unbroken_append.mpr ⟨modelPlain, by decide⟩
    field := fields }

end Built

/-! ## What the lines say -/

def declares (line : String) : Bool := "func ".toList.isPrefixOf line.toList

theorem Setting.not_declares_entry (setting : Setting) : declares setting.entry = false := by
  simp [declares, entry, List.isPrefixOf]

theorem RelationBlock.filter_declares (block : RelationBlock) :
    block.lines.filter declares = [] := by
  simp [declares, lines]

theorem filter_declares_entries (literal : List Setting) :
    (literal.map Setting.entry).filter declares = [] := by
  simp [List.filter_eq_nil_iff, Setting.not_declares_entry]

theorem WrapFunction.filter_declares (function : WrapFunction) :
    function.lines.filter declares = [function.declaration] := by
  have blocks : (function.blocks.flatMap RelationBlock.lines).filter declares = [] := by
    rw [List.filter_flatMap]
    simp [RelationBlock.filter_declares]
  unfold lines
  simp only [List.filter_append, filter_declares_entries, blocks]
  simp [headLines, declares, declaration]

theorem UnwrapFunction.filter_declares (function : UnwrapFunction) :
    function.lines.filter declares = [function.declaration] := by
  unfold lines
  simp only [List.filter_append, filter_declares_entries]
  simp [headLines, declares, declaration]

/-- The text has the functions of the record that are not turned off, and these set each field that
goes their way once and no other. -/
structure AssignsOnce (record : WrappedRecord) (text : String) : Prop where
  lines : linesOf text = (if record.noWrap = true then [] else record.wrapFunction.lines)
    ++ (if record.noUnwrap = true then [] else record.unwrapFunction.lines) ++ [""]
  declared : (linesOf text).filter declares =
    (if record.noWrap = true then [] else [record.wrapFunction.declaration])
      ++ if record.noUnwrap = true then [] else [record.unwrapFunction.declaration]
  /-- The fields in the getter's literal are those that are no relations, in order. -/
  literal : record.wrapFunction.literal.map (·.field) =
    (record.fields.filter fun field => !field.noWrap && field.relationName = "").map (·.getterName)
  /-- The relations have a block each, in order. -/
  blocks : record.wrapFunction.blocks.map (fun block => (block.relation, block.setting.field)) =
    (record.fields.filter fun field => !field.noWrap && field.relationName ≠ "").map fun field =>
      (field.relationName, field.getterName)
  once : (record.wrapFunction.literal.map (·.field)
      ++ record.wrapFunction.blocks.map (·.setting.field)).Perm
    ((record.fields.filter fun field => !field.noWrap).map (·.getterName))
  /-- The fields in the literal of the model's setter are those that are unwrapped, in order. -/
  unwraps : record.unwrapFunction.literal.map (·.field) =
    (record.fields.filter fun field => !field.noUnwrap).map (·.modelName)

namespace WrappedRecord

variable (record : WrappedRecord)

theorem fields_literal : record.wrapFunction.literal.map (·.field) =
    (record.fields.filter fun field => !field.noWrap &&
      field.relationName = "").map (·.getterName) := by
  simp only [wrapFunction, literalFields, List.map_map]
  rfl

theorem fields_blocks :
    record.wrapFunction.blocks.map (fun block => (block.relation, block.setting.field)) =
      (record.fields.filter fun field => !field.noWrap && field.relationName ≠ "").map fun field =>
        (field.relationName, field.getterName) := by
  simp only [wrapFunction, relationFields, List.map_map]
  rfl

/-- The fields that are wrapped are those in the literal and those in the blocks. -/
theorem fields_wrapped : (record.wrapFunction.literal.map (·.field)
    ++ record.wrapFunction.blocks.map (·.setting.field)).Perm
      ((record.fields.filter fun field => !field.noWrap).map (·.getterName)) := by
  have parted :=
    (List.filter_append_perm (fun field : WrappedField => decide (field.relationName = ""))
      (record.fields.filter fun field => !field.noWrap)).map (·.getterName)
  simp only [List.map_append, List.filter_filter] at parted
  simpa [wrapFunction, literalFields, relationFields, List.map_map, Function.comp_def,
    WrappedField.literalSetting, WrappedField.relationBlock, Bool.and_comm] using parted

/-- A field that is unwrapped is stored, so none is left out for want of a name. -/
theorem fields_unwrapped
    (stored : ∀ field ∈ record.fields, field.noUnwrap = false → field.modelName ≠ "") :
    record.unwrapFunction.literal.map (·.field) =
      (record.fields.filter fun field => !field.noUnwrap).map (·.modelName) := by
  have kept : record.unwrapFields = record.fields.filter fun field => !field.noUnwrap := by
    refine List.filter_congr fun field isField => ?_
    cases off : field.noUnwrap with
    | true => rfl
    | false => simp [stored field isField off]
  simp only [unwrapFunction, kept, List.map_map]
  rfl

theorem filter_declares_lines : record.lines.filter declares =
    (if record.noWrap = true then [] else [record.wrapFunction.declaration])
      ++ if record.noUnwrap = true then [] else [record.unwrapFunction.declaration] := by
  unfold lines
  rw [List.filter_append]
  congr 1
  · split
    · rfl
    · exact record.wrapFunction.filter_declares
  · split
    · rfl
    · exact record.unwrapFunction.filter_declares

end WrappedRecord

end Wrapper

/-- A built model is rendered record by record, and the text of each record sets its fields once. -/
theorem fields_assigned_once {package models : Package} {model : Wrapper.Model}
    (named : package.FieldsNamed) (plain : package.Unbroken) (modelsPlain : models.Unbroken)
    (built : Wrapper.build package models = .ok model) :
    ∃ texts, Template.render "bob.go.tera" model.toJson =
        .ok (ended model.headLines ++ String.join texts ++ Template.wrapSliceFunction) ∧
      List.Forall₂ Wrapper.AssignsOnce model.records texts := by
  refine ⟨model.records.map fun record => ended record.lines, ?_, ?_⟩
  · rw [model.render_eq_ended, ended_flatMap]
  rw [List.forall₂_map_right_iff, List.forall₂_same]
  intro record isRecord
  have lines := (Wrapper.unbroken_of_build built plain modelsPlain isRecord).linesOf_text
  have stored : ∀ field ∈ record.fields, field.noUnwrap = false → field.modelName ≠ "" := by
    intro field isField enabled
    obtain ⟨origin⟩ := Wrapper.exists_origin built isRecord isField
    have matched := Wrapper.matched_of_wrappedFieldOf
      (named _ origin.declared _ origin.resolved _ origin.isField) origin.isField origin.converted
        origin.isAdded
    exact (matched.unwrapped enabled).2.2
  refine ⟨lines, ?_, record.fields_literal, record.fields_blocks, record.fields_wrapped,
    record.fields_unwrapped stored⟩
  rw [lines, List.filter_append, record.filter_declares_lines]
  exact List.append_nil _

/-- A renamed field, and a relation with a function that wraps it. -/
theorem fields_assigned_once_widget :
    let package : Package := ⟨"shop", "example.com/shop",
      [⟨"shop.go", [⟨[⟨"//repogen:bob", 2⟩]⟩]⟩],
      [⟨"Widget", ⟨"shop.go", 3, 6⟩, .struct [
          ⟨"Name", .basic .string, "repogen:\"bob:'Title'\"", false⟩,
          ⟨"Owner", .pointer (.basic .string),
            "repogen:\"bob:'OwnerID' rel:'User' unwrap:'-' wrap:'owner'\"", false⟩]⟩,
        ⟨"WidgetSetter", ⟨"setter.go", 9, 6⟩, .struct [⟨"Name", .basic .string, "", false⟩]⟩]⟩
    let models : Package := ⟨"models", "example.com/models", [],
      [⟨"Widget", ⟨"models.go", 3, 6⟩, .struct [⟨"Title", .basic .string, "", false⟩,
        ⟨"OwnerID", .basic .int, "", false⟩,
        ⟨"R", .struct [⟨"User", .pointer (.basic .string), "", false⟩], "", false⟩]⟩]⟩
    package.FieldsNamed ∧ package.Unbroken ∧ models.Unbroken ∧
    ∃ model texts, Wrapper.build package models = .ok model ∧
      Template.render "bob.go.tera" model.toJson =
        .ok (ended model.headLines ++ String.join texts ++ Template.wrapSliceFunction) ∧
      List.Forall₂ Wrapper.AssignsOnce model.records texts ∧
      model.records.map (fun record => (record.wrapFunction.literal, record.wrapFunction.blocks,
        record.unwrapFunction.literal)) =
        [([⟨"Name", "m.Title"⟩], [⟨"User", "Owner", "owner(m.R.User)"⟩],
          [⟨"Title", "s.Name"⟩])] := by
  intro package models
  have named : package.FieldsNamed := by
    intro decl declared fields is field isField
    have nonempty : ∀ field ∈ package.recordFields, field.name ≠ "" := by decide +kernel
    exact nonempty field (Package.mem_recordFields declared is isField)
  have plain : package.Unbroken :=
    ⟨by decide, by decide, by decide +kernel, by decide +kernel, by decide +kernel⟩
  have modelsPlain : models.Unbroken :=
    ⟨by decide, by decide, by decide +kernel, by decide +kernel, by decide +kernel⟩
  have assigned : (Wrapper.build package models).map (fun model => model.records.map fun record =>
      (record.wrapFunction.literal, record.wrapFunction.blocks, record.unwrapFunction.literal)) =
      .ok [([⟨"Name", "m.Title"⟩], [⟨"User", "Owner", "owner(m.R.User)"⟩],
        [⟨"Title", "s.Name"⟩])] := by
    decide +kernel
  obtain ⟨model, built, settings⟩ := Checked.map_eq_ok.mp assigned
  obtain ⟨texts, rendered, each⟩ := fields_assigned_once named plain modelsPlain built
  exact ⟨named, plain, modelsPlain, model, texts, built, rendered, each, settings⟩

end Scaffold
