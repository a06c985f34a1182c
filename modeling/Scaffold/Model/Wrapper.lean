import Scaffold.Model.Setter

/-!
# Model wrappers

Wrappers convert between the records of a package, which have getters and setters, and the models
that an object-relational mapper generated into another package.  For each annotated record the
model says which functions are printed and how each field is converted:

* `bob` renames the field of the model, or skips the field when it is a hyphen;
* `wrap` and `unwrap` name conversion functions, or turn one direction off when they are hyphens; a
  field with both directions off is skipped;
* `set` renames the field of the setter, as in the setter itself;
* `rel` names a relation of the model.

A relation to many records is never unwrapped and has no plain field in the model.
-/

set_option autoImplicit false

namespace Scaffold.Wrapper

/-- The generator that directives for wrappers are addressed to. -/
def target : String := "bob"

structure SetterShape where
  type : String
  /-- The element of a slice, or what a pointer points to. -/
  elem : String
  isNullable : Bool
  isArray : Bool
  deriving DecidableEq, Repr, Inhabited

namespace SetterShape

def blank : SetterShape := ⟨"", "", false, false⟩

def ofSetterType (type : SetterType) : SetterShape :=
  ⟨type.text, type.elem, type.isPointer, type.isSlice⟩

end SetterShape

structure WrappedField where
  getterName : String
  getterType : TypeDescriptor
  /-- The setter's field; empty when the setter does not have it. -/
  setterName : String
  setterType : SetterShape
  /-- The model's field; empty for a relation to many records. -/
  modelName : String
  modelType : TypeDescriptor
  /-- The relation; empty when the field is none. -/
  relationName : String
  relationType : TypeDescriptor
  noUnwrap : Bool
  noWrap : Bool
  /-- The function applied on the way into the model; empty for none. -/
  unwrapFunc : String
  /-- The function applied on the way out of the model; empty for none. -/
  wrapFunc : String
  deriving DecidableEq, Repr, Inhabited

structure WrappedRecord where
  getterName : String
  qualifiedGetterName : String
  setterName : String
  qualifiedSetterName : String
  modelName : String
  modelSetterName : String
  noUnwrap : Bool
  noWrap : Bool
  fields : List WrappedField
  deriving DecidableEq, Repr, Inhabited

structure Model where
  modelsPackage : String
  repoPackage : String
  repoPath : String
  records : List WrappedRecord
  deriving DecidableEq, Repr, Inhabited

/-! ## Fields -/

structure Counterpart where
  package : Package
  models : Package
  setter : List Field
  model : List Field

structure Unwrapping where
  setterName : String
  setterType : SetterShape
  disabled : Bool
  func : String
  deriving DecidableEq, Repr, Inhabited

def isSkipped (tag : FieldTag) : Bool :=
  tag.value "bob" = "-" || (tag.value "wrap" = "-" && tag.value "unwrap" = "-")

/-- The name that a field is set under, if it is unwrapped at all. -/
def unwrappedName? (field : Field) (tag : FieldTag) : Option String :=
  if tag.value "unwrap" = "-" then none else Setter.fieldName? field.name (tag.value "set")

/-- The conversion function that a tag value names; a hyphen names none. -/
def conversionFunc (value : String) : String := if value = "-" then "" else value

/-- How a field is unwrapped.  Its setter field has to exist; a relation to many records turns out
to be not unwrapped only by its setter type. -/
def unwrappingOf (subject : Subject) (other : Counterpart) (tag : FieldTag) (field : Field) :
    Except Diagnostic Unwrapping :=
  let func := conversionFunc (tag.value "unwrap")
  match unwrappedName? field tag with
  | none => .ok ⟨"", .blank, true, func⟩
  | some name => do
    let _ ← subject.expect (.noSetterField field.name name) (findField? other.setter name)
    let type ← subject.expect (.unprintableSetting field.name)
      (SetterType.select? other.models.path other.package.reference tag field.type)
    return ⟨name, .ofSetterType type, type.isSlice && tag.value "rel" ≠ "", func⟩

/-- The field of the model that a field is stored in: its name and its type. -/
def storageOf (subject : Subject) (other : Counterpart) (tag : FieldTag) (field : Field) :
    Except Diagnostic (String × TypeDescriptor) := do
  let name := if tag.value "bob" = "" then field.name else tag.value "bob"
  let stored ← subject.expect (.noModelField field.name name) (findField? other.model name)
  let type ← subject.expect (.unprintableModelField field.name name)
    (TypeDescriptor.resolveLocal? other.models stored.type)
  return (name, type)

/-- The type of the model's relation that a field stands for. -/
def relationTypeOf (subject : Subject) (other : Counterpart) (field : Field) (name : String) :
    Except Diagnostic TypeDescriptor := do
  let related ← subject.relation (relationsOf other.models other.model) field.name name
  subject.expect (.unprintableRelation field.name name)
    (TypeDescriptor.resolveLocal? other.models related.type)

/-- How a field of the getter is converted, unless it is skipped. -/
def wrappedFieldOf (subject : Subject) (other : Counterpart) (field : Field) :
    Except Diagnostic (List WrappedField) := do
  let tag ← subject.tagOf field
  if isSkipped tag then return []
  else
    let getterType ← subject.expect (.unprintableField field.name)
      (TypeDescriptor.resolve? other.models.path other.package field.type)
    let unwrapping ← unwrappingOf subject other tag field
    let relation := tag.value "rel"
    let (modelName, modelType) ←
      if unwrapping.setterType.isArray && relation ≠ "" then pure ("", .blank)
      else storageOf subject other tag field
    let relationType ←
      if relation = "" then pure .blank else relationTypeOf subject other field relation
    return [{
      getterName := field.name
      getterType
      setterName := unwrapping.setterName
      setterType := unwrapping.setterType
      modelName
      modelType
      relationName := relation
      relationType
      noUnwrap := unwrapping.disabled
      noWrap := tag.value "wrap" = "-"
      unwrapFunc := unwrapping.func
      wrapFunc := conversionFunc (tag.value "wrap") }]

/-! ## Records -/

/-- What the directives of a record say: the model's name and which directions are off. -/
structure Options where
  modelName : String
  noUnwrap : Bool
  noWrap : Bool
  deriving DecidableEq, Repr, Inhabited

def enableConversion (subject : Subject) (options : Options) (word : String) :
    Except Diagnostic Options :=
  match word with
  | "unwrap" => .ok { options with noUnwrap := false }
  | "wrap" => .ok { options with noWrap := false }
  | _ => subject.fail (.unknownConversion word)

def applyDirective (subject : Subject) (options : Options) (d : Directive) :
    Except Diagnostic Options :=
  match d.topic with
  | "" => .ok (if d.args = "" then options else { options with modelName := d.args })
  | "ops" =>
    d.words.foldlM (enableConversion subject) { options with noUnwrap := true, noWrap := true }
  | topic => subject.fail (.unknownTopic topic)

/-- The name of a record's setter: what the last bare setter directive says, else the default. -/
def setterNameOf (index : DirectiveIndex) (decl : TypeDecl) : String :=
  match (index.directives decl Setter.target).reverse.find? Directive.isPrimary with
  | some d => if d.args = "" then Setter.defaultName decl.name else d.args
  | none => Setter.defaultName decl.name

def setterFieldsOf (subject : Subject) (package : Package) (name : String) :
    Except Diagnostic (List Field) := do
  let decl ← subject.expect (.noSetter name) (package.lookup? name)
  match package.baseType decl.type with
  | .struct fields => return fields
  | _ => Subject.fail ⟨target, decl⟩ .setterNotStruct

def modelFieldsOf (subject : Subject) (models : Package) (name : String) :
    Except Diagnostic (List Field) := do
  let decl ← subject.expect (.noModel name) (models.lookup? name)
  match models.baseType decl.type with
  | .struct fields => return fields
  | _ => subject.fail (.modelNotStruct models.name name)

/-- The name of a declaration of `package` as the models package writes it. -/
def qualifiedIn (models package : Package) (name : String) : String :=
  NamedType.qualifiedBase models.path (some package.reference) name

def wrappedRecordOf (index : DirectiveIndex) (models : Package) (decl : TypeDecl)
    (directives : List Directive) : Except Diagnostic WrappedRecord := do
  let subject : Subject := ⟨target, decl⟩
  let package := index.package
  let getter ← subject.record package
  let setterName := setterNameOf index decl
  let setter ← setterFieldsOf subject package setterName
  let options ← directives.foldlM (applyDirective subject) ⟨decl.name, false, false⟩
  let model ← modelFieldsOf subject models options.modelName
  let fields ← getter.mapM (wrappedFieldOf subject ⟨package, models, setter, model⟩)
  if fields.flatten.isEmpty then subject.fail .noWrappedField
  else
    return {
      getterName := decl.name
      qualifiedGetterName := qualifiedIn models package decl.name
      setterName
      qualifiedSetterName := qualifiedIn models package setterName
      modelName := options.modelName
      modelSetterName := Setter.defaultName options.modelName
      noUnwrap := options.noUnwrap
      noWrap := options.noWrap
      fields := fields.flatten }

def build (package models : Package) : Except Diagnostic Model := do
  let index := DirectiveIndex.ofPackage package
  let records ← (index.annotated target).mapM fun (decl, directives) =>
    wrappedRecordOf index models decl directives
  return ⟨models.name, package.name, package.path, records⟩

/-! ## Models packages -/

def modelsTopic : String := "models"

/-- Each directive that names a models package: where it stands and the directory it names. -/
def modelsDirectives (package : Package) : List (Position × String) :=
  (package.directives target modelsTopic).map fun (pos, d) => (pos, d.args)

/-! ## The model as template data -/

end Wrapper

def TypeDescriptor.toJson (type : TypeDescriptor) : Json :=
  .object [
    ("qualified_name", .string type.qualifiedName),
    ("element_qualified_name", .string type.elementName),
    ("true_element_qualified_name", .string type.trueElementName),
    ("is_nullable", .bool type.isNullable),
    ("is_array", .bool type.isArray)]

namespace Wrapper

def SetterShape.toJson (shape : SetterShape) : Json :=
  .object [
    ("type", .string shape.type),
    ("elem", .string shape.elem),
    ("is_nullable", .bool shape.isNullable),
    ("is_array", .bool shape.isArray)]

def WrappedField.toJson (field : WrappedField) : Json :=
  .object [
    ("getter_name", .string field.getterName),
    ("getter_type", field.getterType.toJson),
    ("setter_name", .string field.setterName),
    ("setter_type", field.setterType.toJson),
    ("models_name", .string field.modelName),
    ("models_type", field.modelType.toJson),
    ("rel_name", .string field.relationName),
    ("rel_type", field.relationType.toJson),
    ("no_unwrap", .bool field.noUnwrap),
    ("no_wrap", .bool field.noWrap),
    ("unwrap_func", .string field.unwrapFunc),
    ("wrap_func", .string field.wrapFunc)]

def WrappedRecord.toJson (entry : WrappedRecord) : Json :=
  .object [
    ("getter_name", .string entry.getterName),
    ("qual_getter_name", .string entry.qualifiedGetterName),
    ("setter_name", .string entry.setterName),
    ("qual_setter_name", .string entry.qualifiedSetterName),
    ("models_getter_name", .string entry.modelName),
    ("models_setter_name", .string entry.modelSetterName),
    ("no_unwrap", .bool entry.noUnwrap),
    ("no_wrap", .bool entry.noWrap),
    ("fields", .array (entry.fields.map WrappedField.toJson))]

def Model.toJson (model : Model) : Json :=
  .object [
    ("models_package", .string model.modelsPackage),
    ("repo_package", .string model.repoPackage),
    ("repo_path", .string model.repoPath),
    ("entities", .array (model.records.map WrappedRecord.toJson))]

end Wrapper

end Scaffold
