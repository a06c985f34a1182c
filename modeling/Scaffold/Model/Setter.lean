import Scaffold.Model.Annotated
import Scaffold.SetterType
import Scaffold.Json

/-!
# Setters

The model of one setter struct per annotated record, with an optional value for each field that may
be set.  The tag `set` renames a field, or leaves it out when it is a hyphen; fields that record who
changed an entity are left out unless they are renamed.  Extra fields from directives come last.
-/

set_option autoImplicit false

namespace Scaffold.Setter

/-- The generator that directives for setters are addressed to. -/
def target : String := "setter"

structure SetterField where
  name : String
  type : String
  deriving DecidableEq, Repr, Inhabited

structure SetterStruct where
  name : String
  fields : List SetterField
  deriving DecidableEq, Repr, Inhabited

structure Model where
  package : String
  setters : List SetterStruct
  deriving DecidableEq, Repr, Inhabited

/-- The name that a field has in the setter, given the value of its tag `set`; none when the field
is not set. -/
def fieldName? (field set : String) : Option String :=
  if set = "" then if isAuditField field then none else some field
  else if set = "-" then none
  else some set

/-- Reads one directive into a setter that so far holds only extra fields. -/
def applyDirective (subject : Subject) (entry : SetterStruct) (d : Directive) :
    Except Diagnostic SetterStruct :=
  match d.topic with
  | "" => .ok (if d.args = "" then entry else { entry with name := d.args })
  | "extra" =>
    let (name, type) := splitExtra d.args
    .ok { entry with fields := entry.fields ++ [⟨name, type⟩] }
  | topic => subject.fail (.unknownTopic topic)

def setterFieldOf (subject : Subject) (package : Package) (field : Field) :
    Except Diagnostic (List SetterField) := do
  let tag ← subject.tagOf field
  match fieldName? field.name (tag.value "set") with
  | none => return []
  | some name =>
    let type ← subject.expect (.unprintableSetting field.name)
      (SetterType.select? package.path package.reference tag field.type)
    return [⟨name, type.optionType⟩]

def defaultName (name : String) : String := name ++ "Setter"

def setterOf (index : DirectiveIndex) (decl : TypeDecl) (directives : List Directive) :
    Except Diagnostic SetterStruct := do
  let subject : Subject := ⟨target, decl⟩
  let record ← subject.record index.package
  let extra ← directives.foldlM (applyDirective subject) ⟨defaultName decl.name, []⟩
  let fields ← record.mapM (setterFieldOf subject index.package)
  let entry := { extra with fields := fields.flatten ++ extra.fields }
  if entry.fields.isEmpty then subject.fail .noSetting else return entry

def build (package : Package) : Except Diagnostic Model := do
  let index := DirectiveIndex.ofPackage package
  let setters ← (index.annotated target).mapM fun (decl, directives) =>
    setterOf index decl directives
  return ⟨package.name, setters⟩

/-! ## The model as template data -/

def SetterField.toJson (field : SetterField) : Json :=
  .object [("name", .string field.name), ("type", .string field.type)]

def SetterStruct.toJson (entry : SetterStruct) : Json :=
  .object [("setter_type", .string entry.name),
    ("fields", .array (entry.fields.map SetterField.toJson))]

def Model.toJson (model : Model) : Json :=
  .object [("package", .string model.package),
    ("entities", .array (model.setters.map SetterStruct.toJson))]

end Scaffold.Setter
