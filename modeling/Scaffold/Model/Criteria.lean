import Scaffold.Model.Annotated
import Scaffold.Json

/-!
# Search criteria

The model of one struct of search criteria per annotated record.  A field takes part when its tag
has the key `search`: with an empty value under its own name, with `range` as a pair of bounds named
after the field, with `range A B` as a pair with these names.  Extra criteria from directives come
first.
-/

set_option autoImplicit false

namespace Scaffold.Criteria

/-- The generator that directives for search criteria are addressed to. -/
def target : String := "search"

/-- One criterion; the relation is empty when it searches the record itself. -/
structure Criterion where
  name : String
  type : String
  relation : String
  deriving DecidableEq, Repr, Inhabited

structure CriteriaType where
  name : String
  fields : List Criterion
  deriving DecidableEq, Repr, Inhabited

structure Model where
  package : String
  types : List CriteriaType
  deriving DecidableEq, Repr, Inhabited

def applyDirective (subject : Subject) (entry : CriteriaType) (d : Directive) :
    Except Diagnostic CriteriaType :=
  match d.topic with
  | "" => .ok (if d.args = "" then entry else { entry with name := d.args })
  | "extra" =>
    let (name, type) := splitExtra d.args
    .ok { entry with fields := entry.fields ++ [⟨name, type, ""⟩] }
  | topic => subject.fail (.unknownTopic topic)

def optionType? (viewer : String) (type : GoType) : Option String :=
  (type.pointee? viewer).map fun pointee =>
    (if pointee.isPointer then "omitnull.Val[" else "omit.Val[") ++ pointee.name ++ "]"

def criterionNames (subject : Subject) (fieldName search : String) :
    Except Diagnostic (List String) :=
  match Text.splitSpaces search with
  | [""] => .ok [fieldName]
  | ["range"] => .ok [fieldName ++ "From", fieldName ++ "Until"]
  | ["range", first, last] => .ok [first, last]
  | "range" :: _ => subject.fail (.rangeNames fieldName)
  | _ => subject.fail (.unknownSearch fieldName search)

def criteriaOf (subject : Subject) (viewer : String) (relations : Option (List Field))
    (field : Field) : Except Diagnostic (List Criterion) := do
  let tag ← subject.tagOf field
  match tag.get? "search" with
  | none => return []
  | some search =>
    let type ← subject.expect (.unprintableCriterion field.name) (optionType? viewer field.type)
    let relation := tag.value "rel"
    if relation ≠ "" then
      let _ ← subject.relation relations field.name relation
    let names ← criterionNames subject field.name search
    return names.map fun name => ⟨name, type, relation⟩

def criteriaTypeOf (index : DirectiveIndex) (decl : TypeDecl) (directives : List Directive) :
    Except Diagnostic CriteriaType := do
  let subject : Subject := ⟨target, decl⟩
  let package := index.package
  let record ← subject.record package
  let entry ← directives.foldlM (applyDirective subject) ⟨decl.name ++ "SearchData", []⟩
  let fields ← record.mapM (criteriaOf subject package.path (relationsOf package record))
  let entry := { entry with fields := entry.fields ++ fields.flatten }
  if entry.fields.isEmpty then subject.fail .noCriterion else return entry

def build (package : Package) : Except Diagnostic Model := do
  let index := DirectiveIndex.ofPackage package
  let types ← (index.annotated target).mapM fun (decl, directives) =>
    criteriaTypeOf index decl directives
  return ⟨package.name, types⟩

/-! ## The model as template data -/

def Criterion.toJson (field : Criterion) : Json :=
  .object [("name", .string field.name), ("type", .string field.type),
    ("rel", .string field.relation)]

def CriteriaType.toJson (entry : CriteriaType) : Json :=
  .object [("search_type", .string entry.name),
    ("fields", .array (entry.fields.map Criterion.toJson))]

def Model.toJson (model : Model) : Json :=
  .object [("package", .string model.package),
    ("entities", .array (model.types.map CriteriaType.toJson))]

end Scaffold.Criteria
