import Scaffold.Template

/-!
# The templates of the generated files

One template per model, by name, and rendering by name with the causes for which it fails.
-/

set_option autoImplicit false

namespace Scaffold.Template

def banner : Piece := .text "// Code generated by repogen. DO NOT EDIT.\n\npackage "

/-! ## Repositories -/

/-- `name Type` of the current key. -/
def keyParameter : List Piece := [.value ["pk", "name"], .text " ", .value ["pk", "type"]]

def keyParameters : Piece :=
  .each "pk" ["e", "pks"]
    (keyParameter ++ [.choice (.not (.holds ["loop", "last"])) [.text ", "] []])

def actorParameter (name member : String) : Piece :=
  .when (.holds ["e", member]) [.text (", " ++ name ++ " "), .value ["e", member]]

def linesOf (list : Path) : Piece := .each "line" list [.text "\n\t", .value ["line"]]

def createMethod : Piece := .when (.holds ["e", "create"]) [
  .text "\n\tCreate", .value ["e", "singular"], .text "(ctx context.Context, s *",
  .value ["e", "singular"], .text "Setter", actorParameter "createdBy" "created_by_type",
  .text ") (*", .value ["e", "singular"], .text ", error)"]

def getMethod : Piece := .when (.holds ["e", "get"]) [
  .text "\n\t", .value ["e", "singular"], .text "(ctx context.Context, ", keyParameters,
  .text ") (*", .value ["e", "singular"], .text ", error)"]

def searchMethod : Piece := .when (.holds ["e", "search"]) [
  .text "\n\tSearch", .value ["e", "plural"], .text "(ctx context.Context, data ",
  .value ["e", "search_type"], .text ") ([]*", .value ["e", "singular"], .text ", int, error)"]

def editMethod : Piece := .when (.holds ["e", "edit"]) [
  .text "\n\tEdit", .value ["e", "singular"], .text "(ctx context.Context, ",
  .each "pk" ["e", "pks"] (keyParameter ++ [.text ", "]), .text "s *", .value ["e", "singular"],
  .text "Setter", actorParameter "updatedBy" "updated_by_type", .text ") (*",
  .value ["e", "singular"], .text ", error)"]

def deleteMethod : Piece := .when (.holds ["e", "delete"]) [
  .text "\n\tDelete", .value ["e", "singular"], .text "(ctx context.Context, ", keyParameters,
  actorParameter "deletedBy" "deleted_by_type", .text ") error"]

def repositoryTemplate : List Piece := [
  banner, .value ["package"],
  .text "\n\nimport \"context\"\n\ntype Repository interface \x7b",
  linesOf ["base"],
  .each "e" ["entities"] [.text "\n\t", .value ["e", "repository"]],
  linesOf ["extra"],
  .text "\n\x7d\n",
  .each "e" ["entities"] [
    .text "\ntype ", .value ["e", "repository"], .text " interface \x7b",
    createMethod, getMethod, searchMethod, editMethod, deleteMethod,
    linesOf ["e", "extra"],
    .text "\n\x7d\n"]]

/-! ## Structs of optional values -/

/-- A file with one struct of optional values per entity, named by the given member. -/
def optionalStructs (nameMember : String) : List Piece := [
  banner, .value ["package"],
  .text
    "\n\nimport (\n\t\"github.com/aarondl/opt/omit\"\n\t\"github.com/aarondl/opt/omitnull\"\n)\n",
  .text "\nvar (\n\t_ omit.Val[int]\n\t_ omitnull.Val[int]\n)\n",
  .each "e" ["entities"] [
    .text "\ntype ", .value ["e", nameMember], .text " struct \x7b",
    .each "f" ["e", "fields"] [
      .text "\n\t", .value ["f", "name"], .text " ", .value ["f", "type"]],
    .text "\n\x7d\n"]]

def criteriaTemplate : List Piece := optionalStructs "search_type"

def setterTemplate : List Piece := optionalStructs "setter_type"

/-! ## Identifier parsers -/

def parseLine (function : String) : List Piece := [
  .text ("\n\tv, err := strconv." ++ function ++ "(s, 10, "), .value ["id", "bits"], .text ")"]

def idParserTemplate : List Piece := [
  banner, .value ["package"], .text "\n\nimport \"strconv\"\n",
  .each "id" ["ids"] [
    .text "\nfunc ", .value ["id", "func_name"], .text "(s string) (", .value ["id", "type"],
    .text ", error) \x7b",
    .choice (.holds ["id", "signed"]) (parseLine "ParseInt") (parseLine "ParseUint"),
    .text "\n\tif err != nil \x7b\n\t\treturn 0, err\n\t\x7d\n\n\treturn ", .value ["id", "type"],
    .text "(v), nil\n\x7d\n"]]

/-! ## Wrappers -/

/-- The start of a line that sets a field of the getter in its literal. -/
def getterKey : List Piece := [.text "\n\t\t", .value ["f", "getter_name"], .text ": "]

def modelField : List Piece := [.text "m.", .value ["f", "models_name"]]

/-- The line of the getter's literal for a field that is no relation. -/
def literalLine : Piece :=
  .choice (.holds ["f", "wrap_func"])
    (getterKey ++ [.value ["f", "wrap_func"], .text "("] ++ modelField ++ [.text "),"])
    [.choice
      (.both (.holds ["f", "models_type", "is_nullable"])
        (.not (.beginsWith ["f", "models_type", "qualified_name"] "*")))
      [.choice (.holds ["f", "getter_type", "is_nullable"])
        (getterKey ++ modelField ++ [.text ".Ptr(),"])
        (getterKey ++ modelField ++ [.text ".GetOrZero(),"])]
      [.choice
        (.differ ["f", "getter_type", "qualified_name"] ["f", "models_type", "qualified_name"])
        (getterKey ++ [.value ["f", "getter_type", "qualified_name"], .text "("] ++ modelField
          ++ [.text "),"])
        (getterKey ++ modelField ++ [.text ","])]]

/-- The start of a line that sets a field of the getter from a relation. -/
def relationTarget : List Piece := [.text "\n\t\tg.", .value ["f", "getter_name"], .text " = "]

def modelRelation : List Piece := [.text "m.R.", .value ["f", "rel_name"]]

/-- The block that sets a field from a relation, when that is loaded. -/
def relationBlock : List Piece :=
  [.text "\n\n\tif m.R != nil && "] ++ modelRelation ++ [.text " != nil \x7b",
    .choice (.holds ["f", "wrap_func"])
      (relationTarget ++ [.value ["f", "wrap_func"], .text "("] ++ modelRelation ++ [.text ")"])
      [.choice (.holds ["f", "rel_type", "is_array"])
        (relationTarget ++ [.text "wrapSlice("] ++ modelRelation
          ++ [.text ", Wrap", .value ["f", "rel_type", "true_element_qualified_name"], .text ")"])
        (relationTarget
          ++ [.text "Wrap", .value ["f", "rel_type", "true_element_qualified_name"], .text "("]
          ++ modelRelation ++ [.text ")"])],
    .text "\n\t\x7d"]

/-- The fields that are wrapped and are no relations, or are relations. -/
def wrapsAs (relation : Bool) : Condition :=
  .both (.not (.holds ["f", "no_wrap"]))
    (if relation then .holds ["f", "rel_name"] else .not (.holds ["f", "rel_name"]))

def wrapFunction : List Piece := [
  .text "\n// Wrap", .value ["e", "getter_name"], .text " converts a ",
  .value ["e", "models_getter_name"], .text " model into a ", .value ["e", "qual_getter_name"],
  .text ".\nfunc Wrap", .value ["e", "getter_name"], .text "(m *",
  .value ["e", "models_getter_name"], .text ") *", .value ["e", "qual_getter_name"],
  .text " \x7b\n\tif m == nil \x7b\n\t\treturn nil\n\t\x7d\n\n\tg := &",
  .value ["e", "qual_getter_name"], .text "\x7b",
  .each "f" ["e", "fields"] [.when (wrapsAs false) [literalLine]],
  .text "\n\t\x7d",
  .each "f" ["e", "fields"] [.when (wrapsAs true) relationBlock],
  .text "\n\n\treturn g\n\x7d\n"]

def unwrapLine : Piece :=
  .choice (.holds ["f", "unwrap_func"])
    [.text "\n\t\t", .value ["f", "models_name"], .text ": ", .value ["f", "unwrap_func"],
      .text "(s.", .value ["f", "setter_name"], .text "),"]
    [.text "\n\t\t", .value ["f", "models_name"], .text ": s.", .value ["f", "setter_name"],
      .text ","]

def unwrapFunction : List Piece := [
  .text "\n// Unwrap", .value ["e", "setter_name"], .text " converts a ",
  .value ["e", "qual_setter_name"], .text " into a ", .value ["e", "models_setter_name"],
  .text ".\nfunc Unwrap", .value ["e", "setter_name"], .text "(s *",
  .value ["e", "qual_setter_name"], .text ") *", .value ["e", "models_setter_name"],
  .text " \x7b\n\tif s == nil \x7b\n\t\treturn nil\n\t\x7d\n\n\treturn &",
  .value ["e", "models_setter_name"], .text "\x7b",
  .each "f" ["e", "fields"] [
    .when (.both (.not (.holds ["f", "no_unwrap"])) (.holds ["f", "models_name"])) [unwrapLine]],
  .text "\n\t\x7d\n\x7d\n"]

def wrapSliceFunction : String :=
  "\nfunc wrapSlice[T, U any](s []T, wrap func(T) U) []U \x7b\n\tif s == nil \x7b\n\t\treturn nil\n\t\x7d\n\n"
    ++ "\tout := make([]U, len(s))\n\tfor i, v := range s \x7b\n\t\tout[i] = wrap(v)\n\t\x7d\n\n"
    ++ "\treturn out\n\x7d\n"

def wrapperTemplate : List Piece := [
  banner, .value ["models_package"], .text "\n\nimport (\n\t", .value ["repo_package"],
  .text " \"", .value ["repo_path"], .text "\"\n)\n",
  .each "e" ["entities"] [
    .when (.not (.holds ["e", "no_wrap"])) wrapFunction,
    .when (.not (.holds ["e", "no_unwrap"])) unwrapFunction],
  .text wrapSliceFunction]

/-! ## Rendering by name -/

def catalog : List (String × List Piece) := [
  ("crud.go.tera", repositoryTemplate),
  ("search.go.tera", criteriaTemplate),
  ("setter.go.tera", setterTemplate),
  ("parse_id.go.tera", idParserTemplate),
  ("bob.go.tera", wrapperTemplate)]

inductive RenderCause where
  | noObject
  | noTemplate
  /-- A value that the template needs is missing or of the wrong kind. -/
  | missingValue
  deriving DecidableEq, Repr, Inhabited

structure RenderFailure where
  template : String
  cause : RenderCause
  deriving DecidableEq, Repr, Inhabited

namespace RenderFailure

def message (failure : RenderFailure) : String :=
  let name := failure.template
  "template " ++ name ++ ": " ++
    match failure.cause with
    | .noObject => "Creating a Context from a Value/Serialize requires it being a JSON object"
    | .noTemplate => "Template '" ++ name ++ "' not found"
    | .missingValue => "Failed to render '" ++ name ++ "'"

end RenderFailure

/-- Renders the template of a given name with the members of an object as variables. -/
def render (name : String) (data : Json) : Except RenderFailure String :=
  match data with
  | .object scope =>
    match catalog.lookup name with
    | none => .error ⟨name, .noTemplate⟩
    | some pieces =>
      match renderAll scope pieces with
      | some text => .ok text
      | none => .error ⟨name, .missingValue⟩
  | _ => .error ⟨name, .noObject⟩

end Scaffold.Template
