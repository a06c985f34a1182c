import Scaffold.Model.Annotated
import Scaffold.Text.CamelCase
import Scaffold.Json

/-!
# Repository interfaces

The model of one repository interface per annotated record: which operations it has, the parameters
that identify an entity, the types that say who acts, and extra methods.  `Repository.build` reads
the directives

    //repogen:crud [create] [get] [search] [edit] [delete] //repogen:crud:extra <method>
    //repogen:crud:search <type> //repogen:crud:repository <name>  //repogen:crud:plural <name>
    //repogen:crud:*by <type>  and createdby, updatedby, deletedby alone //repogen:plural <name>

and, for the package as a whole, `repo:extra` and `repo:base`.
-/

set_option autoImplicit false

namespace Scaffold.Repository

/-- The generator that directives for repositories are addressed to. -/
def target : String := "crud"

inductive Operation where
  | create
  | get
  | search
  | edit
  | delete
  deriving DecidableEq, Repr, Inhabited

namespace Operation

def all : List Operation := [create, get, search, edit, delete]

def name : Operation → String
  | create => "create"
  | get => "get"
  | search => "search"
  | edit => "edit"
  | delete => "delete"

def ofName? (name : String) : Option Operation := all.find? (fun op => op.name = name)

end Operation

structure Operations where
  create : Bool
  get : Bool
  search : Bool
  edit : Bool
  delete : Bool
  deriving DecidableEq, Repr, Inhabited

namespace Operations

def none : Operations := ⟨false, false, false, false, false⟩

def all : Operations := ⟨true, true, true, true, true⟩

def enable (ops : Operations) : Operation → Operations
  | .create => { ops with create := true }
  | .get => { ops with get := true }
  | .search => { ops with search := true }
  | .edit => { ops with edit := true }
  | .delete => { ops with delete := true }

def has (ops : Operations) : Operation → Bool
  | .create => ops.create
  | .get => ops.get
  | .search => ops.search
  | .edit => ops.edit
  | .delete => ops.delete

end Operations

structure Key where
  name : String
  type : String
  deriving DecidableEq, Repr, Inhabited

structure Interface where
  repository : String
  singular : String
  plural : String
  operations : Operations
  /-- Who creates an entity; empty when that is not recorded, as for the next two. -/
  createdBy : String
  updatedBy : String
  deletedBy : String
  extra : List String
  searchType : String
  keys : List Key
  deriving DecidableEq, Repr, Inhabited

/-- The interfaces of a package and the extra lines of the interface that joins them. -/
structure Model where
  package : String
  interfaces : List Interface
  extra : List String
  base : List String
  deriving DecidableEq, Repr, Inhabited

/-- The interface of a record before its directives are read. -/
def Interface.ofName (name plural : String) : Interface where
  repository := name ++ "Repository"
  singular := name
  plural := plural
  operations := .none
  createdBy := ""
  updatedBy := ""
  deletedBy := ""
  extra := []
  searchType := name ++ "SearchData"
  keys := []

/-- The operations that a bare directive adds: all when it has no arguments, else those it names. -/
def enableAll (subject : Subject) (ops : Operations) (d : Directive) :
    Except Diagnostic Operations :=
  if d.args = "" then .ok .all
  else d.words.foldlM (fun ops word =>
    match Operation.ofName? word with
    | some op => .ok (ops.enable op)
    | none => subject.fail (.unknownOperation word)) ops

def applyDirective (subject : Subject) (entry : Interface) (d : Directive) :
    Except Diagnostic Interface :=
  match d.topic with
  | "" => do return { entry with operations := ← enableAll subject entry.operations d }
  | "extra" => .ok { entry with extra := entry.extra ++ [d.args] }
  | "search" => .ok { entry with searchType := d.args }
  | "repository" => .ok { entry with repository := d.args }
  | "plural" => .ok { entry with plural := d.args }
  | "*by" => .ok { entry with createdBy := d.args, updatedBy := d.args, deletedBy := d.args }
  | "createdby" => .ok { entry with createdBy := d.args }
  | "updatedby" => .ok { entry with updatedBy := d.args }
  | "deletedby" => .ok { entry with deletedBy := d.args }
  | topic => subject.fail (.unknownTopic topic)

/-- The key parameter of a field, if it is tagged as part of the key. -/
def keyOf (subject : Subject) (viewer : String) (field : Field) : Except Diagnostic (List Key) := do
  let tag ← subject.tagOf field
  if tag.contains "pk" then
    let type ← subject.expect (.unprintableKey field.name) (field.type.print? viewer)
    return [⟨Text.lowerCamel field.name, type⟩]
  else return []

def keysOf (subject : Subject) (viewer : String) (record : List Field) :
    Except Diagnostic (List Key) :=
  return (← record.mapM (keyOf subject viewer)).flatten

/-- The type of who acts, unless a directive gave it: what the field of that name is tagged with
under `unrel`, else its type; empty without such a field. -/
def actorType (subject : Subject) (viewer : String) (record : List Field)
    (given fieldName : String) :
    Except Diagnostic String :=
  if given ≠ "" then .ok given
  else match findField? record fieldName with
    | none => .ok ""
    | some field => do
      let tag ← subject.tagOf field
      if tag.value "unrel" ≠ "" then return tag.value "unrel"
      else subject.expect (.unprintableActor fieldName) (field.type.print? viewer)

/-- The plural that a stand-alone directive above the declaration gives, else the name with an s. -/
def pluralOf (index : DirectiveIndex) (decl : TypeDecl) : String :=
  match (index.directives decl "plural").getLast? with
  | some d => d.args
  | none => decl.name ++ "s"

def interfaceOf (index : DirectiveIndex) (decl : TypeDecl) (directives : List Directive) :
    Except Diagnostic Interface := do
  let subject : Subject := ⟨target, decl⟩
  let viewer := index.package.path
  let record ← subject.record index.package
  let entry ← directives.foldlM (applyDirective subject)
    (Interface.ofName decl.name (pluralOf index decl))
  let keys ← keysOf subject viewer record
  if keys.isEmpty then subject.fail .noKey
  else
    let createdBy ← actorType subject viewer record entry.createdBy "CreatedBy"
    let updatedBy ← actorType subject viewer record entry.updatedBy "UpdatedBy"
    let deletedBy ← actorType subject viewer record entry.deletedBy "DeletedBy"
    return { entry with keys, createdBy, updatedBy, deletedBy }

/-- The arguments of the package's own directives with a given topic. -/
def packageLines (package : Package) (topic : String) : List String :=
  (package.directives "repo" topic).map fun (_, d) => d.args

def build (package : Package) : Except Diagnostic Model := do
  let index := DirectiveIndex.ofPackage package
  let interfaces ← (index.annotated target).mapM fun (decl, directives) =>
    interfaceOf index decl directives
  return ⟨package.name, interfaces, packageLines package "extra", packageLines package "base"⟩

/-! ## The model as template data -/

def Key.toJson (key : Key) : Json :=
  .object [("name", .string key.name), ("type", .string key.type)]

def Interface.toJson (entry : Interface) : Json :=
  .object [
    ("repository", .string entry.repository),
    ("singular", .string entry.singular),
    ("plural", .string entry.plural),
    ("create", .bool entry.operations.create),
    ("get", .bool entry.operations.get),
    ("search", .bool entry.operations.search),
    ("edit", .bool entry.operations.edit),
    ("delete", .bool entry.operations.delete),
    ("created_by_type", .string entry.createdBy),
    ("updated_by_type", .string entry.updatedBy),
    ("deleted_by_type", .string entry.deletedBy),
    ("extra", .strings entry.extra),
    ("search_type", .string entry.searchType),
    ("pks", .array (entry.keys.map Key.toJson))]

def Model.toJson (model : Model) : Json :=
  .object [
    ("package", .string model.package),
    ("entities", .array (model.interfaces.map Interface.toJson)),
    ("extra", .strings model.extra),
    ("base", .strings model.base)]

end Scaffold.Repository
