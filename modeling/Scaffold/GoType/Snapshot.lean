import Scaffold.GoType
import Scaffold.Json.Record

/-!
# Types in snapshots

A type is a JSON object with its kind under `kind` and the fields of that kind beside it, or an
array that starts with the kind.  `GoType.toJson` writes the object form with every field, except
that a named type leaves out empty arguments and an absent definition.  `GoType.read? limit` reads
either form of a value whose parts are all readable and which nests at most `limit` deep.

Inside another type two more spellings are read: a kind as its position in the list of kinds, and a
predeclared name as an object whose only key it is and whose value is null or an empty object.  The
second stands only inside types anyway.
-/

set_option autoImplicit false

namespace Scaffold

namespace PackageRef

def toJson (ref : PackageRef) : Json :=
  .object [("path", .string ref.path), ("name", .string ref.name)]

def read? (value : Json) : Option PackageRef := do
  let record ← value.record? ["path", "name"]
  let path ← record.required "path" Json.string?
  let name ← record.required "name" Json.string?
  return ⟨path, name⟩

end PackageRef

namespace BasicKind

/-- A predeclared name, as a string or as the only key of an object that says nothing more. -/
def read? : Json → Option BasicKind
  | .string name => ofName? name
  | .object [(name, .null)] => ofName? name
  | .object [(name, .object [])] => ofName? name
  | _ => none

end BasicKind

namespace GoType

/-- The alternatives of `GoType`. -/
inductive Kind where
  | basic
  | named
  | pointer
  | slice
  | array
  | map
  | chan
  | struct
  | func
  | interface
  deriving DecidableEq, Repr, Inhabited

namespace Kind

def all : List Kind :=
  [basic, named, pointer, slice, array, map, chan, struct, func, interface]

def name : Kind → String
  | basic => "basic"
  | named => "named"
  | pointer => "pointer"
  | slice => "slice"
  | array => "array"
  | map => "map"
  | chan => "chan"
  | struct => "struct"
  | func => "func"
  | interface => "interface"

def fields : Kind → List String
  | basic => ["name"]
  | named => ["package", "name", "args", "underlying"]
  | pointer => ["elem"]
  | slice => ["elem"]
  | array => ["len", "elem"]
  | map => ["key", "value"]
  | chan => ["elem"]
  | struct => ["fields"]
  | func => []
  | interface => []

def ofName? (name : String) : Option Kind := all.find? (fun kind => kind.name = name)

theorem ofName?_name (kind : Kind) : ofName? kind.name = some kind := by
  cases kind <;> decide

/-- A kind by its name; inside another type also by its position. -/
def read? (nested : Bool) : Json → Option Kind
  | .string name => ofName? name
  | .number (.whole (.ofNat n)) => if nested then all[n]? else none
  | _ => none

end Kind

/-- The kind of a type value and the record of its fields.  The array form of a named type has all
its fields. -/
def tagged? (nested : Bool) : Json → Option (Kind × Json.Record)
  | .object members => do
    guard (members.countP (fun entry => entry.1 = "kind") = 1)
    let kind ← (members.lookup "kind").bind (Kind.read? nested)
    let others := members.filter (fun entry => entry.1 ≠ "kind")
    let record ← (Json.object others).record? kind.fields
    return (kind, record)
  | .array (head :: items) => do
    let kind ← Kind.read? nested head
    guard (kind = .named → items.length = kind.fields.length)
    let record ← (Json.array items).record? kind.fields
    return (kind, record)
  | _ => none

end GoType

/-- The named type in a record, with a reader for the types in it. -/
def NamedType.ofRecord? (type? : Json → Option GoType) (record : Json.Record) :
    Option NamedType := do
  let package ← record.optional "package" (Json.option? PackageRef.read?) none
  let name ← record.required "name" Json.string?
  let args ← record.optional "args" (Json.list? type?) []
  let underlying ← record.optional "underlying" (Json.option? type?) none
  return ⟨package, name, args, underlying⟩

def Field.read? (type? : Json → Option GoType) (value : Json) : Option Field := do
  let record ← value.record? ["name", "type", "tag", "embedded"]
  let name ← record.required "name" Json.string?
  let type ← record.required "type" type?
  let tag ← record.optional "tag" Json.string? ""
  let embedded ← record.optional "embedded" Json.bool? false
  return ⟨name, type, tag, embedded⟩

namespace GoType

/-- A type of a given kind from the record of its fields, with a reader for the types in it. -/
def ofRecord? (type? : Json → Option GoType) (kind : Kind) (record : Json.Record) : Option GoType :=
  match kind with
  | .basic => (record.required "name" BasicKind.read?).map .basic
  | .named => (NamedType.ofRecord? type? record).map .named
  | .pointer => (record.required "elem" type?).map .pointer
  | .slice => (record.required "elem" type?).map .slice
  | .array => do
    let length ← record.required "len" Json.uint64?
    let elem ← record.required "elem" type?
    return .array length elem
  | .map => do
    let key ← record.required "key" type?
    let value ← record.required "value" type?
    return .map key value
  | .chan => (record.required "elem" type?).map .chan
  | .struct => (record.optional "fields" (Json.list? (Field.read? type?)) []).map .struct
  | .func => some .func
  | .interface => some .interface

/-- A type from its JSON value.  The depth bounds how deep types nest in types. -/
def ofJson? : (depth : Nat) → (nested : Bool) → Json → Option GoType
  | 0, _, _ => none
  | depth + 1, nested, value => do
    let (kind, record) ← tagged? nested value
    ofRecord? (ofJson? depth true) kind record

/-- A type from a JSON value whose parts can be read and nest at most `limit` deep. -/
def read? (limit : Nat) (value : Json) : Option GoType :=
  if value.readableWithin limit then ofJson? limit false value else none

mutual

def toJson : GoType → Json
  | basic kind => .object [("kind", .string "basic"), ("name", .string kind.name)]
  | named type => .object (("kind", .string "named") :: namedMembers type)
  | pointer elem => .object [("kind", .string "pointer"), ("elem", elem.toJson)]
  | slice elem => .object [("kind", .string "slice"), ("elem", elem.toJson)]
  | array length elem =>
    .object [("kind", .string "array"), ("len", .ofNat length.toNat), ("elem", elem.toJson)]
  | map key value =>
    .object [("kind", .string "map"), ("key", key.toJson), ("value", value.toJson)]
  | chan elem => .object [("kind", .string "chan"), ("elem", elem.toJson)]
  | struct fields => .object [("kind", .string "struct"), ("fields", .array (fieldsJson fields))]
  | func => .object [("kind", .string "func")]
  | interface => .object [("kind", .string "interface")]

def namedMembers : NamedType → Json.Record
  | ⟨package, name, args, underlying⟩ =>
    [("package", package.elim .null PackageRef.toJson), ("name", .string name)]
      ++ (if args.isEmpty then [] else [("args", .array (listJson args))])
      ++ underlyingMembers underlying

def underlyingMembers : Option GoType → Json.Record
  | none => []
  | some type => [("underlying", type.toJson)]

def listJson : List GoType → List Json
  | [] => []
  | type :: rest => type.toJson :: listJson rest

def fieldsJson : List Field → List Json
  | [] => []
  | field :: rest => fieldJson field :: fieldsJson rest

def fieldJson : Field → Json
  | ⟨name, type, tag, embedded⟩ =>
    .object [("name", .string name), ("type", type.toJson), ("tag", .string tag),
      ("embedded", .bool embedded)]

end

end GoType

def NamedType.read? (limit : Nat) (value : Json) : Option NamedType := do
  guard (value.readableWithin limit)
  let record ← value.record? GoType.Kind.named.fields
  NamedType.ofRecord? (GoType.ofJson? limit false) record

end Scaffold
