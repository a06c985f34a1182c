import Mathlib.Logic.Relation
import Scaffold.Package.Snapshot
import Scaffold.Proofs.GoType.Snapshot
import Scaffold.Proofs.Json.Spelling

/-!
# Other spellings of a snapshot

The records of a snapshot and what stands under their names make a grammar: `Entry.parts` gives the
parts of a record, which for a type depend on its kind.  `Respells` is one change of spelling at one
place: the members of a record stand in another order, it has one more member that it does not know,
or it is written as the array of its fields.  Values with the same contents are joined by such
changes (`SpelledAlike`).
-/

set_option autoImplicit false

namespace Scaffold

namespace Snapshot

open GoType (Kind)

/-! ## The records of a snapshot -/

inductive Entry where
  | package
  | file
  | group
  | comment
  | decl
  | position
  | reference
  | field
  | type
  deriving DecidableEq

inductive Part where
  /-- A value without records in it. -/
  | plain
  /-- A record, or null. -/
  | record (entry : Entry)
  /-- An array of records. -/
  | list (entry : Entry)
  deriving DecidableEq

/-- The names of a record with what stands under them, in order. -/
abbrev Parts := List (String × Part)

def Parts.names (parts : Parts) : List String := parts.map Prod.fst

def kindParts : Kind → Parts
  | .basic => [("name", .plain)]
  | .named =>
    [("package", .record .reference), ("name", .plain), ("args", .list .type),
      ("underlying", .record .type)]
  | .pointer | .slice | .chan => [("elem", .record .type)]
  | .array => [("len", .plain), ("elem", .record .type)]
  | .map => [("key", .record .type), ("value", .record .type)]
  | .struct => [("fields", .list .field)]
  | .func | .interface => []

/-- What tells the kind of a type: the only member of that name, or the first item. -/
def tag? : Json → Option Json
  | .object members =>
    if members.countP (fun entry => entry.1 = "kind") = 1 then members.lookup "kind" else none
  | .array items => items.head?
  | _ => none

/-- The parts of a type when its kind is known, else only the kind. -/
def typeParts (kind : Option Kind) : Parts := ("kind", .plain) :: kind.elim [] kindParts

namespace Entry

def parts (value : Json) : Entry → Parts
  | package => [("name", .plain), ("path", .plain), ("files", .list file), ("decls", .list decl)]
  | file => [("path", .plain), ("comments", .list group)]
  | group => [("comments", .list comment)]
  | comment => [("text", .plain), ("line", .plain)]
  | decl => [("name", .plain), ("pos", .record position), ("type", .record type)]
  | position => [("file", .plain), ("line", .plain), ("column", .plain)]
  | reference => [("path", .plain), ("name", .plain)]
  | field => [("name", .plain), ("type", .record type), ("tag", .plain), ("embedded", .plain)]
  | type => typeParts ((tag? value).bind (Kind.read? true))

def names (value : Json) (entry : Entry) : List String := (entry.parts value).names

def inType : Entry → Bool
  | reference | field | type => true
  | _ => false

end Entry

theorem names_kindParts (kind : Kind) : (kindParts kind).names = kind.fields := by
  cases kind <;> rfl

theorem names_typeParts (kind : Kind) : (typeParts (some kind)).names = "kind" :: kind.fields :=
  congrArg ("kind" :: ·) (names_kindParts kind)

theorem parts_type {value : Json} {kind : Kind}
    (known : (tag? value).bind (Kind.read? true) = some kind) :
    Entry.type.parts value = typeParts (some kind) :=
  congrArg typeParts known

theorem nodup_names (value : Json) (entry : Entry) : (entry.names value).Nodup := by
  cases entry with
  | type =>
      unfold Entry.names Entry.parts
      cases (tag? value).bind (Kind.read? true) with
      | none => exact List.nodup_singleton "kind"
      | some kind =>
          rw [names_typeParts]
          exact List.nodup_cons.mpr ⟨kind.kind_not_mem_fields, kind.nodup_fields⟩
  | _ => simp [Entry.names, Entry.parts, Parts.names]

theorem part_unique {value : Json} {entry : Entry} {name : String} {part other : Part}
    (isPart : (name, part) ∈ entry.parts value) (isOther : (name, other) ∈ entry.parts value) :
    part = other :=
  congrArg Prod.snd (List.inj_on_of_nodup_map (nodup_names value entry) isPart isOther rfl)

theorem mem_names {value : Json} {entry : Entry} {name : String} {part : Part}
    (isPart : (name, part) ∈ entry.parts value) : name ∈ entry.names value :=
  List.mem_map_of_mem isPart

/-! ## Changes of spelling -/

/-- One change of spelling at one place.  `skips` tells what may stand under a name that a record
does not know, when such a member is added or left out. -/
inductive Respells (skips : Entry → Json → Prop) : Part → Json → Json → Prop where
  /-- The members of a record stand in another order. -/
  | reorder {entry : Entry} {members others : Json.Record} (perm : members.Perm others) :
      Respells skips (.record entry) (.object members) (.object others)
  /-- A record has one more member, under a name that it does not know. -/
  | insert {entry : Entry} {members : Json.Record} {name : String} {value : Json}
      (unknown : name ∉ entry.names (.object members)) (skipped : skips entry value) :
      Respells skips (.record entry) (.object members) (.object ((name, value) :: members))
  /-- A record that has all its fields is written as the array of them. -/
  | list {entry : Entry} {members : Json.Record} {items : List Json}
      (once : ∀ name ∈ entry.names (.object members),
        members.countP (fun member => member.1 = name) = 1)
      (fields : (entry.names (.object members)).map (List.lookup · members) = items.map some)
      (skipped : ∀ member ∈ members, member.1 ∉ entry.names (.object members) →
        skips entry member.2) :
      Respells skips (.record entry) (.object members) (.array items)
  /-- The spelling changes under a name of a record. -/
  | member {entry : Entry} {part : Part} {front behind : Json.Record} {name : String}
    {old new : Json}
      (isPart : (name, part) ∈ entry.parts (.object (front ++ (name, old) :: behind)))
      (inside : Respells skips part old new) :
      Respells skips (.record entry) (.object (front ++ (name, old) :: behind))
        (.object (front ++ (name, new) :: behind))
  /-- The spelling changes in a record that is written as an array. -/
  | slot {entry : Entry} {part : Part} {front behind : List Json} {name : String} {old new : Json}
      (isPart : (entry.parts (.array (front ++ old :: behind)))[front.length]? = some (name, part))
      (inside : Respells skips part old new) :
      Respells skips (.record entry) (.array (front ++ old :: behind))
        (.array (front ++ new :: behind))
  /-- The spelling of one of some records changes. -/
  | item {entry : Entry} {front behind : List Json} {old new : Json}
      (inside : Respells skips (.record entry) old new) :
      Respells skips (.list entry) (.array (front ++ old :: behind))
        (.array (front ++ new :: behind))

/-- The two values are joined by changes of spelling, made or undone. -/
abbrev SpelledAlike (skips : Entry → Json → Prop) (entry : Entry) : Json → Json → Prop :=
  Relation.EqvGen (Respells skips (.record entry))

section Spelling
variable {skips : Entry → Json → Prop} {part : Part} {value other : Json}

/-- What every change of spelling keeps is the same for all spellings. -/
theorem eq_of_spelledAlike {α : Sort*} {entry : Entry}
    (alike : SpelledAlike skips entry value other) (f : Json → α)
    (keeps : ∀ value other, Respells skips (.record entry) value other → f value = f other) :
    f value = f other := by
  induction alike with
  | rel value other step => exact keeps value other step
  | refl => rfl
  | symm _ _ _ ih => exact ih.symm
  | trans _ _ _ _ _ first second => exact first.trans second

theorem Respells.part_ne_plain (step : Respells skips part value other) : part ≠ .plain := by
  cases step <;> exact Part.noConfusion

theorem Respells.ne_null (step : Respells skips part value other) :
    value ≠ .null ∧ other ≠ .null := by
  cases step <;> exact ⟨Json.noConfusion, Json.noConfusion⟩

/-! ## The kind of a type stays -/

theorem mem_kind_names (value : Json) : ("kind", .plain) ∈ Entry.type.parts value :=
  List.mem_cons_self

theorem Respells.name_ne_kind (step : Respells skips part value other) {name : String} {type : Json}
    (isPart : (name, part) ∈ Entry.type.parts type) : name ≠ "kind" := by
  rintro rfl
  exact step.part_ne_plain (part_unique isPart (mem_kind_names type))

theorem tag?_object (members : Json.Record) : tag? (.object members) =
    if members.countP (fun entry => entry.1 = "kind") = 1 then members.lookup "kind"
      else none := rfl

theorem Respells.tag?_eq (step : Respells skips (.record .type) value other) :
    tag? value = tag? other := by
  cases step with
  | reorder perm =>
      rw [tag?_object, tag?_object, perm.countP_eq]
      split
      next once => exact lookup_of_perm perm (Nat.le_of_eq ((perm.countP_eq _).trans once))
      · rfl
  | @insert _ members name value unknown =>
      have differs : "kind" ≠ name := fun same => unknown (same ▸ mem_names (mem_kind_names _))
      rw [tag?_object, tag?_object, List.countP_cons_of_neg (by simpa using differs.symm),
        lookup_cons_of_ne differs]
  | @list _ members items once fields =>
      rw [tag?_object, if_pos (once _ (mem_names (mem_kind_names _)))]
      have first := congrArg List.head? fields
      change some (List.lookup "kind" members) = _ at first
      cases items with
      | nil => cases first
      | cons head rest => exact Option.some.inj first
  | member isPart inside =>
      have differs := inside.name_ne_kind isPart
      rw [tag?_object, tag?_object, lookup_append_cons_of_ne differs.symm,
        lookup_append_cons_of_ne differs.symm]
      simp only [List.countP_append, List.countP_cons]
  | @slot _ _ front _ _ _ _ isPart inside =>
      cases front with
      | nil =>
          cases isPart
          exact absurd rfl inside.part_ne_plain
      | cons first rest => rfl

/-- A named type that is written as an array has all its fields. -/
def complete (kind : Kind) : Json → Bool
  | .array items => kind ≠ .named || items.length = kind.fields.length + 1
  | _ => true

theorem Respells.complete_eq {kind : Kind} (step : Respells skips (.record .type) value other)
    (known : (tag? value).bind (Kind.read? true) = some kind) :
    complete kind value = complete kind other := by
  cases step with
  | list once fields =>
      have length := congrArg List.length fields
      simp only [Entry.names, parts_type known, names_typeParts, List.length_map,
        List.length_cons] at length
      simp [complete, ← length]
  | slot => simp [complete]
  | _ => rfl

end Spelling

end Snapshot

end Scaffold
