import Mathlib.Data.Option.Basic
import Scaffold.GoType.Snapshot
import Scaffold.Proofs.Json.Record

/-!
# Types read back

What is written for a type is read back as the type, at any place where there is room for its
nesting (`ofJson?_toJson`).  The induction follows the grammar of types; each constructor writes the
members of one record, whose names are among the fields of its kind.
-/

set_option autoImplicit false

namespace Scaffold

open Json (Spellable record?_object)

namespace PackageRef

theorem spellable_toJson (ref : PackageRef) : Spellable ref.toJson := by
  exact .object (by simp [Spellable.string])

theorem read?_toJson (ref : PackageRef) : read? ref.toJson = some ref := by
  unfold read? toJson
  rw [record?_object (by decide) (by exact .refl _)]
  simp [Json.Record.required, List.lookup_cons, Json.string?]

end PackageRef

namespace GoType

namespace Kind

theorem nodup_fields (kind : Kind) : kind.fields.Nodup := by
  cases kind <;> decide

theorem kind_not_mem_fields (kind : Kind) : "kind" ∉ kind.fields := by
  cases kind <;> decide

end Kind

/-! ## Records behind their kind -/

section Records
variable {kind : Kind} {members : Json.Record} {nested : Bool}

theorem tagged?_object (known : (members.map Prod.fst).Sublist kind.fields) :
    tagged? nested (.object (("kind", .string kind.name) :: members)) = some (kind, members) := by
  have plain : ∀ member ∈ members, member.1 ≠ "kind" := by
    intro member isMember same
    exact kind.kind_not_mem_fields (same ▸ known.subset (List.mem_map_of_mem isMember))
  have none_ : members.countP (fun entry => entry.1 = "kind") = 0 :=
    List.countP_eq_zero.mpr fun member isMember => by simpa using plain member isMember
  have all : members.filter (fun entry => !decide (entry.1 = "kind")) = members :=
    List.filter_eq_self.mpr fun member isMember => by simpa using plain member isMember
  unfold tagged?
  simp [none_, all, Kind.read?, Kind.ofName?_name, record?_object kind.nodup_fields known]

/-- A type is read as the record behind its kind, with one level less for the types in it. -/
theorem ofJson?_object (kind : Kind) (nested : Bool) {depth : Nat}
    (known : (members.map Prod.fst).Sublist kind.fields)
    (fits : (Json.object (("kind", .string kind.name) :: members)).nesting ≤ depth) :
    ∃ inner, (∀ member ∈ members, member.2.nesting ≤ inner) ∧
      ofJson? depth nested (.object (("kind", .string kind.name) :: members)) =
        ofRecord? (ofJson? inner true) kind members := by
  cases depth with
  | zero => simp [Json.nesting] at fits
  | succ inner =>
      rw [Json.nesting_object_le] at fits
      refine ⟨inner, fun member isMember => fits member (List.mem_cons_of_mem _ isMember), ?_⟩
      rw [ofJson?, tagged?_object known]
      rfl

end Records

/-! ## What is written can be spelled -/

mutual

theorem spellable_toJson : ∀ type : GoType, Spellable type.toJson
  | basic kind => by
      rw [toJson]
      exact .object (by simp [Spellable.string])
  | named type => by
      rw [toJson]
      exact .object (List.forall_mem_cons.mpr ⟨.string _, spellable_namedMembers type⟩)
  | pointer elem => by
      rw [toJson]
      exact .object (by simp [Spellable.string, spellable_toJson elem])
  | slice elem => by
      rw [toJson]
      exact .object (by simp [Spellable.string, spellable_toJson elem])
  | array length elem => by
      have size : Spellable (.ofNat length.toNat) := Json.spellable_ofNat length.toNat_lt
      rw [toJson]
      exact .object (by simp [Spellable.string, spellable_toJson elem, size])
  | map key value => by
      rw [toJson]
      exact .object (by simp [Spellable.string, spellable_toJson key, spellable_toJson value])
  | chan elem => by
      rw [toJson]
      exact .object (by simp [Spellable.string, spellable_toJson elem])
  | struct fields => by
      have each : Spellable (.array (fieldsJson fields)) := .array (spellable_fieldsJson fields)
      rw [toJson]
      exact .object (by simp [Spellable.string, each])
  | func | interface => by
      rw [toJson]
      exact .object (by simp [Spellable.string])

theorem spellable_namedMembers :
    ∀ type : NamedType, ∀ member ∈ namedMembers type, Spellable member.2
  | ⟨package, name, args, underlying⟩ => by
      have owner : Spellable (package.elim .null PackageRef.toJson) := by
        cases package with
        | none => exact .null
        | some ref => exact ref.spellable_toJson
      have each : Spellable (.array (listJson args)) := .array (spellable_listJson args)
      have definition := spellable_underlyingMembers underlying
      rw [namedMembers]
      by_cases empty : args.isEmpty
      · simpa [empty, owner, Spellable.string] using definition
      · simpa [empty, owner, Spellable.string, each] using definition

theorem spellable_underlyingMembers :
    ∀ underlying : Option GoType, ∀ member ∈ underlyingMembers underlying, Spellable member.2
  | none => by simp [underlyingMembers]
  | some type => by simp [underlyingMembers, spellable_toJson type]

theorem spellable_listJson : ∀ types : List GoType, ∀ item ∈ listJson types, Spellable item
  | [] => by simp [listJson]
  | type :: rest => by
      rw [listJson]
      exact List.forall_mem_cons.mpr ⟨spellable_toJson type, spellable_listJson rest⟩

theorem spellable_fieldsJson : ∀ fields : List Field, ∀ item ∈ fieldsJson fields, Spellable item
  | [] => by simp [fieldsJson]
  | ⟨name, type, tag, embedded⟩ :: rest => by
      have first : Spellable (fieldJson ⟨name, type, tag, embedded⟩) := by
        rw [fieldJson]
        exact .object (by simp [Spellable.string, Spellable.bool, spellable_toJson type])
      rw [fieldsJson]
      exact List.forall_mem_cons.mpr ⟨first, spellable_fieldsJson rest⟩

end

/-! ## Named types and fields -/

theorem namedMembers_names (type : NamedType) :
    ((namedMembers type).map Prod.fst).Sublist Kind.named.fields := by
  obtain ⟨package, name, args, underlying⟩ := type
  cases underlying <;> by_cases empty : args.isEmpty <;>
    simp [namedMembers, underlyingMembers, empty, Kind.fields]

theorem option?_toJson {type? : Json → Option GoType} {type : GoType}
    (read : type? type.toJson = some type) : Json.option? type? type.toJson = some (some type) := by
  unfold Json.option?
  split
  · next null => cases type <;> simp [toJson] at null
  · rw [read, Option.map_some]

end GoType

open GoType

section Parts
variable {type? : Json → Option GoType}

theorem PackageRef.option?_toJson (package : Option PackageRef) :
    Json.option? PackageRef.read? (package.elim .null toJson) = some package := by
  cases package with
  | none => rfl
  | some ref => exact congrArg (Option.map some) ref.read?_toJson

theorem NamedType.ofRecord?_namedMembers {package : Option PackageRef} {name : String}
    {args : List GoType} {underlying : Option GoType}
    (argsRead : (listJson args).mapM type? = some args)
    (definitionRead : ∀ type ∈ underlying, type? type.toJson = some type) :
    ofRecord? type? (namedMembers ⟨package, name, args, underlying⟩) =
      some ⟨package, name, args, underlying⟩ := by
  have owner := PackageRef.option?_toJson package
  have argsOf : Json.Record.optional (namedMembers ⟨package, name, args, underlying⟩) "args"
      (Json.list? type?) [] = some args := by
    cases args with
    | nil =>
        cases underlying <;>
          simp [namedMembers, underlyingMembers, Json.Record.optional, List.lookup_cons]
    | cons first rest =>
        simpa [namedMembers, Json.Record.optional, List.lookup_cons, Json.list?] using argsRead
  have definitionOf : Json.Record.optional (namedMembers ⟨package, name, args, underlying⟩)
    "underlying"
      (Json.option? type?) none = some underlying := by
    cases underlying with
    | none =>
        cases args <;> simp [namedMembers, underlyingMembers, Json.Record.optional,
          List.lookup_cons]
    | some type =>
        have read := option?_toJson (definitionRead type rfl)
        cases args <;>
          simpa [namedMembers, underlyingMembers, Json.Record.optional, List.lookup_cons] using read
  unfold ofRecord?
  rw [argsOf, definitionOf]
  simp [namedMembers, Json.Record.optional, Json.Record.required, List.lookup_cons, owner,
    Json.string?]

theorem Field.read?_fieldJson {name : String} {type : GoType} {tag : String} {embedded : Bool}
    (typeRead : type? type.toJson = some type) :
    read? type? (fieldJson ⟨name, type, tag, embedded⟩) = some ⟨name, type, tag, embedded⟩ := by
  unfold read? fieldJson
  rw [record?_object (by decide) (by exact .refl _)]
  simp [Json.Record.required, Json.Record.optional, List.lookup_cons, Json.string?,
    Json.bool?, typeRead]

end Parts

/-! ## Types -/

namespace GoType

section Nesting
variable {package : Option PackageRef} {name : String} {args : List GoType}
  {underlying : Option GoType} {inner : Nat}

theorem nesting_args
    (within : ∀ member ∈ namedMembers ⟨package, name, args, underlying⟩, member.2.nesting ≤ inner) :
    ∀ item ∈ listJson args, item.nesting ≤ inner := by
  intro item member
  have nonempty : args.isEmpty = false := by
    cases args with
    | nil => cases member
    | cons => rfl
  have written : (Json.array (listJson args)).nesting ≤ inner :=
    within ("args", .array (listJson args)) (by simp [namedMembers, nonempty])
  have less := Json.nesting_lt_of_mem_array member
  omega

theorem nesting_underlying
    (within : ∀ member ∈ namedMembers ⟨package, name, args, underlying⟩, member.2.nesting ≤ inner) :
    ∀ type ∈ underlying, type.toJson.nesting ≤ inner := by
  intro type present
  obtain rfl := Option.mem_def.mp present
  exact within ("underlying", type.toJson) (by simp [namedMembers, underlyingMembers])

end Nesting

mutual

theorem ofJson?_toJson : ∀ (type : GoType) (depth : Nat) (nested : Bool),
    type.toJson.nesting ≤ depth → ofJson? depth nested type.toJson = some type
  | basic kind, depth, nested, fits => by
      rw [toJson] at fits ⊢
      obtain ⟨inner, _, read⟩ := ofJson?_object .basic nested (.refl _) fits
      refine read.trans ?_
      simp [ofRecord?, Json.Record.required, BasicKind.read?, BasicKind.ofName?_name]
  | named ⟨package, name, args, none⟩, depth, nested, fits => by
      rw [toJson] at fits ⊢
      obtain ⟨inner, within, read⟩ := ofJson?_object .named nested (namedMembers_names _) fits
      have argsRead := mapM_listJson args inner (nesting_args within)
      refine read.trans ?_
      exact congrArg (Option.map named)
        (NamedType.ofRecord?_namedMembers argsRead fun _ absent => by cases absent)
  | named ⟨package, name, args, some definition⟩, depth, nested, fits => by
      rw [toJson] at fits ⊢
      obtain ⟨inner, within, read⟩ := ofJson?_object .named nested (namedMembers_names _) fits
      have argsRead := mapM_listJson args inner (nesting_args within)
      have definitionRead := ofJson?_toJson definition inner true (nesting_underlying within _ rfl)
      refine read.trans ?_
      exact congrArg (Option.map named)
        (NamedType.ofRecord?_namedMembers argsRead fun _ present =>
          by cases present; exact definitionRead)
  | pointer elem, depth, nested, fits => by
      rw [toJson] at fits ⊢
      obtain ⟨inner, within, read⟩ := ofJson?_object .pointer nested (.refl _) fits
      have elemRead := ofJson?_toJson elem inner true (within _ List.mem_cons_self)
      refine read.trans ?_
      simp [ofRecord?, Json.Record.required, elemRead]
  | slice elem, depth, nested, fits => by
      rw [toJson] at fits ⊢
      obtain ⟨inner, within, read⟩ := ofJson?_object .slice nested (.refl _) fits
      have elemRead := ofJson?_toJson elem inner true (within _ List.mem_cons_self)
      refine read.trans ?_
      simp [ofRecord?, Json.Record.required, elemRead]
  | array length elem, depth, nested, fits => by
      rw [toJson] at fits ⊢
      obtain ⟨inner, within, read⟩ := ofJson?_object .array nested (.refl _) fits
      have elemRead := ofJson?_toJson elem inner true
        (within ("elem", elem.toJson) (by simp))
      refine read.trans ?_
      simp [ofRecord?, Json.Record.required, List.lookup_cons, Json.uint64?_ofNat, elemRead]
  | map key value, depth, nested, fits => by
      rw [toJson] at fits ⊢
      obtain ⟨inner, within, read⟩ := ofJson?_object .map nested (.refl _) fits
      have keyRead := ofJson?_toJson key inner true (within ("key", key.toJson) (by simp))
      have valueRead := ofJson?_toJson value inner true (within ("value", value.toJson) (by simp))
      refine read.trans ?_
      simp [ofRecord?, Json.Record.required, List.lookup_cons, keyRead, valueRead]
  | chan elem, depth, nested, fits => by
      rw [toJson] at fits ⊢
      obtain ⟨inner, within, read⟩ := ofJson?_object .chan nested (.refl _) fits
      have elemRead := ofJson?_toJson elem inner true (within _ List.mem_cons_self)
      refine read.trans ?_
      simp [ofRecord?, Json.Record.required, elemRead]
  | struct fields, depth, nested, fits => by
      rw [toJson] at fits ⊢
      obtain ⟨inner, within, read⟩ := ofJson?_object .struct nested (.refl _) fits
      have written := within _ List.mem_cons_self
      have fieldsRead := mapM_fieldsJson fields inner fun item member =>
        Nat.le_trans (Nat.le_of_lt (Json.nesting_lt_of_mem_array member)) written
      refine read.trans ?_
      simp [ofRecord?, Json.Record.optional, Json.list?, fieldsRead]
  | func, depth, nested, fits => by
      rw [toJson] at fits ⊢
      obtain ⟨_, _, read⟩ := ofJson?_object .func nested (.refl _) fits
      exact read
  | interface, depth, nested, fits => by
      rw [toJson] at fits ⊢
      obtain ⟨_, _, read⟩ := ofJson?_object .interface nested (.refl _) fits
      exact read

theorem mapM_listJson : ∀ (types : List GoType) (depth : Nat),
    (∀ item ∈ listJson types, item.nesting ≤ depth) →
    (listJson types).mapM (ofJson? depth true) = some types
  | [], _, _ => rfl
  | type :: rest, depth, fits => by
      rw [listJson, List.forall_mem_cons] at fits
      have first := ofJson?_toJson type depth true fits.1
      have others := mapM_listJson rest depth fits.2
      rw [listJson, List.mapM_cons, first, others]
      rfl

theorem mapM_fieldsJson : ∀ (fields : List Field) (depth : Nat),
    (∀ item ∈ fieldsJson fields, item.nesting ≤ depth) →
    (fieldsJson fields).mapM (Field.read? (ofJson? depth true)) = some fields
  | [], _, _ => rfl
  | ⟨name, type, tag, embedded⟩ :: rest, depth, fits => by
      rw [fieldsJson, List.forall_mem_cons, fieldJson] at fits
      have listed : ("type", type.toJson) ∈ [("name", .string name), ("type", type.toJson),
          ("tag", .string tag), ("embedded", Json.bool embedded)] := by simp
      have within : type.toJson.nesting ≤ depth :=
        Nat.le_trans (Nat.le_of_lt (Json.nesting_lt_of_mem_object listed)) fits.1
      have typeRead := ofJson?_toJson type depth true within
      have others := mapM_fieldsJson rest depth fits.2
      rw [fieldsJson, List.mapM_cons, Field.read?_fieldJson typeRead, others]
      rfl

end

/-- A type is read back exactly when it nests no deeper than the limit. -/
theorem read?_toJson (limit : Nat) (type : GoType) :
    read? limit type.toJson = if type.toJson.nesting ≤ limit then some type else none := by
  unfold read?
  simp only [Json.readableWithin_iff (spellable_toJson type)]
  split
  · next fits => exact ofJson?_toJson type limit false fits
  · rfl

end GoType

end Scaffold
