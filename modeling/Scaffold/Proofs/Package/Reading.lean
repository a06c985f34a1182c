import Scaffold.Proofs.Package.Respelling

/-!
# What a reader sees of a snapshot

Every reader of a record looks at the fields that the record knows and at nothing else, so one
change of spelling leaves what is read the same, at every place of a snapshot
(`Snapshot.Respells.alike`).  The types of declarations are read by a reader that is left open here:
it has to see no such change in a type.
-/

set_option autoImplicit false

namespace Scaffold

open GoType (Kind)
open Json (RecordsMatch bind_eq_of_rel)

/-! ## Readers with an open reader for types -/

def TypeDecl.readWith? (type? : Json → Option GoType) (value : Json) : Option TypeDecl := do
  let record ← value.record? ["name", "pos", "type"]
  let name ← record.required "name" Json.string?
  let pos ← record.required "pos" Position.read?
  let type ← record.required "type" type?
  return ⟨name, pos, type⟩

/-- A package, with a reader for the types of its declarations. -/
def Package.readWith? (type? : Json → Option GoType) (value : Json) : Option Package := do
  let record ← value.record? ["name", "path", "files", "decls"]
  let name ← record.required "name" Json.string?
  let path ← record.required "path" Json.string?
  let files ← record.optional "files" (Json.list? SourceFile.read?) []
  let decls ← record.optional "decls" (Json.list? (TypeDecl.readWith? type?)) []
  return ⟨name, path, files, decls⟩

theorem Package.ofJson?_eq :
    Package.ofJson? = Package.readWith? (GoType.read? (snapshotDepth - 3)) := rfl

namespace Snapshot

/-! ## Values that are read alike -/

/-- The two values give the same, wherever such a record is read. -/
def Entry.Alike (type? : Json → Option GoType) : Entry → Json → Json → Prop
  | .package, value, other => Package.readWith? type? value = Package.readWith? type? other
  | .file, value, other => SourceFile.read? value = SourceFile.read? other
  | .group, value, other => CommentGroup.read? value = CommentGroup.read? other
  | .comment, value, other => Comment.read? value = Comment.read? other
  | .decl, value, other => TypeDecl.readWith? type? value = TypeDecl.readWith? type? other
  | .position, value, other => Position.read? value = Position.read? other
  | .reference, value, other => PackageRef.read? value = PackageRef.read? other
  | .field, value, other =>
    ∀ depth, Field.read? (GoType.ofJson? depth true) value =
      Field.read? (GoType.ofJson? depth true) other
  | .type, value, other =>
    type? value = type? other ∧
      ∀ depth nested, GoType.ofJson? depth nested value = GoType.ofJson? depth nested other

def Part.Alike (type? : Json → Option GoType) : Part → Json → Json → Prop
  | .plain, value, other => value = other
  | .record entry, value, other => entry.Alike type? value other ∧ (value = .null ↔ other = .null)
  | .list entry, value, other =>
    value = other ∨ ∃ front old new behind, value = .array (front ++ old :: behind) ∧
      other = .array (front ++ new :: behind) ∧ entry.Alike type? old new

/-- What may stand for what under a name, as far as the name has a part. -/
def Parts.Alike (type? : Json → Option GoType) (parts : Parts) : Json.Alike :=
  fun name value other => ∀ part, (name, part) ∈ parts → part.Alike type? value other

section Fields
variable {type? : Json → Option GoType}

theorem Parts.alike_refl (parts : Parts) (name : String) (value : Json) :
    parts.Alike type? name value value := by
  intro part _
  cases part with
  | plain => rfl
  | record entry => cases entry <;> simp [Part.Alike, Entry.Alike]
  | list => exact .inl rfl

theorem list?_eq {entry : Entry} {α : Type} {read : Json → Option α} {value value' : Json}
    (same : ∀ value other, entry.Alike type? value other → read value = read other)
    (alike : (Part.list entry).Alike type? value value') :
    Json.list? read value = Json.list? read value' := by
  obtain rfl | ⟨front, old, new, behind, rfl, rfl, alike⟩ := alike
  · rfl
  · simp only [Json.list?, List.mapM_append, List.mapM_cons, same old new alike]

variable {parts : Parts} {record other : Json.Record}
  (matched : record.Matches parts.names (parts.Alike type?) other) {α : Type}
include matched

theorem required_plain (name : String) (isPart : (name, .plain) ∈ parts) (read : Json → Option α) :
    record.required name read = other.required name read :=
  matched.required_eq (List.mem_map_of_mem isPart) fun _ _ alike =>
    congrArg read (alike .plain isPart)

theorem optional_plain (name : String) (isPart : (name, .plain) ∈ parts) (read : Json → Option α)
    (default : α) : record.optional name read default = other.optional name read default :=
  matched.optional_eq (List.mem_map_of_mem isPart)
    (fun _ _ alike => congrArg read (alike .plain isPart)) default

variable (name : String) (entry : Entry) (read : Json → Option α)

theorem required_record (isPart : (name, .record entry) ∈ parts)
    (same : ∀ value other, entry.Alike type? value other → read value = read other) :
    record.required name read = other.required name read :=
  matched.required_eq (List.mem_map_of_mem isPart) fun _ _ alike => same _ _ (alike _ isPart).1

theorem optional_record (isPart : (name, .record entry) ∈ parts)
    (same : ∀ value other, entry.Alike type? value other → read value = read other) :
    record.optional name (Json.option? read) none =
      other.optional name (Json.option? read) none := by
  refine matched.optional_eq (List.mem_map_of_mem isPart) (fun value value' alike => ?_) none
  obtain ⟨alike, null⟩ := alike _ isPart
  unfold Json.option?
  split
  · rw [null.mp rfl]
  next notNull =>
    rw [same _ _ alike]
    split
    · exact absurd (null.mpr rfl) notNull
    · rfl

theorem required_list (isPart : (name, .list entry) ∈ parts)
    (same : ∀ value other, entry.Alike type? value other → read value = read other) :
    record.required name (Json.list? read) = other.required name (Json.list? read) :=
  matched.required_eq (List.mem_map_of_mem isPart) fun _ _ alike => list?_eq same (alike _ isPart)

theorem optional_list (isPart : (name, .list entry) ∈ parts)
    (same : ∀ value other, entry.Alike type? value other → read value = read other) :
    record.optional name (Json.list? read) [] = other.optional name (Json.list? read) [] :=
  matched.optional_eq (List.mem_map_of_mem isPart) (fun _ _ alike =>
    list?_eq same (alike _ isPart)) []

end Fields

/-! ## Records -/

section Records
variable {type? : Json → Option GoType} {value other : Json}

/-- The two values match in all fields that the record knows. -/
def Entry.Matches (type? : Json → Option GoType) (entry : Entry) (value other : Json) : Prop :=
  RecordsMatch (entry.names value) ((entry.parts value).Alike type?) value other

theorem alike_position (matched : Entry.position.Matches type? value other) :
    Entry.position.Alike type? value other := by
  refine bind_eq_of_rel matched fun record record' fields => ?_
  have file := required_plain fields "file" (by simp [Entry.parts]) Json.string?
  have line := required_plain fields "line" (by simp [Entry.parts]) Json.uint32?
  have column := required_plain fields "column" (by simp [Entry.parts]) Json.uint32?
  rw [file, line, column]

theorem alike_comment (matched : Entry.comment.Matches type? value other) :
    Entry.comment.Alike type? value other := by
  refine bind_eq_of_rel matched fun record record' fields => ?_
  have text := required_plain fields "text" (by simp [Entry.parts]) Json.string?
  have line := required_plain fields "line" (by simp [Entry.parts]) Json.uint32?
  rw [text, line]

theorem alike_group (matched : Entry.group.Matches type? value other) :
    Entry.group.Alike type? value other := by
  refine bind_eq_of_rel matched fun record record' fields => ?_
  have comments := required_list fields "comments" .comment Comment.read? (by simp [Entry.parts])
    fun _ _ alike => alike
  rw [comments]

theorem alike_file (matched : Entry.file.Matches type? value other) :
    Entry.file.Alike type? value other := by
  refine bind_eq_of_rel matched fun record record' fields => ?_
  have path := required_plain fields "path" (by simp [Entry.parts]) Json.string?
  have comments := optional_list fields "comments" .group CommentGroup.read? (by simp [Entry.parts])
    fun _ _ alike => alike
  rw [path, comments]

theorem alike_reference (matched : Entry.reference.Matches type? value other) :
    Entry.reference.Alike type? value other := by
  refine bind_eq_of_rel matched fun record record' fields => ?_
  have path := required_plain fields "path" (by simp [Entry.parts]) Json.string?
  have name := required_plain fields "name" (by simp [Entry.parts]) Json.string?
  rw [path, name]

theorem alike_decl (matched : Entry.decl.Matches type? value other) :
    Entry.decl.Alike type? value other := by
  refine bind_eq_of_rel matched fun record record' fields => ?_
  have name := required_plain fields "name" (by simp [Entry.parts]) Json.string?
  have pos := required_record fields "pos" .position Position.read? (by simp [Entry.parts])
    fun _ _ alike => alike
  have type :=
    required_record fields "type" .type type? (by simp [Entry.parts]) fun _ _ alike => alike.1
  rw [name, pos, type]

theorem alike_package (matched : Entry.package.Matches type? value other) :
    Entry.package.Alike type? value other := by
  refine bind_eq_of_rel matched fun record record' fields => ?_
  have name := required_plain fields "name" (by simp [Entry.parts]) Json.string?
  have path := required_plain fields "path" (by simp [Entry.parts]) Json.string?
  have files := optional_list fields "files" .file SourceFile.read? (by simp [Entry.parts])
    fun _ _ alike => alike
  have decls :=
    optional_list fields "decls" .decl (TypeDecl.readWith? type?) (by simp [Entry.parts])
      fun _ _ alike => alike
  rw [name, path, files, decls]

theorem alike_field (matched : Entry.field.Matches type? value other) :
    Entry.field.Alike type? value other := by
  intro depth
  refine bind_eq_of_rel matched fun record record' fields => ?_
  have name := required_plain fields "name" (by simp [Entry.parts]) Json.string?
  have type :=
    required_record fields "type" .type (GoType.ofJson? depth true) (by simp [Entry.parts])
      fun _ _ alike => alike.2 depth true
  have tag := optional_plain fields "tag" (by simp [Entry.parts]) Json.string? ""
  have embedded := optional_plain fields "embedded" (by simp [Entry.parts]) Json.bool? false
  rw [name, type, tag, embedded]

/-! ## Types -/

theorem ofRecord?_eq {kind : Kind} {depth : Nat} {record other : Json.Record}
    (fields : record.Matches (kindParts kind).names ((kindParts kind).Alike type?) other) :
    GoType.ofRecord? (GoType.ofJson? depth true) kind record =
      GoType.ofRecord? (GoType.ofJson? depth true) kind other := by
  have inner (value other : Json) (alike : Entry.type.Alike type? value other) :
      GoType.ofJson? depth true value = GoType.ofJson? depth true other := alike.2 depth true
  cases kind with
  | basic =>
      have name := required_plain fields "name" (by simp [kindParts]) BasicKind.read?
      simp only [GoType.ofRecord?, name]
  | named =>
      have package :=
        optional_record fields "package" .reference PackageRef.read? (by simp [kindParts])
          fun _ _ alike => alike
      have name := required_plain fields "name" (by simp [kindParts]) Json.string?
      have args := optional_list fields "args" .type _ (by simp [kindParts]) inner
      have underlying := optional_record fields "underlying" .type _ (by simp [kindParts]) inner
      simp only [GoType.ofRecord?, NamedType.ofRecord?, package, name, args, underlying]
  | pointer | slice | chan =>
      have elem := required_record fields "elem" .type _ (by simp [kindParts]) inner
      simp only [GoType.ofRecord?, elem]
  | array =>
      have length := required_plain fields "len" (by simp [kindParts]) Json.uint64?
      have elem := required_record fields "elem" .type _ (by simp [kindParts]) inner
      simp only [GoType.ofRecord?, length, elem]
  | map =>
      have key := required_record fields "key" .type _ (by simp [kindParts]) inner
      have value := required_record fields "value" .type _ (by simp [kindParts]) inner
      simp only [GoType.ofRecord?, key, value]
  | struct =>
      have each :=
        optional_list fields "fields" .field _ (by simp [kindParts]) fun _ _ alike => alike depth
      simp only [GoType.ofRecord?, each]
  | func | interface => rfl

theorem matches_kindParts {kind : Kind} {record other : Json.Record}
    (matched : record.Matches (typeParts (some kind)).names
      ((typeParts (some kind)).Alike type?) other) :
    record.Matches (kindParts kind).names ((kindParts kind).Alike type?) other :=
  fun name isField =>
  Json.rel_mono (fun _ _ alike part isPart => alike part (List.mem_cons_of_mem _ isPart))
    (matched name (List.mem_cons_of_mem _ isField))

theorem read?_nested {nested : Bool} {tag : Json} {kind : Kind}
    (read : Kind.read? nested tag = some kind) :
    Kind.read? true tag = some kind := by
  cases nested with
  | true => exact read
  | false =>
      unfold Kind.read? at read ⊢
      split at read
      · exact read
      · cases read
      · cases read

/-- The fields of a type are the same with its kind among them and without. -/
theorem rel_withoutKind (type? : Json → Option GoType) (kind : Kind) {members : Json.Record}
    (once : members.countP (fun entry => entry.1 = "kind") = 1) :
    Option.Rel (Json.Record.Matches (kindParts kind).names ((kindParts kind).Alike type?))
      ((Json.object (members.filter fun entry => entry.1 ≠ "kind")).record? kind.fields)
      ((Json.object members).record? (typeParts (some kind)).names) := by
  have known : (Json.object members).record? (typeParts (some kind)).names =
      (Json.object members).record? kind.fields := by
    simp [names_typeParts, Json.record?, once]
  rw [known, ← names_kindParts]
  exact Json.recordsMatch_filter (kindParts kind).alike_refl
    (names_kindParts kind ▸ kind.kind_not_mem_fields)

theorem rel_behindKind (type? : Json → Option GoType) (kind : Kind) (head : Json)
    (items : List Json) :
    Option.Rel (Json.Record.Matches (kindParts kind).names ((kindParts kind).Alike type?))
      ((Json.array items).record? kind.fields)
      ((Json.array (head :: items)).record? (typeParts (some kind)).names) := by
  simp only [names_typeParts, names_kindParts, Json.record?, List.length_cons,
    Nat.add_le_add_iff_right]
  split
  · refine .some fun name known => Json.rel_of_eq (kindParts kind).alike_refl ?_
    have differs : name ≠ "kind" := fun same => kind.kind_not_mem_fields (same ▸ known)
    exact (lookup_cons_of_ne differs).symm
  · exact .none

theorem tagged?_object (nested : Bool) (members : Json.Record) :
    GoType.tagged? nested (.object members) =
      ((tag? (.object members)).bind (Kind.read? nested)).bind fun kind =>
        ((Json.object (members.filter fun entry => entry.1 ≠ "kind")).record? kind.fields).map
          fun record => (kind, record) := by
  unfold GoType.tagged?
  rw [tag?_object]
  by_cases once : members.countP (fun entry => entry.1 = "kind") = 1
  · rw [if_pos once]
    simp [once, Option.map_eq_bind]
  · simp [once]

theorem tagged?_array (nested : Bool) (head : Json) (items : List Json) :
    GoType.tagged? nested (.array (head :: items)) =
      (Kind.read? nested head).bind fun kind =>
        if complete kind (.array (head :: items)) then
          ((Json.array items).record? kind.fields).map fun record => (kind, record)
        else none := by
  have full (kind : Kind) : complete kind (.array (head :: items)) = true ↔
      (kind = .named → items.length = kind.fields.length) := by
    simp [complete, imp_iff_not_or]
  unfold GoType.tagged?
  simp only [full]
  refine congrArg (Option.bind _) (funext fun kind => ?_)
  by_cases isFull : kind = .named → items.length = kind.fields.length
  · simp [guard, if_pos isFull, Option.map_eq_bind]
  · simp [guard, isFull]

/-- A type is read from the record of its kind and fields, with one level less for the types in
it. -/
theorem ofJson?_succ (depth : Nat) (nested : Bool) (value : Json) :
    GoType.ofJson? (depth + 1) nested value =
      ((tag? value).bind (Kind.read? nested)).bind fun kind =>
        if complete kind value then
          (value.record? (typeParts (some kind)).names).bind
            (GoType.ofRecord? (GoType.ofJson? depth true) kind)
        else none := by
  rw [GoType.ofJson?]
  cases value with
  | null | bool | number | string | unreadable => rfl
  | object members =>
      rw [tagged?_object]
      cases tagged : (tag? (.object members)).bind (Kind.read? nested) with
      | none => rfl
      | some kind =>
          have once : members.countP (fun entry => entry.1 = "kind") = 1 := by
            by_contra several
            simp [tag?_object, several] at tagged
          have related := rel_withoutKind (fun _ => none) kind once
          simp only [Option.bind_some, complete, if_true]
          rw [Option.bind_eq_bind, Option.bind_map]
          exact bind_eq_of_rel related fun _ _ => ofRecord?_eq
  | array items =>
      cases items with
      | nil => rfl
      | cons head items =>
          rw [tagged?_array]
          simp only [tag?, List.head?_cons, Option.bind_some]
          cases Kind.read? nested head with
          | none => rfl
          | some kind =>
              have related := rel_behindKind (fun _ => none) kind head items
              simp only [Option.bind_some]
              split
              · rw [Option.bind_eq_bind, Option.bind_map]
                exact bind_eq_of_rel related fun _ _ => ofRecord?_eq
              · rfl

end Records

/-! ## One change of spelling -/

section Steps
variable {skips : Entry → Json → Prop} {type? : Json → Option GoType} {value other : Json}

theorem Respells.ofJson?_eq (step : Respells skips (.record .type) value other)
    (matched : Entry.type.Matches type? value other) (depth : Nat) (nested : Bool) :
    GoType.ofJson? depth nested value = GoType.ofJson? depth nested other := by
  cases depth with
  | zero => rfl
  | succ depth =>
      rw [ofJson?_succ, ofJson?_succ, ← step.tag?_eq]
      cases tagged : (tag? value).bind (Kind.read? nested) with
      | none => rfl
      | some kind =>
          have known : (tag? value).bind (Kind.read? true) = some kind := by
            obtain ⟨tag, found, read⟩ := Option.bind_eq_some_iff.mp tagged
            exact Option.bind_eq_some_iff.mpr ⟨tag, found, read?_nested read⟩
          simp only [Option.bind_some, step.complete_eq known]
          split
          · unfold Entry.Matches Entry.names at matched
            rw [parts_type known] at matched
            exact bind_eq_of_rel matched fun _ _ fields => ofRecord?_eq (matches_kindParts fields)
          · rfl

variable (respects : ∀ value other, Respells skips (.record .type) value other →
    type? value = type? other)
include respects

theorem Respells.alike_record {entry : Entry} (step : Respells skips (.record entry) value other)
    (matched : entry.Matches type? value other) : (Part.record entry).Alike type? value other := by
  refine ⟨?_, iff_of_false step.ne_null.1 step.ne_null.2⟩
  cases entry with
  | package => exact alike_package matched
  | file => exact alike_file matched
  | group => exact alike_group matched
  | comment => exact alike_comment matched
  | decl => exact alike_decl matched
  | position => exact alike_position matched
  | reference => exact alike_reference matched
  | field => exact alike_field matched
  | type => exact ⟨respects value other step, step.ofJson?_eq matched⟩

/-- One change of spelling leaves what is read the same, if the reader for the types of declarations
sees no such change in a type. -/
theorem Respells.alike {part : Part} (step : Respells skips part value other) :
    part.Alike type? value other := by
  -- By induction on the place of the change: around it, only one field of a record or one item of
  -- a list differs.
  induction step with
  | reorder perm =>
      exact alike_record respects (.reorder perm)
        (Json.recordsMatch_reorder (Parts.alike_refl _) perm)
  | insert unknown skipped =>
      exact alike_record respects (.insert unknown skipped)
        (Json.recordsMatch_insert (Parts.alike_refl _) unknown _)
  | list once fields skipped =>
      exact alike_record respects (.list once fields skipped)
        (Json.recordsMatch_list (Parts.alike_refl _) (nodup_names _ _) once fields)
  | member isPart inside ih =>
      refine alike_record respects (.member isPart inside)
        (Json.recordsMatch_member (Parts.alike_refl _) fun other isOther => ?_)
      exact part_unique isPart isOther ▸ ih
  | slot isPart inside ih =>
      have place := (List.getElem?_map ..).trans (congrArg (Option.map Prod.fst) isPart)
      refine alike_record respects (.slot isPart inside)
        (Json.recordsMatch_slot (Parts.alike_refl _) (nodup_names _ _) place fun other isOther =>
          ?_)
      exact part_unique (List.mem_of_getElem? isPart) isOther ▸ ih
  | item inside ih => exact .inr ⟨_, _, _, _, rfl, rfl, ih.1⟩

end Steps

end Snapshot

end Scaffold
