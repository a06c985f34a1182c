import Scaffold.Proofs.Package.Reading
import Scaffold.Proofs.Json.Nesting

/-!
# Spelling does not matter

A snapshot says the same in all its spellings, whatever the order of the members, whatever stands
under unknown names and whether records are objects or arrays (`snapshot_spelling`).  Types are kept
whole before they are read, so that what stands in a type under an unknown name counts for one
thing: whether the type can be kept.
-/

set_option autoImplicit false

namespace Scaffold

open Snapshot

/-! ## The types of a package -/

/-- The value of the type in the value of a declaration. -/
def TypeDecl.typeValue? (value : Json) : Option Json :=
  (value.record? ["name", "pos", "type"]).bind (List.lookup "type")

def Package.typeValues (value : Json) : List Json :=
  match (value.record? ["name", "path", "files", "decls"]).bind (List.lookup "decls") with
  | some (.array decls) => decls.filterMap TypeDecl.typeValue?
  | _ => []

/-- All types that a package declares can be kept before they are read. -/
def Package.typesReadable (limit : Nat) (value : Json) : Bool :=
  (typeValues value).all (·.readableWithin limit)

theorem TypeDecl.readWith?_read? (limit : Nat) (value : Json) :
    readWith? (GoType.read? limit) value =
      if (typeValue? value).all (·.readableWithin limit) then
        readWith? (GoType.ofJson? limit false) value
      else none := by
  unfold readWith? typeValue?
  cases value.record? ["name", "pos", "type"] with
  | none => rfl
  | some record =>
      cases found : record.lookup "type" with
      | none => simp [Json.Record.required, found]
      | some type =>
          by_cases readable : type.readableWithin limit <;>
            simp [Json.Record.required, found, GoType.read?, readable]

theorem mapM_guard {α β : Type} (p : α → Bool) (f : α → Option β) (items : List α) :
    items.mapM (fun item => if p item then f item else none) =
      if items.all p then items.mapM f else none := by
  induction items with
  | nil => rfl
  | cons item rest ih =>
      rw [List.mapM_cons, List.mapM_cons, List.all_cons, ih]
      cases p item with
      | false => rfl
      | true => by_cases all : rest.all p <;> simp [all]

theorem TypeDecl.list?_read? (limit : Nat) (decls : List Json) :
    Json.list? (readWith? (GoType.read? limit)) (.array decls) =
      if (decls.filterMap typeValue?).all (·.readableWithin limit) then
        Json.list? (readWith? (GoType.ofJson? limit false)) (.array decls)
      else none := by
  have each : (decls.filterMap typeValue?).all (·.readableWithin limit) =
      decls.all fun decl => (typeValue? decl).all (·.readableWithin limit) := by
    rw [List.all_filterMap]
    exact List.all_congr rfl fun decl => by cases typeValue? decl <;> rfl
  rw [Json.list?, Json.list?, funext (readWith?_read? limit), mapM_guard, each]

theorem Package.readWith?_read? (limit : Nat) (value : Json) :
    readWith? (GoType.read? limit) value =
      if typesReadable limit value then readWith? (GoType.ofJson? limit false) value else none := by
  unfold readWith? typesReadable typeValues
  cases value.record? ["name", "path", "files", "decls"] with
  | none => rfl
  | some record =>
      cases found : record.lookup "decls" with
      | none => simp [Json.Record.optional, found]
      | some decls =>
          cases decls with
          | array decls =>
              simp only [Json.Record.optional, found, TypeDecl.list?_read?, Option.bind_eq_bind,
                Option.bind_some]
              cases (decls.filterMap TypeDecl.typeValue?).all (·.readableWithin limit) <;> simp
          | _ => simp [Json.Record.optional, found, Json.list?]

/-! ## Readable types stay readable -/

namespace Snapshot

/-- Under unknown names only scalars are added or left out in a type, and anything elsewhere. -/
def scalarsInTypes (entry : Entry) (value : Json) : Prop :=
  entry.inType → value.readableWithin 0

def Part.inType : Part → Bool
  | .plain => true
  | .record entry | .list entry => entry.inType

theorem inType_parts {value : Json} {entry : Entry} (inside : entry.inType) :
    ∀ part ∈ entry.parts value, part.2.inType := by
  cases entry with
  | reference | field => simp [Entry.parts, Part.inType, Entry.inType]
  | type =>
      unfold Entry.parts
      cases (tag? value).bind (GoType.Kind.read? true) with
      | none => simp [typeParts, Part.inType]
      | some kind => cases kind <;> simp [typeParts, kindParts, Part.inType, Entry.inType]
  | _ => cases inside

theorem Respells.readableWithin_iff {part : Part} {value other : Json}
    (step : Respells scalarsInTypes part value other) (inside : part.inType) (limit : Nat) :
    value.readableWithin limit = true ↔ other.readableWithin limit = true := by
  induction step generalizing limit with
  | reorder perm =>
      rw [Json.readableWithin_object, Json.readableWithin_object]
      simp only [perm.mem_iff]
  | insert unknown skipped =>
      have scalar := Json.readableWithin_of_zero (skipped inside) (limit - 1)
      rw [Json.readableWithin_object, Json.readableWithin_object, List.forall_mem_cons]
      simp only [scalar, true_and]
  | @list entry members items once fields skipped =>
      have scalars : ∀ member ∈ members, member.1 ∉ entry.names (.object members) →
          member.2.readableWithin (limit - 1) = true := fun member isMember unknown =>
        Json.readableWithin_of_zero (skipped member isMember unknown inside) (limit - 1)
      rw [Json.readableWithin_object, Json.readableWithin_array]
      exact and_congr_right fun _ =>
        forall_mem_fields (·.readableWithin (limit - 1) = true) once fields scalars
  | member isPart _ ih =>
      have within := ih (inType_parts inside _ isPart) (limit - 1)
      rw [Json.readableWithin_object, Json.readableWithin_object]
      simp only [List.forall_mem_append, List.forall_mem_cons, within]
  | slot isPart _ ih =>
      have within := ih (inType_parts inside _ (List.mem_of_getElem? isPart)) (limit - 1)
      rw [Json.readableWithin_array, Json.readableWithin_array]
      simp only [List.forall_mem_append, List.forall_mem_cons, within]
  | item _ ih =>
      have within := ih inside (limit - 1)
      rw [Json.readableWithin_array, Json.readableWithin_array]
      simp only [List.forall_mem_append, List.forall_mem_cons, within]

end Snapshot

/-! ## Packages and types -/

theorem GoType.ofJson?_spelledAlike {skips : Entry → Json → Prop} {value other : Json}
    (alike : SpelledAlike skips .type value other) (depth : Nat) (nested : Bool) :
    ofJson? depth nested value = ofJson? depth nested other := by
  refine eq_of_spelledAlike alike (ofJson? depth nested) fun value other step => ?_
  have read : (Part.record .type).Alike (fun _ => none) value other := step.alike fun _ _ _ => rfl
  exact read.1.2 depth nested

theorem Package.readWith?_spelledAlike {skips : Entry → Json → Prop} (type? : Json → Option GoType)
    (respects : ∀ value other, SpelledAlike skips .type value other → type? value = type? other)
    {value other : Json} (alike : SpelledAlike skips .package value other) :
    readWith? type? value = readWith? type? other := by
  refine eq_of_spelledAlike alike (readWith? type?) fun value other step => ?_
  have read : (Part.record .package).Alike type? value other :=
    step.alike fun value other inType => respects value other (.rel _ _ inType)
  exact read.1

theorem GoType.read?_spelledAlike {limit : Nat} {value other : Json}
    (alike : SpelledAlike scalarsInTypes .type value other) :
    read? limit value = read? limit other := by
  have readable : value.readableWithin limit = other.readableWithin limit :=
    eq_of_spelledAlike alike (·.readableWithin limit) fun _ _ step =>
      Bool.eq_iff_iff.mpr (step.readableWithin_iff rfl limit)
  unfold read?
  rw [readable, ofJson?_spelledAlike alike]

/-- Packages and types that are spelled alike are read alike, provided that the same types can be
kept before they are read.  That is so whenever no more than scalars stand in types under unknown
names. -/
theorem snapshot_spelling :
    (∀ value other, SpelledAlike (fun _ _ => True) .package value other →
      Package.typesReadable (snapshotDepth - 3) value =
        Package.typesReadable (snapshotDepth - 3) other →
      Package.ofJson? value = Package.ofJson? other) ∧
    (∀ value other, SpelledAlike (fun _ _ => True) .type value other →
      value.readableWithin snapshotDepth = other.readableWithin snapshotDepth →
      GoType.read? snapshotDepth value = GoType.read? snapshotDepth other) ∧
    (∀ value other, SpelledAlike scalarsInTypes .package value other →
      Package.ofJson? value = Package.ofJson? other) ∧
    ∀ value other, SpelledAlike scalarsInTypes .type value other →
      GoType.read? snapshotDepth value = GoType.read? snapshotDepth other := by
  refine ⟨?_, ?_, ?_, ?_⟩
  · intro value other alike readable
    have read := Package.readWith?_spelledAlike (GoType.ofJson? (snapshotDepth - 3) false)
      (fun _ _ inType => GoType.ofJson?_spelledAlike inType _ false) alike
    rw [Package.ofJson?_eq, Package.readWith?_read?, Package.readWith?_read?, readable, read]
  · intro value other alike readable
    unfold GoType.read?
    rw [readable, GoType.ofJson?_spelledAlike alike]
  · intro value other alike
    exact Package.readWith?_spelledAlike _ (fun _ _ => GoType.read?_spelledAlike) alike
  · intro value other alike
    exact GoType.read?_spelledAlike alike

/-- The type of a declaration has another order, one more member, and its element is an array. -/
theorem snapshot_spelling_hooks :
    let decl (type : Json) : Json := .object [("name", .string "Hooks"),
      ("pos", .array [.string "shop.go", .ofNat 3, .ofNat 6]), ("type", type)]
    let package (type : Json) : Json := .object [("name", .string "shop"),
      ("path", .string "example.com/shop"), ("decls", .array [decl type])]
    let func : Json := .object [("kind", .string "func")]
    let value : Json := package (.object [("kind", .string "slice"), ("elem", func)])
    let other : Json := package (.object
      [("note", .array [.null]), ("elem", .array [.string "func"]), ("kind", .string "slice")])
    SpelledAlike (fun _ _ => True) .package value other ∧
      Package.typesReadable (snapshotDepth - 3) value =
        Package.typesReadable (snapshotDepth - 3) other ∧
      Package.ofJson? value = Package.ofJson? other ∧
      Package.ofJson? other =
        some ⟨"shop", "example.com/shop", [], [⟨"Hooks", ⟨"shop.go", 3, 6⟩, .slice .func⟩]⟩ := by
  intro decl package func value other
  have inType {old new : Json} (step : Respells (fun _ _ => True) (.record .type) old new) :
      SpelledAlike (fun _ _ => True) .package (package old) (package new) := by
    have inDecl : Respells (fun _ _ => True) (.record .decl) (decl old) (decl new) :=
      @Respells.member _ .decl (.record .type) [("name", .string "Hooks"),
        ("pos", .array [.string "shop.go", .ofNat 3, .ofNat 6])] [] "type" _ _ (by
          simp [Entry.parts]) step
    have inDecls : Respells (fun _ _ => True) (.list .decl) (.array [decl old])
        (.array [decl new]) :=
      @Respells.item _ .decl [] [] _ _ inDecl
    exact .rel _ _ (@Respells.member _ .package (.list .decl) [("name", .string "shop"),
      ("path", .string "example.com/shop")] [] "decls" _ _ (by simp [Entry.parts]) inDecls)
  have element := inType (@Respells.member (fun _ _ => True) .type (.record .type)
    [("kind", .string "slice")] [] "elem" func (.array [.string "func"]) (by decide +kernel)
    (.list (by decide +kernel) rfl fun _ _ _ => trivial))
  have order := inType (@Respells.reorder (fun _ _ => True) .type
    [("kind", .string "slice"), ("elem", .array [.string "func"])]
    [("elem", .array [.string "func"]), ("kind", .string "slice")] (.swap _ _ _))
  have note := inType (@Respells.insert (fun _ _ => True) .type
    [("elem", .array [.string "func"]), ("kind", .string "slice")] "note" (.array [.null])
    (by decide +kernel) trivial)
  have alike : SpelledAlike (fun _ _ => True) .package value other :=
    .trans _ _ _ element (.trans _ _ _ order note)
  have readable : Package.typesReadable (snapshotDepth - 3) value =
      Package.typesReadable (snapshotDepth - 3) other := by decide +kernel
  exact ⟨alike, readable, snapshot_spelling.1 value other alike readable, rfl⟩

/-- With more arrays under an unknown name than a type can hold, the type is not read at all. -/
theorem spelling_counts_in_types :
    let func : Json := .object [("kind", .string "func")]
    let deep : Json := Nat.repeat (fun value => .array [value]) 126 (.array [])
    let noted : Json := .object [("note", deep), ("kind", .string "func")]
    SpelledAlike (fun _ _ => True) .type func noted ∧
      GoType.read? snapshotDepth func = some .func ∧ GoType.read? snapshotDepth noted = none ∧
      ¬ ∀ value other, SpelledAlike (fun _ _ => True) .type value other →
        GoType.read? snapshotDepth value = GoType.read? snapshotDepth other := by
  intro func deep noted
  have alike : SpelledAlike (fun _ _ => True) .type func noted :=
    .rel _ _ (.insert (by decide +kernel) trivial)
  have tooDeep : ¬noted.readableWithin snapshotDepth = true := by decide +kernel
  have unread : GoType.read? snapshotDepth noted = none := if_neg tooDeep
  refine ⟨alike, rfl, unread, fun same => ?_⟩
  cases (same func noted alike).trans unread

end Scaffold
