import Scaffold.Package.Snapshot
import Scaffold.Proofs.GoType.Snapshot

/-!
# Snapshots read back

The text of a package or a type is read back exactly when its arrays and objects nest no deeper than
what is read from a snapshot (`snapshot_roundTrip`).  Only the types of declarations nest without
bound, and they stand three levels deep in a package.
-/

set_option autoImplicit false

namespace Scaffold

open Json (Spellable record?_object)

theorem spellable_line (line : UInt32) : Spellable (.ofNat line.toNat) :=
  Json.spellable_ofNat (Nat.lt_trans line.toNat_lt (by decide))

/-! ## Positions and comments -/

namespace Position

theorem spellable_toJson (pos : Position) : Spellable pos.toJson :=
  .object (by simp [Spellable.string, spellable_line])

theorem read?_toJson (pos : Position) : read? pos.toJson = some pos := by
  unfold read? toJson
  rw [record?_object (by decide) (by exact .refl _)]
  simp [Json.Record.required, List.lookup_cons, Json.string?, Json.uint32?_ofNat]

end Position

namespace Comment

theorem spellable_toJson (comment : Comment) : Spellable comment.toJson :=
  .object (by simp [Spellable.string, spellable_line])

theorem read?_toJson (comment : Comment) : read? comment.toJson = some comment := by
  unfold read? toJson
  rw [record?_object (by decide) (by exact .refl _)]
  simp [Json.Record.required, List.lookup_cons, Json.string?, Json.uint32?_ofNat]

end Comment

namespace CommentGroup

theorem spellable_toJson (group : CommentGroup) : Spellable group.toJson := by
  have comments : Spellable (.array (group.comments.map Comment.toJson)) :=
    .array (by simp [Comment.spellable_toJson])
  exact .object (by simp [comments])

theorem read?_toJson (group : CommentGroup) : read? group.toJson = some group := by
  have comments := Json.list?_map fun comment (_ : comment ∈ group.comments) => comment.read?_toJson
  unfold read? toJson
  rw [record?_object (by decide) (by exact .refl _)]
  simp [Json.Record.required, comments]

end CommentGroup

namespace SourceFile

theorem spellable_toJson (file : SourceFile) : Spellable file.toJson := by
  have groups : Spellable (.array (file.comments.map CommentGroup.toJson)) :=
    .array (by simp [CommentGroup.spellable_toJson])
  exact .object (by simp [Spellable.string, groups])

theorem read?_toJson (file : SourceFile) : read? file.toJson = some file := by
  have groups := Json.list?_map fun group (_ : group ∈ file.comments) => group.read?_toJson
  unfold read? toJson
  rw [record?_object (by decide) (by exact .refl _)]
  simp [Json.Record.required, Json.Record.optional, List.lookup_cons, Json.string?, groups]

theorem nesting_toJson (file : SourceFile) : file.toJson.nesting ≤ 5 := by
  have comment (c : Comment) : c.toJson.nesting ≤ 1 := Json.nesting_object_le.mpr (by simp)
  have group (g : CommentGroup) : g.toJson.nesting ≤ 3 :=
    Json.nesting_object_le.mpr (by simp [Json.nesting_array_le, comment])
  exact Json.nesting_object_le.mpr (by simp [Json.nesting_array_le, group])

end SourceFile

/-! ## Declarations -/

namespace TypeDecl

theorem spellable_toJson (decl : TypeDecl) : Spellable decl.toJson :=
  .object (by simp [Spellable.string, decl.pos.spellable_toJson, decl.type.spellable_toJson])

theorem read?_toJson (decl : TypeDecl) :
    read? decl.toJson =
      if decl.type.toJson.nesting ≤ snapshotDepth - 3 then some decl else none := by
  unfold read? toJson
  rw [record?_object (by decide) (by exact .refl _)]
  by_cases fits : decl.type.toJson.nesting ≤ snapshotDepth - 3 <;>
    simp [Json.Record.required, List.lookup_cons, Json.string?, decl.pos.read?_toJson,
      GoType.read?_toJson, fits]

theorem nesting_toJson {decl : TypeDecl} {limit : Nat} :
    decl.toJson.nesting ≤ limit + 2 ↔ decl.type.toJson.nesting ≤ limit + 1 := by
  have pos : decl.pos.toJson.nesting ≤ limit + 1 := Json.nesting_object_le.mpr (by simp)
  unfold toJson
  rw [Json.nesting_object_le]
  simp [pos]

end TypeDecl

/-! ## Packages -/

namespace Package

theorem spellable_toJson (package : Package) : Spellable package.toJson := by
  have files : Spellable (.array (package.files.map SourceFile.toJson)) :=
    .array (by simp [SourceFile.spellable_toJson])
  have decls : Spellable (.array (package.decls.map TypeDecl.toJson)) :=
    .array (by simp [TypeDecl.spellable_toJson])
  exact .object (by simp [Spellable.string, files, decls])

theorem nesting_toJson {package : Package} :
    package.toJson.nesting ≤ snapshotDepth ↔
      ∀ decl ∈ package.decls, decl.type.toJson.nesting ≤ snapshotDepth - 3 := by
  have file (f : SourceFile) : f.toJson.nesting ≤ 125 := Nat.le_trans f.nesting_toJson (by decide)
  have files : (Json.array (package.files.map SourceFile.toJson)).nesting ≤ 126 :=
    Json.nesting_array_le.mpr (by simp [file])
  have decls : (Json.array (package.decls.map TypeDecl.toJson)).nesting ≤ 126 ↔
      ∀ decl ∈ package.decls, decl.type.toJson.nesting ≤ 124 := by
    rw [Json.nesting_array_le, List.forall_mem_map]
    exact forall₂_congr fun decl _ => TypeDecl.nesting_toJson
  calc package.toJson.nesting ≤ 127
      ↔ (Json.array (package.decls.map TypeDecl.toJson)).nesting ≤ 126 := by
        unfold toJson
        rw [Json.nesting_object_le]
        simp [files]
    _ ↔ _ := decls

theorem ofJson?_toJson (package : Package) :
    ofJson? package.toJson =
      if package.toJson.nesting ≤ snapshotDepth then some package else none := by
  have files := Json.list?_map fun file (_ : file ∈ package.files) => file.read?_toJson
  split
  · next fits =>
      have decls : Json.list? TypeDecl.read? (.array (package.decls.map TypeDecl.toJson)) =
          some package.decls := by
        refine Json.list?_map fun decl member => ?_
        rw [TypeDecl.read?_toJson, if_pos (nesting_toJson.mp fits decl member)]
      unfold ofJson? toJson
      rw [record?_object (by decide) (by exact .refl _)]
      simp [Json.Record.required, Json.Record.optional, List.lookup_cons, Json.string?,
        files, decls]
  · next deep =>
      rw [nesting_toJson] at deep
      obtain ⟨decl, deep⟩ := Classical.not_forall.mp deep
      obtain ⟨member, deep⟩ := Classical.not_imp.mp deep
      have unread : TypeDecl.read? decl.toJson = none := by
        rw [TypeDecl.read?_toJson, if_neg deep]
      have decls := Json.list?_eq_none (List.mem_map_of_mem member) unread
      unfold ofJson? toJson
      rw [record?_object (by decide) (by exact .refl _)]
      simp [Json.Record.required, Json.Record.optional, List.lookup_cons, Json.string?,
        files, decls]

end Package

/-- The text of a package gives the package back exactly when its arrays and objects nest at most
127 deep, and so does the text of a type. -/
theorem snapshot_roundTrip :
    (∀ package : Package,
      Package.ofText? package.text = some package ↔ package.toJson.nesting ≤ 127) ∧
    ∀ type : GoType,
      GoType.ofText? type.toJson.text = some type ↔ type.toJson.nesting ≤ 127 := by
  constructor
  · intro package
    unfold Package.ofText? Package.text
    rw [Json.parse_text package.spellable_toJson, Option.bind_some, Package.ofJson?_toJson]
    by_cases fits : package.toJson.nesting ≤ 127 <;> simp [snapshotDepth, fits]
  · intro type
    unfold GoType.ofText?
    rw [Json.parse_text type.spellable_toJson, Option.bind_some, GoType.read?_toJson]
    by_cases fits : type.toJson.nesting ≤ 127 <;> simp [snapshotDepth, fits]

end Scaffold
