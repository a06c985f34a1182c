import Scaffold.Emission
import Scaffold.Proofs.FileSystem.Places

/-!
# What an edit changes

An edit never makes or removes a directory, and of all locations only the one that its path names
changes: `Edit.Made` is the whole effect of an edit that is made.  Two proper names in one directory
are apart, so the edit of one leaves the other as it was (`Edit.agreeAt_sibling`).
-/

set_option autoImplicit false

namespace Scaffold

namespace Edit

open Checked FileSystem

variable {before after files changed : FileSystem} {edit : Edit} {name name' dir : String}

def content? : Edit → Option Node
  | write _ text => some (.file (Text.Utf8.encode text))
  | delete _ => none

structure Made (edit : Edit) (before after : FileSystem) : Prop where
  same : SameDirectories before after
  elsewhere : ∀ location, before.locate edit.path ≠ .ok location →
    after.node? location = before.node? location
  there : after.at? edit.path = edit.content?
  /-- A path that leads nowhere is left alone. -/
  nowhere : (∀ location, before.locate edit.path ≠ .ok location) → after = before

theorem made_of_location {location : Location} {node : Option Node}
    (located : before.locate edit.path = .ok location)
    (wasFile : before.node? location ≠ some .directory) (isFile : node ≠ some .directory)
    (workingDirectory : after.workingDirectory = before.workingDirectory)
    (changed : ∀ other, after.node? other = if other = location then node else before.node? other)
    (there : node = edit.content?) : Made edit before after := by
  have same : SameDirectories before after := by
    refine ⟨workingDirectory, fun other => ?_⟩
    rw [changed]
    split_ifs with at_
    · subst at_
      exact ⟨fun h => absurd h isFile, fun h => absurd h wasFile⟩
    · exact Iff.rfl
  refine ⟨same, fun other away => ?_, ?_, fun away => absurd located (away location)⟩
  · rw [changed, if_neg]
    rintro rfl
    exact away located
  · rw [at?_of_locate (same.locate_eq_ok located), changed, if_pos rfl, there]

theorem made_of_nothing (there : files.at? edit.path = edit.content?) : Made edit files files :=
  ⟨.refl files, fun _ _ => rfl, there, fun _ => rfl⟩

theorem made_of_apply (applied : edit.apply files = .ok changed) : Made edit files changed := by
  cases edit with
  | write path text =>
      simp only [apply, FileSystem.write] at applied
      obtain ⟨location, located, applied⟩ := bind_eq_ok.mp applied
      split_ifs at applied with directory ends
      cases Except.ok.inj applied
      exact made_of_location located directory (by simp) rfl (node?_put directory _) rfl
  | delete path =>
      simp only [apply] at applied
      cases removed : files.remove path with
      | ok after =>
          rw [removed] at applied
          cases Except.ok.inj applied
          obtain ⟨location, located, isFile, rfl⟩ := exists_of_remove removed
          exact made_of_location located isFile (by simp) rfl (node?_drop isFile) rfl
      | error cause =>
          rw [removed] at applied
          cases cause <;> cases applied
          exact made_of_nothing (at?_of_remove_notFound removed)

theorem apply_of_replaceable (replaceable : files.Replaceable edit.path)
    (ends : Path.endsInDirectory edit.path = false) :
    ∃ changed, edit.apply files = .ok changed := by
  obtain ⟨location, located, directory⟩ := replaceable
  cases edit with
  | write path text =>
      refine ⟨files.put location (.file (Text.Utf8.encode text)), ?_⟩
      simp only [Edit.path] at located ends
      simp only [apply, write_of_locate located, if_neg directory, ends,
        Bool.false_eq_true, if_false]
  | delete path =>
      simp only [Edit.path] at located ends
      simp only [apply, remove_of_locate located]
      cases stands : files.node? location with
      | none => exact ⟨files, rfl⟩
      | some node =>
          cases node with
          | directory => exact absurd stands directory
          | file content => exact ⟨files.drop location, by simp [ends]⟩

theorem eq_of_not_replaceable (stuck : ¬ files.Replaceable edit.path)
    (applied : edit.apply files = .ok changed) : changed = files := by
  have made := made_of_apply applied
  apply made.nowhere
  intro location located
  have directory : files.node? location = some .directory := by
    by_contra isFile
    exact stuck ⟨location, located, isFile⟩
  have still := (made.same.directory location).mpr directory
  have there := made.there
  rw [at?_of_locate (made.same.locate_eq_ok located), still] at there
  cases edit <;> cases there

theorem apply_congr (agree : AgreeAt edit.path before after) :
    (∀ cause, edit.apply before = .error cause → edit.apply after = .error cause) ∧
    (∀ changed, edit.apply before = .ok changed → ∃ changed', edit.apply after = .ok changed') := by
  cases located : before.locate edit.path with
  | error cause =>
      have located' := agree.locate.trans located
      cases edit with
      | write path text =>
          simp only [Edit.path] at located located'
          simp [apply, FileSystem.write, located, located', bind, Except.bind]
      | delete path =>
          simp only [Edit.path] at located located'
          cases cause <;> simp [apply, remove, located, located', bind, Except.bind]
  | ok location =>
      have located' := agree.locate.trans located
      have node := agree.node location located
      cases edit with
      | write path text =>
          simp only [Edit.path] at located located'
          simp only [apply, write_of_locate located, write_of_locate located', node]
          split_ifs <;> simp
      | delete path =>
          simp only [Edit.path] at located located'
          simp only [apply, remove_of_locate located, remove_of_locate located', node]
          cases before.node? location with
          | none => simp
          | some node =>
              cases node with
              | directory => simp
              | file content =>
                  simp only
                  split_ifs <;> simp

theorem agreeAt_of_made {changed' : FileSystem} (agree : AgreeAt edit.path before after)
    (made : Made edit before changed) (made' : Made edit after changed') :
    AgreeAt edit.path changed changed' := by
  by_cases reached : ∃ location, before.locate edit.path = .ok location
  · obtain ⟨location, located⟩ := reached
    have found := made.same.locate_eq_ok located
    have found' := made'.same.locate_eq_ok (agree.locate.trans located)
    refine ⟨found'.trans found.symm, fun other located => ?_⟩
    cases Except.ok.inj (found.symm.trans located)
    rw [← at?_of_locate found', ← at?_of_locate found, made.there, made'.there]
  · have lost : ∀ location, before.locate edit.path ≠ .ok location :=
      fun location located => reached ⟨location, located⟩
    have lost' : ∀ location, after.locate edit.path ≠ .ok location :=
      fun location located => lost location (agree.locate.symm.trans located)
    rw [made.nowhere lost, made'.nowhere lost']
    exact agree

/-- The edit of one proper name leaves every other one in the same directory as it was. -/
theorem agreeAt_sibling (proper : Path.IsName name) (proper' : Path.IsName name')
    (ne : name ≠ name')
    (isSibling : edit.path = Path.join dir name') (applied : edit.apply files = .ok changed) :
    AgreeAt (Path.join dir name) files changed := by
  have made := made_of_apply applied
  by_cases reached : ∃ location, files.locate edit.path = .ok location
  · obtain ⟨location, located⟩ := reached
    rw [isSibling] at located
    obtain ⟨front, walked, directory, _⟩ := exists_of_locate_join proper' located
    refine ⟨made.same.locate_join walked proper directory, fun other found => ?_⟩
    · apply made.elsewhere
      intro located'
      rw [isSibling] at located'
      exact ne (name_eq_of_locate_join proper proper' found located')
  · rw [made.nowhere fun location located => reached ⟨location, located⟩]
    exact .refl _ files

end Edit

end Scaffold
