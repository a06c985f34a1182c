import Mathlib.Data.List.Induction
import Scaffold.Proofs.FileSystem.Edits

/-!
# Changes of single locations

A `Change` says what is to stand at a location.  An edit that can be made makes one
(`Edit.change?`), which depends on nothing but the directories there are (`Edit.change?_congr`).
Changes of different locations can be made in any order (`setAt_comm`), and changes that have been
made change nothing when they are made again (`changeAll_again`).
-/

set_option autoImplicit false

namespace Scaffold

open Checked

namespace FileSystem

variable {fs before after : FileSystem} {location other : Location} {node : Option Node}

theorem ext_nodes (workingDirectory : after.workingDirectory = before.workingDirectory)
    (nodes : ∀ location : Location, after.nodes[location]? = before.nodes[location]?) :
    after = before := by
  obtain ⟨afterNodes, afterDirectory⟩ := after
  obtain ⟨beforeNodes, beforeDirectory⟩ := before
  obtain rfl := workingDirectory
  have same : afterNodes = beforeNodes :=
    Std.ExtTreeMap.ext_getElem? fun {location} => nodes location
  rw [same]

def setAt (fs : FileSystem) (location : Location) : Option Node → FileSystem
  | some node => fs.put location node
  | none => fs.drop location

theorem workingDirectory_setAt (fs : FileSystem) (location : Location) (node : Option Node) :
    (fs.setAt location node).workingDirectory = fs.workingDirectory := by
  cases node <;> rfl

theorem nodes_setAt (fs : FileSystem) (location : Location) (node : Option Node)
    (other : Location) :
    (fs.setAt location node).nodes[other]? =
      if location = other then node else fs.nodes[other]? := by
  cases node <;>
    simp only [setAt, put, drop, Std.ExtTreeMap.getElem?_insert, Std.ExtTreeMap.getElem?_erase,
      Std.LawfulEqCmp.compare_eq_iff_eq]

theorem node?_setAt (notDirectory : fs.node? location ≠ some .directory) (node : Option Node)
    (other : Location) :
    (fs.setAt location node).node? other = if other = location then node else fs.node? other := by
  cases node with
  | none => exact node?_drop notDirectory other
  | some node => exact node?_put notDirectory node other

theorem setAt_none (missing : fs.node? location = none) : fs.setAt location none = fs := by
  apply ext_nodes (workingDirectory_setAt fs location none)
  intro other
  rw [nodes_setAt]
  split_ifs with same
  · subst same
    have outside : location.isPrefixOf fs.workingDirectory = false :=
      not_isPrefixOf_of_node? (by simp [missing])
    simpa [node?, outside] using missing.symm
  · rfl

theorem setAt_comm (apart : location ≠ other) (fs : FileSystem) (node node' : Option Node) :
    (fs.setAt location node).setAt other node' = (fs.setAt other node').setAt location node := by
  apply ext_nodes
  · simp only [workingDirectory_setAt]
  · intro third
    simp only [nodes_setAt]
    split_ifs with first second
    · exact absurd (second.trans first.symm) apart
    · rfl
    · rfl
    · rfl

/-- Setting a file or nothing where no directory stands keeps the directories. -/
theorem sameDirectories_setAt (notDirectory : fs.node? location ≠ some .directory)
    (isFile : node ≠ some .directory) : SameDirectories fs (fs.setAt location node) := by
  refine ⟨workingDirectory_setAt fs location node, fun other => ?_⟩
  rw [node?_setAt notDirectory]
  split_ifs with same
  · subst same
    exact ⟨fun directory => absurd directory isFile, fun directory => absurd directory notDirectory⟩
  · exact Iff.rfl

abbrev Change := Location × Option Node

def changeAll (fs : FileSystem) (changes : List Change) : FileSystem :=
  changes.foldl (fun fs change => fs.setAt change.1 change.2) fs

/-- The change of a location that counts: the last one. -/
def lastChange? (changes : List Change) (location : Location) : Option Change :=
  changes.reverse.find? fun change => change.1 = location

variable {changes again : List Change}

theorem changeAll_append (fs : FileSystem) (changes behind : List Change) :
    fs.changeAll (changes ++ behind) = (fs.changeAll changes).changeAll behind := by
  simp only [changeAll, List.foldl_append]

theorem workingDirectory_changeAll (fs : FileSystem) (changes : List Change) :
    (fs.changeAll changes).workingDirectory = fs.workingDirectory := by
  induction changes generalizing fs with
  | nil => rfl
  | cons change changes ih => exact (ih _).trans (workingDirectory_setAt fs change.1 change.2)

theorem nodes_changeAll (fs : FileSystem) (changes : List Change) (location : Location) :
    (fs.changeAll changes).nodes[location]? =
      match lastChange? changes location with
      | some change => change.2
      | none => fs.nodes[location]? := by
  induction changes using List.reverseRecOn with
  | nil => rfl
  | append_singleton changes change ih =>
      rw [changeAll_append]
      simp only [changeAll, List.foldl_cons, List.foldl_nil] at ih ⊢
      rw [nodes_setAt, ih, lastChange?, lastChange?, List.reverse_append, List.reverse_singleton,
        List.singleton_append, List.find?_cons]
      by_cases same : change.1 = location <;> simp [same]

theorem changeAll_again (counted : ∀ location, (∃ change ∈ again, change.1 = location) →
      lastChange? again location = lastChange? changes location) (fs : FileSystem) :
    (fs.changeAll changes).changeAll again = fs.changeAll changes := by
  apply ext_nodes
  · simp only [workingDirectory_changeAll]
  · intro location
    rw [nodes_changeAll _ again]
    cases last : lastChange? again location with
    | none => rfl
    | some change =>
        have member : ∃ change ∈ again, change.1 = location :=
          ⟨change, List.mem_reverse.mp (List.mem_of_find?_eq_some last),
            by simpa using List.find?_some last⟩
        rw [nodes_changeAll, ← counted location member, last]

theorem lastChange?_append (changes behind : List Change) (location : Location) :
    lastChange? (changes ++ behind) location =
      (lastChange? behind location).or (lastChange? changes location) := by
  simp only [lastChange?, List.reverse_append, List.find?_append]

theorem lastChange?_eq_none (away : ∀ change ∈ changes, change.1 ≠ location) :
    lastChange? changes location = none := by
  rw [lastChange?, List.find?_eq_none]
  intro change member
  simpa using away change (List.mem_reverse.mp member)

/-- Of two groups of changes of different locations, each is made again without effect. -/
theorem changeAll_again_append {first behind : List Change}
    (apart : ∀ change ∈ first, ∀ other ∈ behind, change.1 ≠ other.1) (fs : FileSystem) :
    (fs.changeAll (first ++ behind)).changeAll first = fs.changeAll (first ++ behind) ∧
      (fs.changeAll (first ++ behind)).changeAll behind = fs.changeAll (first ++ behind) := by
  constructor
  · apply changeAll_again
    rintro location ⟨change, member, rfl⟩
    have away : lastChange? behind change.1 = none :=
      lastChange?_eq_none fun other otherMember => (apart change member other otherMember).symm
    rw [lastChange?_append, away, Option.none_or]
  · apply changeAll_again
    rintro location ⟨change, member, rfl⟩
    rw [lastChange?_append]
    cases last : lastChange? behind change.1 with
    | some _ => rfl
    | none =>
        rw [lastChange?, List.find?_eq_none] at last
        exact absurd (decide_eq_true rfl) (last change (List.mem_reverse.mpr member))

end FileSystem

namespace Edit

open FileSystem

variable {edit : Edit} {before after files : FileSystem}

/-- What comes of an edit whose path leads nowhere: nothing is there to be deleted. -/
def applyNowhere (edit : Edit) (cause : FileCause) (files : FileSystem) :
    Except FileCause FileSystem :=
  match edit, cause with
  | delete _, .notFound => .ok files
  | _, cause => .error cause

/-- An edit of a path that does not ask for a directory sets the location that it leads to. -/
theorem apply_eq (ends : Path.endsInDirectory edit.path = false) (files : FileSystem) :
    edit.apply files =
      match files.locate edit.path with
      | .ok location =>
        if files.node? location = some .directory then .error .isDirectory
        else .ok (files.setAt location edit.content?)
      | .error cause => edit.applyNowhere cause files := by
  cases edit with
  | write path text =>
      simp only [Edit.path] at ends ⊢
      cases located : files.locate path with
      | ok location =>
          simp only [apply, write_of_locate located, ends, Bool.false_eq_true, if_false]
          rfl
      | error cause => simp [apply, FileSystem.write, located, bind, Except.bind, applyNowhere]
  | delete path =>
      simp only [Edit.path] at ends ⊢
      cases located : files.locate path with
      | ok location =>
          simp only [apply, remove_of_locate located, ends, Bool.false_eq_true, if_false]
          cases stands : files.node? location with
          | none => simp [content?, setAt_none stands]
          | some node => cases node <;> simp [content?, setAt]
      | error cause =>
          cases cause <;> simp [apply, remove, located, bind, Except.bind, applyNowhere]

def change? (edit : Edit) (files : FileSystem) : Option Change :=
  match files.locate edit.path with
  | .ok location =>
    if files.node? location = some .directory then none else some (location, edit.content?)
  | .error _ => none

theorem change?_eq_some {change : Change} :
    edit.change? files = some change ↔ files.locate edit.path = .ok change.1 ∧
      files.node? change.1 ≠ some .directory ∧ change.2 = edit.content? := by
  obtain ⟨location, node⟩ := change
  unfold change?
  cases located : files.locate edit.path with
  | error cause => simp
  | ok other =>
      simp only [Except.ok.injEq]
      split_ifs with directory
      · simp only [false_iff, not_and]
        rintro rfl notDirectory
        exact absurd directory notDirectory
      · simp only [Option.some.injEq, Prod.mk.injEq]
        constructor
        · rintro ⟨rfl, rfl⟩
          exact ⟨rfl, directory, rfl⟩
        · rintro ⟨rfl, _, rfl⟩
          exact ⟨rfl, rfl⟩

theorem change?_congr (same : SameDirectories before after) (edit : Edit) :
    edit.change? after = edit.change? before := by
  apply Option.ext
  intro change
  simp only [change?_eq_some, ne_eq, same.directory]
  constructor
  · rintro ⟨located, there⟩
    exact ⟨same.symm.locate_eq_ok located, there⟩
  · rintro ⟨located, there⟩
    exact ⟨same.locate_eq_ok located, there⟩

/-- Why an edit cannot be made depends on the directories and on how its path is lost. -/
theorem apply_eq_error_congr {cause : FileCause} (ends : Path.endsInDirectory edit.path = false)
    (same : SameDirectories before after)
    (located : after.locate edit.path = before.locate edit.path) :
    edit.apply after = .error cause ↔ edit.apply before = .error cause := by
  rw [apply_eq ends, apply_eq ends, located]
  cases before.locate edit.path with
  | ok location =>
      simp only [same.directory]
      split_ifs <;> simp
  | error other => cases edit <;> cases other <;> simp [applyNowhere]

end Edit

end Scaffold
