import Scaffold.Proofs.FileSystem.Changes

/-!
# On the way to a location

`FileSystem.visited` are the locations where a path looks for a directory, as far as it gets.  A
path leads to the same place, or is lost for the same reason, wherever these look the same
(`locate_of_visited`).  `DifferOnlyIn` says that nothing differs but at some locations, and that no
directory does; then a path that leads somewhere leads there in both.
-/

set_option autoImplicit false

namespace Scaffold

open Checked

namespace FileSystem

variable {fs before after : FileSystem} {location : Location} {path : String}

/-- The locations from which steps are taken, the last of which may fail. -/
def trail (fs : FileSystem) : Location → List String → List Location
  | _, [] => []
  | location, name :: rest =>
    location :: match fs.step location name with
      | .ok next => fs.trail next rest
      | .error _ => []

def visited (fs : FileSystem) (path : String) : List Location :=
  fs.trail (if Path.isAbsolute path then [] else fs.workingDirectory) (Path.steps path)

theorem foldlM_step_of_trail : ∀ (names : List String) (start : Location),
    (∀ location ∈ before.trail start names, after.node? location = before.node? location) →
      names.foldlM after.step start = names.foldlM before.step start := by
  intro names
  induction names with
  | nil => intro start _; rfl
  | cons name rest ih =>
      intro start same
      have here : after.step start name = before.step start name := by
        simp only [step, same start (by simp [trail])]
      rw [List.foldlM_cons, List.foldlM_cons, here]
      cases stepped : before.step start name with
      | error cause => rfl
      | ok next =>
          apply ih
          intro location member
          apply same
          simp only [trail, stepped]
          exact List.mem_cons_of_mem _ member

/-- A path does not tell apart what looks the same wherever it looks. -/
theorem locate_of_visited (workingDirectory : after.workingDirectory = before.workingDirectory)
    (same : ∀ location ∈ before.visited path, after.node? location = before.node? location) :
    after.locate path = before.locate path := by
  have walked : after.walk path = before.walk path := by
    unfold walk
    rw [workingDirectory]
    exact foldlM_step_of_trail _ _ same
  rw [locate_eq, locate_eq, walked]

/-! ## Reading -/

theorem AgreeAt.read_eq (agree : AgreeAt path before after) :
    after.read path = before.read path := by
  unfold read
  rw [agree.locate]
  cases located : before.locate path with
  | error cause => rfl
  | ok location =>
      have node := agree.node location located
      simp only [bind, Except.bind, node]

theorem AgreeAt.readText_eq (agree : AgreeAt path before after) :
    after.readText path = before.readText path := by
  unfold readText
  rw [agree.read_eq]

theorem exists_locate_of_readText {text : String} (ok : fs.readText path = .ok text) :
    ∃ location, fs.locate path = .ok location := by
  obtain ⟨bytes, ok, _⟩ := bind_eq_ok.mp ok
  obtain ⟨location, located, _⟩ := bind_eq_ok.mp ok
  exact ⟨location, located⟩

/-! ## Differences at some locations -/

/-- The directories are the same, and everything else but what stands at some locations. -/
structure DifferOnlyIn (places : List Location) (before after : FileSystem) : Prop where
  same : SameDirectories before after
  elsewhere : ∀ location, location ∉ places → after.node? location = before.node? location

namespace DifferOnlyIn

variable {places : List Location}

theorem refl (places : List Location) (fs : FileSystem) : DifferOnlyIn places fs fs :=
  ⟨.refl fs, fun _ _ => rfl⟩

theorem agreeAt_of_locate (differ : DifferOnlyIn places before after)
    (located : before.locate path = .ok location) (away : location ∉ places) :
    AgreeAt path before after := by
  refine ⟨(differ.same.locate_eq_ok located).trans located.symm, fun other found => ?_⟩
  cases Except.ok.inj (located.symm.trans found)
  exact differ.elsewhere location away

/-- A path that neither passes nor meets one of the locations looks the same, also when it is
lost. -/
theorem agreeAt (differ : DifferOnlyIn places before after)
    (aside : ∀ location ∈ places, location ∉ before.visited path)
    (away : ∀ location ∈ places, before.locate path ≠ .ok location) :
    AgreeAt path before after where
  locate := locate_of_visited differ.same.workingDirectory fun location member =>
    differ.elsewhere location fun altered => aside location altered member
  node location located := differ.elsewhere location fun altered => away location altered located

theorem readText_eq_ok (differ : DifferOnlyIn places before after)
    (away : ∀ location ∈ places, before.locate path ≠ .ok location) (text : String) :
    after.readText path = .ok text ↔ before.readText path = .ok text := by
  have agree {location : Location} (located : before.locate path = .ok location) :
      AgreeAt path before after :=
    differ.agreeAt_of_locate located fun altered => away location altered located
  constructor
  · intro ok
    obtain ⟨location, located⟩ := exists_locate_of_readText ok
    rw [← ok, (agree (differ.same.symm.locate_eq_ok located)).readText_eq]
  · intro ok
    obtain ⟨location, located⟩ := exists_locate_of_readText ok
    rw [← ok, (agree located).readText_eq]

end DifferOnlyIn

def altered (fs : FileSystem) (changes : List Change) : List Location :=
  (changes.filter fun change => fs.node? change.1 ≠ change.2).map Prod.fst

theorem DifferOnlyIn.changeAll {changes : List Change} :
    ∀ {again : List Change} {after : FileSystem},
      (∀ change ∈ again, change ∈ changes ∧ before.node? change.1 ≠ some .directory ∧
        change.2 ≠ some .directory) →
      DifferOnlyIn (before.altered changes) before after →
      DifferOnlyIn (before.altered changes) before (after.changeAll again) := by
  intro again
  induction again with
  | nil => intro after _ differ; exact differ
  | cons change again ih =>
      intro after known differ
      obtain ⟨⟨member, wasFile, isFile⟩, known⟩ := List.forall_mem_cons.mp known
      have notDirectory : after.node? change.1 ≠ some .directory :=
        fun directory => wasFile ((differ.same.directory _).mp directory)
      refine ih known ⟨differ.same.trans (sameDirectories_setAt notDirectory isFile), ?_⟩
      intro location away
      rw [node?_setAt notDirectory]
      split_ifs with same
      · subst same
        by_contra differs
        have counts : change ∈ changes.filter fun change => before.node? change.1 ≠ change.2 :=
          List.mem_filter.mpr ⟨member, decide_eq_true (Ne.symm differs)⟩
        exact away (List.mem_map_of_mem counts)
      · exact differ.elsewhere location away

end FileSystem

end Scaffold
