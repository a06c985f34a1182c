import Scaffold.Proofs.FileSystem.Changes

/-!
# Emissions apart from each other

An emission that edits only its own path reports and leaves the same whenever its path looks the
same (`perform_congr`).  So of emissions that are apart, performed one after the other, each reports
what it would report alone and leaves at its path what it would leave alone (`performAll_apart`),
and together they differ from what was there only at their paths (`performAll_differOnlyAt`).

An emission whose path does not ask for a directory makes one change at most (`perform_snd`).  The
change is the same wherever the directories are the same, so emissions of different places can be
performed in any order (`perform_comm`).
-/

set_option autoImplicit false

namespace Scaffold.Emission

open FileSystem

variable {α ι : Type} {emission : Emission α} {path name name' dir : String}
  {before after files : FileSystem}

def EditsOnly (emission : Emission α) (path : String) : Prop :=
  ∀ edit, emission.edit = some edit → edit.path = path

theorem perform_cases (emission : Emission α) (files : FileSystem) :
    (emission.perform files).2 = files ∨
      ∃ edit, emission.edit = some edit ∧ edit.apply files = .ok (emission.perform files).2 := by
  cases edited : emission.edit with
  | none => simp [perform, edited]
  | some edit =>
      cases applied : edit.apply files with
      | error cause => simp [perform, edited, applied]
      | ok changed => simp [perform, edited, applied]

theorem perform_congr (own : emission.EditsOnly path) (agree : AgreeAt path before after) :
    (emission.perform after).1 = (emission.perform before).1 ∧
      AgreeAt path (emission.perform before).2 (emission.perform after).2 := by
  cases edited : emission.edit with
  | none => simpa [perform, edited] using agree
  | some edit =>
      obtain rfl := own edit edited
      obtain ⟨refused, allowed⟩ := Edit.apply_congr agree
      cases applied : edit.apply before with
      | error cause =>
          simpa [perform, edited, applied, refused cause applied] using agree
      | ok changed =>
          obtain ⟨changed', applied'⟩ := allowed changed applied
          simp only [perform, edited, applied, applied', true_and]
          exact Edit.agreeAt_of_made agree (Edit.made_of_apply applied)
            (Edit.made_of_apply applied')

theorem perform_differOnlyAt (own : emission.EditsOnly path) (files : FileSystem) :
    DifferOnlyAt [path] files (emission.perform files).2 := by
  rcases perform_cases emission files with unchanged | ⟨edit, edited, applied⟩
  · rw [unchanged]
    exact .refl _ files
  · obtain rfl := own edit edited
    have made := Edit.made_of_apply applied
    exact ⟨made.same, fun location away => made.elsewhere location (away _ List.mem_cons_self)⟩

theorem perform_agreeAt_sibling (proper : Path.IsName name) (proper' : Path.IsName name')
    (ne : name ≠ name') (own : emission.EditsOnly (Path.join dir name')) (files : FileSystem) :
    AgreeAt (Path.join dir name) files (emission.perform files).2 := by
  rcases perform_cases emission files with unchanged | ⟨edit, edited, applied⟩
  · rw [unchanged]
    exact .refl _ files
  · exact Edit.agreeAt_sibling proper proper' ne (own edit edited) applied

/-! ## One after the other -/

theorem performAll_agreeAt {emissions : List (Emission α)}
    (apart : ∀ emission ∈ emissions, ∀ files, AgreeAt path files (emission.perform files).2) :
    ∀ files, AgreeAt path files (performAll emissions files).2 := by
  induction emissions with
  | nil => intro files; exact .refl path files
  | cons emission others ih =>
      intro files
      have first := apart emission List.mem_cons_self files
      have rest := ih (fun other member => apart other (List.mem_cons_of_mem _ member))
      exact first.trans (rest _)

/-- Two emissions, each of its own path, that do not get into each other's way. -/
def Apart (path : ι → String) (emission : ι → Emission α) (i j : ι) : Prop :=
  ∀ files, AgreeAt (path j) files ((emission i).perform files).2 ∧
    AgreeAt (path i) files ((emission j).perform files).2

/-- Of emissions that are apart, each reports and leaves what it would alone. -/
theorem performAll_apart {emission : ι → Emission α} {path : ι → String}
    (own : ∀ i, (emission i).EditsOnly (path i)) :
    ∀ (items : List ι), items.Pairwise (Apart path emission) → ∀ files : FileSystem,
      (performAll (items.map emission) files).1 =
        items.map (fun i => ((emission i).perform files).1) ∧
      ∀ i ∈ items, AgreeAt (path i) ((emission i).perform files).2
        (performAll (items.map emission) files).2 := by
  intro items
  induction items with
  | nil => intro _ files; exact ⟨rfl, fun i member => absurd member List.not_mem_nil⟩
  | cons i rest ih =>
      intro apart files
      obtain ⟨apartHead, apartRest⟩ := List.pairwise_cons.mp apart
      -- the other emissions start from what this one leaves, which looks the same at their paths
      have same : ∀ j ∈ rest, AgreeAt (path j) files ((emission i).perform files).2 :=
        fun j member => (apartHead j member files).1
      obtain ⟨reports, leaves⟩ := ih apartRest ((emission i).perform files).2
      refine ⟨?_, fun j member => ?_⟩
      · simp only [List.map_cons, performAll, reports, List.cons.injEq, true_and]
        apply List.map_congr_left
        intro j member
        exact (perform_congr (own j) (same j member)).1
      · rcases List.mem_cons.mp member with rfl | member
        · apply performAll_agreeAt
          intro other otherMember
          obtain ⟨k, kMember, rfl⟩ := List.mem_map.mp otherMember
          exact fun files => (apartHead k kMember files).2
        · exact (perform_congr (own j) (same j member)).2.trans (leaves j member)

theorem performAll_differOnlyAt {emission : ι → Emission α} {path : ι → String}
    (own : ∀ i, (emission i).EditsOnly (path i)) (items : List ι) :
    ∀ files, DifferOnlyAt (items.map path) files (performAll (items.map emission) files).2 := by
  induction items with
  | nil => intro files; exact .refl _ files
  | cons i rest ih =>
      intro files
      exact (perform_differOnlyAt (own i) files).trans (ih ((emission i).perform files).2)

/-! ## Changes -/

/-- The change that an emission makes, if it makes one. -/
def change? (emission : Emission α) (files : FileSystem) : Option Change :=
  emission.edit.bind (·.change? files)

theorem change?_congr (same : SameDirectories before after) (emission : Emission α) :
    emission.change? after = emission.change? before := by
  simp only [change?, Edit.change?_congr same]

theorem locate_of_change? {change : Change} (own : emission.EditsOnly path)
    (changes : emission.change? files = some change) :
    files.locate path = .ok change.1 ∧ files.node? change.1 ≠ some .directory ∧
      change.2 ≠ some .directory := by
  obtain ⟨edit, edited, changes⟩ := Option.bind_eq_some_iff.mp changes
  obtain rfl := own edit edited
  obtain ⟨located, wasFile, there⟩ := Edit.change?_eq_some.mp changes
  refine ⟨located, wasFile, ?_⟩
  rw [there]
  cases edit <;> simp [Edit.content?]

theorem perform_snd (own : emission.EditsOnly path) (ends : Path.endsInDirectory path = false)
    (files : FileSystem) :
    (emission.perform files).2 = files.changeAll (emission.change? files).toList := by
  cases edited : emission.edit with
  | none => simp [perform, change?, edited, changeAll]
  | some edit =>
      obtain rfl := own edit edited
      simp only [perform, change?, edited, Option.bind_some, Edit.change?, Edit.apply_eq ends]
      cases files.locate edit.path with
      | ok location => simp only; split_ifs <;> rfl
      | error cause => cases edit <;> cases cause <;> rfl

/-- What an emission reports depends on the directories and on how its path is lost. -/
theorem perform_fst_congr (own : emission.EditsOnly path) (ends : Path.endsInDirectory path = false)
    (same : SameDirectories before after) (located : after.locate path = before.locate path) :
    (emission.perform after).1 = (emission.perform before).1 := by
  cases edited : emission.edit with
  | none => simp [perform, edited]
  | some edit =>
      obtain rfl := own edit edited
      have refused (cause : FileCause) :
          edit.apply after = .error cause ↔ edit.apply before = .error cause :=
        Edit.apply_eq_error_congr ends same located
      simp only [perform, edited]
      cases applied : edit.apply before with
      | error cause => rw [(refused cause).mpr applied]
      | ok changed =>
          cases applied' : edit.apply after with
          | ok _ => rfl
          | error cause => cases applied.symm.trans ((refused cause).mp applied')

theorem perform_sameDirectories (own : emission.EditsOnly path) (files : FileSystem) :
    SameDirectories files (emission.perform files).2 :=
  (perform_differOnlyAt own files).same

/-- Emissions that lead to different places leave the same in either order. -/
theorem perform_comm {other : Emission α} {path' : String} (own : emission.EditsOnly path)
    (own' : other.EditsOnly path') (ends : Path.endsInDirectory path = false)
    (ends' : Path.endsInDirectory path' = false)
    (apart : ∀ location, files.locate path = .ok location → files.locate path' ≠ .ok location) :
    (other.perform (emission.perform files).2).2 =
      (emission.perform (other.perform files).2).2 := by
  have first := perform_snd own ends files
  have second := perform_snd own' ends' files
  rw [perform_snd own' ends', change?_congr (perform_sameDirectories own files), first,
    perform_snd own ends, change?_congr (perform_sameDirectories own' files), second]
  cases changed : emission.change? files with
  | none => rfl
  | some change =>
      cases changed' : other.change? files with
      | none => rfl
      | some change' =>
          have located := (locate_of_change? own changed).1
          have located' := (locate_of_change? own' changed').1
          have ne : change.1 ≠ change'.1 := by
            intro same
            rw [← same] at located'
            exact apart _ located located'
          exact setAt_comm ne files change.2 change'.2

theorem performAll_append_snd (first second : List (Emission α)) (files : FileSystem) :
    (performAll (first ++ second) files).2 = (performAll second (performAll first files).2).2 := by
  induction first generalizing files with
  | nil => rfl
  | cons emission others ih => exact ih (emission.perform files).2

/-- An emission that can be swapped with each of some others can be performed in front of them
all. -/
theorem perform_performAll_comm {others : List (Emission α)}
    (swaps : ∀ other ∈ others, ∀ files,
      (emission.perform (other.perform files).2).2 = (other.perform (emission.perform files).2).2)
    (files : FileSystem) :
    (emission.perform (performAll others files).2).2 =
      (performAll others (emission.perform files).2).2 := by
  induction others generalizing files with
  | nil => rfl
  | cons other others ih =>
      obtain ⟨swap, swaps⟩ := List.forall_mem_cons.mp swaps
      calc (emission.perform (performAll others (other.perform files).2).2).2
          = (performAll others (emission.perform (other.perform files).2).2).2 := ih swaps _
        _ = (performAll others (other.perform (emission.perform files).2).2).2 := by rw [swap]

/-! ## Known changes -/

section Plain
variable {emissions : List (Emission α)}

theorem perform_snd_congr {other : Emission α} (edit : other.edit = emission.edit)
    (files : FileSystem) : (other.perform files).2 = (emission.perform files).2 := by
  unfold perform
  rw [edit]
  cases emission.edit with
  | none => rfl
  | some edit => cases applied : edit.apply files <;> simp only [applied]

/-- An emission edits one path, which does not ask for a directory. -/
def IsPlain (emission : Emission α) : Prop :=
  ∃ path, emission.EditsOnly path ∧ Path.endsInDirectory path = false

theorem IsPlain.perform_snd (plain : emission.IsPlain) (same : SameDirectories before after) :
    (emission.perform after).2 = after.changeAll (emission.change? before).toList := by
  obtain ⟨path, own, ends⟩ := plain
  rw [Emission.perform_snd own ends, change?_congr same]

theorem IsPlain.isFile_of_change? {change : Change} (plain : emission.IsPlain)
    (changes : emission.change? before = some change) :
    before.node? change.1 ≠ some .directory ∧ change.2 ≠ some .directory := by
  obtain ⟨path, own, _⟩ := plain
  exact (locate_of_change? own changes).2

theorem performAll_snd (plain : ∀ emission ∈ emissions, emission.IsPlain)
    (same : SameDirectories before after) :
    (performAll emissions after).2 = after.changeAll (emissions.filterMap (·.change? before)) := by
  induction emissions generalizing after with
  | nil => rfl
  | cons emission others ih =>
      obtain ⟨plainFirst, plain⟩ := List.forall_mem_cons.mp plain
      have first := plainFirst.perform_snd same
      obtain ⟨path, own, _⟩ := plainFirst
      have rest := ih plain (same.trans (perform_sameDirectories own after))
      rw [first] at rest
      simp only [performAll, first, rest]
      rw [← changeAll_append, List.filterMap_cons]
      cases emission.change? before <;> rfl

end Plain

end Scaffold.Emission
