import Scaffold.Proofs.FileSystem.Trails
import Scaffold.Proofs.Run.Isolation

/-!
# Runs over snapshots

What a run over snapshots emits is known from the files that it starts with (`Run.emissions`), as
long as it changes no snapshot that it reads (`Run.KeepsSnapshots`).  That stays so on other files
which are `Alike`, in that they differ from these files only where the run makes a difference: both
waves make the same changes to them (`Alike.run_of_failures`, `Alike.run_of_none`).  So a run makes
the changes of its emissions (`run_files`).

Reports depend on how paths are lost.  They are the same on files that are alike (`Alike.run_fst`)
when the run changes nothing where a path looks for a directory (`Run.KeepsWays`).
-/

set_option autoImplicit false

namespace Scaffold

open Checked FileSystem

/-! ## Loading snapshots -/

namespace Loader

variable {fileName dir : String} {before after : FileSystem}

theorem loadSnapshot_congr (agree : AgreeAt (Path.join dir fileName) before after) :
    loadSnapshot fileName after dir = loadSnapshot fileName before dir := by
  simp only [loadSnapshot, agree.readText_eq]

theorem loadSnapshot_eq_ok {files : FileSystem} {package : Package} :
    loadSnapshot fileName files dir = .ok package ↔
      ∃ text, files.readText (Path.join dir fileName) = .ok text ∧
        Package.ofText? text = some package := by
  cases read : files.readText (Path.join dir fileName) with
  | error cause => simp [loadSnapshot, read]
  | ok text => cases found : Package.ofText? text <;> simp [loadSnapshot, read, found]

theorem loadSnapshot_eq_ok_congr {places : List Location} {package : Package}
    (differ : DifferOnlyIn places before after)
    (away : ∀ location ∈ places, before.locate (Path.join dir fileName) ≠ .ok location) :
    loadSnapshot fileName after dir = .ok package ↔
      loadSnapshot fileName before dir = .ok package := by
  simp only [loadSnapshot_eq_ok, differ.readText_eq_ok away]

end Loader

/-! ## What a run over snapshots changes -/

namespace Run

/-- The tools of a run over snapshots with programs that look at no file. -/
def overSnapshots (programs : Programs) (settings : Settings) : Tools Unit :=
  ⟨fun _ => programs, .snapshots settings.snapshot⟩

section Definitions
variable (programs : Programs) (settings : Settings) (files : FileSystem)

/-- The comments for which wrappers are emitted: none when the first wave fails. -/
def wrappedComments : List (Position × String) :=
  match Loader.loadSnapshot settings.snapshot files settings.dir with
  | .error _ => []
  | .ok package =>
    if (firstFailures (overSnapshots programs settings) settings files package).isEmpty then
      Wrapper.modelsDirectives package
    else []

/-- The emission of wrappers for a comment, which fails when its models package cannot be loaded. -/
def wrapperEmission (package : Package) (comment : Position × String) : Emission Outcome :=
  match Loader.loadSnapshot settings.snapshot files (Path.join settings.dir comment.2) with
  | .error cause => .failed (.models comment.1 Wrapper.target comment.2 cause)
  | .ok models =>
    (Generator.wrapper models).prepare programs settings.formatter
      (Path.join settings.dir comment.2)
      package

def emissions : List (Emission Outcome) :=
  match Loader.loadSnapshot settings.snapshot files settings.dir with
  | .error _ => []
  | .ok package =>
    firstEmissions (overSnapshots programs settings) settings files package ++
      (wrappedComments programs settings files).map
        (wrapperEmission programs settings files package)

def changes : List Change := (emissions programs settings files).filterMap (·.change? files)

def snapshotPaths : List String :=
  (settings.dir :: (wrappedComments programs settings files).map fun comment =>
    Path.join settings.dir comment.2).map fun dir => Path.join dir settings.snapshot

def outputPaths : List String :=
  (emissions programs settings files).filterMap fun emission => emission.edit.map Edit.path

/-- No file that the run changes is a snapshot that it reads. -/
def KeepsSnapshots : Prop :=
  ∀ location ∈ files.altered (changes programs settings files),
    ∀ path ∈ snapshotPaths programs settings files, files.locate path ≠ .ok location

/-- No file that the run changes is where a path to a snapshot or to an output looks for a
directory. -/
def KeepsWays : Prop :=
  ∀ location ∈ files.altered (changes programs settings files),
    ∀ path ∈ snapshotPaths programs settings files ++ outputPaths programs settings files,
      location ∉ files.visited path

instance : Decidable (KeepsSnapshots programs settings files) := by
  unfold KeepsSnapshots
  infer_instance

instance : Decidable (KeepsWays programs settings files) := by
  unfold KeepsWays
  infer_instance

end Definitions

variable {programs : Programs} {settings : Settings} {files after : FileSystem} {package : Package}

/-- Nothing differs from the files that the run has started with but at the locations that it
alters. -/
def Alike (programs : Programs) (settings : Settings) (files after : FileSystem) : Prop :=
  DifferOnlyIn (files.altered (changes programs settings files)) files after

theorem emissions_of_loaded
    (loaded : Loader.loadSnapshot settings.snapshot files settings.dir = .ok package) :
    emissions programs settings files =
      firstEmissions (overSnapshots programs settings) settings files package ++
        (wrappedComments programs settings files).map
          (wrapperEmission programs settings files package) := by
  simp only [emissions, loaded]

theorem mem_emissions_of_first
    (loaded : Loader.loadSnapshot settings.snapshot files settings.dir = .ok package) :
    ∀ emission ∈ firstEmissions (overSnapshots programs settings) settings files package,
      emission ∈ emissions programs settings files := by
  intro emission member
  rw [emissions_of_loaded loaded]
  exact List.mem_append_left _ member

theorem mem_emissions_of_wrapper
    (loaded : Loader.loadSnapshot settings.snapshot files settings.dir = .ok package)
    {comment : Position × String} (member : comment ∈ wrappedComments programs settings files) :
    wrapperEmission programs settings files package comment ∈
      emissions programs settings files := by
  rw [emissions_of_loaded loaded]
  exact List.mem_append_right _ (List.mem_map_of_mem member)

theorem isPlain_wrapperEmission (package : Package) (comment : Position × String) :
    (wrapperEmission programs settings files package comment).IsPlain := by
  unfold wrapperEmission
  cases Loader.loadSnapshot settings.snapshot files (Path.join settings.dir comment.2) with
  | ok models =>
      exact Generator.isPlain_prepare (.wrapper models) Generator.wrapperFile_isName _ _ _ _
  | error cause =>
      refine ⟨Path.join settings.dir Generator.wrapperFile, fun edit edited => ?_,
        Path.not_endsInDirectory_join settings.dir Generator.wrapperFile_isName⟩
      cases edited

theorem isPlain_of_mem_emissions :
    ∀ emission ∈ emissions programs settings files, emission.IsPlain := by
  intro emission member
  unfold emissions at member
  split at member
  · cases member
  · rcases List.mem_append.mp member with member | member
    · obtain ⟨generator, generatorMember, rfl⟩ := List.mem_map.mp member
      exact Generator.isPlain_prepare generator
        (Generator.fileName_isName generator generatorMember)
        _ _ _ _
    · obtain ⟨comment, _, rfl⟩ := List.mem_map.mp member
      exact isPlain_wrapperEmission _ comment

theorem Alike.changeAll {some_ : List (Emission Outcome)}
    (alike : Alike programs settings files after)
    (known : ∀ emission ∈ some_, emission ∈ emissions programs settings files) :
    Alike programs settings files (after.changeAll (some_.filterMap (·.change? files))) := by
  refine DifferOnlyIn.changeAll (fun change member => ?_) alike
  obtain ⟨emission, emissionMember, changes⟩ := List.mem_filterMap.mp member
  have there := known emission emissionMember
  exact ⟨List.mem_filterMap.mpr ⟨emission, there, changes⟩,
    (isPlain_of_mem_emissions emission there).isFile_of_change? changes⟩

/-! ## Loads and wrappers of files that are alike -/

theorem Alike.load (alike : Alike programs settings files after)
    (keeps : KeepsSnapshots programs settings files) {dir : String}
    (read : Path.join dir settings.snapshot ∈ snapshotPaths programs settings files) :
    Loader.loadSnapshot settings.snapshot after dir = .ok package ↔
      Loader.loadSnapshot settings.snapshot files dir = .ok package :=
  Loader.loadSnapshot_eq_ok_congr alike fun location altered => keeps location altered _ read

theorem mem_snapshotPaths_dir :
    Path.join settings.dir settings.snapshot ∈ snapshotPaths programs settings files :=
  List.mem_map_of_mem List.mem_cons_self

theorem mem_snapshotPaths_models {comment : Position × String}
    (member : comment ∈ wrappedComments programs settings files) :
    Path.join (Path.join settings.dir comment.2) settings.snapshot ∈
      snapshotPaths programs settings files :=
  List.mem_map_of_mem (List.mem_cons_of_mem _ (List.mem_map_of_mem member))

theorem wrapModels_overSnapshots (package : Package) (after : FileSystem)
    (comment : Position × String) :
    wrapModels (overSnapshots programs settings) settings package ⟨after, ()⟩ comment =
      let emission := wrapperEmission programs settings after package comment
      ((emission.perform after).1, ⟨(emission.perform after).2, ()⟩) := by
  simp only [wrapModels, Run.load, overSnapshots, Loader.snapshots, wrapperEmission]
  cases Loader.loadSnapshot settings.snapshot after (Path.join settings.dir comment.2) <;> rfl

/-- Whether wrappers are written or deleted, and which, does not depend on what the run alters. -/
theorem Alike.wrapperEmission_edit (alike : Alike programs settings files after)
    (keeps : KeepsSnapshots programs settings files) {comment : Position × String}
    (member : comment ∈ wrappedComments programs settings files) :
    (wrapperEmission programs settings after package comment).edit =
      (wrapperEmission programs settings files package comment).edit := by
  have same (models : Package) : Loader.loadSnapshot _ after _ = .ok models ↔ _ :=
    alike.load keeps (mem_snapshotPaths_models member)
  unfold wrapperEmission
  cases found : Loader.loadSnapshot settings.snapshot files (Path.join settings.dir comment.2) with
  | ok models => rw [(same models).mpr found]
  | error cause =>
      cases found' : Loader.loadSnapshot settings.snapshot after (Path.join settings.dir comment.2)
        with
      | ok models => cases found.symm.trans ((same models).mp found')
      | error cause' => rfl

section Wrappers
variable (keeps : KeepsSnapshots programs settings files)
  (loaded : Loader.loadSnapshot settings.snapshot files settings.dir = .ok package)
include keeps

theorem Alike.wrapModels_files (alike : Alike programs settings files after)
    {comment : Position × String} (member : comment ∈ wrappedComments programs settings files) :
    (wrapModels (overSnapshots programs settings) settings package ⟨after, ()⟩ comment).2.files =
      after.changeAll
        ([wrapperEmission programs settings files package comment].filterMap
          (·.change? files)) := by
  rw [wrapModels_overSnapshots]
  simp only
  rw [Emission.perform_snd_congr (alike.wrapperEmission_edit keeps member),
    (isPlain_wrapperEmission package comment).perform_snd alike.same, List.filterMap_cons]
  cases (wrapperEmission programs settings files package comment).change? files <;> rfl

include loaded

theorem Alike.behind_wrapModels (alike : Alike programs settings files after)
    {comment : Position × String} (member : comment ∈ wrappedComments programs settings files) :
    Alike programs settings files
      (wrapModels (overSnapshots programs settings) settings package ⟨after, ()⟩
        comment).2.files := by
  rw [alike.wrapModels_files keeps member]
  refine alike.changeAll fun emission only => ?_
  rw [List.mem_singleton.mp only]
  exact mem_emissions_of_wrapper loaded member

theorem Alike.wrapAll_files :
    ∀ {comments : List (Position × String)} {after : FileSystem},
      (∀ comment ∈ comments, comment ∈ wrappedComments programs settings files) →
      Alike programs settings files after →
      (wrapAll (overSnapshots programs settings) settings package comments ⟨after, ()⟩).2.files =
        after.changeAll ((comments.map (wrapperEmission programs settings files package)).filterMap
          (·.change? files)) := by
  intro comments
  induction comments with
  | nil => intro after _ _; rfl
  | cons comment others ih =>
      intro after members alike
      obtain ⟨member, members⟩ := List.forall_mem_cons.mp members
      have rest : (wrapAll _ settings package others
          (wrapModels (overSnapshots programs settings) settings package ⟨after, ()⟩
            comment).2).2.files
            = _ := ih members (alike.behind_wrapModels keeps loaded member)
      rw [alike.wrapModels_files keeps member, ← changeAll_append, ← List.filterMap_append] at rest
      exact rest

end Wrappers

/-! ## The waves -/

def firstChanges (programs : Programs) (settings : Settings) (files : FileSystem)
    (package : Package) :
    List Change :=
  (firstEmissions (overSnapshots programs settings) settings files package).filterMap
    (·.change? files)

def wrapperChanges (programs : Programs) (settings : Settings) (files : FileSystem)
    (package : Package) :
    List Change :=
  ((wrappedComments programs settings files).map
    (wrapperEmission programs settings files package)).filterMap (·.change? files)

theorem wrappedComments_of_none
    (loaded : Loader.loadSnapshot settings.snapshot files settings.dir = .ok package)
    (none : firstFailures (overSnapshots programs settings) settings files package = []) :
    wrappedComments programs settings files = Wrapper.modelsDirectives package := by
  simp [wrappedComments, loaded, none]

theorem wrappedComments_of_failures
    (loaded : Loader.loadSnapshot settings.snapshot files settings.dir = .ok package)
    (failed : firstFailures (overSnapshots programs settings) settings files package ≠ []) :
    wrappedComments programs settings files = [] := by
  simp [wrappedComments, loaded, failed]

theorem load_overSnapshots (programs : Programs)
    (loaded : Loader.loadSnapshot settings.snapshot after settings.dir = .ok package) :
    let state : State Unit := ⟨after, ()⟩
    (overSnapshots programs settings).loader.load state.files state.memory settings.dir =
      (.ok package, ()) :=
  congrArg (·, ()) loaded

theorem Alike.answers (alike : Alike programs settings files after)
    (keeps : KeepsSnapshots programs settings files)
    (loaded : Loader.loadSnapshot settings.snapshot files settings.dir = .ok package) :
    let state : State Unit := ⟨after, ()⟩
    (overSnapshots programs settings).loader.load state.files state.memory settings.dir =
      (.ok package, ()) :=
  load_overSnapshots programs ((alike.load keeps mem_snapshotPaths_dir).mpr loaded)

theorem afterFirst_eq (same : SameDirectories files after) :
    afterFirst (overSnapshots programs settings) settings after package =
      after.changeAll (firstChanges programs settings files package) := by
  refine Emission.performAll_snd (fun emission member => ?_) same
  obtain ⟨generator, generatorMember, rfl⟩ := List.mem_map.mp member
  exact Generator.isPlain_prepare generator (Generator.fileName_isName generator generatorMember)
    _ _ _ _

theorem firstChanges_apart (programs : Programs) (settings : Settings) (files : FileSystem)
    (package : Package) :
    ∀ change ∈ firstChanges programs settings files package,
      ∀ other ∈ wrapperChanges programs settings files package, change.1 ≠ other.1 := by
  intro change member other otherMember same
  obtain ⟨emission, emissionMember, changes⟩ := List.mem_filterMap.mp member
  obtain ⟨generator, generatorMember, rfl⟩ := List.mem_map.mp emissionMember
  obtain ⟨emission', emissionMember', changes'⟩ := List.mem_filterMap.mp otherMember
  obtain ⟨comment, _, rfl⟩ := List.mem_map.mp emissionMember'
  have located :=
    (Emission.locate_of_change? (Generator.prepare_editsOnly generator _ _ _ _) changes).1
  unfold wrapperEmission at changes'
  cases found : Loader.loadSnapshot settings.snapshot files (Path.join settings.dir comment.2) with
  | error cause =>
      rw [found] at changes'
      cases changes'
  | ok models =>
      rw [found] at changes'
      have located' := (Emission.locate_of_change?
        (Generator.prepare_editsOnly (.wrapper models) _ _ _ _) changes').1
      rw [← same] at located'
      have named := name_eq_of_locate_join (Generator.fileName_isName generator generatorMember)
        Generator.wrapperFile_isName located located'
      exact (List.nodup_cons.mp Generator.fileName_nodup).1
        (named ▸ List.mem_map_of_mem generatorMember)

/-- What a run reports: failures of the first wave, or what the second wave reports. -/
theorem run_fst_of_load {σ : Type} {tools : Tools σ} {state : State σ} {memory : σ}
    (loaded : tools.loader.load state.files state.memory settings.dir = (.ok package, memory)) :
    (run tools settings state).1 =
      collect (Generator.firstWave.map fun generator =>
        (alone tools settings state.files package generator).1) >>= fun first =>
      (secondWave tools settings ⟨afterFirst tools settings state.files package, memory⟩).1.map
        (first ++ ·) := by
  simp only [run, firstWave_of_load loaded]
  cases collect (Generator.firstWave.map fun generator =>
      (alone tools settings state.files package generator).1) with
  | error error => rfl
  | ok first =>
      cases wrapped : secondWave tools settings
          ⟨afterFirst tools settings state.files package, memory⟩ with
      | mk result last => cases result <;> simp only [wrapped] <;> rfl

theorem State.ext_files {state last : State Unit} (same : state.files = last.files) :
    state = last := by
  cases state
  cases last
  cases same
  rfl

section Loaded
variable (loaded : Loader.loadSnapshot settings.snapshot files settings.dir = .ok package)
include loaded

theorem changes_of_loaded :
    changes programs settings files =
      firstChanges programs settings files package ++
        wrapperChanges programs settings files package := by
  rw [changes, emissions_of_loaded loaded, List.filterMap_append]
  rfl

theorem Alike.afterFirst (alike : Alike programs settings files after) :
    Alike programs settings files
      (afterFirst (overSnapshots programs settings) settings after package) := by
  rw [afterFirst_eq alike.same]
  exact alike.changeAll (mem_emissions_of_first loaded)

variable (keeps : KeepsSnapshots programs settings files)
include keeps

theorem Alike.run_of_failures (alike : Alike programs settings files after)
    (failed : firstFailures (overSnapshots programs settings) settings after package ≠ []) :
    (run (overSnapshots programs settings) settings ⟨after, ()⟩).2.files =
      after.changeAll (firstChanges programs settings files package) := by
  have answered := alike.answers keeps loaded
  obtain ⟨error, ended, _⟩ := Run.run_of_failures answered failed
  rw [run_of_firstWave_error ended, ← afterFirst_eq alike.same]

/-- A first wave that succeeds both on the files that the run has started with and on others that
are alike. -/
theorem Alike.run_of_none (alike : Alike programs settings files after)
    (none : firstFailures (overSnapshots programs settings) settings files package = [])
    (none' : firstFailures (overSnapshots programs settings) settings after package = []) :
    (run (overSnapshots programs settings) settings ⟨after, ()⟩).2.files =
      (after.changeAll (firstChanges programs settings files package)).changeAll
        (wrapperChanges programs settings files package) := by
  have answered := alike.answers keeps loaded
  have behind := alike.afterFirst loaded
  have answered' := behind.answers keeps loaded
  rw [run_of_no_failures answered none', wrapperChanges, wrappedComments_of_none loaded none,
    ← afterFirst_eq alike.same]
  simp only [secondWave, Run.load, answered']
  exact Alike.wrapAll_files keeps loaded
    (wrappedComments_of_none loaded none ▸ fun _ member => member)
    behind

end Loaded

theorem run_files (keeps : KeepsSnapshots programs settings files) :
    (run (overSnapshots programs settings) settings ⟨files, ()⟩).2.files =
      files.changeAll (changes programs settings files) := by
  have unaltered : Alike programs settings files files := .refl _ files
  cases loaded : Loader.loadSnapshot settings.snapshot files settings.dir with
  | error cause =>
      simp only [run, firstWave, Run.load, overSnapshots, Loader.snapshots, changes,
        emissions, loaded]
      rfl
  | ok package =>
      rw [changes_of_loaded loaded]
      by_cases none : firstFailures (overSnapshots programs settings) settings files package = []
      · rw [unaltered.run_of_none loaded keeps none none, changeAll_append]
      · rw [unaltered.run_of_failures loaded keeps none, wrapperChanges,
          wrappedComments_of_failures loaded none, List.map_nil, List.filterMap_nil,
          List.append_nil]

theorem alike_run (keeps : KeepsSnapshots programs settings files) :
    Alike programs settings files
      (run (overSnapshots programs settings) settings ⟨files, ()⟩).2.files := by
  have unaltered : Alike programs settings files files := .refl _ files
  rw [run_files keeps]
  exact unaltered.changeAll fun _ member => member

/-- The first wave reports the same again: when one of its outputs can be reached, the directory is
there for all of them, and when none can, nothing changes. -/
theorem alone_fst_again {generator : Generator} (member : generator ∈ Generator.firstWave) :
    (alone (overSnapshots programs settings) settings
        (files.changeAll (firstChanges programs settings files package)) package generator).1 =
      (alone (overSnapshots programs settings) settings files package generator).1 := by
  have same : SameDirectories files
      (files.changeAll (firstChanges programs settings files package)) := by
    rw [← afterFirst_eq (.refl files)]
    exact (afterFirst_differOnlyAt _ settings files package).same
  by_cases reached : ∃ other ∈ Generator.firstWave, ∃ location,
      files.locate (other.outputPath settings.dir) = .ok location
  · obtain ⟨other, otherMember, location, located⟩ := reached
    obtain ⟨front, walked, directory, _⟩ :=
      exists_of_locate_join (Generator.fileName_isName other otherMember) located
    exact Emission.perform_fst_congr (Generator.prepare_editsOnly generator _ _ _ _)
      (Path.not_endsInDirectory_join _ (Generator.fileName_isName generator member)) same
      (same.locate_join walked (Generator.fileName_isName generator member) directory)
  · have unchanged : firstChanges programs settings files package = [] := by
      refine List.filterMap_eq_nil_iff.mpr fun emission emissionMember => ?_
      obtain ⟨other, otherMember, rfl⟩ := List.mem_map.mp emissionMember
      by_contra changes
      obtain ⟨change, changes⟩ := Option.ne_none_iff_exists'.mp changes
      have located := (Emission.locate_of_change?
        (Generator.prepare_editsOnly other _ _ _ _) changes).1
      exact reached ⟨other, otherMember, change.1, located⟩
    rw [unchanged]
    rfl

/-! ## Reports -/

section Ways
variable (keeps : KeepsSnapshots programs settings files) (ways : KeepsWays programs settings files)
include ways

theorem Alike.locate (alike : Alike programs settings files after) {path : String}
    (looked : path ∈ snapshotPaths programs settings files ++ outputPaths programs settings files) :
    after.locate path = files.locate path :=
  locate_of_visited alike.same.workingDirectory fun location visited =>
    alike.elsewhere location fun altered => ways location altered path looked visited

theorem Alike.perform_fst (alike : Alike programs settings files after)
    {emission : Emission Outcome} (member : emission ∈ emissions programs settings files) :
    (emission.perform after).1 = (emission.perform files).1 := by
  cases edited : emission.edit with
  | none => simp only [Emission.perform, edited]
  | some edit =>
      obtain ⟨path, own, ends⟩ := isPlain_of_mem_emissions emission member
      obtain rfl := own edit edited
      have looked : edit.path ∈ outputPaths programs settings files :=
        List.mem_filterMap.mpr ⟨emission, member, by rw [edited]; rfl⟩
      exact Emission.perform_fst_congr own ends alike.same
        (alike.locate ways (List.mem_append_right _ looked))

include keeps

theorem Alike.loadSnapshot (alike : Alike programs settings files after) {dir : String}
    (read : Path.join dir settings.snapshot ∈ snapshotPaths programs settings files) :
    Loader.loadSnapshot settings.snapshot after dir =
      Loader.loadSnapshot settings.snapshot files dir := by
  refine Loader.loadSnapshot_congr (DifferOnlyIn.agreeAt alike (fun location altered => ?_)
    fun location altered => keeps location altered _ read)
  exact ways location altered _ (List.mem_append_left _ read)

theorem Alike.wrapAll_fst
    (loaded : Loader.loadSnapshot settings.snapshot files settings.dir = .ok package) :
    ∀ {comments : List (Position × String)} {after : FileSystem},
      (∀ comment ∈ comments, comment ∈ wrappedComments programs settings files) →
      Alike programs settings files after →
      (wrapAll (overSnapshots programs settings) settings package comments ⟨after, ()⟩).1 =
        comments.map fun comment =>
          ((wrapperEmission programs settings files package comment).perform files).1 := by
  intro comments
  induction comments with
  | nil => intro after _ _; rfl
  | cons comment others ih =>
      intro after members alike
      obtain ⟨member, members⟩ := List.forall_mem_cons.mp members
      have first : (wrapModels (overSnapshots programs settings) settings package ⟨after, ()⟩
          comment).1 = ((wrapperEmission programs settings files package comment).perform
            files).1 := by
        have same : wrapperEmission programs settings after package comment =
            wrapperEmission programs settings files package comment := by
          unfold wrapperEmission
          rw [alike.loadSnapshot keeps ways (mem_snapshotPaths_models member)]
        rw [wrapModels_overSnapshots, same]
        exact alike.perform_fst ways (mem_emissions_of_wrapper loaded member)
      have rest := ih members (alike.behind_wrapModels keeps loaded member)
      simp only [wrapAll, first, List.map_cons, List.cons.injEq, true_and]
      exact rest

theorem Alike.secondWave_fst
    (loaded : Loader.loadSnapshot settings.snapshot files settings.dir = .ok package)
    (none : firstFailures (overSnapshots programs settings) settings files package = [])
    (alike : Alike programs settings files after) :
    (secondWave (overSnapshots programs settings) settings ⟨after, ()⟩).1 =
      collect ((wrappedComments programs settings files).map fun comment =>
        ((wrapperEmission programs settings files package comment).perform files).1) := by
  have answered := alike.answers keeps loaded
  rw [← alike.wrapAll_fst keeps ways loaded fun _ member => member,
    wrappedComments_of_none loaded none]
  simp only [secondWave, Run.load, answered]

/-- A run reports the same on files that are alike. -/
theorem Alike.run_fst
    (loaded : Loader.loadSnapshot settings.snapshot files settings.dir = .ok package)
    (alike : Alike programs settings files after) :
    (run (overSnapshots programs settings) settings ⟨after, ()⟩).1 =
      (run (overSnapshots programs settings) settings ⟨files, ()⟩).1 := by
  have answered := alike.answers keeps loaded
  have same : Generator.firstWave.map
        (fun generator =>
          (alone (overSnapshots programs settings) settings after package generator).1) =
      Generator.firstWave.map
        (fun generator =>
          (alone (overSnapshots programs settings) settings files package generator).1) :=
    List.map_congr_left fun generator member =>
      alike.perform_fst ways (mem_emissions_of_first loaded _ (List.mem_map_of_mem member))
  rw [run_fst_of_load answered, run_fst_of_load (load_overSnapshots programs loaded), same]
  by_cases none : firstFailures (overSnapshots programs settings) settings files package = []
  · have unaltered : Alike programs settings files files := .refl _ files
    rw [(alike.afterFirst loaded).secondWave_fst keeps ways loaded none,
      (unaltered.afterFirst loaded).secondWave_fst keeps ways loaded none]
  · obtain ⟨error, collected, _⟩ := exists_of_failuresOf_ne_nil none
    rw [collected]
    rfl

end Ways

end Run

end Scaffold
