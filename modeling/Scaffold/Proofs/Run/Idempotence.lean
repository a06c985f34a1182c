import Scaffold.Proofs.Run.Snapshots

/-!
# Running again

A second run over snapshots finds the emissions of the first one, and changes that counted are made
again without effect.  So it leaves everything as it is (`run_idempotent`).

What it reports may differ.  A path that goes through an output is lost for another reason once the
output is there or has been deleted (`run_reports_differ`).
-/

set_option autoImplicit false

namespace Scaffold

open FileSystem

namespace Run

variable {programs : Programs} {settings : Settings} {files : FileSystem} {package : Package}

section Again
variable (loaded : Loader.loadSnapshot settings.snapshot files settings.dir = .ok package)
  (keeps : KeepsSnapshots programs settings files)
include loaded keeps

theorem run_again_of_failures
    (failed : firstFailures (overSnapshots programs settings) settings files package ≠ []) :
    let first := run (overSnapshots programs settings) settings ⟨files, ()⟩
    run (overSnapshots programs settings) settings first.2 = first := by
  intro first
  have unaltered : Alike programs settings files files := .refl _ files
  have firstFiles : first.2.files = _ := unaltered.run_of_failures loaded keeps failed
  have alike : Alike programs settings files first.2.files := alike_run keeps
  have same : Generator.firstWave.map (fun generator =>
        (alone (overSnapshots programs settings) settings first.2.files package generator).1) =
      Generator.firstWave.map (fun generator =>
        (alone (overSnapshots programs settings) settings files package generator).1) := by
    rw [firstFiles]
    exact List.map_congr_left fun generator member => alone_fst_again member
  have failed' : firstFailures (overSnapshots programs settings) settings first.2.files package ≠
      [] := by
    rw [firstFailures, same]
    exact failed
  have answered := alike.answers keeps loaded
  refine Prod.ext ?_ (State.ext_files ?_)
  · obtain ⟨error, collected, _⟩ := exists_of_failuresOf_ne_nil failed
    have reported : first.1 = _ := run_fst_of_load (load_overSnapshots programs loaded)
    rw [reported, run_fst_of_load answered, same, collected]
    rfl
  · have secondFiles : (run _ settings first.2).2.files = _ :=
      alike.run_of_failures loaded keeps failed'
    rw [firstFiles, changeAll_again fun _ _ => rfl] at secondFiles
    exact secondFiles.trans firstFiles.symm

/-- Whatever becomes of the second run, it leaves what a run whose first wave succeeds has left. -/
theorem run_again_of_none
    (none : firstFailures (overSnapshots programs settings) settings files package = []) :
    let first := run (overSnapshots programs settings) settings ⟨files, ()⟩
    (run (overSnapshots programs settings) settings first.2).2 = first.2 := by
  intro first
  have firstFiles : first.2.files = _ := run_files keeps
  rw [changes_of_loaded loaded] at firstFiles
  have alike : Alike programs settings files first.2.files := alike_run keeps
  apply State.ext_files
  obtain ⟨againFirst, againWrappers⟩ :=
    changeAll_again_append (firstChanges_apart programs settings files package) files
  by_cases none' : firstFailures (overSnapshots programs settings) settings first.2.files package =
    []
  · have secondFiles : (run _ settings first.2).2.files = _ :=
      alike.run_of_none loaded keeps none none'
    rw [firstFiles, againFirst, againWrappers] at secondFiles
    exact secondFiles.trans firstFiles.symm
  · have secondFiles : (run _ settings first.2).2.files = _ :=
      alike.run_of_failures loaded keeps none'
    rw [firstFiles, againFirst] at secondFiles
    exact secondFiles.trans firstFiles.symm

end Again

end Run

/-- A second run over snapshots leaves everything as the first one has left it, provided that the
first one changes no snapshot that it reads.  It also reports the same, provided that the first one
changes nothing where a path to a snapshot or to an output looks for a directory. -/
theorem run_idempotent (programs : Programs) (settings : Settings) (files : FileSystem)
    (keeps : Run.KeepsSnapshots programs settings files) :
    let tools : Run.Tools Unit := ⟨fun _ => programs, .snapshots settings.snapshot⟩
    let first := run tools settings ⟨files, ()⟩
    let second := run tools settings first.2
    second.2 = first.2 ∧ (Run.KeepsWays programs settings files → second.1 = first.1) := by
  intro tools first second
  suffices second = first ∨ second.2 = first.2 ∧
      (Run.KeepsWays programs settings files → second.1 = first.1) by
    rcases this with same | same
    · rw [same]
      exact ⟨rfl, fun _ => rfl⟩
    · exact same
  cases loaded : Loader.loadSnapshot settings.snapshot files settings.dir with
  | error cause =>
      left
      have unchanged : first.2 = ⟨files, ()⟩ := by
        simp only [first, run, Run.firstWave, Run.load, tools, Loader.snapshots, loaded]
      exact congrArg (run tools settings) unchanged
  | ok package =>
      by_cases none : Run.firstFailures tools settings files package = []
      · right
        exact ⟨Run.run_again_of_none loaded keeps none,
          fun ways => (Run.alike_run keeps).run_fst keeps ways loaded⟩
      · left
        exact Run.run_again_of_failures loaded keeps none

/-- One of two models packages is missing, and stale wrappers are in the other one: the second run
fails as the first one does. -/
theorem run_idempotent_missing :
    let snapshot : Node := .file (Text.Utf8.encode
      "[\"\",\"\",[[\"\",[[[[\"//repogen:bob:models n\",1],[\"//repogen:bob:models m\",2]]]]]]]")
    let files := ((((FileSystem.empty ["w"]).put ["w", "s"] snapshot).put ["w", "m"] .directory).put
      ["w", "m", "s"] snapshot).put ["w", "m", "bob.repogen.go"] (.file [])
    let programs : Programs := fun _ _ => .error .notFound
    let settings : Settings := ⟨".", "s", none⟩
    let first := run ⟨fun _ => programs, .snapshots "s"⟩ settings ⟨files, ()⟩
    first.1 = .error (.one (.models ⟨"", 1, 1⟩ "bob" "n" (.unreadable "./n/s" .notFound))) ∧
      run ⟨fun _ => programs, .snapshots "s"⟩ settings first.2 = first := by
  intro snapshot files programs settings first
  obtain ⟨failed, keeps, ways⟩ : first.1 = .error (.one (.models ⟨"", 1, 1⟩ "bob" "n"
        (.unreadable "./n/s" .notFound))) ∧
      Run.KeepsSnapshots programs settings files ∧ Run.KeepsWays programs settings files := by
    decide +kernel
  obtain ⟨left, reported⟩ := run_idempotent programs settings files keeps
  exact ⟨failed, Prod.ext (reported ways) left⟩

/-- A models directory below the output of another one.  Stale wrappers stand where the path to its
snapshot, or to its wrappers, looks for a directory; they are deleted, and the path is lost for
another reason.  No output is a snapshot that is read. -/
theorem run_reports_differ :
    let snapshot : Node := .file (Text.Utf8.encode
      "[\"\",\"\",[[\"\",[[[[\"//repogen:bob:models m/bob.repogen.go\",1],[\"//repogen:bob:models m\",2]]]]]]]")
    let files := ((((FileSystem.empty ["w"]).put ["w", "s"] snapshot).put ["w", "m"] .directory).put
      ["w", "m", "s"] snapshot).put ["w", "m", "bob.repogen.go"] (.file [])
    ∀ name ∈ ["s", "/w/s"],
      let settings : Settings := ⟨".", name, none⟩
      let tools : Run.Tools Unit := ⟨fun _ _ _ => .error .notFound, .snapshots name⟩
      let first := run tools settings ⟨files, ()⟩
      (∃ package ∈ (Loader.loadSnapshot name files ".").toOption,
        ∀ output ∈ Run.outputs settings package, ∀ location ∈ (files.locate output).toOption,
          ∀ input ∈ Run.inputs settings package, files.locate input ≠ .ok location) ∧
      (run tools settings first.2).1 ≠ first.1 := by
  decide +kernel

end Scaffold
