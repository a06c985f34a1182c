import Scaffold.Run
import Scaffold.Proofs.Generator

/-!
# Generators of a run do not get into each other's way

`run_isolates` says what a run does once its first load has succeeded.  Each generator of the first
wave leaves at its output exactly what it would leave alone, whatever the others do; failures of the
first wave are reported together, in order, and keep the second wave from starting; and no file
changes but the outputs.  It rests on `firstWave_of_load` and `secondWave_differOnlyAt`, one for
each wave.
-/

set_option autoImplicit false

namespace Scaffold

open FileSystem

/-! ## Collected failures -/

section Collect
variable {α : Type} {results : List (Except Failure α)}

theorem collect_of_failuresOf_eq_nil (none : failuresOf results = []) :
    collect results = .ok (valuesOf results) := by
  unfold collect
  rw [none]
  rfl

theorem exists_of_failuresOf_ne_nil (some_ : failuresOf results ≠ []) :
    ∃ error, collect results = .error error ∧ error.toList = failuresOf results ∧
      ((failuresOf results).length = 1 ↔ ∃ failure, error = .one failure) := by
  unfold collect
  cases joined : RunError.ofList? (failuresOf results) with
  | none => exact absurd (RunError.ofList?_eq_none_iff.mp joined) some_
  | some error =>
      have listed := RunError.ofList?_eq_some_iff.mp joined
      refine ⟨error, rfl, listed, ?_⟩
      rw [← listed]
      cases error <;> simp [RunError.toList]

end Collect

namespace Run

variable {σ : Type} {tools : Tools σ} {settings : Settings} {state : State σ} {package : Package}
  {memory : σ}

/-! ## The first wave -/

def alone (tools : Tools σ) (settings : Settings) (files : FileSystem) (package : Package)
    (generator : Generator) : Except Failure Outcome × FileSystem :=
  (generator.prepare (tools.programs files) settings.formatter settings.dir package).perform files

def afterFirst (tools : Tools σ) (settings : Settings) (files : FileSystem) (package : Package) :
    FileSystem :=
  (Emission.performAll (firstEmissions tools settings files package) files).2

theorem performAll_firstEmissions (tools : Tools σ) (settings : Settings) (files : FileSystem)
    (package : Package) :
    (Emission.performAll (firstEmissions tools settings files package) files).1 =
      Generator.firstWave.map (fun generator => (alone tools settings files package generator).1) ∧
    ∀ generator ∈ Generator.firstWave, AgreeAt (generator.outputPath settings.dir)
      (alone tools settings files package generator).2 (afterFirst tools settings files package) :=
  Emission.performAll_apart (fun generator => Generator.prepare_editsOnly generator _ _ _ _)
    Generator.firstWave (Generator.firstWave_apart _ _ _ _) files

theorem afterFirst_differOnlyAt (tools : Tools σ) (settings : Settings) (files : FileSystem)
    (package : Package) :
    DifferOnlyAt (Generator.firstWave.map (·.outputPath settings.dir)) files
      (afterFirst tools settings files package) :=
  Emission.performAll_differOnlyAt (fun generator => Generator.prepare_editsOnly generator _ _ _ _)
    Generator.firstWave files

/-- Once the package is loaded, the first wave collects what each generator reports alone, and it
loads nothing more. -/
theorem firstWave_of_load
    (loaded : tools.loader.load state.files state.memory settings.dir = (.ok package, memory)) :
    firstWave tools settings state =
      (collect (Generator.firstWave.map fun generator =>
        (alone tools settings state.files package generator).1),
        ⟨afterFirst tools settings state.files package, memory⟩) := by
  obtain ⟨reports, _⟩ := performAll_firstEmissions tools settings state.files package
  simp only [firstWave, load, loaded]
  rw [reports]
  rfl

/-! ## The second wave -/

/-- The output of the wrappers for a models package that a comment names. -/
def wrapperPath (settings : Settings) (comment : Position × String) : String :=
  Path.join (Path.join settings.dir comment.2) Generator.wrapperFile

theorem wrapModels_differOnlyAt (comment : Position × String) :
    DifferOnlyAt [wrapperPath settings comment] state.files
      (wrapModels tools settings package state comment).2.files := by
  simp only [wrapModels, load]
  cases (tools.loader.load state.files state.memory (Path.join settings.dir comment.2)).1 with
  | error cause => exact .refl _ state.files
  | ok models =>
      exact Emission.perform_differOnlyAt (Generator.prepare_editsOnly (.wrapper models) _ _ _ _) _

theorem wrapAll_differOnlyAt : ∀ (comments : List (Position × String)) (state : State σ),
    DifferOnlyAt (comments.map (wrapperPath settings)) state.files
      (wrapAll tools settings package comments state).2.files := by
  intro comments
  induction comments with
  | nil => intro state; exact .refl _ state.files
  | cons comment others ih =>
      intro state
      exact (wrapModels_differOnlyAt comment).trans (ih _)

/-- The second wave changes nothing but the outputs in the models packages that the package loaded
again names. -/
theorem secondWave_differOnlyAt (tools : Tools σ) (settings : Settings) (state : State σ) :
    ∃ comments : List (Position × String),
      (∀ comment ∈ comments, ∃ package, (load tools state settings.dir).1 = .ok package ∧
        comment ∈ Wrapper.modelsDirectives package) ∧
      DifferOnlyAt (comments.map (wrapperPath settings)) state.files
        (secondWave tools settings state).2.files := by
  simp only [secondWave, load]
  cases (tools.loader.load state.files state.memory settings.dir).1 with
  | error cause => exact ⟨[], fun _ member => absurd member List.not_mem_nil, .refl _ state.files⟩
  | ok package =>
      refine ⟨Wrapper.modelsDirectives package, fun comment member => ⟨package, rfl, member⟩, ?_⟩
      exact wrapAll_differOnlyAt (Wrapper.modelsDirectives package)
        ⟨state.files, (tools.loader.load state.files state.memory settings.dir).2⟩

/-- No wrapper is written where a generator of the first wave writes. -/
theorem secondWave_at?_output {generator : Generator} (member : generator ∈ Generator.firstWave)
    (dir : String) :
    (secondWave tools settings state).2.files.at? (generator.outputPath dir)
      = state.files.at? (generator.outputPath dir) := by
  obtain ⟨comments, _, differ⟩ := secondWave_differOnlyAt tools settings state
  apply differ.at?_eq
  intro location located other otherMember located'
  obtain ⟨comment, _, rfl⟩ := List.mem_map.mp otherMember
  have same := name_eq_of_locate_join (Generator.fileName_isName generator member)
    Generator.wrapperFile_isName located located'
  have distinct := (List.nodup_cons.mp Generator.fileName_nodup).1
  exact distinct (same ▸ List.mem_map_of_mem member)

theorem at?_wrapperFile {before after : FileSystem} {dirOf : String}
    (differ : DifferOnlyAt (Generator.firstWave.map (·.outputPath dirOf)) before after)
    (dir : String) :
    after.at? (Path.join dir Generator.wrapperFile) =
      before.at? (Path.join dir Generator.wrapperFile) := by
  apply differ.at?_eq
  intro location located other otherMember located'
  obtain ⟨generator, member, rfl⟩ := List.mem_map.mp otherMember
  have same := name_eq_of_locate_join Generator.wrapperFile_isName
    (Generator.fileName_isName generator member) located located'
  have distinct := (List.nodup_cons.mp Generator.fileName_nodup).1
  exact distinct (same ▸ List.mem_map_of_mem member)

/-! ## Both waves -/

/-- The failures of the first wave, each reported by a generator alone. -/
def firstFailures (tools : Tools σ) (settings : Settings) (files : FileSystem) (package : Package) :
    List Failure :=
  failuresOf (Generator.firstWave.map fun generator =>
    (alone tools settings files package generator).1)

theorem run_of_firstWave_error {error : RunError} {after : State σ}
    (failed : firstWave tools settings state = (.error error, after)) :
    run tools settings state = (.error error, after) := by
  simp only [run, failed]

theorem run_of_failures
    (loaded : tools.loader.load state.files state.memory settings.dir = (.ok package, memory))
    (failed : firstFailures tools settings state.files package ≠ []) :
    ∃ error, firstWave tools settings state =
        (.error error, ⟨afterFirst tools settings state.files package, memory⟩) ∧
      error.toList = firstFailures tools settings state.files package ∧
      ((firstFailures tools settings state.files package).length = 1 ↔
        ∃ failure, error = .one failure) := by
  obtain ⟨error, collected, listed, bare⟩ := exists_of_failuresOf_ne_nil failed
  refine ⟨error, ?_, listed, bare⟩
  rw [firstWave_of_load loaded]
  exact congrArg (·, _) collected

theorem run_of_no_failures
    (loaded : tools.loader.load state.files state.memory settings.dir = (.ok package, memory))
    (none : firstFailures tools settings state.files package = []) :
    (run tools settings state).2 =
      (secondWave tools settings ⟨afterFirst tools settings state.files package, memory⟩).2 := by
  simp only [run, firstWave_of_load loaded, collect_of_failuresOf_eq_nil none]
  split <;> simp_all

theorem run_at?_output {generator : Generator}
    (loaded : tools.loader.load state.files state.memory settings.dir = (.ok package, memory))
    (member : generator ∈ Generator.firstWave) :
    (run tools settings state).2.files.at? (generator.outputPath settings.dir) =
      (alone tools settings state.files package generator).2.at?
        (generator.outputPath settings.dir) := by
  have first := (performAll_firstEmissions tools settings state.files package).2 generator member
  by_cases none : firstFailures tools settings state.files package = []
  · rw [run_of_no_failures loaded none, secondWave_at?_output member, first.at?_eq]
  · obtain ⟨error, ended, _⟩ := run_of_failures loaded none
    rw [run_of_firstWave_error ended, first.at?_eq]

theorem run_changes {location : Location}
    (loaded : tools.loader.load state.files state.memory settings.dir = (.ok package, memory))
    (changed : (run tools settings state).2.files.node? location ≠ state.files.node? location) :
    (∃ generator ∈ Generator.firstWave,
      state.files.locate (generator.outputPath settings.dir) = .ok location) ∨
    (firstFailures tools settings state.files package = [] ∧
      ∃ models comment, (load tools (firstWave tools settings state).2 settings.dir).1 =
        .ok models ∧
        comment ∈ Wrapper.modelsDirectives models ∧
        state.files.locate (wrapperPath settings comment) = .ok location) := by
  have first := afterFirst_differOnlyAt tools settings state.files package
  by_cases inFirst : (afterFirst tools settings state.files package).node? location
      = state.files.node? location
  · right
    by_cases none : firstFailures tools settings state.files package = []
    · obtain ⟨comments, named, differ⟩ := secondWave_differOnlyAt tools settings
        ⟨afterFirst tools settings state.files package, memory⟩
      rw [run_of_no_failures loaded none, ← inFirst] at changed
      obtain ⟨path, member, located⟩ := differ.exists_of_node?_ne changed
      obtain ⟨comment, commentMember, rfl⟩ := List.mem_map.mp member
      obtain ⟨models, reloaded, directive⟩ := named comment commentMember
      rw [firstWave_of_load loaded]
      exact ⟨none, models, comment, reloaded, directive, first.same.symm.locate_eq_ok located⟩
    · obtain ⟨error, ended, _⟩ := run_of_failures loaded none
      rw [run_of_firstWave_error ended] at changed
      exact absurd inFirst changed
  · left
    obtain ⟨path, member, located⟩ := first.exists_of_node?_ne inFirst
    obtain ⟨generator, generatorMember, rfl⟩ := List.mem_map.mp member
    exact ⟨generator, generatorMember, located⟩

end Run

/-- What a run does once its first load has succeeded: each output is as its generator alone leaves
it, failures are reported together without asking the loader again, and nothing changes but the
outputs. -/
theorem run_isolates {σ : Type} (tools : Run.Tools σ) (settings : Settings) (state : Run.State σ)
    (package : Package) (memory : σ)
    (loaded : tools.loader.load state.files state.memory settings.dir = (.ok package, memory)) :
    let last := run tools settings state
    let alone := Run.alone tools settings state.files package
    let generators := [Generator.idParser, .repository, .criteria, .setter]
    let failures := failuresOf (generators.map fun generator => (alone generator).1)
    let reloaded := (Run.load tools (Run.firstWave tools settings state).2 settings.dir).1
    (∀ generator ∈ generators,
      last.2.files.at? (generator.outputPath settings.dir)
        = (alone generator).2.at? (generator.outputPath settings.dir) ∧
      generator.Leaves (tools.programs state.files) settings.formatter package
        (generator.outputPath settings.dir) state.files last.2.files) ∧
    (failures ≠ [] →
      (∃ error, last.1 = .error error ∧ error.toList = failures ∧
        (failures.length = 1 ↔ ∃ failure, error = .one failure)) ∧
      last.2.memory = memory ∧
      (∀ other : Loader σ,
        other.load state.files state.memory settings.dir = (.ok package, memory) →
        run { tools with loader := other } settings state = last) ∧
      ∀ dir, last.2.files.at? (Path.join dir Generator.wrapperFile)
        = state.files.at? (Path.join dir Generator.wrapperFile)) ∧
    (∀ location, last.2.files.node? location ≠ state.files.node? location →
      (∃ generator ∈ generators,
        state.files.locate (generator.outputPath settings.dir) = .ok location) ∨
      (failures = [] ∧ ∃ models comment, reloaded = .ok models ∧
        comment ∈ Wrapper.modelsDirectives models ∧
        state.files.locate (Run.wrapperPath settings comment) = .ok location)) := by
  intro last alone generators failures reloaded
  refine ⟨fun generator member => ?_, fun failed => ?_, fun location changed => ?_⟩
  · have same : last.2.files.at? _ = (alone generator).2.at? _ := Run.run_at?_output loaded member
    have left := Generator.prepare_leaves (Generator.fileName_isName generator member)
      (tools.programs state.files) settings.formatter settings.dir package state.files
    exact ⟨same, left.congr same⟩
  · obtain ⟨error, ended, listed, bare⟩ := Run.run_of_failures loaded failed
    have last_eq : last = (.error error, _) := Run.run_of_firstWave_error ended
    refine ⟨⟨error, ?_, listed, bare⟩, ?_, fun other otherLoaded => ?_, fun dir => ?_⟩
    · rw [last_eq]
    · rw [last_eq]
    · have same : Run.firstWave { tools with loader := other } settings state
          = Run.firstWave tools settings state :=
        (Run.firstWave_of_load otherLoaded).trans (Run.firstWave_of_load loaded).symm
      rw [last_eq]
      exact Run.run_of_firstWave_error (same.trans ended)
    · rw [last_eq]
      exact Run.at?_wrapperFile (Run.afterFirst_differOnlyAt ..) dir
  · exact Run.run_changes loaded changed

/-- A setter for no struct fails alone.  The parser beside it is written as the formatter leaves it,
a repository that nothing asks for any more goes, the old setter and the old wrappers stay, and the
loader is called once. -/
theorem run_isolates_notStruct :
    let slot : TypeDecl := ⟨"SlotID", ⟨"shop.go", 3, 6⟩, .basic .uint16⟩
    let color : TypeDecl := ⟨"Color", ⟨"shop.go", 6, 6⟩, .basic .string⟩
    let package : Package := ⟨"shop", "example.com/shop",
      [⟨"shop.go", [⟨[⟨"//repogen:parseid", 2⟩]⟩, ⟨[⟨"//repogen:setter", 5⟩]⟩]⟩], [slot, color]⟩
    let formatted := Text.Utf8.encode "package shop\n"
    let tools : Run.Tools Nat := ⟨fun _ _ _ => .ok ⟨.exited 0, formatted, []⟩,
      ⟨fun _ calls _ => (.ok package, calls + 1)⟩⟩
    let files := ((((FileSystem.empty []).put ["shop"] .directory).put
      ["shop", "crud.repogen.go"] (.file [1])).put
      ["shop", "setter.repogen.go"] (.file [2])).put
      ["shop", "bob.repogen.go"] (.file [3])
    let last := run tools ⟨"shop", "snapshot", some ⟨"gofmt", []⟩⟩ ⟨files, 0⟩
    last.1 = .error (.one (.declaration ⟨⟨"shop.go", 6, 6⟩, "setter", "Color", .notStruct⟩)) ∧
      last.2.memory = 1 ∧
      last.2.files.at? "shop/parse_id.repogen.go" = some (.file formatted) ∧
      last.2.files.at? "shop/crud.repogen.go" = none ∧
      last.2.files.at? "shop/setter.repogen.go" = some (.file [2]) ∧
      last.2.files.at? "shop/bob.repogen.go" = some (.file [3]) := by
  intro slot color package formatted tools files last
  obtain ⟨outputs, failed, _⟩ :=
    run_isolates tools ⟨"shop", "snapshot", some ⟨"gofmt", []⟩⟩ ⟨files, 0⟩ package 1 rfl
  obtain ⟨⟨error, reported, listed, _⟩, loads, _, wrappers⟩ := failed (by decide +kernel)
  have faults : error.toList = [.declaration ⟨⟨"shop.go", 6, 6⟩, "setter", "Color", .notStruct⟩] :=
    listed.trans (by decide +kernel)
  obtain rfl := Option.some.inj (RunError.ofList?_eq_some_iff.mpr faults)
  refine ⟨reported, loads, ?_, ?_, ?_, ?_⟩
  · exact (outputs .idParser (by simp)).1.trans (by decide +kernel)
  · exact (outputs .repository (by simp)).1.trans (by decide +kernel)
  · exact (outputs .setter (by simp)).1.trans (by decide +kernel)
  · exact (wrappers "shop").trans (by decide +kernel)

end Scaffold
