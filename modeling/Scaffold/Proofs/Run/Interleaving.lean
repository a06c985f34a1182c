import Mathlib.Algebra.GroupWithZero.Nat
import Mathlib.Algebra.BigOperators.Group.List.Basic
import Mathlib.Data.List.Nodup
import Mathlib.Logic.Relation
import Scaffold.Run.Wave
import Scaffold.Proofs.Run.Isolation

/-!
# The order in which tasks run does not matter

The tasks of the first wave come to the same files and reports whichever takes its next step when
(`interleaving_eq_firstWave`).  Until it finishes, a task is on the way to perform what its
generator prepares (`Task.advance_cases`).  The files at any time are those behind the emissions of
the finished tasks in their order of reports (`Wave.Reached`), since a task that finishes has its
emission performed last and emissions of different outputs can be swapped.
-/

set_option autoImplicit false

namespace Scaffold

open FileSystem

variable {assignment : Assignment} {files changed : FileSystem}

/-! ## One task -/

namespace Task

variable {task other : Task} {stage : Stage}

def emission (assignment : Assignment) (task : Task) : Emission Outcome :=
  task.generator.prepare assignment.programs assignment.settings.formatter assignment.settings.dir
    assignment.package

/-- What is left to perform of a task that has not finished. -/
def remaining? (assignment : Assignment) (task : Task) : Option (Emission Outcome) :=
  match task.stage with
  | .waiting => some (task.emission assignment)
  | .rendered text entities =>
    let path := task.generator.outputPath assignment.settings.dir
    some (.writing assignment.programs assignment.settings.formatter task.generator.target path text
      ⟨task.generator.target, path, entities⟩)
  | .prepared emission => some emission
  | .finished _ => none

def OnCourse (assignment : Assignment) (task : Task) : Prop :=
  ∀ emission, task.remaining? assignment = some emission → emission = task.emission assignment

/-- Building ends a task whose emission touches nothing, or leaves the whole emission to be done. -/
theorem build_cases (assignment : Assignment) (generator : Generator) :
    (∃ failure, build assignment generator = .finished (.error failure) ∧
      (Task.mk generator .waiting).emission assignment = .failed failure) ∨
    (Task.mk generator (build assignment generator)).remaining? assignment =
      some ((Task.mk generator .waiting).emission assignment) := by
  unfold build emission Generator.prepare
  cases generator.build assignment.package with
  | error diagnostic => exact .inl ⟨_, rfl, rfl⟩
  | ok product =>
      simp only [Generator.emissionOf]
      split_ifs with empty
      · exact .inr rfl
      · cases Template.render generator.template product.data with
        | error failure => exact .inl ⟨_, rfl, rfl⟩
        | ok text => exact .inr rfl

/-- A step of a task on course leaves the files alone and the task on course, or finishes the task
with what its emission reports and leaves. -/
theorem advance_cases (onCourse : task.OnCourse assignment)
    (advanced : task.advance assignment files = some (stage, changed)) :
    task.result? = none ∧
      ((changed = files ∧ (Task.mk task.generator stage).result? = none ∧
          (Task.mk task.generator stage).OnCourse assignment) ∨
        (stage = .finished ((task.emission assignment).perform files).1 ∧
          changed = ((task.emission assignment).perform files).2)) := by
  obtain ⟨generator, stage'⟩ := task
  cases stage' with
  | waiting =>
      cases advanced
      refine ⟨rfl, ?_⟩
      rcases build_cases assignment generator with ⟨failure, built, failed⟩ | left
      · right
        rw [built, failed]
        exact ⟨rfl, rfl⟩
      · left
        refine ⟨rfl, ?_, fun emission remaining => ?_⟩
        · cases built : build assignment generator <;> simp_all [result?, remaining?]
        · exact Option.some.inj (remaining.symm.trans left)
  | rendered text entities =>
      cases advanced
      exact ⟨rfl, .inl ⟨rfl, rfl, onCourse⟩⟩
  | prepared emission =>
      cases advanced
      rw [onCourse emission rfl]
      exact ⟨rfl, .inr ⟨rfl, rfl⟩⟩
  | finished result => cases advanced

theorem exists_advance (unfinished : task.result? = none) (assignment : Assignment)
    (files : FileSystem) : ∃ stage changed, task.advance assignment files =
      some (stage, changed) := by
  obtain ⟨generator, stage⟩ := task
  cases stage with
  | waiting => exact ⟨_, _, rfl⟩
  | rendered text entities => exact ⟨_, _, rfl⟩
  | prepared emission => exact ⟨_, _, rfl⟩
  | finished result => cases unfinished

theorem stepsLeft_of_advance (advanced : task.advance assignment files = some (stage, changed)) :
    (Task.mk task.generator stage).stepsLeft < task.stepsLeft := by
  obtain ⟨generator, stage'⟩ := task
  cases stage' with
  | waiting =>
      cases advanced
      simp only [stepsLeft]
      cases built : build assignment generator with
      | waiting =>
          unfold build at built
          split at built
          · cases built
          · split_ifs at built
            split at built <;> cases built
      | _ => simp
  | rendered text entities => cases advanced; simp [stepsLeft]
  | prepared emission => cases advanced; simp [stepsLeft]
  | finished result => cases advanced

/-! ## Two tasks -/

theorem emission_editsOnly (assignment : Assignment) (task : Task) :
    (task.emission assignment).EditsOnly (task.generator.outputPath assignment.settings.dir) :=
  Generator.prepare_editsOnly task.generator _ _ _ _

section Siblings
variable (member : task.generator ∈ Generator.firstWave)
    (member' : other.generator ∈ Generator.firstWave)
  (ne : task.generator.fileName ≠ other.generator.fileName)
include member member' ne

theorem emission_agreeAt (files : FileSystem) :
    AgreeAt (task.generator.outputPath assignment.settings.dir) files
      ((other.emission assignment).perform files).2 :=
  Emission.perform_agreeAt_sibling (Generator.fileName_isName _ member)
    (Generator.fileName_isName _ member') ne (emission_editsOnly assignment other) files

theorem emission_comm (files : FileSystem) :
    ((task.emission assignment).perform ((other.emission assignment).perform files).2).2 =
      ((other.emission assignment).perform ((task.emission assignment).perform files).2).2 := by
  have proper := Generator.fileName_isName _ member
  have proper' := Generator.fileName_isName _ member'
  apply Emission.perform_comm (emission_editsOnly assignment other)
    (emission_editsOnly assignment task)
    (Path.not_endsInDirectory_join _ proper') (Path.not_endsInDirectory_join _ proper)
  intro location located' located
  exact ne (name_eq_of_locate_join proper proper' located located')

end Siblings

end Task

/-! ## All tasks -/

namespace Wave

variable {start last wave next : Wave} {before behind : List Task} {task : Task} {stage : Stage}

/-- The emissions of the tasks that have finished, in the order of the tasks. -/
def performed (assignment : Assignment) (tasks : List Task) : List (Emission Outcome) :=
  (tasks.filter fun task => task.result?.isSome).map (Task.emission assignment)

/-- What holds of a wave that started with some files, whatever steps have been taken. -/
structure Reached (assignment : Assignment) (files : FileSystem) (wave : Wave) : Prop where
  generators : wave.tasks.map Task.generator = Generator.firstWave
  onCourse : ∀ task ∈ wave.tasks, task.OnCourse assignment
  /-- A finished task has reported what its emission reports alone. -/
  reported : ∀ task ∈ wave.tasks, ∀ result, task.result? = some result →
    result = ((task.emission assignment).perform files).1
  /-- The files are as if the finished tasks had been performed in their order. -/
  left : wave.files = (Emission.performAll (performed assignment wave.tasks) files).2

theorem reached_start (assignment : Assignment) (files : FileSystem) :
    Reached assignment files (.start files) where
  generators := by simp [Wave.start, Function.comp_def]
  onCourse := by
    intro task member emission remaining
    obtain ⟨generator, _, rfl⟩ := List.mem_map.mp member
    exact (Option.some.inj remaining).symm
  reported := by
    intro task member result finished
    obtain ⟨generator, _, rfl⟩ := List.mem_map.mp member
    cases finished
  left := rfl

theorem apart_of_generators
    (generators : (before ++ task :: behind).map Task.generator = Generator.firstWave) :
    task.generator ∈ Generator.firstWave ∧ ∀ other ∈ before ++ behind,
      other.generator ∈ Generator.firstWave ∧
        task.generator.fileName ≠ other.generator.fileName := by
  have distinct := (List.nodup_cons.mp Generator.fileName_nodup).2
  rw [← generators, List.map_map, List.map_append, List.map_cons, List.nodup_middle,
    List.nodup_cons, ← List.map_append] at distinct
  have member {other : Task} (there : other ∈ before ++ task :: behind) :
      other.generator ∈ Generator.firstWave := generators ▸ List.mem_map_of_mem there
  refine ⟨member (by simp), fun other there => ⟨member ?_, fun same => distinct.1 ?_⟩⟩
  · rcases List.mem_append.mp there with there | there <;> simp [there]
  · simp only [Function.comp_apply, same]
    exact List.mem_map_of_mem there

theorem performed_append (assignment : Assignment) (before behind : List Task) :
    performed assignment (before ++ behind) =
      performed assignment before ++ performed assignment behind := by
  simp [performed]

theorem performed_of_unfinished (unfinished : task.result? = none) :
    performed assignment (before ++ task :: behind) = performed assignment (before ++ behind) := by
  simp [performed, unfinished]

theorem performed_of_finished {result : Except Failure Outcome}
    (finished : task.result? = some result) :
    performed assignment (before ++ task :: behind) =
      performed assignment before ++ task.emission assignment :: performed assignment behind := by
  simp [performed, finished]

/-- The emission of a task that finishes may as well have been performed in its place. -/
theorem perform_in_place
    (generators : (before ++ task :: behind).map Task.generator = Generator.firstWave)
    (files : FileSystem) :
    ((task.emission assignment).perform
        (Emission.performAll (performed assignment (before ++ behind)) files).2).2 =
      (Emission.performAll (performed assignment before ++
        task.emission assignment :: performed assignment behind) files).2 := by
  obtain ⟨member, apart⟩ := apart_of_generators generators
  rw [performed_append, Emission.performAll_append_snd, Emission.performAll_append_snd,
    Emission.perform_performAll_comm]
  · rfl
  · intro emission performed files
    obtain ⟨other, there, rfl⟩ := List.mem_map.mp performed
    obtain ⟨member', ne⟩ := apart other (List.mem_append_right _ (List.mem_of_mem_filter there))
    exact Task.emission_comm member member' ne files

/-- A task reports what it would report alone, whatever has been performed. -/
theorem report_alone
    (generators : (before ++ task :: behind).map Task.generator = Generator.firstWave)
    (files : FileSystem) :
    ((task.emission assignment).perform
        (Emission.performAll (performed assignment (before ++ behind)) files).2).1 =
      ((task.emission assignment).perform files).1 := by
  obtain ⟨member, apart⟩ := apart_of_generators generators
  refine (Emission.perform_congr (Task.emission_editsOnly assignment task)
    (Emission.performAll_agreeAt ?_ files)).1
  intro emission performed files
  obtain ⟨other, there, rfl⟩ := List.mem_map.mp performed
  obtain ⟨member', ne⟩ := apart other (List.mem_of_mem_filter there)
  exact Task.emission_agreeAt member member' ne files

theorem Reached.step (reached : Reached assignment files wave) (step : Step assignment wave next) :
    Reached assignment files next := by
  cases step with
  | @advance current changed before behind task stage advanced =>
      obtain ⟨generators, onCourse, reported, left⟩ := reached
      simp only at generators onCourse reported left
      obtain ⟨unfinished, steps⟩ := Task.advance_cases (onCourse task (by simp)) advanced
      rw [performed_of_unfinished unfinished] at left
      have others {other : Task} (there : other ∈
        before ++ Task.mk task.generator stage :: behind) :
          other = Task.mk task.generator stage ∨ other ∈ before ++ task :: behind := by
        rcases List.mem_append.mp there with there | there
        · exact .inr (List.mem_append_left _ there)
        · rcases List.mem_cons.mp there with same | there
          · exact .inl same
          · exact .inr (List.mem_append_right _ (List.mem_cons_of_mem _ there))
      have sameGenerators :
          (before ++ Task.mk task.generator stage :: behind).map Task.generator
            = Generator.firstWave := by
        rw [← generators]
        simp
      rcases steps with ⟨rfl, stillUnfinished, stillOnCourse⟩ | ⟨rfl, rfl⟩
      · refine ⟨sameGenerators, fun other there => ?_, fun other there result finished => ?_, ?_⟩
        · rcases others there with rfl | there
          · exact stillOnCourse
          · exact onCourse other there
        · rcases others there with rfl | there
          · cases stillUnfinished.symm.trans finished
          · exact reported other there result finished
        · rw [performed_of_unfinished stillUnfinished]
          exact left
      · refine ⟨sameGenerators, fun other there => ?_, fun other there result finished => ?_, ?_⟩
        · rcases others there with rfl | there
          · intro emission remaining
            cases remaining
          · exact onCourse other there
        · rcases others there with rfl | there
          · cases finished
            rw [left]
            exact report_alone generators files
          · exact reported other there result finished
        · rw [performed_of_finished rfl, left]
          exact perform_in_place generators files

theorem Reached.steps (reached : Reached assignment files wave)
    (steps : Relation.ReflTransGen (Step assignment) wave last) :
    Reached assignment files last := by
  induction steps with
  | refl => exact reached
  | tail _ step ih => exact ih.step step

/-! ## The end of a wave -/

def stepsLeft (wave : Wave) : Nat := (wave.tasks.map Task.stepsLeft).sum

theorem stepsLeft_of_step (step : Step assignment wave next) : next.stepsLeft < wave.stepsLeft := by
  obtain ⟨advanced⟩ := step
  have less := Task.stepsLeft_of_advance advanced
  simp only [stepsLeft, List.map_append, List.map_cons, List.sum_append, List.sum_cons]
  omega

/-- A wave comes to an end, whichever steps are taken. -/
theorem wellFounded_step (assignment : Assignment) :
    WellFounded fun next wave => Step assignment wave next :=
  Subrelation.wf stepsLeft_of_step (InvImage.wf stepsLeft Nat.lt_wfRel.wf)

theorem ended_iff (assignment : Assignment) (wave : Wave) :
    wave.Ended ↔ ∀ next, ¬ Step assignment wave next := by
  obtain ⟨files, tasks⟩ := wave
  constructor
  · intro ended next step
    cases step with
    | @advance _ _ _ _ task _ advanced =>
        obtain ⟨result, finished⟩ := Option.isSome_iff_exists.mp (ended task (by simp))
        obtain ⟨generator, stage⟩ := task
        cases stage <;> cases finished
        cases advanced
  · intro stuck task there
    by_contra unfinished
    rw [Option.isSome_iff_ne_none, not_not] at unfinished
    obtain ⟨stage, changed, advanced⟩ := Task.exists_advance unfinished assignment files
    obtain ⟨before, behind, rfl⟩ := List.append_of_mem there
    exact stuck _ (.advance advanced)

theorem exists_ended (assignment : Assignment) (wave : Wave) :
    ∃ last, Relation.ReflTransGen (Step assignment) wave last ∧ last.Ended := by
  induction wave using (wellFounded_step assignment).induction with
  | _ wave ih =>
      by_cases ended : wave.Ended
      · exact ⟨wave, .refl, ended⟩
      · rw [ended_iff assignment] at ended
        push Not at ended
        obtain ⟨next, step⟩ := ended
        obtain ⟨last, steps, ended⟩ := ih next step
        exact ⟨last, .head step steps, ended⟩

theorem Reached.files_of_ended (reached : Reached assignment files wave) (ended : wave.Ended) :
    wave.files = (Emission.performAll (Generator.firstWave.map fun generator =>
      generator.prepare assignment.programs assignment.settings.formatter assignment.settings.dir
        assignment.package) files).2 := by
  rw [reached.left, ← reached.generators, List.map_map, performed, List.filter_eq_self.mpr ended]
  rfl

theorem Reached.results_of_ended (reached : Reached assignment files wave) (ended : wave.Ended) :
    wave.results = Generator.firstWave.map fun generator =>
      ((generator.prepare assignment.programs assignment.settings.formatter assignment.settings.dir
        assignment.package).perform files).1 := by
  rw [← reached.generators, List.map_map, results, ← List.filterMap_eq_map]
  apply List.filterMap_congr
  intro task there
  obtain ⟨result, finished⟩ := Option.isSome_iff_exists.mp (ended task there)
  rw [finished, reached.reported task there result finished]
  rfl

end Wave

/-- Every way for the tasks of the first wave to take their steps comes to an end, when all tasks
have finished, and ends in the files and in the collected reports of performing them one after the
other. -/
theorem interleaving_eq_firstWave {σ : Type} (programs : Programs) (loader : Loader σ)
    (settings : Settings) (state : Run.State σ) (package : Package) (memory : σ)
    (loaded : loader.load state.files state.memory settings.dir = (.ok package, memory)) :
    let step := Wave.Step ⟨programs, settings, package⟩
    WellFounded (fun next wave => step wave next) ∧
    (∃ last, Relation.ReflTransGen step (.start state.files) last ∧ ∀ next, ¬ step last next) ∧
    ∀ last, Relation.ReflTransGen step (.start state.files) last → (∀ next, ¬ step last next) →
      last.Ended ∧ Run.firstWave ⟨fun _ => programs, loader⟩ settings state =
        (collect last.results, ⟨last.files, memory⟩) := by
  intro step
  refine ⟨Wave.wellFounded_step _, ?_, fun last steps stuck => ?_⟩
  · obtain ⟨last, steps, ended⟩ :=
      Wave.exists_ended ⟨programs, settings, package⟩ (.start state.files)
    exact ⟨last, steps, (Wave.ended_iff _ last).mp ended⟩
  · have ended := (Wave.ended_iff _ last).mpr stuck
    have reached := (Wave.reached_start _ state.files).steps steps
    refine ⟨ended, ?_⟩
    rw [Run.firstWave_of_load loaded, reached.files_of_ended ended, reached.results_of_ended ended]
    rfl

/-- A setter for no struct fails alone, in whatever order the four tasks run: the parser beside it
is written as the formatter leaves it, a repository that nothing asks for any more goes, and the old
setter stays. -/
theorem interleaving_eq_firstWave_notStruct :
    let slot : TypeDecl := ⟨"SlotID", ⟨"shop.go", 3, 6⟩, .basic .uint16⟩
    let color : TypeDecl := ⟨"Color", ⟨"shop.go", 6, 6⟩, .basic .string⟩
    let package : Package := ⟨"shop", "example.com/shop",
      [⟨"shop.go", [⟨[⟨"//repogen:parseid", 2⟩]⟩, ⟨[⟨"//repogen:setter", 5⟩]⟩]⟩], [slot, color]⟩
    let formatted := Text.Utf8.encode "package shop\n"
    let assignment : Assignment := ⟨fun _ _ => .ok ⟨.exited 0, formatted, []⟩,
      ⟨"shop", "snapshot", some ⟨"gofmt", []⟩⟩, package⟩
    let files := (((FileSystem.empty []).put ["shop"] .directory).put ["shop", "crud.repogen.go"]
      (.file [1])).put ["shop", "setter.repogen.go"] (.file [2])
    ∃ last, Relation.ReflTransGen (Wave.Step assignment) (.start files) last ∧ last.Ended ∧
      collect last.results =
        .error (.one (.declaration ⟨⟨"shop.go", 6, 6⟩, "setter", "Color", .notStruct⟩)) ∧
      last.files.at? "shop/parse_id.repogen.go" = some (.file formatted) ∧
      last.files.at? "shop/crud.repogen.go" = none ∧
      last.files.at? "shop/setter.repogen.go" = some (.file [2]) := by
  intro slot color package formatted assignment files
  let loader : Loader Unit := ⟨fun _ _ _ => (.ok package, ())⟩
  let state : Run.State Unit := ⟨files, ()⟩
  let wave := Run.firstWave ⟨fun _ => assignment.programs, loader⟩ assignment.settings state
  obtain ⟨_, ⟨last, steps, stuck⟩, ends⟩ :=
    interleaving_eq_firstWave assignment.programs loader assignment.settings state package () rfl
  obtain ⟨ended, same⟩ := ends last steps stuck
  have reported : wave.1 =
      .error (.one (.declaration ⟨⟨"shop.go", 6, 6⟩, "setter", "Color", .notStruct⟩)) := by
        decide +kernel
  have written : wave.2.files.at? "shop/parse_id.repogen.go" = some (.file formatted) := by
    decide +kernel
  have deleted : wave.2.files.at? "shop/crud.repogen.go" = none := by decide +kernel
  have kept : wave.2.files.at? "shop/setter.repogen.go" = some (.file [2]) := by decide +kernel
  have ending : wave = (collect last.results, ⟨last.files, ()⟩) := same
  rw [ending] at reported written deleted kept
  exact ⟨last, steps, ended, reported, written, deleted, kept⟩

end Scaffold
