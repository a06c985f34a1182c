import Scaffold.Proofs.Model.Builders
import Scaffold.Proofs.Run.Isolation
import Scaffold.Proofs.Run.Loads

/-!
# What a successful run has done

An emission that reports an outcome has made its edit, and the outcome counts the declarations that
are annotated for the generator (`prepare_ok`, `Generator.Counts`).  So its output is a file when
there are such declarations, and no file otherwise.  Later wrappers leave it like that, for all
wrappers of a run are made of one package and count the same (`wrapAll_ok`).  `run_completes` adds
in which order the packages have been loaded, and what had been written before.
-/

set_option autoImplicit false

namespace Scaffold

open Checked FileSystem
open Program (Command)

/-- What there is of an output with some number of entities: a file, or nothing for none. -/
def IsOutput (entities : Nat) (node : Option Node) : Prop :=
  if entities = 0 then node = none else ∃ content, node = some (.file content)

/-! ## Entities are counted by declarations -/

namespace Generator

variable {generator : Generator} {package : Package} {product : Product}

/-- A product of the generator has one entity for each annotated declaration. -/
def Counts (generator : Generator) : Prop :=
  ∀ package product, generator.build package = .ok product →
    product.size = (package.annotated generator.target).length

/-- What keeps its contract is counted by declarations, whatever data is made of it. -/
theorem size_of_keepsContract {Model Entity : Type} {target : String}
    {entityOf : DirectiveIndex → TypeDecl → List Directive → Except Diagnostic Entity}
    {build : Package → Except Diagnostic Model} {entities : Model → List Entity}
    {toJson : Model → Json} {Describes : Package → TypeDecl → Entity → Prop}
    {Reports : Package → TypeDecl → Diagnostic → Prop}
    (contract : KeepsContract target entityOf (fun package => (build package).map entities)
      Describes Reports)
    (built : (build package).map (fun model => Product.mk (entities model).length (toJson model))
      = .ok product) :
    product.size = (package.annotated target).length := by
  obtain ⟨model, found, rfl⟩ := map_eq_ok.mp built
  have listed : (build package).map entities = .ok (entities model) := by
    rw [found]
    rfl
  exact (contract.entity_of_each listed).length_eq.symm

theorem counts_of_mem_firstWave : ∀ generator ∈ firstWave, generator.Counts := by
  simp only [firstWave, List.forall_mem_cons]
  refine ⟨?_, ?_, ?_, ?_, fun _ member => absurd member List.not_mem_nil⟩
  · exact fun _ _ built => size_of_keepsContract IdParser.keepsContract built
  · exact fun _ _ built => size_of_keepsContract Repository.keepsContract built
  · exact fun _ _ built => size_of_keepsContract Criteria.keepsContract built
  · exact fun _ _ built => size_of_keepsContract Setter.keepsContract built

theorem counts_wrapper (models : Package) : (wrapper models).Counts :=
  fun _ _ built => size_of_keepsContract (Wrapper.keepsContract models) built

end Generator

/-! ## Reported outcomes -/

namespace Emission

variable {α : Type} {emission : Emission α} {value : α} {files : FileSystem}

theorem perform_fst_eq_ok (ok : (emission.perform files).1 = .ok value) :
    emission.report = .ok value ∧
      ∀ edit, emission.edit = some edit → edit.apply files = .ok (emission.perform files).2 := by
  cases edited : emission.edit with
  | none => simpa [perform, edited] using ok
  | some edit =>
      cases applied : edit.apply files with
      | error cause => simp [perform, edited, applied] at ok
      | ok changed => simpa [perform, edited, applied] using ok

theorem writing_report_eq_ok {programs : Programs} {formatter : Option Command}
    {target path text : String} {value' : α}
    (ok : (writing programs formatter target path text value).report = .ok value') :
    value' = value ∧ ∃ written,
      (writing programs formatter target path text value).edit = some (.write path written) := by
  unfold writing at ok ⊢
  split at ok
  · exact ⟨(Except.ok.inj ok).symm, text, rfl⟩
  · split at ok
    · next formatted _ => exact ⟨(Except.ok.inj ok).symm, formatted, rfl⟩
    · cases ok
    · cases ok

end Emission

namespace Edit

variable {edit : Edit} {before after : FileSystem} {entities : Nat} {path : String}

theorem Made.at?_cases (made : edit.Made before after) (path : String) :
    after.at? path = before.at? path ∨ after.at? path = edit.content? := by
  by_cases meets : ∃ location, before.locate path = .ok location ∧
      before.locate edit.path = .ok location
  · obtain ⟨location, located, located'⟩ := meets
    right
    rw [← made.there, at?_of_locate (made.same.locate_eq_ok located),
      at?_of_locate (made.same.locate_eq_ok located')]
  · left
    have differ : DifferOnlyAt [edit.path] before after :=
      ⟨made.same, fun location away => made.elsewhere location (away _ List.mem_cons_self)⟩
    apply differ.at?_eq
    intro location located other member located'
    rw [List.mem_singleton] at member
    exact meets ⟨location, located, member ▸ located'⟩

theorem Made.isOutput_own (made : edit.Made before after) (own : edit.path = path)
    (like : IsOutput entities edit.content?) : IsOutput entities (after.at? path) := by
  rw [← own, made.there]
  exact like

theorem Made.isOutput (made : edit.Made before after) (like : IsOutput entities edit.content?)
    (was : IsOutput entities (before.at? path)) : IsOutput entities (after.at? path) := by
  rcases made.at?_cases path with same | same
  · rw [same]
    exact was
  · rw [same]
    exact like

end Edit

namespace Generator

variable {generator : Generator} {package : Package} {programs : Programs}
  {formatter : Option Command} {dir : String} {outcome : Outcome} {files : FileSystem}

/-- A generator that reports an outcome has built a product and made the edit for it. -/
theorem prepare_ok
    (ok : ((generator.prepare programs formatter dir package).perform files).1 = .ok outcome) :
    ∃ product edit, generator.build package = .ok product ∧
      outcome = ⟨generator.target, generator.outputPath dir, product.size⟩ ∧
      edit.path = generator.outputPath dir ∧ IsOutput product.size edit.content? ∧
      Edit.Made edit files
        ((generator.prepare programs formatter dir package).perform files).2 := by
  obtain ⟨reported, made⟩ := Emission.perform_fst_eq_ok ok
  revert made
  generalize ((generator.prepare programs formatter dir package).perform files).2 = changed
  unfold prepare at reported ⊢
  cases built : generator.build package with
  | error diagnostic => simp [built, Emission.failed] at reported
  | ok product =>
      simp only [built, emissionOf] at reported ⊢
      split_ifs at reported ⊢ with empty
      · intro made
        refine ⟨product, .delete (generator.outputPath dir), rfl, ?_, rfl, ?_,
          Edit.made_of_apply (made _ rfl)⟩
        · rw [empty]
          exact (Except.ok.inj reported).symm
        · simp [IsOutput, empty, Edit.content?]
      · cases rendered : Template.render generator.template product.data with
        | error failure => simp [rendered, Emission.failed] at reported
        | ok text =>
            simp only [rendered] at reported ⊢
            obtain ⟨rfl, written, edited⟩ := Emission.writing_report_eq_ok reported
            intro made
            refine ⟨product, .write (generator.outputPath dir) written, rfl, rfl, rfl, ?_,
              Edit.made_of_apply (made _ edited)⟩
            simp [IsOutput, empty, Edit.content?]

end Generator

namespace Run

variable {σ : Type} {tools : Tools σ} {settings : Settings} {state : State σ} {package : Package}
  {outcome : Outcome} {comment : Position × String}

/-- The outcome of a generator that counts the annotated declarations of a package. -/
def countedOutcome (package : Package) (target path : String) : Outcome :=
  ⟨target, path, (package.annotated target).length⟩

/-! ## The first wave -/

theorem alone_ok {generator : Generator} (member : generator ∈ Generator.firstWave)
    (ok : (alone tools settings state.files package generator).1 = .ok outcome) :
    outcome = countedOutcome package generator.target (generator.outputPath settings.dir) ∧
      IsOutput outcome.entities
        ((alone tools settings state.files package generator).2.at?
          (generator.outputPath settings.dir)) := by
  obtain ⟨product, edit, built, rfl, path, like, made⟩ := Generator.prepare_ok ok
  have counted := Generator.counts_of_mem_firstWave generator member package product built
  exact ⟨by simp only [countedOutcome, counted], made.isOutput_own path like⟩

theorem alone_of_reports {outcomes : List Outcome}
    (reports : Generator.firstWave.map (fun generator =>
      (alone tools settings state.files package generator).1) = outcomes.map .ok) :
    ∀ generator ∈ Generator.firstWave,
      (alone tools settings state.files package generator).1 =
        .ok (countedOutcome package generator.target (generator.outputPath settings.dir)) ∧
      IsOutput (package.annotated generator.target).length
        ((alone tools settings state.files package generator).2.at?
          (generator.outputPath settings.dir)) := by
  intro generator member
  have reported : (alone tools settings state.files package generator).1 ∈ outcomes.map .ok :=
    reports ▸ List.mem_map_of_mem member
  obtain ⟨outcome, _, same⟩ := List.mem_map.mp reported
  obtain ⟨rfl, there⟩ := alone_ok member same.symm
  exact ⟨same.symm, there⟩

/-- A first wave that succeeds has loaded the package, and reports the counted outcomes. -/
theorem firstWave_ok {outcomes : List Outcome}
    (ok : (firstWave tools settings state).1 = .ok outcomes) :
    ∃ package memory,
      tools.loader.load state.files state.memory settings.dir = (.ok package, memory) ∧
      outcomes = Generator.firstWave.map (fun generator =>
        countedOutcome package generator.target (generator.outputPath settings.dir)) ∧
      ∀ generator ∈ Generator.firstWave, IsOutput (package.annotated generator.target).length
        ((alone tools settings state.files package generator).2.at?
          (generator.outputPath settings.dir)) := by
  cases loaded : tools.loader.load state.files state.memory settings.dir with
  | mk result memory =>
      cases result with
      | error cause => simp [firstWave, load, loaded] at ok
      | ok package =>
          rw [firstWave_of_load loaded] at ok
          have reports := collect_eq_ok_iff.mp ok
          have each := alone_of_reports reports
          have ok_injective : Function.Injective (Except.ok (ε := Failure) (α := Outcome)) :=
            fun _ _ same => Except.ok.inj same
          refine ⟨package, memory, rfl, ok_injective.list_map ?_,
            fun generator member => (each generator member).2⟩
          rw [← reports, List.map_map]
          exact List.map_congr_left fun generator member => (each generator member).1

/-! ## The second wave -/

theorem wrapModels_ok (ok : (wrapModels tools settings package state comment).1 = .ok outcome) :
    outcome = countedOutcome package Wrapper.target (wrapperPath settings comment) ∧
      (∃ models model, (load tools state (Path.join settings.dir comment.2)).1 = .ok models ∧
        Wrapper.build package models = .ok model) ∧
      IsOutput outcome.entities
        ((wrapModels tools settings package state comment).2.files.at?
          (wrapperPath settings comment)) ∧
      ∀ path, IsOutput outcome.entities (state.files.at? path) →
        IsOutput outcome.entities
          ((wrapModels tools settings package state comment).2.files.at? path) := by
  cases loaded : load tools state (Path.join settings.dir comment.2) with
  | mk result after =>
      have sameFiles : after.files = state.files := congrArg (·.2.files) loaded.symm
      simp only [wrapModels, loaded] at ok ⊢
      cases result with
      | error cause => cases ok
      | ok models =>
          simp only [sameFiles] at ok ⊢
          obtain ⟨product, edit, built, rfl, path, like, made⟩ := Generator.prepare_ok ok
          have counted := Generator.counts_wrapper models package product built
          obtain ⟨model, modelBuilt, _⟩ := map_eq_ok.mp built
          refine ⟨?_, ⟨models, model, rfl, modelBuilt⟩, made.isOutput_own path like,
            fun other was => made.isOutput like was⟩
          simp only [countedOutcome, counted]
          rfl

/-- What holds of wrappers for some comments that are all reported.  Those for later comments may
meet the outputs of earlier ones, but they count the same. -/
theorem wrapAll_ok :
    ∀ {comments : List (Position × String)} {state : State σ} {outcomes : List Outcome},
    (wrapAll tools settings package comments state).1 = outcomes.map .ok →
      outcomes = comments.map (fun comment =>
        countedOutcome package Wrapper.target (wrapperPath settings comment)) ∧
      (∀ comment ∈ comments, IsOutput (package.annotated Wrapper.target).length
        ((wrapAll tools settings package comments state).2.files.at?
          (wrapperPath settings comment))) ∧
      ∀ path, IsOutput (package.annotated Wrapper.target).length (state.files.at? path) →
        IsOutput (package.annotated Wrapper.target).length
          ((wrapAll tools settings package comments state).2.files.at? path) := by
  intro comments
  induction comments with
  | nil =>
      intro state outcomes ok
      obtain rfl : outcomes = [] := by simpa [wrapAll] using ok
      exact ⟨rfl, fun _ member => absurd member List.not_mem_nil, fun _ was => was⟩
  | cons comment others ih =>
      intro state outcomes ok
      cases outcomes with
      | nil => cases ok
      | cons outcome outcomes =>
          obtain ⟨firstOk, restOk⟩ := List.cons.inj ok
          obtain ⟨rfl, _, there, keeps⟩ := wrapModels_ok firstOk
          obtain ⟨rfl, thereRest, keepsRest⟩ := ih restOk
          refine ⟨rfl, fun later member => ?_, fun path was => keepsRest path (keeps path was)⟩
          rcases List.mem_cons.mp member with rfl | member
          · exact keepsRest _ there
          · exact thereRest later member

/-- A second wave that succeeds has loaded the package, and wraps the models packages it names. -/
theorem secondWave_ok {outcomes : List Outcome}
    (ok : (secondWave tools settings state).1 = .ok outcomes) :
    ∃ package memory,
      tools.loader.load state.files state.memory settings.dir = (.ok package, memory) ∧
      (secondWave tools settings state).2 =
        (wrapAll tools settings package (Wrapper.modelsDirectives package)
          ⟨state.files, memory⟩).2 ∧
      (wrapAll tools settings package (Wrapper.modelsDirectives package) ⟨state.files, memory⟩).1 =
        outcomes.map .ok := by
  cases loaded : tools.loader.load state.files state.memory settings.dir with
  | mk result memory =>
      cases result with
      | error cause => simp [secondWave, load, loaded] at ok
      | ok package =>
          simp only [secondWave, load, loaded] at ok ⊢
          exact ⟨package, memory, rfl, rfl, collect_eq_ok_iff.mp ok⟩

end Run

/-- What a run that succeeds has loaded, built, reported and left.  The package is loaded before
anything is emitted and again behind all four emissions; the wrappers are made of what the second
load gives.  There is a file for each outcome with entities, and none for the others. -/
theorem run_completes {σ : Type} (tools : Run.Tools σ) (settings : Settings) (state : Run.State σ)
    (outcomes : List Outcome) (ok : (run tools settings state).1 = .ok outcomes) :
    let last := (run tools settings state).2
    let generators := [Generator.idParser, .repository, .criteria, .setter]
    ∃ (package reloaded : Package) (memory memory' : σ) (others : List Call),
      let emitted := (Emission.performAll (generators.map fun generator =>
        generator.prepare (tools.programs state.files) settings.formatter settings.dir package)
          state.files).2
      let comments := Wrapper.modelsDirectives reloaded
      tools.loader.load state.files state.memory settings.dir = (.ok package, memory) ∧
      tools.loader.load emitted memory settings.dir = (.ok reloaded, memory') ∧
      run tools.recorded settings (state.withCalls []) =
        (.ok outcomes, last.withCalls (⟨state.files, settings.dir, .ok package⟩ ::
          ⟨emitted, settings.dir, .ok reloaded⟩ :: others)) ∧
      last = (Run.wrapAll tools settings reloaded comments ⟨emitted, memory'⟩).2 ∧
      List.Forall₂ (fun comment call => call.dir = Path.join settings.dir comment.2 ∧
        ∃ models model, call.answer = .ok models ∧ Wrapper.build reloaded models = .ok model)
        comments others ∧
      outcomes.map (·.target) =
        ["parseid", "crud", "search", "setter"] ++ List.replicate comments.length "bob" ∧
      outcomes =
        generators.map (fun generator => ⟨generator.target, generator.outputPath settings.dir,
          (package.annotated generator.target).length⟩) ++
        comments.map (fun comment => ⟨Wrapper.target, Run.wrapperPath settings comment,
          (reloaded.annotated Wrapper.target).length⟩) ∧
      ∀ outcome ∈ outcomes, IsOutput outcome.entities (last.files.at? outcome.path) := by
  intro last generators
  obtain ⟨first, second, firstOk, secondOk, rfl⟩ := Run.waves_of_run_ok ok
  obtain ⟨package, memory, loaded, rfl, firstThere⟩ := Run.firstWave_ok firstOk
  have emitted := Run.firstWave_of_load loaded
  have last_eq : last = _ := congrArg Prod.snd (Run.run_of_waves firstOk secondOk)
  rw [emitted] at last_eq secondOk
  obtain ⟨reloaded, memory', loaded', wrapped, reported⟩ := Run.secondWave_ok secondOk
  obtain ⟨rfl, there, _⟩ := Run.wrapAll_ok reported
  have behind : Run.load tools (Run.firstWave tools settings state).2 settings.dir =
      (.ok reloaded, ⟨Run.afterFirst tools settings state.files package, memory'⟩) := by
    rw [emitted]
    simp only [Run.load, loaded']
  obtain ⟨others, made, recorded⟩ :=
    Run.run_recorded firstOk (emitted ▸ secondOk) (congrArg Prod.fst behind)
  refine ⟨package, reloaded, memory, memory', others, loaded, loaded', ?_, ?_, ?_, ?_, rfl, ?_⟩
  · rw [recorded, last_eq, Run.callOf, Run.callOf, behind, emitted]
    simp only [Run.load, loaded]
    rfl
  · rw [last_eq, wrapped]
    rfl
  · rw [behind] at made
    refine made.imp ?_
    rintro comment _ ⟨before, rfl, member⟩
    rw [reported] at member
    obtain ⟨outcome, _, same⟩ := List.mem_map.mp member
    obtain ⟨_, ⟨models, model, answered, built⟩, _⟩ := Run.wrapModels_ok same.symm
    exact ⟨rfl, models, model, answered, built⟩
  · rw [List.map_append, List.map_map, List.map_map]
    have words : (Wrapper.modelsDirectives reloaded).map (fun _ => "bob") = _ := List.map_const'
    exact congrArg _ words
  · intro outcome member
    rcases List.mem_append.mp member with member | member
    · obtain ⟨generator, generatorMember, rfl⟩ := List.mem_map.mp member
      have same : last.files.at? _ = _ := Run.run_at?_output loaded generatorMember
      simp only [Run.countedOutcome]
      rw [same]
      exact firstThere generator generatorMember
    · obtain ⟨comment, commentMember, rfl⟩ := List.mem_map.mp member
      rw [last_eq, wrapped]
      exact there comment commentMember

/-- Behind the first wave the loader gives another package, which names one models directory twice
and has nothing to wrap: the stale wrappers there go, and the parser that the first package asks for
stays. -/
theorem run_completes_reloaded :
    let slot : TypeDecl := ⟨"SlotID", ⟨"shop.go", 3, 6⟩, .basic .uint16⟩
    let package : Package := ⟨"shop", "example.com/shop",
      [⟨"shop.go", [⟨[⟨"//repogen:parseid", 2⟩]⟩]⟩], [slot]⟩
    let reloaded : Package := ⟨"shop", "example.com/shop",
      [⟨"shop.go", [⟨[⟨"//repogen:bob:models models", 5⟩, ⟨"//repogen:bob:models models", 6⟩]⟩]⟩],
      [slot]⟩
    let loader : Loader Nat :=
      ⟨fun _ calls _ => (.ok (if calls = 0 then package else reloaded), calls + 1)⟩
    let tools : Run.Tools Nat := ⟨fun _ _ _ => .error .notFound, loader⟩
    let files :=
      ((FileSystem.empty []).put ["models"] .directory).put ["models", "bob.repogen.go"] (.file [])
    let last := run tools ⟨".", "snapshot", none⟩ ⟨files, 0⟩
    let outcomes : List Outcome := [⟨"parseid", "./parse_id.repogen.go", 1⟩,
      ⟨"crud", "./crud.repogen.go", 0⟩, ⟨"search", "./search.repogen.go", 0⟩,
      ⟨"setter", "./setter.repogen.go", 0⟩, ⟨"bob", "./models/bob.repogen.go", 0⟩,
      ⟨"bob", "./models/bob.repogen.go", 0⟩]
    last.1 = .ok outcomes ∧
      (∃ content, last.2.files.at? "./parse_id.repogen.go" = some (.file content)) ∧
      last.2.files.at? "./models/bob.repogen.go" = none := by
  intro slot package reloaded loader tools files last outcomes
  have ok : last.1 = .ok outcomes := by decide +kernel
  obtain ⟨_, _, _, _, _, _, _, _, _, _, _, _, there⟩ := run_completes tools _ _ outcomes ok
  exact ⟨ok, there ⟨"parseid", "./parse_id.repogen.go", 1⟩ (by simp [outcomes]),
    there ⟨"bob", "./models/bob.repogen.go", 0⟩ (by simp [outcomes])⟩

end Scaffold
