import Mathlib.Data.List.Forall2
import Scaffold.Run

/-!
# What a run asks of its loader

`Loader.recorded` is a loader that answers like another one and keeps its calls.  A run with it does
what the run without it does, and the calls tell in which order packages were loaded, what had been
written before, and what the answers were.
-/

set_option autoImplicit false

namespace Scaffold

variable {σ : Type}

/-- A call of a loader: the files that it was shown, the directory it was asked for, and its
answer. -/
structure Call where
  files : FileSystem
  dir : String
  answer : Except LoadFailure Package

def Loader.recorded (loader : Loader σ) : Loader (σ × List Call) :=
  ⟨fun files memory dir =>
    let (answer, after) := loader.load files memory.1 dir
    (answer, after, memory.2 ++ [⟨files, dir, answer⟩])⟩

namespace Run

variable {tools : Tools σ} {settings : Settings} {state : State σ} {package : Package}

def Tools.recorded (tools : Tools σ) : Tools (σ × List Call) :=
  ⟨tools.programs, tools.loader.recorded⟩

def State.withCalls (state : State σ) (calls : List Call) : State (σ × List Call) :=
  ⟨state.files, state.memory, calls⟩

def callOf (tools : Tools σ) (state : State σ) (dir : String) : Call :=
  ⟨state.files, dir, (load tools state dir).1⟩

theorem load_recorded (state : State σ) (calls : List Call) (dir : String) :
    load tools.recorded (state.withCalls calls) dir =
      ((load tools state dir).1,
        (load tools state dir).2.withCalls (calls ++ [callOf tools state dir])) := rfl

/-- The first wave loads the package and nothing else, before it touches a file. -/
theorem firstWave_recorded (state : State σ) (calls : List Call) :
    firstWave tools.recorded settings (state.withCalls calls) =
      ((firstWave tools settings state).1,
        (firstWave tools settings state).2.withCalls
          (calls ++ [callOf tools state settings.dir])) := by
  simp only [firstWave, load_recorded]
  cases load tools state settings.dir with
  | mk result state => cases result <;> rfl

theorem wrapModels_recorded (state : State σ) (calls : List Call) (comment : Position × String) :
    wrapModels tools.recorded settings package (state.withCalls calls) comment =
      ((wrapModels tools settings package state comment).1,
        (wrapModels tools settings package state comment).2.withCalls
          (calls ++ [callOf tools state (Path.join settings.dir comment.2)])) := by
  simp only [wrapModels, load_recorded]
  cases load tools state (Path.join settings.dir comment.2) with
  | mk result state => cases result <;> rfl

/-- The call for the models package of a comment, made in a state from which the wrappers for the
comment come to one of the results. -/
def IsCallFor (tools : Tools σ) (settings : Settings) (package : Package)
    (results : List (Except Failure Outcome)) (comment : Position × String) (call : Call) : Prop :=
  ∃ state : State σ, call = callOf tools state (Path.join settings.dir comment.2) ∧
    (wrapModels tools settings package state comment).1 ∈ results

theorem wrapAll_recorded (tools : Tools σ) (settings : Settings) (package : Package)
    (comments : List (Position × String)) (state : State σ) (calls : List Call) :
    ∃ more : List Call,
      List.Forall₂ (IsCallFor tools settings package
        (wrapAll tools settings package comments state).1)
        comments more ∧
      wrapAll tools.recorded settings package comments (state.withCalls calls) =
        ((wrapAll tools settings package comments state).1,
          (wrapAll tools settings package comments state).2.withCalls (calls ++ more)) := by
  induction comments generalizing state calls with
  | nil => exact ⟨[], .nil, by simp [wrapAll]⟩
  | cons comment others ih =>
      let call := callOf tools state (Path.join settings.dir comment.2)
      obtain ⟨more, made, rest⟩ :=
        ih (wrapModels tools settings package state comment).2 (calls ++ [call])
      refine ⟨call :: more, .cons ⟨state, rfl, List.mem_cons_self⟩ (made.imp ?_), ?_⟩
      · rintro other later ⟨before, same, member⟩
        exact ⟨before, same, List.mem_cons_of_mem _ member⟩
      · rw [List.append_assoc, List.singleton_append] at rest
        simp only [wrapAll, wrapModels_recorded, call, rest]

/-- The second wave loads the package again, and then the models packages that it names. -/
theorem secondWave_recorded (loaded : (load tools state settings.dir).1 = .ok package)
    (calls : List Call) :
    ∃ more : List Call,
      List.Forall₂ (IsCallFor tools settings package (wrapAll tools settings package
          (Wrapper.modelsDirectives package) (load tools state settings.dir).2).1)
        (Wrapper.modelsDirectives package) more ∧
      secondWave tools.recorded settings (state.withCalls calls) =
        ((secondWave tools settings state).1,
          (secondWave tools settings state).2.withCalls
            (calls ++ callOf tools state settings.dir :: more)) := by
  simp only [secondWave, load_recorded]
  cases after : load tools state settings.dir with
  | mk result state' =>
      rw [after] at loaded
      obtain rfl : result = .ok package := loaded
      obtain ⟨more, made, rest⟩ := wrapAll_recorded tools settings package
        (Wrapper.modelsDirectives package) state' (calls ++ [callOf tools state settings.dir])
      refine ⟨more, made, ?_⟩
      rw [List.append_assoc, List.singleton_append] at rest
      simp only [rest]

/-! ## Both waves -/

theorem run_of_waves {first second : List Outcome}
    (firstOk : (firstWave tools settings state).1 = .ok first)
    (secondOk : (secondWave tools settings (firstWave tools settings state).2).1 = .ok second) :
    run tools settings state =
      (.ok (first ++ second),
        (secondWave tools settings (firstWave tools settings state).2).2) := by
  unfold run
  cases emitted : firstWave tools settings state with
  | mk result behind =>
      rw [emitted] at firstOk secondOk
      obtain rfl : result = .ok first := firstOk
      cases wrapped : secondWave tools settings behind with
      | mk result last =>
          rw [wrapped] at secondOk
          obtain rfl : result = .ok second := secondOk
          simp only [wrapped]

theorem waves_of_run_ok {outcomes : List Outcome}
    (ok : (run tools settings state).1 = .ok outcomes) :
    ∃ first second, (firstWave tools settings state).1 = .ok first ∧
      (secondWave tools settings (firstWave tools settings state).2).1 = .ok second ∧
      outcomes = first ++ second := by
  unfold run at ok
  cases emitted : firstWave tools settings state with
  | mk result behind =>
      simp only [emitted] at ok ⊢
      cases result with
      | error error => cases ok
      | ok first =>
          cases wrapped : secondWave tools settings behind with
          | mk result last =>
              simp only [wrapped] at ok ⊢
              cases result with
              | error error => cases ok
              | ok second => exact ⟨first, second, rfl, rfl, (Except.ok.inj ok).symm⟩

/-- A run whose waves both succeed loads the package before and behind the first wave, and then the
models packages. -/
theorem run_recorded {first second : List Outcome}
    (firstOk : (firstWave tools settings state).1 = .ok first)
    (secondOk : (secondWave tools settings (firstWave tools settings state).2).1 = .ok second)
    (loaded : (load tools (firstWave tools settings state).2 settings.dir).1 = .ok package) :
    ∃ more : List Call,
      List.Forall₂ (IsCallFor tools settings package (wrapAll tools settings package
          (Wrapper.modelsDirectives package)
          (load tools (firstWave tools settings state).2 settings.dir).2).1)
        (Wrapper.modelsDirectives package) more ∧
      run tools.recorded settings (state.withCalls []) =
        (.ok (first ++ second),
          (secondWave tools settings (firstWave tools settings state).2).2.withCalls
            (callOf tools state settings.dir ::
              callOf tools (firstWave tools settings state).2 settings.dir :: more)) := by
  obtain ⟨more, made, secondCalls⟩ := secondWave_recorded loaded [callOf tools state settings.dir]
  have firstCalls : firstWave tools.recorded settings (state.withCalls []) = _ :=
    firstWave_recorded state []
  have recorded : run tools.recorded settings (state.withCalls []) = _ :=
    run_of_waves (by rw [firstCalls]; exact firstOk)
      (by rw [firstCalls, List.nil_append, secondCalls]; exact secondOk)
  rw [firstCalls, List.nil_append, secondCalls] at recorded
  exact ⟨more, made, recorded⟩

end Run

end Scaffold
