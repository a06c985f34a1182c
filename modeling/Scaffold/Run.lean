import Scaffold.Generator
import Scaffold.Loader
import Scaffold.Settings

/-!
# Runs

A run has two waves.  The first one loads the package and performs the generators that need nothing
else; any failure ends the run, after all of them have been performed.  The second one loads the
package again, to see what the first one has generated, and emits wrappers into every models package
that a comment names.
-/

set_option autoImplicit false

namespace Scaffold

namespace Run

variable {σ : Type}

/-- What the steps of a run change: the files, and what the loader remembers. -/
structure State (σ : Type) where
  files : FileSystem
  memory : σ

/-- What a run relies on: the programs that can be started, which may look at the files there are,
and the source of packages. -/
structure Tools (σ : Type) where
  programs : FileSystem → Programs
  loader : Loader σ

def load (tools : Tools σ) (state : State σ) (dir : String) :
    Except LoadFailure Package × State σ :=
  let (result, memory) := tools.loader.load state.files state.memory dir
  (result, { state with memory := memory })

def firstEmissions (tools : Tools σ) (settings : Settings) (files : FileSystem)
    (package : Package) :
    List (Emission Outcome) :=
  Generator.firstWave.map fun generator =>
    generator.prepare (tools.programs files) settings.formatter settings.dir package

def firstWave (tools : Tools σ) (settings : Settings) (state : State σ) :
    Except RunError (List Outcome) × State σ :=
  match load tools state settings.dir with
  | (.error cause, state) => (.error (.one (.load cause)), state)
  | (.ok package, state) =>
    let emissions := firstEmissions tools settings state.files package
    let (results, files) := Emission.performAll emissions state.files
    (collect results, { state with files := files })

def wrapModels (tools : Tools σ) (settings : Settings) (package : Package) (state : State σ)
    (comment : Position × String) : Except Failure Outcome × State σ :=
  let dir := Path.join settings.dir comment.2
  match load tools state dir with
  | (.error cause, state) => (.error (.models comment.1 Wrapper.target comment.2 cause), state)
  | (.ok models, state) =>
    let emission := (Generator.wrapper models).prepare (tools.programs state.files)
      settings.formatter dir package
    let (result, files) := emission.perform state.files
    (result, { state with files := files })

def wrapAll (tools : Tools σ) (settings : Settings) (package : Package) :
    List (Position × String) → State σ → List (Except Failure Outcome) × State σ
  | [], state => ([], state)
  | comment :: others, state =>
    let (result, state) := wrapModels tools settings package state comment
    let (results, state) := wrapAll tools settings package others state
    (result :: results, state)

def secondWave (tools : Tools σ) (settings : Settings) (state : State σ) :
    Except RunError (List Outcome) × State σ :=
  match load tools state settings.dir with
  | (.error cause, state) => (.error (.one (.load cause)), state)
  | (.ok package, state) =>
    let (results, state) := wrapAll tools settings package (Wrapper.modelsDirectives package) state
    (collect results, state)

/-! ## Files of a run over snapshots -/

def outputs (settings : Settings) (package : Package) : List String :=
  Generator.firstWave.map (·.outputPath settings.dir)
    ++ (Wrapper.modelsDirectives package).map fun (_, dir) =>
      Path.join (Path.join settings.dir dir) Generator.wrapperFile

def inputs (settings : Settings) (package : Package) : List String :=
  (settings.dir :: (Wrapper.modelsDirectives package).map fun (_, dir) =>
      Path.join settings.dir dir).map
    fun dir => Path.join dir settings.snapshot

end Run

/-- Runs both waves, the second one only when the first one succeeds. -/
def run {σ : Type} (tools : Run.Tools σ) (settings : Settings) (state : Run.State σ) :
    Except RunError (List Outcome) × Run.State σ :=
  match Run.firstWave tools settings state with
  | (.error e, state) => (.error e, state)
  | (.ok first, state) =>
    match Run.secondWave tools settings state with
    | (.error e, state) => (.error e, state)
    | (.ok second, state) => (.ok (first ++ second), state)

end Scaffold
