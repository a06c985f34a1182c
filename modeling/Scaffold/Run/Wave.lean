import Scaffold.Run

/-!
# The first wave as tasks side by side

Each generator of the first wave is a task of at most three steps: it builds and renders, looking at
nothing but the package; its text goes through the formatter; its edit is made.  A model that cannot
be built or rendered ends a task early, and a model without entities needs no formatter.

`Wave.Step` lets any task that has not finished take its next step, so that a chain of steps is one
way for the tasks to run side by side.  The tasks share the files.
-/

set_option autoImplicit false

namespace Scaffold

inductive Stage where
  | waiting
  /-- The text is there, and the formatter has not been asked. -/
  | rendered (text : String) (entities : Nat)
  | prepared (emission : Emission Outcome)
  | finished (result : Except Failure Outcome)

structure Task where
  generator : Generator
  stage : Stage

structure Assignment where
  programs : Programs
  settings : Settings
  package : Package

namespace Task

def build (assignment : Assignment) (generator : Generator) : Stage :=
  let path := generator.outputPath assignment.settings.dir
  match generator.build assignment.package with
  | .error diagnostic => .finished (.error (.declaration diagnostic))
  | .ok product =>
    if product.size = 0 then .prepared (.removal path ⟨generator.target, path, 0⟩)
    else match Template.render generator.template product.data with
      | .error failure => .finished (.error (.render failure))
      | .ok text => .rendered text product.size

/-- The next step of a task: how far it comes, and the files behind the step. -/
def advance (assignment : Assignment) (task : Task) (files : FileSystem) :
    Option (Stage × FileSystem) :=
  match task.stage with
  | .waiting => some (build assignment task.generator, files)
  | .rendered text entities =>
    let path := task.generator.outputPath assignment.settings.dir
    some (.prepared (.writing assignment.programs assignment.settings.formatter
      task.generator.target path text ⟨task.generator.target, path, entities⟩), files)
  | .prepared emission =>
    let (result, changed) := emission.perform files
    some (.finished result, changed)
  | .finished _ => none

def result? (task : Task) : Option (Except Failure Outcome) :=
  match task.stage with
  | .finished result => some result
  | _ => none

def stepsLeft (task : Task) : Nat :=
  match task.stage with
  | .waiting => 3
  | .rendered _ _ => 2
  | .prepared _ => 1
  | .finished _ => 0

end Task

/-- The tasks of a wave, in the order of their reports, and the files. -/
structure Wave where
  files : FileSystem
  tasks : List Task

namespace Wave

def start (files : FileSystem) : Wave :=
  ⟨files, Generator.firstWave.map fun generator => ⟨generator, .waiting⟩⟩

inductive Step (assignment : Assignment) : Wave → Wave → Prop where
  | advance {files changed : FileSystem} {before behind : List Task} {task : Task} {stage : Stage}
      (advanced : task.advance assignment files = some (stage, changed)) :
      Step assignment ⟨files, before ++ task :: behind⟩
        ⟨changed, before ++ { task with stage := stage } :: behind⟩

def results (wave : Wave) : List (Except Failure Outcome) := wave.tasks.filterMap Task.result?

def Ended (wave : Wave) : Prop := ∀ task ∈ wave.tasks, task.result?.isSome

end Wave

end Scaffold
