import Scaffold.Diagnostic
import Scaffold.FileSystem
import Scaffold.Program
import Scaffold.Template.Catalog

/-!
# What can go wrong in a run

A `Failure` is what one generator reports.  A run reports all of them: `RunError.ofList?` gives
nothing for no failure, a single one as it is and several ones together, in order.
-/

set_option autoImplicit false

namespace Scaffold

open Text (quoted)

inductive LoadFailure where
  | unreadable (path : String) (cause : FileCause)
  | malformed (path : String)
  deriving DecidableEq, Repr, Inhabited

namespace LoadFailure

def message : LoadFailure → String
  | unreadable path cause => path ++ ": " ++ cause.message
  | malformed path => path ++ ": invalid package snapshot"

end LoadFailure

inductive Failure where
  | declaration (diagnostic : Diagnostic)
  | load (cause : LoadFailure)
  /-- The package that a comment names for the models cannot be loaded. -/
  | models (pos : Position) (target dir : String) (cause : LoadFailure)
  | render (cause : Template.RenderFailure)
  | output (path : String) (cause : FileCause)
  | notStarted (target program : String) (cause : Program.StartCause)
  | rejected (target reason : String)
  deriving DecidableEq, Repr, Inhabited

namespace Failure

def message : Failure → String
  | declaration diagnostic => diagnostic.message
  | load cause => cause.message
  | models pos target dir cause =>
    pos.text ++ ": " ++ target ++ ": cannot load models package " ++ quoted dir ++ ": " ++
      cause.message
  | render cause => cause.message
  | output path cause => path ++ ": " ++ cause.message
  | notStarted target program cause =>
    target ++ ": cannot run formatter " ++ quoted program ++ ": " ++ cause.message
  | rejected target reason => target ++ ": formatter failed: " ++ reason

end Failure

inductive RunError where
  | one (failure : Failure)
  | several (first second : Failure) (others : List Failure)
  deriving DecidableEq, Repr, Inhabited

namespace RunError

def ofList? : List Failure → Option RunError
  | [] => none
  | [failure] => some (one failure)
  | first :: second :: others => some (several first second others)

def toList : RunError → List Failure
  | one failure => [failure]
  | several first second others => first :: second :: others

def message (e : RunError) : String := "\n".intercalate (e.toList.map Failure.message)

theorem ofList?_eq_none_iff {failures : List Failure} :
    ofList? failures = none ↔ failures = [] := by
  match failures with
  | [] => simp [ofList?]
  | [_] => simp [ofList?]
  | _ :: _ :: _ => simp [ofList?]

theorem ofList?_eq_some_iff {failures : List Failure} {e : RunError} :
    ofList? failures = some e ↔ e.toList = failures := by
  match failures, e with
  | [], .one _ | [], .several _ _ _ => simp [ofList?, toList]
  | [_], .one _ | [_], .several _ _ _ => simp [ofList?, toList, eq_comm]
  | _ :: _ :: _, .one _ | _ :: _ :: _, .several _ _ _ => simp [ofList?, toList, eq_comm]

end RunError

/-! ## Collecting results -/

def failuresOf {α : Type} : List (Except Failure α) → List Failure
  | [] => []
  | .ok _ :: rest => failuresOf rest
  | .error failure :: rest => failure :: failuresOf rest

def valuesOf {α : Type} : List (Except Failure α) → List α
  | [] => []
  | .ok value :: rest => value :: valuesOf rest
  | .error _ :: rest => valuesOf rest

def collect {α : Type} (results : List (Except Failure α)) : Except RunError (List α) :=
  match RunError.ofList? (failuresOf results) with
  | none => .ok (valuesOf results)
  | some e => .error e

theorem failuresOf_eq_nil_iff {α : Type} {results : List (Except Failure α)} :
    failuresOf results = [] ↔ results = (valuesOf results).map .ok := by
  induction results with
  | nil => simp [failuresOf, valuesOf]
  | cons result rest ih =>
      cases result with
      | ok value => simp [failuresOf, valuesOf, ih]
      | error failure =>
          simp only [failuresOf, valuesOf, List.cons_ne_nil, false_iff]
          intro h
          have hmem : Except.error failure ∈ (valuesOf rest).map (Except.ok (ε := Failure)) :=
            h ▸ List.mem_cons_self
          simp at hmem

theorem collect_eq_ok_iff {α : Type} {results : List (Except Failure α)} {values : List α} :
    collect results = .ok values ↔ results = values.map .ok := by
  constructor
  · intro h
    unfold collect at h
    split at h
    · next hnone =>
      injection h with h
      subst h
      exact failuresOf_eq_nil_iff.mp (RunError.ofList?_eq_none_iff.mp hnone)
    · cases h
  · rintro rfl
    have hf : ∀ vs : List α, failuresOf (vs.map (Except.ok (ε := Failure))) = [] := by
      intro vs
      induction vs with
      | nil => rfl
      | cons v rest ih => simpa [failuresOf] using ih
    have hv : ∀ vs : List α, valuesOf (vs.map (Except.ok (ε := Failure))) = vs := by
      intro vs
      induction vs with
      | nil => rfl
      | cons v rest ih => simpa [valuesOf] using ih
    simp [collect, hf, hv, RunError.ofList?]

end Scaffold
