import Scaffold.Proofs.Template.Rendering
import Scaffold.Template.Catalog

/-!
# Templates with all their data

`Supplied scope pieces` says that every value which the pieces print, every list which they go
through and every attribute which they test is found in the scope under the path that the template
uses, in both branches of each choice and for each item of each loop.  Such pieces can be rendered
(`Supplied.exists_renderAll`), so a template fits data that supply it (`Fits.of_supplied`).
-/

set_option autoImplicit false

namespace Scaffold.Template

/-- All attributes that a condition tests are found; those that are compared with a text are
texts. -/
inductive Condition.Supplied (scope : Scope) : Condition → Prop where
  | holds {path : Path} {value : Json}
    (there : scope.get? path = some value) : Supplied scope (.holds path)
  | not {condition : Condition} (inner : Supplied scope condition) : Supplied scope (.not condition)
  | both {first second : Condition} (left : Supplied scope first) (right : Supplied scope second) :
      Supplied scope (.both first second)
  | beginsWith {path : Path} {text : String} (there : scope.get? path = some (.string text))
      (start : String) : Supplied scope (.beginsWith path start)
  | differ {first second : Path} {value other : Json} (there : scope.get? first = some value)
      (there' : scope.get? second = some other) : Supplied scope (.differ first second)

def loopState (last : Bool) : Json := .object [("last", .bool last)]

/-- All that the pieces print, go through or test is found. -/
inductive Supplied : Scope → List Piece → Prop where
  | nil {scope : Scope} : Supplied scope []
  | text {scope : Scope} {text : String} {rest : List Piece} (behind : Supplied scope rest) :
      Supplied scope (.text text :: rest)
  | value {scope : Scope} {path : Path} {value : Json} {rest : List Piece}
      (there : scope.get? path = some value) (behind : Supplied scope rest) :
      Supplied scope (.value path :: rest)
  | each {scope : Scope} {name : String} {list : Path} {items : List Json} {body rest : List Piece}
      (there : scope.get? list = some (.array items))
      (inner : ∀ item ∈ items, ∀ last,
        Supplied ((name, item) :: ("loop", loopState last) :: scope) body)
      (behind : Supplied scope rest) : Supplied scope (.each name list body :: rest)
  | choice {scope : Scope} {condition : Condition} {yes no rest : List Piece}
      (tested : condition.Supplied scope) (holds : Supplied scope yes) (fails : Supplied scope no)
      (behind : Supplied scope rest) : Supplied scope (.choice condition yes no :: rest)

/-! ## Nothing is missing -/

section
variable {scope : Scope} {pieces rest : List Piece}

theorem Condition.Supplied.exists_eval? {condition : Condition}
    (supplied : condition.Supplied scope) :
    ∃ outcome, condition.eval? scope = some outcome := by
  induction supplied with
  | holds there => exact ⟨_, rfl⟩
  | not _ ih =>
      obtain ⟨outcome, decided⟩ := ih
      exact ⟨!outcome, by rw [eval?, decided, Option.map_some]⟩
  | both _ _ left right =>
      obtain ⟨first, decided⟩ := left
      obtain ⟨second, decided'⟩ := right
      cases first with
      | true => exact ⟨second, by rw [eval?, decided, decided']⟩
      | false => exact ⟨false, by rw [eval?, decided]⟩
  | beginsWith there start => exact ⟨_, by rw [eval?, there]⟩
  | differ there there' => exact ⟨_, by rw [eval?, there, there']⟩

theorem exists_renderItems (render : Scope → Option String) {name : String} {items : List Json}
    (each : ∀ item ∈ items, ∀ last,
      ∃ text, render ((name, item) :: ("loop", loopState last) :: scope) = some text) :
    ∃ text, renderItems render scope name items = some text := by
  induction items with
  | nil => exact ⟨"", rfl⟩
  | cons item rest ih =>
      obtain ⟨first, here⟩ := each item List.mem_cons_self rest.isEmpty
      obtain ⟨others, behind⟩ := ih fun other member => each other (List.mem_cons_of_mem _ member)
      refine ⟨first ++ others, ?_⟩
      rw [loopState] at here
      simp only [renderItems, here, behind, Option.map_some]

theorem Supplied.exists_renderAll (supplied : Supplied scope pieces) :
    ∃ text, renderAll scope pieces = some text := by
  induction supplied with
  | nil => exact ⟨"", by rw [renderAll]⟩
  | text _ behind =>
      obtain ⟨others, rendered⟩ := behind
      exact ⟨_, renderAll_cons (by rw [renderPiece]) rendered⟩
  | value there _ behind =>
      obtain ⟨others, rendered⟩ := behind
      exact ⟨_, renderAll_cons (by rw [renderPiece, there, Option.map_some]) rendered⟩
  | @each scope name list items body rest there _ _ inner behind =>
      obtain ⟨others, rendered⟩ := behind
      obtain ⟨first, looped⟩ := exists_renderItems (fun inner => renderAll inner body) inner
      refine ⟨first ++ others, renderAll_cons ?_ rendered⟩
      rw [renderPiece, there, Option.bind_some]
      exact looped
  | choice tested _ _ _ holds fails behind =>
      obtain ⟨others, rendered⟩ := behind
      obtain ⟨outcome, decided⟩ := tested.exists_eval?
      cases outcome with
      | true =>
          obtain ⟨first, here⟩ := holds
          exact ⟨_, renderAll_cons (by rw [renderPiece, decided]; exact here) rendered⟩
      | false =>
          obtain ⟨first, here⟩ := fails
          exact ⟨_, renderAll_cons (by rw [renderPiece, decided]; exact here) rendered⟩

/-! ## Putting pieces together -/

theorem Supplied.append (here : Supplied scope pieces) (behind : Supplied scope rest) :
    Supplied scope (pieces ++ rest) := by
  induction here with
  | nil => exact behind
  | text _ ih => exact .text (ih behind)
  | value there _ ih => exact .value there (ih behind)
  | each there inner _ _ ih => exact .each there inner (ih behind)
  | choice tested holds fails _ _ _ ih => exact .choice tested holds fails (ih behind)

theorem Supplied.cons {piece : Piece} (here : Supplied scope [piece])
    (behind : Supplied scope rest) :
    Supplied scope (piece :: rest) :=
  here.append behind

theorem Supplied.when {condition : Condition} (tested : condition.Supplied scope)
    (holds : Supplied scope pieces) : Supplied scope [.when condition pieces] :=
  .choice tested holds .nil .nil

theorem Supplied.eachOf {α : Type} (toJson : α → Json) {name : String} {list : Path}
    {items : List α} (there : scope.get? list = some (.array (items.map toJson)))
    (inner : ∀ item last,
      Supplied ((name, toJson item) :: ("loop", loopState last) :: scope) pieces) :
    Supplied scope [.each name list pieces] := by
  refine .each there ?_ .nil
  intro data member last
  obtain ⟨item, _, rfl⟩ := List.mem_map.mp member
  exact inner item last

end

/-! ## Templates and data -/

/-- The template of a given name is there, the data supply it, and it can be rendered with them. -/
def Fits (name : String) (data : Json) : Prop :=
  ∃ scope pieces text, data = .object scope ∧ catalog.lookup name = some pieces ∧
    Supplied scope pieces ∧ render name data = .ok text

theorem Fits.of_supplied {name : String} {scope : Scope} (pieces : List Piece)
    (found : catalog.lookup name = some pieces) (supplied : Supplied scope pieces) :
    Fits name (.object scope) := by
  obtain ⟨text, rendered⟩ := supplied.exists_renderAll
  exact ⟨scope, pieces, text, rfl, found, supplied, by simp only [render, found, rendered]⟩

end Scaffold.Template
