import Scaffold.Template

/-!
# Rendering in steps

Rendering goes from left to right, so the parts of a template can be rendered on their own.  A loop
over the data of a list of items prints what its body prints for each of them.
-/

set_option autoImplicit false

namespace Scaffold.Template

/-! ## Conditions -/

namespace Condition

variable {scope : Scope} {path : Path} {first second : Condition} {P Q : Prop} [Decidable P]
  [Decidable Q]

theorem eval?_holds_bool {value : Bool} (there : scope.get? path = some (.bool value)) :
    (holds path).eval? scope = some (decide (value = true)) := by
  rw [eval?, there, Bool.decide_eq_true]
  rfl

theorem eval?_holds_string {text : String} (there : scope.get? path = some (.string text)) :
    (holds path).eval? scope = some (decide (text ≠ "")) := by
  rw [eval?, there]
  rfl

theorem eval?_not (decided : first.eval? scope = some (decide P)) :
    (not first).eval? scope = some (decide (¬ P)) := by
  rw [eval?, decided, Option.map_some, decide_not]

theorem eval?_both (decided : first.eval? scope = some (decide P))
    (decided' : second.eval? scope = some (decide Q)) :
    (both first second).eval? scope = some (decide (P ∧ Q)) := by
  rw [eval?, decided, decided']
  by_cases is : P <;> simp [is]

theorem eval?_beginsWith {text start : String} (there : scope.get? path = some (.string text)) :
    (beginsWith path start).eval? scope = some (decide (start.toList <+: text.toList)) := by
  rw [eval?, there]
  refine congrArg some ?_
  rw [Bool.eq_iff_iff, decide_eq_true_iff, List.isPrefixOf_iff_prefix]

theorem eval?_differ {path' : Path} {text text' : String}
    (there : scope.get? path = some (.string text))
    (there' : scope.get? path' = some (.string text')) :
    (differ path path').eval? scope = some (decide (text ≠ text')) := by
  rw [eval?, there, there']
  refine congrArg some ?_
  rw [decide_not]
  rfl

end Condition

/-! ## Parts -/

section Parts
variable {scope : Scope} {rest : List Piece} {first others : String}

theorem renderAll_cons {piece : Piece} (here : renderPiece scope piece = some first)
    (behind : renderAll scope rest = some others) :
    renderAll scope (piece :: rest) = some (first ++ others) := by
  rw [renderAll, here]
  exact congrArg (Option.map (first ++ ·)) behind

theorem renderAll_singleton {piece : Piece} (here : renderPiece scope piece = some first) :
    renderAll scope [piece] = some first := by
  rw [renderAll_cons here (by rw [renderAll]), String.append_empty]

theorem renderAll_append {pieces : List Piece} (here : renderAll scope pieces = some first)
    (behind : renderAll scope rest = some others) :
    renderAll scope (pieces ++ rest) = some (first ++ others) := by
  induction pieces generalizing first with
  | nil =>
      rw [renderAll] at here
      obtain rfl := Option.some.inj here
      rw [List.nil_append, behind, String.empty_append]
  | cons piece pieces ih =>
      rw [renderAll] at here
      cases pieceIs : renderPiece scope piece with
      | none => simp [pieceIs] at here
      | some start =>
          simp only [pieceIs, Option.map_eq_some_iff] at here
          obtain ⟨tail, tailIs, rfl⟩ := here
          rw [List.cons_append, String.append_assoc]
          exact renderAll_cons pieceIs (ih tailIs)

end Parts

/-! ## Loops -/

section Loops
variable {α : Type} {scope : Scope} {toJson : α → Json}

/-- Texts of items in a row, each told whether its item is the last one. -/
def inRow (text : α → Bool → String) : List α → String
  | [] => ""
  | item :: rest => text item rest.isEmpty ++ inRow text rest

theorem renderItems_map {render : Scope → Option String} {name : String} {text : α → Bool → String}
    (items : List α)
    (each : ∀ item ∈ items, ∀ last,
      render ((name, toJson item) :: ("loop", .object [("last", .bool last)]) :: scope) =
        some (text item last)) :
    renderItems render scope name (items.map toJson) = some (inRow text items) := by
  induction items with
  | nil => rfl
  | cons item rest ih =>
      have first := each item List.mem_cons_self rest.isEmpty
      have others := ih fun other member => each other (List.mem_cons_of_mem _ member)
      simp only [List.map_cons, renderItems, List.isEmpty_map, first, others]
      rfl

theorem renderPiece_each {name : String} {list : Path} {body : List Piece} {items : List α}
    {text : α → Bool → String} (there : scope.get? list = some (.array (items.map toJson)))
    (each : ∀ item ∈ items, ∀ last,
      renderAll ((name, toJson item) :: ("loop", .object [("last", .bool last)]) :: scope) body =
        some (text item last)) :
    renderPiece scope (.each name list body) = some (inRow text items) := by
  rw [renderPiece, there]
  exact renderItems_map items each

end Loops

end Scaffold.Template
