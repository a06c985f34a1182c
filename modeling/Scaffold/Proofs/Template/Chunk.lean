import Scaffold.Template.Catalog
import Scaffold.Proofs.Template.Rendering

/-!
# What templates print

`Prints` says that pieces print a list of chunks, which tell apart what the template says, what
comes from the data, and the fields that the printed code selects.  Its lemmas go along the pieces
of a template.
-/

set_option autoImplicit false

namespace Scaffold.Template

inductive Chunk where
  /-- Printed as the template has it. -/
  | fixed (text : String)
  /-- Taken over from the data. -/
  | data (text : String)
  /-- A field that is selected from what another expression of the template means. -/
  | select (owner field : String)
  deriving DecidableEq, Repr

namespace Chunk

def text : Chunk → String
  | fixed text => text
  | data text => text
  | select owner field => owner ++ "." ++ field

def spell : List Chunk → String
  | [] => ""
  | chunk :: rest => chunk.text ++ spell rest

theorem spell_append (first rest : List Chunk) :
    spell (first ++ rest) = spell first ++ spell rest := by
  induction first with
  | nil => rw [List.nil_append, spell, String.empty_append]
  | cons chunk first ih => rw [List.cons_append, spell, spell, ih, String.append_assoc]

theorem spell_flatMap {α : Type} (chunks : α → List Chunk) (items : List α) :
    spell (items.flatMap chunks) = inRow (fun item _ => spell (chunks item)) items := by
  induction items with
  | nil => rfl
  | cons item rest ih => rw [inRow, List.flatMap_cons, spell_append, ih]

/-- A selection as what it selects from and what it selects. -/
def selection? : Chunk → Option (String × String)
  | select owner field => some (owner, field)
  | _ => none

def selections (chunks : List Chunk) : List (String × String) := chunks.filterMap selection?

section
variable (text owner field : String) (rest : List Chunk)

@[simp] theorem selections_nil : selections [] = [] := rfl

@[simp] theorem selections_fixed : selections (fixed text :: rest) = selections rest := rfl

@[simp] theorem selections_data : selections (data text :: rest) = selections rest := rfl

@[simp] theorem selections_select :
    selections (select owner field :: rest) = (owner, field) :: selections rest := rfl

end

@[simp] theorem selections_append (first rest : List Chunk) :
    selections (first ++ rest) = selections first ++ selections rest :=
  List.filterMap_append

@[simp] theorem selections_flatMap {α : Type} (chunks : α → List Chunk) (items : List α) :
    selections (items.flatMap chunks) = items.flatMap fun item => selections (chunks item) :=
  List.filterMap_flatMap

def dotBehind (owners : List Char) : List Char → Bool
  | first :: second :: rest =>
    owners.contains first && second = '.' || dotBehind owners (second :: rest)
  | _ => false

/-- A fixed text holds no selection from an owner that ends in one of some characters, nor the start
of one. -/
def isFree (owners : List Char) : Chunk → Bool
  | fixed text => !dotBehind owners text.toList
  | _ => true

end Chunk

open Chunk

def Prints (scope : Scope) (pieces : List Piece) (chunks : List Chunk) : Prop :=
  renderAll scope pieces = some (spell chunks)

namespace Prints

variable {scope : Scope} {pieces rest : List Piece} {first others : List Chunk}

theorem nil : Prints scope [] [] := by
  unfold Prints
  rw [renderAll]
  rfl

theorem append (here : Prints scope pieces first) (behind : Prints scope rest others) :
    Prints scope (pieces ++ rest) (first ++ others) := by
  unfold Prints
  rw [spell_append]
  exact renderAll_append here behind

theorem congr (printed : Prints scope pieces first) (same : spell first = spell others) :
    Prints scope pieces others := by
  unfold Prints at printed ⊢
  rw [printed, same]

theorem cons {piece : Piece} (here : Prints scope [piece] first)
    (behind : Prints scope rest others) :
    Prints scope (piece :: rest) (first ++ others) :=
  append here behind

theorem fixed {text : String} (behind : Prints scope rest others) :
    Prints scope (.text text :: rest) (.fixed text :: others) :=
  renderAll_cons (by rw [renderPiece]; rfl) behind

theorem data {path : Path} {text : String} (there : scope.get? path = some (.string text))
    (behind : Prints scope rest others) :
    Prints scope (.value path :: rest) (.data text :: others) :=
  renderAll_cons (by rw [renderPiece, there]; rfl) behind

theorem number {path : Path} {n : Nat} (there : scope.get? path = some (.ofNat n))
    (small : n < UInt64.size) (behind : Prints scope rest others) :
    Prints scope (.value path :: rest) (.data (toString n) :: others) := by
  have natural : numberClass (.whole n) = .natural := by
    have bound : n < Nat.pow 2 64 := small
    simp [numberClass, bound]
  have shown : display (.ofNat n) = toString n := by
    simp only [Json.ofNat, display, displayNumber, natural]
    rfl
  refine renderAll_cons ?_ behind
  rw [renderPiece, there, Option.map_some, shown]
  rfl

theorem text {text : String} (spelled : text = spell first) : Prints scope [.text text] first :=
  renderAll_singleton (by rw [renderPiece, spelled])

theorem select {text owner field : String} {path : Path} (spelled : text = owner ++ ".")
    (there : scope.get? path = some (.string field)) (behind : Prints scope rest others) :
    Prints scope (.text text :: .value path :: rest) (.select owner field :: others) := by
  have printed : Prints scope (.text text :: .value path :: rest)
      (.fixed text :: .data field :: others) := fixed (data there behind)
  unfold Prints at printed ⊢
  rw [printed, spelled]
  simp only [spell, Chunk.text, String.append_assoc]

theorem selectBehind {text before owner field : String} {path : Path}
    (spelled : text = before ++ (owner ++ ".")) (there : scope.get? path = some (.string field))
    (behind : Prints scope rest others) :
    Prints scope (.text text :: .value path :: rest)
      (.fixed before :: .select owner field :: others) := by
  have printed : Prints scope (.text text :: .value path :: rest)
      (.fixed text :: .data field :: others) := fixed (data there behind)
  unfold Prints at printed ⊢
  rw [printed, spelled]
  simp only [spell, Chunk.text, String.append_assoc]

theorem choice {condition : Condition} {holds : Prop} [Decidable holds]
    (decided : condition.eval? scope = some (decide holds))
    (yes : Prints scope pieces first) (no : Prints scope rest others) :
    Prints scope [.choice condition pieces rest] (if holds then first else others) := by
  apply renderAll_singleton
  rw [renderPiece, decided]
  by_cases is : holds
  · rw [if_pos is, decide_eq_true is]
    exact yes
  · rw [if_neg is, decide_eq_false is]
    exact no

theorem when {condition : Condition} {holds : Prop} [Decidable holds]
    (decided : condition.eval? scope = some (decide holds)) (yes : Prints scope pieces first) :
    Prints scope [.when condition pieces] (if holds then first else []) :=
  choice decided yes nil

theorem eachMem {α : Type} {toJson : α → Json} {name : String} {list : Path} {items : List α}
    {chunks : α → List Chunk} (there : scope.get? list = some (.array (items.map toJson)))
    (body : ∀ item ∈ items, ∀ scope, Prints ((name, toJson item) :: scope) pieces (chunks item)) :
    Prints scope [.each name list pieces] (items.flatMap chunks) := by
  apply renderAll_singleton
  rw [spell_flatMap]
  exact renderPiece_each there fun item member last => body item member _

theorem each {α : Type} {toJson : α → Json} {name : String} {list : Path} {items : List α}
    {chunks : α → List Chunk} (there : scope.get? list = some (.array (items.map toJson)))
    (body : ∀ item scope, Prints ((name, toJson item) :: scope) pieces (chunks item)) :
    Prints scope [.each name list pieces] (items.flatMap chunks) :=
  eachMem there fun item _ => body item

theorem eachWhen {α : Type} {toJson : α → Json} {name : String} {list : Path} {items : List α}
    {condition : Condition} {keep : α → Bool} {chunks : α → List Chunk}
    (there : scope.get? list = some (.array (items.map toJson)))
    (decided : ∀ item scope, condition.eval? ((name, toJson item) :: scope) = some (keep item))
    (body : ∀ item scope, Prints ((name, toJson item) :: scope) pieces (chunks item)) :
    Prints scope [.each name list [.when condition pieces]]
      ((items.filter keep).flatMap chunks) := by
  have looped : Prints scope [.each name list [.when condition pieces]]
      (items.flatMap fun item => if keep item = true then chunks item else []) := by
    refine each there fun item inner => when ?_ (body item inner)
    rw [decided, Bool.decide_eq_true]
  have kept : (items.filter keep).flatMap chunks =
      items.flatMap fun item => if keep item = true then chunks item else [] := by
    clear there looped
    induction items with
    | nil => rfl
    | cons item rest ih =>
        rw [List.flatMap_cons, List.filter_cons, ← ih]
        by_cases is : keep item = true
        · rw [if_pos is, if_pos is, List.flatMap_cons]
        · rw [if_neg is, if_neg is, List.nil_append]
  rw [kept]
  exact looped

end Prints

theorem render_of_prints {name : String} {scope : Scope} {pieces : List Piece} {chunks : List Chunk}
    (found : catalog.lookup name = some pieces) (printed : Prints scope pieces chunks) :
    render name (.object scope) = .ok (spell chunks) := by
  unfold Prints at printed
  simp only [render, found, printed]

end Scaffold.Template
