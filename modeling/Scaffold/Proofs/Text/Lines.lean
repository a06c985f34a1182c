import Scaffold.Proofs.Path.Join

/-!
# Lines of a text

`Text.ended` puts lines below each other, each ended by a line break.  When no line holds a break
itself, `Text.linesOf` gives the lines back, with the empty rest behind the last break
(`linesOf_ended`).
-/

set_option autoImplicit false

namespace Scaffold.Text

def Unbroken (text : String) : Prop := '\n' ∉ text.toList

instance : DecidablePred Unbroken := fun text => inferInstanceAs (Decidable (_ ∉ text.toList))

@[simp] theorem unbroken_append {first second : String} :
    Unbroken (first ++ second) ↔ Unbroken first ∧ Unbroken second := by
  unfold Unbroken
  rw [String.toList_append, List.mem_append, not_or]

theorem unbroken_repr (n : Nat) : Unbroken n.repr := by
  intro broken
  rw [← Nat.toString_eq_repr, Nat.toString_eq_ofList_toDigits, String.toList_ofList] at broken
  exact absurd (Nat.isDigit_of_mem_toDigits (by omega) (by omega) broken) (by decide)

theorem unbroken_intercalate {separator : String} (plain : Unbroken separator) {texts : List String}
    (each : ∀ text ∈ texts, Unbroken text) : Unbroken (separator.intercalate texts) := by
  induction texts with
  | nil => simp [Unbroken]
  | cons first rest ih =>
      obtain ⟨firstPlain, restPlain⟩ := List.forall_mem_cons.mp each
      cases rest with
      | nil => simpa using firstPlain
      | cons second rest =>
          rw [String.intercalate_cons_cons]
          simp [firstPlain, plain, ih restPlain]

def linesOf (text : String) : List String := (pieces '\n' text.toList).map String.ofList

/-- Lines below each other, each ended by a line break. -/
def ended : List String → String
  | [] => ""
  | line :: rest => line ++ "\n" ++ ended rest

theorem ended_append (lines others : List String) :
    ended (lines ++ others) = ended lines ++ ended others := by
  induction lines with
  | nil => rw [List.nil_append, ended, String.empty_append]
  | cons line rest ih => simp only [List.cons_append, ended, ih, String.append_assoc]

theorem ended_flatMap {α : Type} (lines : α → List String) (items : List α) :
    ended (items.flatMap lines) = String.join (items.map fun item => ended (lines item)) := by
  induction items with
  | nil => rfl
  | cons item rest ih => rw [List.flatMap_cons, ended_append, ih, List.map_cons, String.join_cons]

theorem infix_flatMap {α β : Type} {items : List α} {item : α} (member : item ∈ items)
    (parts : α → List β) : parts item <:+: items.flatMap parts := by
  rw [List.flatMap_def]
  exact List.infix_of_mem_flatten (List.mem_map_of_mem member)

theorem linesOf_ended {lines : List String} (each : ∀ line ∈ lines, Unbroken line) :
    linesOf (ended lines) = lines ++ [""] := by
  induction lines with
  | nil => rfl
  | cons line rest ih =>
      obtain ⟨plain, restPlain⟩ := List.forall_mem_cons.mp each
      have spelled : (ended (line :: rest)).toList =
          line.toList ++ '\n' :: (ended rest).toList := by
        rw [ended, String.toList_append, String.toList_append, List.append_assoc]
        rfl
      have others : (pieces '\n' (ended rest).toList).map String.ofList = rest ++ [""] :=
        ih restPlain
      rw [linesOf, spelled, pieces_append_cons, pieces_of_notMem plain, List.map_append, others]
      simp

end Scaffold.Text
