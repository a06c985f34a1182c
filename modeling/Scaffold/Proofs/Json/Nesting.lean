import Scaffold.Proofs.Json.Text

/-!
# How deep values nest

`Json.nesting` counts the arrays and objects around the innermost part of a value.  For a value that
a text can spell, being readable within a limit is a matter of this number alone
(`readableWithin_iff`).
-/

set_option autoImplicit false

namespace Scaffold.Json

mutual

/-- How many arrays and objects stand around the innermost part of a value. -/
def nesting : Json → Nat
  | array items => nestingAll items + 1
  | object members => nestingMembers members + 1
  | _ => 0

def nestingAll : List Json → Nat
  | [] => 0
  | item :: rest => max item.nesting (nestingAll rest)

def nestingMembers : List (String × Json) → Nat
  | [] => 0
  | (_, value) :: rest => max value.nesting (nestingMembers rest)

end

@[simp] theorem nesting_string (text : String) : (string text).nesting = 0 := by simp [nesting]

@[simp] theorem nesting_ofNat (n : Nat) : (ofNat n).nesting = 0 := by simp [ofNat, nesting]

variable {items : List Json} {members : List (String × Json)} {limit : Nat}

theorem nestingAll_le : nestingAll items ≤ limit ↔ ∀ item ∈ items, item.nesting ≤ limit := by
  induction items with
  | nil => simp [nestingAll]
  | cons item rest ih => rw [nestingAll, Nat.max_le, ih, List.forall_mem_cons]

theorem nestingMembers_le :
    nestingMembers members ≤ limit ↔ ∀ member ∈ members, member.2.nesting ≤ limit := by
  induction members with
  | nil => simp [nestingMembers]
  | cons member rest ih =>
      obtain ⟨name, value⟩ := member
      rw [nestingMembers, Nat.max_le, ih, List.forall_mem_cons]

theorem nesting_array_le :
    (array items).nesting ≤ limit + 1 ↔ ∀ item ∈ items, item.nesting ≤ limit := by
  rw [nesting, Nat.add_le_add_iff_right, nestingAll_le]

theorem nesting_object_le :
    (object members).nesting ≤ limit + 1 ↔ ∀ member ∈ members, member.2.nesting ≤ limit := by
  rw [nesting, Nat.add_le_add_iff_right, nestingMembers_le]

theorem nesting_lt_of_mem_array {item : Json} (member : item ∈ items) :
    item.nesting < (array items).nesting := by
  rw [nesting, Nat.lt_add_one_iff]
  exact nestingAll_le.mp (Nat.le_refl _) item member

theorem nesting_lt_of_mem_object {name : String} {value : Json} (member : (name, value) ∈ members) :
    value.nesting < (object members).nesting := by
  rw [nesting, Nat.lt_add_one_iff]
  exact nestingMembers_le.mp (Nat.le_refl _) (name, value) member

theorem allReadableWithin_iff :
    allReadableWithin limit items = true ↔ ∀ item ∈ items, item.readableWithin limit = true := by
  induction items with
  | nil => simp [allReadableWithin]
  | cons item rest ih => simp [allReadableWithin, ih]

theorem membersReadableWithin_iff :
    membersReadableWithin limit members = true ↔
      ∀ member ∈ members, member.2.readableWithin limit = true := by
  induction members with
  | nil => simp [membersReadableWithin]
  | cons member rest ih =>
      obtain ⟨name, value⟩ := member
      simp [membersReadableWithin, ih]

theorem readableWithin_array : (array items).readableWithin limit = true ↔
    0 < limit ∧ ∀ item ∈ items, item.readableWithin (limit - 1) = true := by
  simp [readableWithin, allReadableWithin_iff]

theorem readableWithin_object : (object members).readableWithin limit = true ↔
    0 < limit ∧ ∀ member ∈ members, member.2.readableWithin (limit - 1) = true := by
  simp [readableWithin, membersReadableWithin_iff]

/-- What is readable at no depth holds no other values, and is readable at every depth. -/
theorem readableWithin_of_zero {value : Json} (scalar : value.readableWithin 0 = true)
    (limit : Nat) :
    value.readableWithin limit = true := by
  cases value with
  | array | object | unreadable => cases scalar
  | _ => rfl

theorem readableWithin_iff {value : Json} (spellable : value.Spellable) :
    value.readableWithin limit = true ↔ value.nesting ≤ limit := by
  induction spellable generalizing limit with
  | null | bool | number | string => simp [readableWithin, nesting]
  | array each ih =>
      cases limit with
      | zero => simp [readableWithin, nesting]
      | succ limit =>
          rw [nesting_array_le, readableWithin, Nat.add_sub_cancel, Bool.and_eq_true,
            allReadableWithin_iff]
          simp only [Nat.zero_lt_succ, decide_true, true_and]
          exact forall₂_congr fun item member => ih item member
  | object each ih =>
      cases limit with
      | zero => simp [readableWithin, nesting]
      | succ limit =>
          rw [nesting_object_le, readableWithin, Nat.add_sub_cancel, Bool.and_eq_true,
            membersReadableWithin_iff]
          simp only [Nat.zero_lt_succ, decide_true, true_and]
          exact forall₂_congr fun member isMember => ih member isMember

end Scaffold.Json
