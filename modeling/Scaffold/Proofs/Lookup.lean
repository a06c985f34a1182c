import Mathlib.Data.List.Nodup

/-!
# Look-ups by name

A look-up in a list of named values finds the first one of that name.  Where a name stands once,
neither the order of the list nor what stands under other names makes a difference.
-/

set_option autoImplicit false

namespace Scaffold

variable {α : Type} {members others front behind : List (String × α)}
    {name key : String} {value : α}

theorem lookup_cons_of_ne (other : name ≠ key) : List.lookup name ((key, value) :: members) =
    List.lookup name members := by
  have differs : (name == key) = false := beq_false_of_ne other
  rw [List.lookup_cons, differs]

/-- Nothing is found under a name that is left out, and the rest stays as it is. -/
theorem lookup_filter_ne : List.lookup name (members.filter fun entry => entry.1 ≠ key) =
    if name = key then none else members.lookup name := by
  induction members with
  | nil => simp
  | cons entry rest ih =>
      obtain ⟨first, value⟩ := entry
      by_cases here : first = key
      · subst here
        rw [List.filter_cons_of_neg (by simp), ih]
        split
        · rfl
        next other => rw [lookup_cons_of_ne other]
      · rw [List.filter_cons_of_pos (by simpa using here), List.lookup_cons, List.lookup_cons, ih]
        by_cases same : name = first
        · subst same
          simp [here]
        · rw [beq_false_of_ne same]

theorem lookup_of_perm (perm : members.Perm others)
    (once : members.countP (fun entry => entry.1 = name) ≤ 1) :
    members.lookup name = others.lookup name := by
  induction perm with
  | nil => rfl
  | cons member _ ih =>
      rw [List.countP_cons] at once
      rw [List.lookup_cons, List.lookup_cons, ih (Nat.le_of_add_right_le once)]
  | swap first second rest =>
      by_cases isFirst : name = first.1
      · by_cases isSecond : name = second.1
        · simp [← isFirst, ← isSecond] at once
        · subst isFirst
          rw [lookup_cons_of_ne isSecond, List.lookup_cons_self, List.lookup_cons_self]
      · have passed (list : List (String × α)) : List.lookup name (first :: list) =
            List.lookup name list :=
          lookup_cons_of_ne isFirst
        rw [passed, List.lookup_cons, passed, List.lookup_cons]
  | trans perm _ ih ih' => exact (ih once).trans (ih' (perm.countP_eq _ ▸ once))

theorem lookup_append_cons_of_ne (other : name ≠ key) :
    (front ++ (key, value) :: behind).lookup name = (front ++ behind).lookup name := by
  rw [List.lookup_append, lookup_cons_of_ne other, List.lookup_append]

theorem lookup_append_cons_self
    (once : (front ++ (key, value) :: behind).countP (fun entry => entry.1 = key) ≤ 1) :
    (front ++ (key, value) :: behind).lookup key = some value := by
  have absent : front.countP (fun entry => entry.1 = key) = 0 := by
    rw [List.countP_append, List.countP_cons_of_pos (by simp)] at once
    omega
  have first : front.lookup key = none := by
    refine List.lookup_eq_none_iff.mpr fun entry member => ?_
    have other := List.countP_eq_zero.mp absent entry member
    simp only [decide_eq_true_eq] at other
    exact bne_iff_ne.mpr (Ne.symm other)
  rw [List.lookup_append, first, List.lookup_cons_self, Option.none_or]

theorem lookup_of_mem (once : members.countP (fun entry => entry.1 = key) ≤ 1)
    (isMember : (key, value) ∈ members) : members.lookup key = some value := by
  obtain ⟨front, behind, rfl⟩ := List.append_of_mem isMember
  exact lookup_append_cons_self once

theorem mem_of_lookup (found : members.lookup key = some value) : (key, value) ∈ members := by
  obtain ⟨front, behind, rfl, _⟩ := List.lookup_eq_some_iff.mp found
  exact List.mem_append_right front List.mem_cons_self

/-- The values of all members are those of the fields and those under other names. -/
theorem forall_mem_fields (holds : α → Prop) {names : List String} {items : List α}
    (once : ∀ name ∈ names, members.countP (fun entry => entry.1 = name) = 1)
    (fields : names.map (List.lookup · members) = items.map some)
    (others : ∀ member ∈ members, member.1 ∉ names → holds member.2) :
    (∀ member ∈ members, holds member.2) ↔ ∀ item ∈ items, holds item := by
  constructor
  · intro all item isItem
    have isField : some item ∈ names.map (List.lookup · members) :=
      fields ▸ List.mem_map_of_mem isItem
    obtain ⟨name, _, found⟩ := List.mem_map.mp isField
    exact all (name, item) (mem_of_lookup found)
  · intro all member isMember
    by_cases known : member.1 ∈ names
    · have found := lookup_of_mem (Nat.le_of_eq (once _ known)) isMember
      have isItem : some member.2 ∈ items.map some :=
        fields ▸ List.mem_map.mpr ⟨member.1, known, found⟩
      exact all member.2 (by simpa using isItem)
    · exact others member isMember known

theorem lookup_zip {names : List String} (distinct : names.Nodup) {items : List α} {i : Nat}
    (place : names[i]? = some name) : (names.zip items).lookup name = items[i]? := by
  induction names generalizing items i with
  | nil => cases place
  | cons first rest ih =>
      obtain ⟨fresh, distinct⟩ := List.nodup_cons.mp distinct
      cases items with
      | nil => rfl
      | cons item items =>
          cases i with
          | zero =>
              obtain rfl : first = name := by simpa using place
              exact List.lookup_cons_self
          | succ i =>
              have later : rest[i]? = some name := by simpa using place
              have other : name ≠ first := fun same => fresh (same ▸ List.mem_of_getElem? later)
              rw [List.zip_cons_cons, lookup_cons_of_ne other, ih distinct later,
                List.getElem?_cons_succ]

end Scaffold
