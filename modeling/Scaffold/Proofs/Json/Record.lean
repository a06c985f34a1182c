import Mathlib.Data.List.Nodup
import Scaffold.Json.Record
import Scaffold.Proofs.Json.Nesting

/-!
# Records read back

An object is a record when its names are among the record's, in order and each at most once
(`record?_object`); integers and lists of what is read back are read back.
-/

set_option autoImplicit false

namespace Scaffold.Json

/-! ## Records -/

theorem countP_name_le_one {members : Record} (distinct : (members.map Prod.fst).Nodup)
    (name : String) : members.countP (fun entry => entry.1 = name) ≤ 1 := by
  have counted : members.countP (fun entry => entry.1 = name) =
      (members.map Prod.fst).count name := by
    rw [List.count, List.countP_map]
    rfl
  rw [counted]
  exact List.nodup_iff_count_le_one.mp distinct name

theorem record?_object {names : List String} (distinct : names.Nodup) {members : Record}
    (known : (members.map Prod.fst).Sublist names) :
    (object members).record? names = some members := by
  have once : (names.all fun name => members.countP (fun entry => entry.1 = name) ≤ 1) = true :=
    List.all_eq_true.mpr fun name _ =>
      decide_eq_true (countP_name_le_one (distinct.sublist known) name)
  exact if_pos once

/-! ## Integers -/

theorem natBelow?_ofNat {n bound : Nat} (below : n < bound) :
    natBelow? bound (ofNat n) = some n :=
  if_pos below

theorem uint32?_ofNat (n : UInt32) : uint32? (ofNat n.toNat) = some n := by
  rw [uint32?, natBelow?_ofNat n.toNat_lt, Option.map_some, UInt32.ofNat_toNat]

theorem uint64?_ofNat (n : UInt64) : uint64? (ofNat n.toNat) = some n := by
  rw [uint64?, natBelow?_ofNat n.toNat_lt, Option.map_some, UInt64.ofNat_toNat]

theorem spellable_ofNat {n : Nat} (small : n < UInt64.size) : Spellable (ofNat n) := by
  have inRange : UInt64.size < doubleOverflow := by decide +kernel
  have below : ¬doubleOverflow ≤ (n : Int).natAbs := Nat.not_le.mpr (Nat.lt_trans small inRange)
  refine .number ?_
  unfold numberOf
  simp only [below, if_false]

/-! ## Lists -/

theorem list?_map {α : Type} {read : Json → Option α} {write : α → Json} {values : List α}
    (each : ∀ value ∈ values, read (write value) = some value) :
    list? read (array (values.map write)) = some values := by
  rw [list?, List.mapM_map]
  induction values with
  | nil => rfl
  | cons value rest ih =>
      have first := each value List.mem_cons_self
      have others := ih fun other member => each other (List.mem_cons_of_mem _ member)
      rw [List.mapM_cons, others, Function.comp_apply, first]
      rfl

theorem list?_eq_none {α : Type} {read : Json → Option α} {items : List Json} {item : Json}
    (member : item ∈ items) (unread : read item = none) : list? read (array items) = none := by
  rw [list?]
  induction items with
  | nil => cases member
  | cons first rest ih =>
      rw [List.mapM_cons]
      rcases List.mem_cons.mp member with rfl | member
      · rw [unread]
        rfl
      · rw [ih member]
        cases read first <;> rfl

end Scaffold.Json
