import Mathlib.Data.Option.Basic
import Scaffold.Json.Record
import Scaffold.Proofs.Lookup

/-!
# Records spelled differently

A reader sees of a record what stands under the names that it knows.  Two values match as records of
given names when neither is such a record, or both are and what stands under each name is alike in
both.  They do after the members of an object are reordered, after one with another name is added,
when an object becomes the array of its fields, and when what stands in one place is exchanged for
something alike.
-/

set_option autoImplicit false

namespace Scaffold.Json

/-! ## Matching records -/

theorem bind_eq_of_rel {α β γ : Type} {r : α → β → Prop} {a : Option α} {b : Option β}
    (related : Option.Rel r a b) {f : α → Option γ} {g : β → Option γ}
    (same : ∀ x y, r x y → f x = g y) : a.bind f = b.bind g := by
  cases related with
  | some both => exact same _ _ both
  | none => rfl

theorem rel_mono {α β : Type} {r s : α → β → Prop} (weaker : ∀ x y, r x y → s x y)
    {a : Option α} {b : Option β} (related : Option.Rel r a b) : Option.Rel s a b := by
  cases related with
  | some both => exact .some (weaker _ _ both)
  | none => exact .none

/-- Which values may stand for each other under a name. -/
abbrev Alike := String → Json → Json → Prop

/-- Under each of the names nothing is found in either record, or something alike in both. -/
def Record.Matches (names : List String) (alike : Alike) (record other : Record) : Prop :=
  ∀ name ∈ names, Option.Rel (alike name) (record.lookup name) (other.lookup name)

/-- Neither value is a record with these names, or both are and match. -/
def RecordsMatch (names : List String) (alike : Alike) (value other : Json) : Prop :=
  Option.Rel (Record.Matches names alike) (value.record? names) (other.record? names)

namespace Record.Matches

variable {names : List String} {alike : Alike} {record other : Record} {name : String} {α : Type}
  {read : Json → Option α}

theorem required_eq (matched : record.Matches names alike other) (known : name ∈ names)
    (same : ∀ value value', alike name value value' → read value = read value') :
    record.required name read = other.required name read :=
  bind_eq_of_rel (matched name known) same

theorem optional_eq (matched : record.Matches names alike other) (known : name ∈ names)
    (same : ∀ value value', alike name value value' → read value = read value') (default : α) :
    record.optional name read default = other.optional name read default := by
  have found := matched name known
  unfold optional
  generalize record.lookup name = value, other.lookup name = value' at found
  cases found with
  | some similar => exact same _ _ similar
  | none => rfl

end Record.Matches

section Matching
variable {names : List String} {alike : Alike} (reflexive : ∀ name value, alike name value value)
  {members others : Record} {items : List Json}

/-- Objects match when each name stands as often in both, and those that stand once have something
alike under them. -/
theorem recordsMatch_object
    (counts : ∀ name ∈ names,
      members.countP (fun entry => entry.1 = name) = others.countP (fun entry => entry.1 = name))
    (found : ∀ name ∈ names, members.countP (fun entry => entry.1 = name) ≤ 1 →
      Option.Rel (alike name) (members.lookup name) (others.lookup name)) :
    RecordsMatch names alike (.object members) (.object others) := by
  have isRecord :
      (∀ name ∈ names, members.countP (fun entry => entry.1 = name) ≤ 1) ↔
        ∀ name ∈ names, others.countP (fun entry => entry.1 = name) ≤ 1 :=
    forall₂_congr fun name known => by rw [counts name known]
  simp only [RecordsMatch, record?, List.all_eq_true, decide_eq_true_eq, ← isRecord]
  split
  next once => exact .some fun name known => found name known (once name known)
  · exact .none

include reflexive

theorem rel_of_eq {name : String} {found other : Option Json} (same : found = other) :
    Option.Rel (alike name) found other := by
  subst same
  cases found with
  | none => exact .none
  | some value => exact .some (reflexive name value)

theorem recordsMatch_reorder (perm : members.Perm others) :
    RecordsMatch names alike (.object members) (.object others) :=
  recordsMatch_object (fun _ _ => perm.countP_eq _) fun _ _ once =>
    rel_of_eq reflexive (lookup_of_perm perm once)

theorem recordsMatch_insert {key : String} (unknown : key ∉ names) (value : Json) :
    RecordsMatch names alike (.object members) (.object ((key, value) :: members)) := by
  have other : ∀ name ∈ names, name ≠ key := fun name known same => unknown (same ▸ known)
  have counts : ∀ name ∈ names, ((key, value) :: members).countP (fun entry => entry.1 = name) =
      members.countP (fun entry => entry.1 = name) := fun name known =>
    List.countP_cons_of_neg (by simpa [eq_comm] using other name known)
  refine recordsMatch_object (fun name known => (counts name known).symm) fun name known _ => ?_
  rw [lookup_cons_of_ne (other name known)]
  exact rel_of_eq reflexive rfl

theorem recordsMatch_filter {key : String} (unknown : key ∉ names) :
    RecordsMatch names alike (.object (members.filter fun entry => entry.1 ≠ key))
      (.object members) := by
  have other : ∀ name ∈ names, name ≠ key := fun name known same => unknown (same ▸ known)
  refine recordsMatch_object (fun name known => ?_) fun name known _ => rel_of_eq reflexive ?_
  · rw [List.countP_filter]
    refine List.countP_congr fun entry _ => ?_
    have differs := other name known
    grind
  · rw [lookup_filter_ne, if_neg (other name known)]

theorem recordsMatch_member {front behind : Record} {key : String} {old new : Json}
    (similar : alike key old new) :
    RecordsMatch names alike (.object (front ++ (key, old) :: behind))
      (.object (front ++ (key, new) :: behind)) := by
  have counts (name : String) :
      (front ++ (key, old) :: behind).countP (fun entry => entry.1 = name) =
        (front ++ (key, new) :: behind).countP (fun entry => entry.1 = name) := by
    simp only [List.countP_append, List.countP_cons]
  refine recordsMatch_object (fun name _ => counts name) fun name _ once => ?_
  by_cases same : name = key
  · subst same
    rw [lookup_append_cons_self once, lookup_append_cons_self (counts name ▸ once)]
    exact .some similar
  · rw [lookup_append_cons_of_ne same, lookup_append_cons_of_ne same]
    exact rel_of_eq reflexive rfl

theorem recordsMatch_list (distinct : names.Nodup)
    (once : ∀ name ∈ names, members.countP (fun entry => entry.1 = name) = 1)
    (fields : names.map (List.lookup · members) = items.map some) :
    RecordsMatch names alike (.object members) (.array items) := by
  have length : names.length = items.length := by simpa using congrArg List.length fields
  have isRecord : (names.all fun name => members.countP (fun entry => entry.1 = name) ≤ 1) = true :=
    List.all_eq_true.mpr fun name known => decide_eq_true (Nat.le_of_eq (once name known))
  simp only [RecordsMatch, record?, isRecord, length, if_true, Nat.le_refl]
  refine .some fun name known => rel_of_eq reflexive ?_
  obtain ⟨i, place⟩ := List.mem_iff_getElem?.mp known
  have item : (names.map (List.lookup · members))[i]? = (items.map some)[i]? :=
    congrArg (·[i]?) fields
  rw [lookup_zip distinct place]
  rw [List.getElem?_map, place, List.getElem?_map] at item
  cases found : items[i]? with
  | none => simp [found] at item
  | some value => simpa [found] using item

theorem recordsMatch_slot (distinct : names.Nodup) {front behind : List Json} {key : String}
    (place : names[front.length]? = some key) {old new : Json} (similar : alike key old new) :
    RecordsMatch names alike (.array (front ++ old :: behind))
      (.array (front ++ new :: behind)) := by
  have length : (front ++ old :: behind).length = (front ++ new :: behind).length := by simp
  simp only [RecordsMatch, record?, length]
  split
  · refine .some fun name known => ?_
    obtain ⟨i, here⟩ := List.mem_iff_getElem?.mp known
    rw [lookup_zip distinct here, lookup_zip distinct here]
    by_cases same : i = front.length
    · subst same
      obtain rfl : name = key := Option.some.inj (here.symm.trans place)
      simpa using similar
    · refine rel_of_eq reflexive ?_
      grind
  · exact .none

end Matching

end Scaffold.Json
