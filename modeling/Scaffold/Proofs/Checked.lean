import Mathlib.Data.List.Forall2

/-!
# Results of checks

A check gives a value or an error.  The lemmas here take a successful or failed chain of checks
apart, one step for a bind and one member for a traversal.
-/

set_option autoImplicit false

namespace Scaffold.Checked

variable {ε α β : Type}

theorem bind_eq_ok {x : Except ε α} {f : α → Except ε β} {b : β} :
    (x >>= f) = .ok b ↔ ∃ a, x = .ok a ∧ f a = .ok b := by
  cases x <;> simp [bind, Except.bind]

theorem bind_eq_error {x : Except ε α} {f : α → Except ε β} {e : ε} :
    (x >>= f) = .error e ↔ x = .error e ∨ ∃ a, x = .ok a ∧ f a = .error e := by
  cases x <;> simp [bind, Except.bind]

theorem map_eq_ok {x : Except ε α} {f : α → β} {b : β} :
    x.map f = .ok b ↔ ∃ a, x = .ok a ∧ f a = b := by
  cases x <;> simp [Except.map]

theorem map_eq_error {x : Except ε α} {f : α → β} {e : ε} : x.map f = .error e ↔ x = .error e := by
  cases x <;> simp [Except.map]

/-- A part that is read back from what a successful check was wrapped in is the part itself. -/
theorem map_map_eq_self {wrap : α → β} {part : β → α} (undo : ∀ a, part (wrap a) = a)
    (x : Except ε α) : (x.map wrap).map part = x := by
  cases x with
  | error e => rfl
  | ok a => exact congrArg Except.ok (undo a)

/-! ## Traversals -/

section Related
variable {R : α → β → Prop} {items : List α} {values : List β}

theorem exists_right_of_mem (related : List.Forall₂ R items values) {item : α}
    (member : item ∈ items) : ∃ value ∈ values, R item value := by
  induction related with
  | nil => cases member
  | cons first _ ih =>
      rcases List.mem_cons.mp member with rfl | member
      · exact ⟨_, List.mem_cons_self, first⟩
      · obtain ⟨value, there, holds⟩ := ih member
        exact ⟨value, List.mem_cons_of_mem _ there, holds⟩

theorem exists_left_of_mem (related : List.Forall₂ R items values) {value : β}
    (member : value ∈ values) : ∃ item ∈ items, R item value :=
  exists_right_of_mem related.flip member

theorem exists_append_of_forall₂ {front behind : List α}
    (related : List.Forall₂ R (front ++ behind) values) :
    ∃ before after, values = before ++ after ∧ List.Forall₂ R front before ∧
      List.Forall₂ R behind after :=
  ⟨values.take front.length, values.drop front.length, (List.take_append_drop _ values).symm,
    (List.forall₂_take_append values front behind related.flip).flip,
    (List.forall₂_drop_append values front behind related.flip).flip⟩

end Related

/-- A traversal succeeds exactly when every member does, and then with their values in order. -/
theorem mapM_eq_ok {f : α → Except ε β} {items : List α} {values : List β} :
    items.mapM f = .ok values ↔
      List.Forall₂ (fun item value => f item = .ok value) items values := by
  induction items generalizing values with
  | nil =>
      rw [List.mapM_nil, List.forall₂_nil_left_iff]
      constructor
      · intro h
        exact (Except.ok.inj h).symm
      · rintro rfl
        rfl
  | cons item rest ih =>
      rw [List.mapM_cons, bind_eq_ok]
      constructor
      · rintro ⟨first, firstOk, h⟩
        obtain ⟨others, othersOk, h⟩ := bind_eq_ok.mp h
        cases Except.ok.inj h
        exact .cons firstOk (ih.mp othersOk)
      · intro h
        obtain ⟨first, others, firstOk, othersOk, rfl⟩ := List.forall₂_cons_left_iff.mp h
        exact ⟨first, firstOk, bind_eq_ok.mpr ⟨others, ih.mpr othersOk, rfl⟩⟩

theorem mapM_congr {f g : α → Except ε β} {items : List α}
    (same : ∀ item ∈ items, f item = g item) :
    items.mapM f = items.mapM g := by
  induction items with
  | nil => rfl
  | cons item rest ih =>
      obtain ⟨first, others⟩ := List.forall_mem_cons.mp same
      rw [List.mapM_cons, List.mapM_cons, first, ih others]

/-- The first member of a list with a property is its head, or the first behind a head that may
precede. -/
theorem exists_first_cons {precedes found : α → Prop} {head : α} {rest : List α} :
    (∃ before item behind, head :: rest = before ++ item :: behind ∧
        (∀ earlier ∈ before, precedes earlier) ∧ found item) ↔
      found head ∨ precedes head ∧ ∃ before item behind, rest = before ++ item :: behind ∧
        (∀ earlier ∈ before, precedes earlier) ∧ found item := by
  constructor
  · rintro ⟨_ | ⟨first, before⟩, item, behind, same, earlier, holds⟩
    · obtain ⟨rfl, _⟩ := List.cons.inj same
      exact .inl holds
    · obtain ⟨rfl, sameRest⟩ := List.cons.inj same
      obtain ⟨headPrecedes, earlier⟩ := List.forall_mem_cons.mp earlier
      exact .inr ⟨headPrecedes, before, item, behind, sameRest, earlier, holds⟩
  · rintro (holds | ⟨headPrecedes, before, item, behind, rfl, earlier, holds⟩)
    · exact ⟨[], head, rest, rfl, by simp, holds⟩
    · exact ⟨head :: before, item, behind, rfl,
        List.forall_mem_cons.mpr ⟨headPrecedes, earlier⟩, holds⟩

/-- A traversal of the chosen members fails exactly when one of them fails and all chosen ones
before it succeed. -/
theorem mapM_filter_eq_error {chosen : α → Bool} {f : α → Except ε β} {items : List α} {e : ε} :
    (items.filter chosen).mapM f = .error e ↔
      ∃ before item behind, items = before ++ item :: behind ∧
        (∀ earlier ∈ before, chosen earlier = true → ∃ value, f earlier = .ok value) ∧
        chosen item = true ∧ f item = .error e := by
  induction items with
  | nil => simp [pure, Except.pure]
  | cons head rest ih =>
      rw [exists_first_cons, ← ih]
      cases taken : chosen head with
      | false => simp [taken]
      | true =>
          rw [List.filter_cons_of_pos taken, List.mapM_cons, bind_eq_error]
          simp [bind_eq_error, pure, Except.pure]

theorem mapM_eq_error {f : α → Except ε β} {items : List α} {e : ε} :
    items.mapM f = .error e ↔ ∃ before item behind, items = before ++ item :: behind ∧
      (∀ earlier ∈ before, ∃ value, f earlier = .ok value) ∧ f item = .error e := by
  have filtered : (items.filter fun _ => true).mapM f = .error e ↔ _ := mapM_filter_eq_error
  simpa using filtered

theorem exists_of_mapM_eq_error {f : α → Except ε β} {items : List α} {e : ε}
    (failed : items.mapM f = .error e) : ∃ item ∈ items, f item = .error e := by
  obtain ⟨before, item, behind, rfl, _, itemFailed⟩ := mapM_eq_error.mp failed
  exact ⟨item, List.mem_append_right before List.mem_cons_self, itemFailed⟩

theorem exists_mapM_eq_error {f : α → Except ε β} {items : List α} :
    (∃ e, items.mapM f = .error e) ↔ ∃ item ∈ items, ∃ e, f item = .error e := by
  constructor
  · rintro ⟨e, failed⟩
    obtain ⟨item, member, itemFailed⟩ := exists_of_mapM_eq_error failed
    exact ⟨item, member, e, itemFailed⟩
  · rintro ⟨item, member, e, itemFailed⟩
    cases traversed : items.mapM f with
    | error other => exact ⟨other, rfl⟩
    | ok values =>
        obtain ⟨value, _, itemOk⟩ := exists_right_of_mem (mapM_eq_ok.mp traversed) member
        cases itemFailed.symm.trans itemOk

theorem exists_mapM_eq_ok {f : α → Except ε β} {items : List α} :
    (∃ values, items.mapM f = .ok values) ↔ ∀ item ∈ items, ∃ value, f item = .ok value := by
  constructor
  · rintro ⟨values, traversed⟩ item member
    obtain ⟨value, _, itemOk⟩ := exists_right_of_mem (mapM_eq_ok.mp traversed) member
    exact ⟨value, itemOk⟩
  · intro each
    cases traversed : items.mapM f with
    | ok values => exact ⟨values, rfl⟩
    | error e =>
        obtain ⟨item, member, itemFailed⟩ := exists_of_mapM_eq_error traversed
        obtain ⟨value, itemOk⟩ := each item member
        cases itemFailed.symm.trans itemOk

/-! ## Folds -/

theorem exists_of_foldlM_eq_error {f : β → α → Except ε β} {items : List α} {start : β} {e : ε}
    (failed : items.foldlM f start = .error e) :
    ∃ item ∈ items, ∃ state, f state item = .error e := by
  induction items generalizing start with
  | nil => cases failed
  | cons item rest ih =>
      rw [List.foldlM_cons] at failed
      rcases bind_eq_error.mp failed with headFailed | ⟨next, _, restFailed⟩
      · exact ⟨item, List.mem_cons_self, start, headFailed⟩
      · obtain ⟨other, member, state, otherFailed⟩ := ih restFailed
        exact ⟨other, List.mem_cons_of_mem _ member, state, otherFailed⟩

theorem exists_of_foldlM_eq_ok {f : β → α → Except ε β} {items : List α} {start last : β}
    (ok : items.foldlM f start = .ok last) {item : α} (member : item ∈ items) :
    ∃ state next, f state item = .ok next := by
  induction items generalizing start with
  | nil => cases member
  | cons first rest ih =>
      rw [List.foldlM_cons] at ok
      obtain ⟨next, headOk, restOk⟩ := bind_eq_ok.mp ok
      rcases List.mem_cons.mp member with rfl | member
      · exact ⟨start, next, headOk⟩
      · exact ih restOk member

theorem foldlM_keeps {γ : Type} (view : β → γ) {f : β → α → Except ε β}
    (keeps : ∀ state item next, f state item = .ok next → view next = view state) {items : List α}
    {start last : β} (ok : items.foldlM f start = .ok last) : view last = view start := by
  induction items generalizing start with
  | nil => rw [Except.ok.inj ok]
  | cons first rest ih =>
      rw [List.foldlM_cons] at ok
      obtain ⟨next, headOk, restOk⟩ := bind_eq_ok.mp ok
      exact (ih restOk).trans (keeps start first next headOk)

/-- What each step adds from its item alone, a successful fold has from the start or from some
item. -/
theorem foldlM_gains {P : β → Prop} {Q : α → Prop} {f : β → α → Except ε β}
    (gains : ∀ state item next, f state item = .ok next → (P next ↔ P state ∨ Q item))
    {items : List α}
    {start last : β} (ok : items.foldlM f start = .ok last) :
    P last ↔ P start ∨ ∃ item ∈ items, Q item := by
  induction items generalizing start with
  | nil =>
      obtain rfl := Except.ok.inj ok
      simp
  | cons first rest ih =>
      rw [List.foldlM_cons] at ok
      obtain ⟨next, headOk, restOk⟩ := bind_eq_ok.mp ok
      rw [ih restOk, gains start first next headOk, List.exists_mem_cons_iff, or_assoc]

/-- The last item that writes to a view decides what a successful fold leaves there. -/
theorem foldlM_overwrites {γ : Type} (view : β → γ) (writes : α → Bool) (value : α → γ)
    {f : β → α → Except ε β} (overwrites : ∀ state item next, f state item = .ok next →
      view next = if writes item then value item else view state) {items : List α} {start last : β}
    (ok : items.foldlM f start = .ok last) :
    view last = ((items.filter writes).getLast?.map value).getD (view start) := by
  induction items generalizing start with
  | nil =>
      obtain rfl := Except.ok.inj ok
      rfl
  | cons first rest ih =>
      rw [List.foldlM_cons] at ok
      obtain ⟨next, headOk, restOk⟩ := bind_eq_ok.mp ok
      rw [ih restOk, overwrites start first next headOk, List.filter_cons]
      split
      · rw [List.getLast?_cons]
        cases (rest.filter writes).getLast? <;> rfl
      · rfl

/-- What chosen items append to a view, a successful fold has in their order. -/
theorem foldlM_collects {γ : Type} (view : β → List γ) (adds : α → Bool) (value : α → γ)
    {f : β → α → Except ε β} (collects : ∀ state item next, f state item = .ok next →
      view next = if adds item then view state ++ [value item] else view state) {items : List α}
    {start last : β} (ok : items.foldlM f start = .ok last) :
    view last = view start ++ (items.filter adds).map value := by
  induction items generalizing start with
  | nil =>
      obtain rfl := Except.ok.inj ok
      simp
  | cons first rest ih =>
      rw [List.foldlM_cons] at ok
      obtain ⟨next, headOk, restOk⟩ := bind_eq_ok.mp ok
      rw [ih restOk, collects start first next headOk, List.filter_cons]
      split <;> simp

theorem exists_foldlM_eq_ok {f : β → α → Except ε β} {items : List α}
    (each : ∀ item ∈ items, ∀ state, ∃ next, f state item = .ok next) (start : β) :
    ∃ last, items.foldlM f start = .ok last := by
  induction items generalizing start with
  | nil => exact ⟨start, rfl⟩
  | cons first rest ih =>
      obtain ⟨head, rest⟩ := List.forall_mem_cons.mp each
      obtain ⟨next, headOk⟩ := head start
      obtain ⟨last, restOk⟩ := ih rest next
      exact ⟨last, bind_eq_ok.mpr ⟨next, headOk, restOk⟩⟩

/-- Where the state makes no difference to the success of a step, a fold over some of the items of a
successful one succeeds, in any order. -/
theorem exists_foldlM_eq_ok_of_subset {f : β → α → Except ε β}
    (independent : ∀ state item next other, f state item = .ok next →
      ∃ after, f other item = .ok after)
    {items others : List α} {start last : β} (ok : items.foldlM f start = .ok last)
    (subset : ∀ item ∈ others, item ∈ items) (other : β) :
    ∃ after, others.foldlM f other = .ok after := by
  refine exists_foldlM_eq_ok (fun item member state => ?_) other
  obtain ⟨before, next, stepOk⟩ := exists_of_foldlM_eq_ok ok (subset item member)
  exact independent before item next state stepOk

/-! ## Which errors a check can give -/

/-- Every error that the check can give has the property. -/
def FailsWith (P : ε → Prop) (check : Except ε α) : Prop := ∀ e, check = .error e → P e

namespace FailsWith

variable {P : ε → Prop}

theorem ok (value : α) : FailsWith P (.ok value) := by
  intro e failed
  cases failed

theorem error {e : ε} (holds : P e) : FailsWith (α := α) P (.error e) := by
  rintro _ ⟨⟩
  exact holds

theorem bind {check : Except ε α} {next : α → Except ε β} (first : FailsWith P check)
    (rest : ∀ value, FailsWith P (next value)) : FailsWith P (check >>= next) := by
  intro e failed
  rcases bind_eq_error.mp failed with failed | ⟨value, _, failed⟩
  · exact first e failed
  · exact rest value e failed

theorem mapM {f : α → Except ε β} (each : ∀ item, FailsWith P (f item)) (items : List α) :
    FailsWith P (items.mapM f) := by
  intro e failed
  obtain ⟨item, _, failed⟩ := exists_of_mapM_eq_error failed
  exact each item e failed

theorem foldlM {f : β → α → Except ε β} (each : ∀ state item, FailsWith P (f state item))
    (items : List α) (start : β) : FailsWith P (items.foldlM f start) := by
  intro e failed
  obtain ⟨item, _, state, failed⟩ := exists_of_foldlM_eq_error failed
  exact each state item e failed

end FailsWith

end Scaffold.Checked
