import Scaffold.Proofs.Json.Scalar

/-!
# JSON text reads back

`parse_text` says that reading undoes writing for every value that a text can spell: nothing in it
is unreadable, and its numbers are in range.  The induction is on the fuel of the readers, which is
enough as soon as it is no less than the length of what is left to read.
-/

set_option autoImplicit false

namespace Scaffold.Json

/-- Nothing in the value is unreadable or out of range. -/
inductive Spellable : Json → Prop where
  | null : Spellable .null
  | bool (value : Bool) : Spellable (.bool value)
  | number {value : Number} (inRange : numberOf value = .number value) : Spellable (.number value)
  | string (text : String) : Spellable (.string text)
  | array {items : List Json} (each : ∀ item ∈ items, Spellable item) : Spellable (.array items)
  | object {members : List (String × Json)} (each : ∀ member ∈ members, Spellable member.2) :
      Spellable (.object members)

/-! ## How written values start and go on -/

theorem exists_writeNumber (number : Number) :
    ∃ c s, writeNumber number = c :: s ∧ (c.isDigit = true ∨ c = '-') := by
  have digits (n : Nat) (s : List Char) :
      ∃ c t, Nat.toDigits 10 n ++ s = c :: t ∧ (c.isDigit = true ∨ c = '-') := by
    obtain ⟨d, ds, spelled, isDigit⟩ := exists_toDigits n
    exact ⟨d, ds ++ s, by rw [spelled, List.cons_append], .inl isDigit⟩
  cases number with
  | whole value =>
      cases value with
      | ofNat n =>
          obtain ⟨c, s, spelled, start⟩ := digits n []
          exact ⟨c, s, by rw [← spelled, List.append_nil]; rfl, start⟩
      | negSucc n => exact ⟨'-', _, rfl, .inr rfl⟩
  | real negative n exponent =>
      cases negative with
      | true => exact ⟨'-', _, rfl, .inr rfl⟩
      | false =>
          obtain ⟨c, s, spelled, start⟩ := digits n
            ('e' :: ((if exponent < 0 then ['-'] else []) ++ Nat.toDigits 10 exponent.natAbs))
          exact ⟨c, s, by rw [← spelled]; simp [writeNumber], start⟩

theorem exists_write (value : Json) :
    ∃ c s, value.write = c :: s ∧ isBlank c = false ∧ c ≠ ']' := by
  cases value with
  | null => exact ⟨_, _, rfl, rfl, by decide⟩
  | bool value => cases value <;> exact ⟨_, _, rfl, rfl, by decide⟩
  | number number =>
      obtain ⟨c, s, spelled, start⟩ := exists_writeNumber number
      refine ⟨c, s, by rw [write, spelled], ?_⟩
      rcases start with isDigit | rfl
      · constructor
        · unfold isBlank
          simp only [Bool.or_eq_false_iff, decide_eq_false_iff_not]
          refine ⟨⟨⟨?_, ?_⟩, ?_⟩, ?_⟩ <;> (rintro rfl; exact absurd isDigit (by decide))
        · rintro rfl
          exact absurd isDigit (by decide)
      · exact ⟨rfl, by decide⟩
  | string text => exact ⟨_, _, rfl, rfl, by decide⟩
  | array items => cases items <;> exact ⟨_, _, rfl, rfl, by decide⟩
  | object members => cases members <;> exact ⟨_, _, rfl, rfl, by decide⟩
  | unreadable => exact ⟨_, _, rfl, rfl, by decide⟩

theorem skipBlanks_write (value : Json) (s : List Char) :
    skipBlanks (value.write ++ s) = value.write ++ s := by
  obtain ⟨c, t, spelled, notBlank, _⟩ := exists_write value
  rw [spelled]
  simp [skipBlanks, notBlank]

theorem endsNumber_writeItems (items : List Json) (s : List Char) :
    EndsNumber (writeItems items ++ s) := by
  cases items <;> (rintro c ⟨⟩; decide)

theorem endsNumber_writeMembers (members : List (String × Json)) (s : List Char) :
    EndsNumber (writeMembers members ++ s) := by
  cases members <;> (rintro c ⟨⟩; decide)

theorem writeMember_append (member : String × Json) (s : List Char) :
    writeMember member ++ s =
      '"' :: (member.1.toList.flatMap writeChar ++ '"' :: ':' :: (member.2.write ++ s)) := by
  obtain ⟨key, value⟩ := member
  simp [writeMember, writeString]

theorem objectOf_map_some (members : List (String × Json)) :
    objectOf (members.map fun member => (some member.1, member.2)) = .object members := by
  unfold objectOf
  have each : (members.map fun member => (some member.1, member.2)).mapM
      (fun entry : Option String × Json => entry.1.map fun key => (key, entry.2)) =
        some members := by
    rw [List.mapM_map]
    induction members with
    | nil => rfl
    | cons member rest ih => simp_all [List.mapM_cons]
  simp only [each]

/-! ## One step of each reader -/

/-- Values are read back when there is fuel for their text. -/
def ReadsValues (fuel : Nat) : Prop :=
  ∀ value s, Spellable value → value.write.length ≤ fuel → EndsNumber s →
    readValue fuel (value.write ++ s) = some (value, s)

def ReadsItems (fuel : Nat) : Prop :=
  ∀ item rest s, Spellable item → (∀ other ∈ rest, Spellable other) →
    (item.write ++ writeItems rest).length ≤ fuel →
    readItems fuel (item.write ++ (writeItems rest ++ s)) = some (item :: rest, s)

def ReadsMembers (fuel : Nat) : Prop :=
  ∀ member rest s, Spellable member.2 → (∀ other ∈ rest, Spellable other.2) →
    (writeMember member ++ writeMembers rest).length ≤ fuel →
    readMembers fuel (writeMember member ++ (writeMembers rest ++ s)) =
      some ((member :: rest).map fun entry => (some entry.1, entry.2), s)

variable {fuel : Nat}

theorem readValue_number (number : Number) {s : List Char} (ends : EndsNumber s) :
    readValue (fuel + 1) (writeNumber number ++ s) = some (numberOf number, s) := by
  rw [← readNumber_writeNumber number ends]
  obtain ⟨c, t, spelled, start⟩ := exists_writeNumber number
  rw [spelled, List.cons_append]
  have other : c ≠ '"' ∧ c ≠ '[' ∧ c ≠ '\x7b' ∧ c ≠ 'n' ∧ c ≠ 't' ∧ c ≠ 'f' := by
    rcases start with isDigit | rfl
    · refine ⟨?_, ?_, ?_, ?_, ?_, ?_⟩ <;> (rintro rfl; exact absurd isDigit (by decide))
    · decide
  simp [readValue, other]

theorem readValue_array {s : List Char} (start : skipBlanks s = s) (more : s.head? ≠ some ']') :
    readValue (fuel + 1) ('[' :: s) =
      (readItems fuel s).map fun (items, behind) => (.array items, behind) := by
  simp only [readValue, Char.reduceEq, if_false, if_true, start]
  split
  · exact absurd rfl more
  · rfl

theorem readValue_object {s : List Char} :
    readValue (fuel + 1) ('\x7b' :: '"' :: s) =
      (readMembers fuel ('"' :: s)).map fun (members, behind) => (objectOf members, behind) := by
  simp [readValue, skipBlanks, isBlank]

theorem readsValues_succ (readsItems : ReadsItems fuel) (readsMembers : ReadsMembers fuel) :
    ReadsValues (fuel + 1) := by
  intro value s spellable fits ends
  cases spellable with
  | null => rfl
  | bool value => cases value <;> rfl
  | number inRange => rw [write, readValue_number _ ends, inRange]
  | string text => simp [write, writeString, readValue, readString_writeString]
  | @array items each =>
      cases items with
      | nil => simp [write, readValue, skipBlanks, isBlank]
      | cons item rest =>
          have read := readsItems item rest s (each item List.mem_cons_self)
            (fun other member => each other (List.mem_cons_of_mem _ member))
            (by simpa [write] using fits)
          obtain ⟨c, t, spelled, _, notClosing⟩ := exists_write item
          rw [write, List.cons_append, List.append_assoc,
            readValue_array (skipBlanks_write item _) (by simpa [spelled] using notClosing), read]
          rfl
  | @object members each =>
      cases members with
      | nil => simp [write, readValue, skipBlanks, isBlank]
      | cons member rest =>
          have read := readsMembers member rest s (each member List.mem_cons_self)
            (fun other isOther => each other (List.mem_cons_of_mem _ isOther))
            (by simpa [write] using fits)
          rw [writeMember_append] at read
          rw [write, List.cons_append, List.append_assoc, writeMember_append, readValue_object,
            read, Option.map_some]
          dsimp only
          rw [objectOf_map_some]

theorem readsItems_succ (readsValues : ReadsValues fuel) (readsItems : ReadsItems fuel) :
    ReadsItems (fuel + 1) := by
  intro item rest s spellable others fits
  cases rest with
  | nil =>
      have read := readsValues item (']' :: s) spellable (by simpa [writeItems] using fits)
        (endsNumber_writeItems [] s)
      simp [writeItems, readItems, read, skipBlanks, isBlank]
  | cons next more =>
      rw [writeItems, List.length_append, List.length_cons] at fits
      have first := readsValues item (writeItems (next :: more) ++ s) spellable (by omega)
        (endsNumber_writeItems _ s)
      have behind := readsItems next more s (others next List.mem_cons_self)
        (fun other member => others other (List.mem_cons_of_mem _ member)) (by omega)
      have start := skipBlanks_write next (writeItems more ++ s)
      have comma : skipBlanks (',' :: (next.write ++ (writeItems more ++ s))) =
        ',' :: (next.write ++ (writeItems more ++ s)) := rfl
      rw [readItems, first]
      simp only [writeItems, List.cons_append, List.append_assoc, comma, start, behind,
        Option.map_some]

theorem readsMembers_succ (readsValues : ReadsValues fuel) (readsMembers : ReadsMembers fuel) :
    ReadsMembers (fuel + 1) := by
  intro member rest s spellable others fits
  have shorter : member.2.write.length < (writeMember member).length := by
    have spelled := congrArg List.length (writeMember_append member [])
    simp only [List.append_nil, List.length_cons, List.length_append] at spelled
    omega
  have start := skipBlanks_write member.2 (writeMembers rest ++ s)
  have colon (t : List Char) : skipBlanks (':' :: t) = ':' :: t := rfl
  rw [List.length_append] at fits
  have read := readsValues member.2 (writeMembers rest ++ s) spellable (by omega)
    (endsNumber_writeMembers rest s)
  rw [writeMember_append, readMembers, readString_writeString]
  cases rest with
  | nil =>
      simp only [colon, start, read]
      simp [writeMembers, skipBlanks, isBlank]
  | cons next more =>
      rw [writeMembers, List.length_cons, List.length_append] at fits
      have behind := readsMembers next more s (others next List.mem_cons_self)
        (fun other isOther => others other (List.mem_cons_of_mem _ isOther))
        (by rw [List.length_append]; omega)
      have comma (t : List Char) : skipBlanks (',' :: t) = ',' :: t := rfl
      have quote (t : List Char) : skipBlanks ('"' :: t) = '"' :: t := rfl
      simp only [colon, start, read]
      simp only [writeMembers, List.cons_append, List.append_assoc, comma]
      rw [writeMember_append] at behind ⊢
      rw [quote, behind]
      rfl

/-! ## Whole texts -/

theorem reads (fuel : Nat) : ReadsValues fuel ∧ ReadsItems fuel ∧ ReadsMembers fuel := by
  induction fuel with
  | zero =>
      refine ⟨fun value s _ fits => ?_, fun item rest s _ _ fits => ?_,
        fun member rest s _ _ fits => ?_⟩
      · obtain ⟨c, t, spelled, _⟩ := exists_write value
        rw [spelled] at fits
        cases fits
      · obtain ⟨c, t, spelled, _⟩ := exists_write item
        rw [spelled] at fits
        cases fits
      · have := writeMember_append member (writeMembers rest)
        rw [this] at fits
        cases fits
  | succ fuel ih =>
      obtain ⟨readsValues, readsItems, readsMembers⟩ := ih
      exact ⟨readsValues_succ readsItems readsMembers, readsItems_succ readsValues readsItems,
        readsMembers_succ readsValues readsMembers⟩

theorem parse_text {value : Json} (spellable : value.Spellable) :
    parse value.text = some value := by
  have enough : value.write.length ≤ 2 * value.write.length + 2 := by omega
  have read := (reads _).1 value [] spellable enough (fun _ head => by cases head)
  have start := skipBlanks_write value []
  rw [List.append_nil] at read start
  unfold parse text
  rw [String.toList_ofList]
  simp only [start, read]
  rfl

end Scaffold.Json
