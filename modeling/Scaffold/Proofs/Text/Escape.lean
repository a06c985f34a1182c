import Scaffold.Text.Escape

/-!
# What escaped text stands for

`Writes value text` says that a text spells a value between double quotes, each character as it is
or by one of its escapes; `Closed text` says no more than that a closing quote behind the text ends
it.  What is spelled is read back (`scan_writes`), and of a closed text only what it spells is read
(`decode_eq_some_iff`).  Nothing is read of it exactly when a backslash behind some spelled
characters starts no escape (`decode_eq_none_iff`).
-/

set_option autoImplicit false

namespace Scaffold.Text

theorem scalar?_toNat (c : Char) : scalar? c.toNat = some c := by
  have valid : c.toNat.isValidChar := c.valid
  unfold scalar?
  rw [if_pos valid, Char.ofNat_toNat]

theorem toNat_of_scalar? {code : Nat} {c : Char} (named : scalar? code = some c) :
    c.toNat = code := by
  unfold scalar? at named
  split at named
  next valid =>
    obtain rfl := Option.some.inj named
    unfold Char.ofNat
    rw [dif_pos valid]
    rfl
  next => cases named

namespace Escape

def continueHex? (code : Nat) (digits : List Char) : Option Nat :=
  digits.foldlM (fun code digit => (hexDigit? digit).map (code * 16 + ·)) code

/-- The number that hexadecimal digits spell, the highest first. -/
def hexValue? (digits : List Char) : Option Nat := continueHex? 0 digits

/-- A text that stands for one character between double quotes. -/
inductive WritesChar : Char → List Char → Prop
  /-- The character as it is. -/
  | plain {c : Char} (quote : c ≠ '"') (backslash : c ≠ '\\') : WritesChar c [c]
  /-- A backslash and the letter of the character. -/
  | short {c letter : Char} (named : short? letter = some c) : WritesChar c ['\\', letter]
  /-- A backslash, a letter that says how many digits follow, and the digits of the code point. -/
  | numeric {c letter : Char} {digits : List Char} (count : digitCount? letter = some digits.length)
      (code : hexValue? digits = some c.toNat) : WritesChar c ('\\' :: letter :: digits)

/-- A text that stands for a value between double quotes. -/
inductive Writes : List Char → List Char → Prop
  | nil : Writes [] []
  | cons {c : Char} {piece value text : List Char} (first : WritesChar c piece)
      (others : Writes value text) : Writes (c :: value) (piece ++ text)

/-- A text that a quote behind it closes: each quote in it stands behind a backslash of its own. -/
inductive Closed : List Char → Prop
  | nil : Closed []
  | plain {c : Char} {rest : List Char} (quote : c ≠ '"') (backslash : c ≠ '\\')
    (others : Closed rest) :
      Closed (c :: rest)
  | escaped {c : Char} {rest : List Char} (others : Closed rest) : Closed ('\\' :: c :: rest)

/-- Behind some spelled characters stands a backslash that starts no escape. -/
def HasInvalidEscape (text : List Char) : Prop :=
  ∃ value before behind, text = before ++ '\\' :: behind ∧ Writes value before ∧
    ∀ c piece rest, WritesChar c piece → '\\' :: behind ≠ piece ++ rest

variable {c : Char} {digits piece rest text value : List Char} {code : Nat}

/-! ## Digits -/

theorem continueHex?_cons_eq_some {digit : Char} {number : Nat} :
    continueHex? code (digit :: digits) = some number ↔
      ∃ value, hexDigit? digit = some value ∧
        continueHex? (code * 16 + value) digits = some number := by
  unfold continueHex?
  rw [List.foldlM_cons]
  cases hexDigit? digit <;> simp

theorem ne_of_continueHex? {number : Nat} (spelled : continueHex? code digits = some number) :
    ∀ digit ∈ digits, digit ≠ '"' ∧ digit ≠ '\\' := by
  induction digits generalizing code with
  | nil => simp
  | cons first others ih =>
      obtain ⟨value, firstSpelled, othersSpelled⟩ := continueHex?_cons_eq_some.mp spelled
      refine List.forall_mem_cons.mpr ⟨⟨?_, ?_⟩, ih othersSpelled⟩
      · rintro rfl
        cases firstSpelled
      · rintro rfl
        cases firstSpelled

theorem short?_of_digitCount? {letter : Char} {count : Nat}
    (counted : digitCount? letter = some count) :
    short? letter = none ∧ count ≠ 0 := by
  unfold digitCount? at counted
  split at counted <;> cases counted <;> decide

/-! ## What is spelled is read back -/

/-- The digits that are owed end a character, whose code continues the one read so far. -/
theorem scan_digits (owed : digits ≠ []) (spelled : continueHex? code digits = some c.toNat) :
    scan (.digits digits.length code) (digits ++ rest) = (scan .plain rest).map (c :: ·) := by
  induction digits generalizing code with
  | nil => exact absurd rfl owed
  | cons digit others ih =>
      obtain ⟨value, digitSpelled, othersSpelled⟩ := continueHex?_cons_eq_some.mp spelled
      rw [List.cons_append, scan, digitSpelled]
      dsimp only
      cases others with
      | nil =>
          have last : code * 16 + value = c.toNat := Option.some.inj othersSpelled
          rw [if_pos (by simp), last, scalar?_toNat]
          rfl
      | cons second others =>
          rw [if_neg (by simp)]
          exact ih (by simp) othersSpelled

theorem scan_writesChar (writes : WritesChar c piece) (rest : List Char) :
    scan .plain (piece ++ rest) = (scan .plain rest).map (c :: ·) := by
  cases writes with
  | plain quote backslash => rw [List.singleton_append, scan, if_neg backslash]
  | short named =>
      rw [List.cons_append, scan, if_pos rfl, List.singleton_append, scan, named]
  | numeric count spelled =>
      obtain ⟨long, nonzero⟩ := short?_of_digitCount? count
      rw [List.cons_append, scan, if_pos rfl, List.cons_append, scan, long, count]
      exact scan_digits (List.ne_nil_of_length_pos (Nat.pos_of_ne_zero nonzero)) spelled

theorem scan_writes (writes : Writes value text) (rest : List Char) :
    scan .plain (text ++ rest) = (scan .plain rest).map (value ++ ·) := by
  induction writes with
  | nil => simp
  | cons first _ ih =>
      rw [List.append_assoc, scan_writesChar first, ih, Option.map_map]
      rfl

/-! ## What is read has been spelled -/

/-- A numeric escape that is read to its end had all the digits that it owed. -/
theorem exists_of_scan_digits {owed : Nat} (positive : owed ≠ 0)
    (read : scan (.digits owed code) text = some value) :
    ∃ digits rest c others, text = digits ++ rest ∧ digits.length = owed ∧
      continueHex? code digits = some c.toNat ∧ scan .plain rest = some others ∧
        value = c :: others := by
  induction text generalizing owed code with
  | nil => cases read
  | cons digit text ih =>
      rw [scan] at read
      split at read
      next => cases read
      next number spelled =>
        split at read
        next last =>
          obtain rfl : owed = 1 := by omega
          split at read
          next c named =>
            obtain ⟨others, readOthers, rfl⟩ := Option.map_eq_some_iff.mp read
            refine ⟨[digit], text, c, others, rfl, rfl, ?_, readOthers, rfl⟩
            exact continueHex?_cons_eq_some.mpr
              ⟨number, spelled, congrArg some (toNat_of_scalar? named).symm⟩
          next => cases read
        next several =>
          obtain ⟨more, rfl⟩ : ∃ more, owed = more + 1 := ⟨owed - 1, by omega⟩
          obtain ⟨digits, rest, c, others, rfl, rfl, restSpelled, readOthers, rfl⟩ :=
            ih (by omega) read
          exact ⟨digit :: digits, rest, c, others, rfl, rfl,
            continueHex?_cons_eq_some.mpr ⟨number, spelled, restSpelled⟩, readOthers, rfl⟩

/-- What is read of a text is the value of its first piece, and what is read behind that. -/
theorem exists_of_scan (closed : Closed text) (read : scan .plain text = some value) :
    text = [] ∧ value = [] ∨ ∃ c piece rest others, text = piece ++ rest ∧ WritesChar c piece ∧
      scan .plain rest = some others ∧ value = c :: others := by
  cases closed with
  | nil =>
      cases read
      exact .inl ⟨rfl, rfl⟩
  | @plain c rest quote backslash _ =>
      rw [scan, if_neg backslash] at read
      obtain ⟨others, readOthers, rfl⟩ := Option.map_eq_some_iff.mp read
      exact .inr ⟨c, [c], rest, others, rfl, .plain quote backslash, readOthers, rfl⟩
  | @escaped letter rest _ =>
      rw [scan, if_pos rfl, scan] at read
      split at read
      next x named =>
        obtain ⟨others, readOthers, rfl⟩ := Option.map_eq_some_iff.mp read
        exact .inr ⟨x, ['\\', letter], rest, others, rfl, .short named, readOthers, rfl⟩
      next counted =>
        obtain ⟨digits, rest, x, others, rfl, rfl, spelled, readOthers, rfl⟩ :=
          exists_of_scan_digits (short?_of_digitCount? counted).2 read
        exact .inr ⟨x, '\\' :: letter :: digits, rest, others, rfl, .numeric counted spelled,
          readOthers, rfl⟩
      next => cases read

/-! ## Closed texts -/

theorem WritesChar.ne_nil (writes : WritesChar c piece) : piece ≠ [] := by
  cases writes <;> simp

theorem closed_cons_iff (backslash : c ≠ '\\') : Closed (c :: rest) ↔ c ≠ '"' ∧ Closed rest := by
  constructor
  · intro closed
    cases closed with
    | plain quote _ others => exact ⟨quote, others⟩
    | escaped _ => exact absurd rfl backslash
  · rintro ⟨quote, others⟩
    exact .plain quote backslash others

theorem closed_escaped_iff : Closed ('\\' :: c :: rest) ↔ Closed rest := by
  constructor
  · intro closed
    cases closed with
    | plain _ backslash _ => exact absurd rfl backslash
    | escaped others => exact others
  · exact .escaped

theorem closed_append_iff (plain : ∀ c ∈ piece, c ≠ '"' ∧ c ≠ '\\') :
    Closed (piece ++ rest) ↔ Closed rest := by
  induction piece with
  | nil => rfl
  | cons first others ih =>
      obtain ⟨⟨quote, backslash⟩, plain⟩ := List.forall_mem_cons.mp plain
      rw [List.cons_append, closed_cons_iff backslash, ih plain]
      exact and_iff_right quote

theorem WritesChar.closed_append_iff (writes : WritesChar c piece) :
    Closed (piece ++ rest) ↔ Closed rest := by
  cases writes with
  | plain quote backslash => exact Escape.closed_append_iff (by simp [quote, backslash])
  | short _ => exact closed_escaped_iff
  | numeric _ spelled =>
      exact closed_escaped_iff.trans (Escape.closed_append_iff (ne_of_continueHex? spelled))

theorem Writes.closed_append_iff (writes : Writes value text) :
    Closed (text ++ rest) ↔ Closed rest := by
  induction writes with
  | nil => rfl
  | cons first _ ih => rw [List.append_assoc, first.closed_append_iff, ih]

theorem Writes.closed (writes : Writes value text) : Closed text := by
  rw [← List.append_nil text, writes.closed_append_iff]
  exact .nil

theorem Closed.append (first : Closed piece) (second : Closed rest) : Closed (piece ++ rest) := by
  induction first with
  | nil => exact second
  | plain quote backslash _ ih => exact .plain quote backslash ih
  | escaped _ ih => exact .escaped ih

/-! ## Decoding -/

theorem length_behind (first : WritesChar c piece) : rest.length < (piece ++ rest).length := by
  rw [List.length_append]
  exact Nat.lt_add_of_pos_left (List.length_pos_iff.mpr first.ne_nil)

theorem writes_of_scan (closed : Closed text) (read : scan .plain text = some value) :
    Writes value text := by
  induction length : text.length using Nat.strongRecOn generalizing text value with
  | ind size ih =>
      subst length
      rcases exists_of_scan closed read with ⟨rfl, rfl⟩ |
        ⟨c, piece, rest, others, rfl, first, readRest, rfl⟩
      · exact .nil
      · exact .cons first
          (ih _ (length_behind first) (first.closed_append_iff.mp closed) readRest rfl)

/-- A closed text has the value that it spells, and no other. -/
theorem decode_eq_some_iff (closed : Closed text) :
    decode text = some value ↔ Writes value text := by
  constructor
  · exact writes_of_scan closed
  · intro writes
    have read : scan .plain (text ++ []) = (scan .plain []).map (value ++ ·) :=
      scan_writes writes []
    simpa [decode, scan] using read

theorem HasInvalidEscape.behind (first : WritesChar c piece) (invalid : HasInvalidEscape rest) :
    HasInvalidEscape (piece ++ rest) := by
  obtain ⟨value, before, behind, rfl, writes, noEscape⟩ := invalid
  exact ⟨c :: value, piece ++ before, behind, by simp, .cons first writes, noEscape⟩

theorem hasInvalidEscape_of_scan (closed : Closed text) (failed : scan .plain text = none) :
    HasInvalidEscape text := by
  induction length : text.length using Nat.strongRecOn generalizing text with
  | ind size ih =>
      subst length
      by_cases spelled : ∃ c piece rest, text = piece ++ rest ∧ WritesChar c piece
      · obtain ⟨c, piece, rest, rfl, first⟩ := spelled
        rw [scan_writesChar first, Option.map_eq_none_iff] at failed
        exact (ih _ (length_behind first) (first.closed_append_iff.mp closed) failed rfl).behind
          first
      · -- Only a backslash is no piece itself, so one stands here and no escape starts with it.
        cases closed with
        | nil => cases failed
        | @plain c rest quote backslash _ =>
            exact absurd ⟨c, [c], rest, rfl, .plain quote backslash⟩ spelled
        | @escaped letter rest _ =>
            exact ⟨[], [], letter :: rest, rfl, .nil,
              fun c piece rest first same => spelled ⟨c, piece, rest, same, first⟩⟩

/-- A closed text has no value exactly when there is an invalid escape in it. -/
theorem decode_eq_none_iff (closed : Closed text) : decode text = none ↔ HasInvalidEscape text := by
  constructor
  · exact hasInvalidEscape_of_scan closed
  · rintro ⟨value, before, behind, rfl, writes, invalid⟩
    unfold decode
    rw [scan_writes writes, Option.map_eq_none_iff]
    cases read : scan .plain ('\\' :: behind) with
    | none => rfl
    | some others =>
        rcases exists_of_scan (writes.closed_append_iff.mp closed) read with
          ⟨empty, _⟩ | ⟨c, piece, rest, _, same, first, _⟩
        · cases empty
        · exact absurd same (invalid c piece rest first)

end Escape

end Scaffold.Text
