import Scaffold.Json.Reader
import Scaffold.Json.Writer
import Scaffold.Proofs.Text.Escape

/-!
# Strings and numbers read back

A written string is read back whatever its characters are: each of them gives one code unit, and no
character is half of a surrogate pair (`readString_writeString`).  A written number is read back
when it is in the range of numbers and what stands behind it does not continue it
(`readNumber_writeNumber`).
-/

set_option autoImplicit false

namespace Scaffold

/-! ## Characters -/

namespace Json

theorem isHighSurrogate_toNat (c : Char) : isHighSurrogate c.toNat = false := by
  have valid : c.toNat < 0xD800 ∨ 0xDFFF < c.toNat ∧ c.toNat < 0x110000 := c.valid
  unfold isHighSurrogate
  rw [Bool.eq_false_iff]
  intro high
  simp only [Bool.and_eq_true, decide_eq_true_eq] at high
  omega

theorem joinUnits?_map_toNat (cs : List Char) : joinUnits? (cs.map Char.toNat) = some cs := by
  induction cs with
  | nil => rfl
  | cons c rest ih =>
      cases rest with
      | nil => simp [joinUnits?, Text.scalar?_toNat]
      | cons d others =>
          rw [List.map_cons] at ih
          simp [joinUnits?, isHighSurrogate_toNat, Text.scalar?_toNat, ih]

theorem hexDigit?_hexDigit {n : Nat} (small : n < 16) : Text.hexDigit? (hexDigit n) = some n := by
  have all : ∀ m : Fin 16, Text.hexDigit? (hexDigit m) = some m.val := by decide
  exact all ⟨n, small⟩

/-! ## Strings -/

theorem readUnits_writeChar (c : Char) (s : List Char) :
    readUnits .plain (writeChar c ++ s) =
      (readUnits .plain s).map fun (units, behind) => (c.toNat :: units, behind) := by
  unfold writeChar
  split
  · next h => subst h; simp [readUnits, shortEscape?]
  split
  · next h => subst h; simp [readUnits, shortEscape?]
  split
  · next h => subst h; simp [readUnits, shortEscape?]
  split
  · next h => subst h; simp [readUnits, shortEscape?]
  split
  · next h => subst h; simp [readUnits, shortEscape?]
  split
  · next h => subst h; simp [readUnits, shortEscape?]
  split
  · next h => subst h; simp [readUnits, shortEscape?]
  split
  · next control =>
      have small : c.toNat < 32 := control
      have high := hexDigit?_hexDigit (n := c.toNat / 16) (by omega)
      have low := hexDigit?_hexDigit (n := c.toNat % 16) (by omega)
      have zero : Text.hexDigit? '0' = some 0 := rfl
      have code : c.toNat / 16 * 16 + c.toNat % 16 = c.toNat := by omega
      simp [readUnits, high, low, zero, code]
  · next quote backslash _ _ _ _ _ visible => simp [readUnits, quote, backslash, visible]

theorem readUnits_write (cs : List Char) (behind : List Char) :
    readUnits .plain (cs.flatMap writeChar ++ '"' :: behind) =
      some (cs.map Char.toNat, behind) := by
  induction cs with
  | nil => simp [readUnits]
  | cons c rest ih =>
      rw [List.flatMap_cons, List.append_assoc, readUnits_writeChar, ih]
      rfl

theorem readString_writeString (text : String) (behind : List Char) :
    readString (text.toList.flatMap writeChar ++ '"' :: behind) = some (some text, behind) := by
  unfold readString
  rw [readUnits_write, Option.map_some]
  dsimp only
  rw [joinUnits?_map_toNat, Option.map_some, String.ofList_toList]

/-! ## Numbers -/

/-- The text does not go on with what could belong to a number in front of it. -/
def EndsNumber (s : List Char) : Prop :=
  ∀ c ∈ s.head?, c.isDigit = false ∧ c ≠ '.' ∧ c ≠ 'e' ∧ c ≠ 'E'

def EndsDigits (s : List Char) : Prop := ∀ c ∈ s.head?, c.isDigit = false

theorem EndsNumber.endsDigits {s : List Char} (ends : EndsNumber s) : EndsDigits s :=
  fun c head => (ends c head).1

section Digits
variable (n : Nat) {s : List Char}

theorem takeWhile_toDigits (ends : EndsDigits s) :
    (Nat.toDigits 10 n ++ s).takeWhile Char.isDigit = Nat.toDigits 10 n := by
  rw [List.takeWhile_append_of_pos fun c => Nat.isDigit_of_mem_toDigits (by omega) (by omega)]
  cases s with
  | nil => simp
  | cons c rest => simp [ends c rfl]

theorem dropWhile_toDigits (ends : EndsDigits s) :
    (Nat.toDigits 10 n ++ s).dropWhile Char.isDigit = s := by
  rw [List.dropWhile_append_of_pos fun c => Nat.isDigit_of_mem_toDigits (by omega) (by omega)]
  cases s with
  | nil => rfl
  | cons c rest => simp [ends c rfl]

theorem head?_toDigits {n : Nat} (zero : (Nat.toDigits 10 n).head? = some '0') : n = 0 := by
  induction n using Nat.strongRecOn with
  | ind n ih =>
      by_cases small : n < 10
      · rw [Nat.toDigits_of_lt_base small] at zero
        have all : ∀ m : Fin 10, m.val.digitChar = '0' → m.val = 0 := by decide
        exact all ⟨n, small⟩ (Option.some.inj zero)
      · rw [Nat.toDigits_of_base_le (by omega) (by omega), List.head?_append,
          List.head?_eq_some_head Nat.toDigits_ne_nil, Option.some_or,
          ← List.head?_eq_some_head Nat.toDigits_ne_nil] at zero
        have := ih (n / 10) (by omega) zero
        omega

theorem digitsValue_toDigits : digitsValue (Nat.toDigits 10 n) = n :=
  Nat.ofDigitChars_toDigits (by omega) (by omega)

theorem readUnsigned_toDigits (negative : Bool) {behind : List Char} {exponent : Option Int}
    (ends : EndsDigits s) (noPoint : s.head? ≠ some '.')
    (exponentOf : readExponent s = some (exponent, behind)) :
    readUnsigned negative (Nat.toDigits 10 n ++ s) =
      some (numberOf (if exponent = none ∧ ¬(negative ∧ n = 0) then
          .whole (if negative then -n else n) else .real negative n (exponent.getD 0)),
          behind) := by
  have noFraction : readFraction s = some ([], s) := by
    unfold readFraction
    split
    · exact absurd rfl noPoint
    · rfl
  have proper : ¬((Nat.toDigits 10 n).head? = some '0' ∧ Nat.toDigits 10 n ≠ ['0']) := by
    rintro ⟨zero, more⟩
    rw [head?_toDigits zero] at more
    exact more rfl
  unfold readUnsigned
  simp only [takeWhile_toDigits n ends, dropWhile_toDigits n ends, Nat.toDigits_ne_nil, proper,
    or_self, if_false, noFraction, exponentOf, List.append_nil, digitsValue_toDigits]
  simp

end Digits

theorem readExponent_of_endsNumber {s : List Char} (ends : EndsNumber s) :
    readExponent s = some (none, s) := by
  cases s with
  | nil => rfl
  | cons c rest =>
      obtain ⟨_, _, notLower, notUpper⟩ := ends c rfl
      simp [readExponent, notLower, notUpper]

theorem readExponentDigits_toDigits (negative : Bool) (n : Nat) {s : List Char}
    (ends : EndsDigits s) :
    readExponentDigits negative (Nat.toDigits 10 n ++ s) =
      some (some (if negative then -(n : Int) else n), s) := by
  unfold readExponentDigits
  simp only [takeWhile_toDigits n ends, dropWhile_toDigits n ends, Nat.toDigits_ne_nil, if_false,
    digitsValue_toDigits]

theorem exists_toDigits (n : Nat) : ∃ d ds, Nat.toDigits 10 n = d :: ds ∧ d.isDigit = true := by
  cases digits : Nat.toDigits 10 n with
  | nil => exact absurd digits Nat.toDigits_ne_nil
  | cons d ds =>
      refine ⟨d, ds, rfl, Nat.isDigit_of_mem_toDigits (b := 10) (n := n) (by omega) (by omega) ?_⟩
      rw [digits]
      exact List.mem_cons_self

theorem readExponent_write (exponent : Int) {s : List Char} (ends : EndsDigits s) :
    readExponent ('e' ::
      ((if exponent < 0 then ['-'] else []) ++ Nat.toDigits 10 exponent.natAbs ++ s)) =
      some (some exponent, s) := by
  unfold readExponent
  simp only [true_or, if_true]
  by_cases below : exponent < 0
  · have value : -(exponent.natAbs : Int) = exponent := by omega
    simp only [below, if_true, List.cons_append, List.nil_append]
    rw [readExponentDigits_toDigits true _ ends, if_pos rfl, value]
  · have value : (exponent.natAbs : Int) = exponent := by omega
    have read := readExponentDigits_toDigits false exponent.natAbs ends
    obtain ⟨d, ds, digits, isDigit⟩ := exists_toDigits exponent.natAbs
    simp only [below, if_false, List.nil_append]
    rw [digits] at read ⊢
    split
    · next plus => cases plus; exact absurd isDigit (by decide)
    · next minus => cases minus; exact absurd isDigit (by decide)
    · rw [read, if_neg Bool.false_ne_true, value]

theorem readNumber_toDigits (negative : Bool) (n : Nat) (s : List Char) :
    readNumber ((if negative then ['-'] else []) ++ Nat.toDigits 10 n ++ s) =
      readUnsigned negative (Nat.toDigits 10 n ++ s) := by
  cases negative with
  | true => rfl
  | false =>
      obtain ⟨d, ds, digits, isDigit⟩ := exists_toDigits n
      rw [if_neg Bool.false_ne_true, digits]
      unfold readNumber
      split
      · next minus => cases minus; exact absurd isDigit (by decide)
      · rfl

theorem readNumber_writeNumber (number : Number) {s : List Char} (ends : EndsNumber s) :
    readNumber (writeNumber number ++ s) = some (numberOf number, s) := by
  have noExponent := readExponent_of_endsNumber ends
  have noPoint : s.head? ≠ some '.' := fun point => (ends '.' point).2.1 rfl
  cases number with
  | whole value =>
      cases value with
      | ofNat n =>
          calc readNumber (writeNumber (.whole (.ofNat n)) ++ s)
              = readUnsigned false (Nat.toDigits 10 n ++ s) := readNumber_toDigits false n s
            _ = some (numberOf (.whole (.ofNat n)), s) := by
                rw [readUnsigned_toDigits n false ends.endsDigits noPoint noExponent]
                simp
      | negSucc n =>
          calc readNumber (writeNumber (.whole (.negSucc n)) ++ s)
              = readUnsigned true (Nat.toDigits 10 (n + 1) ++ s) :=
                readNumber_toDigits true (n + 1) s
            _ = some (numberOf (.whole (.negSucc n)), s) := by
                rw [readUnsigned_toDigits (n + 1) true ends.endsDigits noPoint noExponent]
                simp [Int.negSucc_eq]
  | real negative digits exponent =>
      let behind :=
        'e' :: ((if exponent < 0 then ['-'] else []) ++ Nat.toDigits 10 exponent.natAbs ++ s)
      have read : readExponent behind = some (some exponent, s) :=
        readExponent_write exponent ends.endsDigits
      have endsDigits : EndsDigits behind := by
        rintro c ⟨⟩
        rfl
      calc readNumber (writeNumber (.real negative digits exponent) ++ s)
          = readNumber ((if negative then ['-'] else []) ++ Nat.toDigits 10 digits ++ behind) := by
            simp [writeNumber, behind]
        _ = readUnsigned negative (Nat.toDigits 10 digits ++ behind) :=
            readNumber_toDigits negative digits behind
        _ = some (numberOf (.real negative digits exponent), s) := by
            rw [readUnsigned_toDigits digits negative endsDigits (by simp [behind]) read]
            simp

end Json

end Scaffold
