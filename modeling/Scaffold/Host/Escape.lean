import Scaffold.Host.Octets

/-!
# Backslashes in arguments

Some programs read backslash sequences in their arguments: a letter for a control character, or up
to three octal digits for a byte.  `sequence?` reads one such sequence; `marks` reads a whole
argument and tells of each character whether it was written with a backslash, so that a program can
keep such a character from having a special meaning.
-/

set_option autoImplicit false

namespace Scaffold.Host.Escape

structure Mark where
  char : Char
  escaped : Bool
  deriving DecidableEq, Repr

def isOctal (c : Char) : Bool := '0' ≤ c && c ≤ '7'

/-- The character that a letter behind a backslash stands for. -/
def letter? (c : Char) : Option Char :=
  [('a', '\x07'), ('b', '\x08'), ('f', '\x0c'), ('n', '\n'), ('r', '\x0d'), ('t', '\t'),
    ('v', '\x0b'), ('\\', '\\')].lookup c

/-- The value of octal digits, at most so many, and what follows them. -/
def octal : Nat → Nat → List Char → Nat × List Char
  | 0, value, rest => (value, rest)
  | _, value, [] => (value, [])
  | more + 1, value, c :: rest =>
    if isOctal c then octal more (value * 8 + (c.toNat - '0'.toNat)) rest else (value, c :: rest)

def ofCode (code : Nat) : Char := Char.ofNat (code % 256)

/-- What a sequence behind its backslash stands for, and what follows it. -/
def sequence? : List Char → Option (Char × List Char)
  | [] => none
  | c :: rest =>
    if isOctal c then
      let (code, behind) := octal 3 0 (c :: rest)
      some (ofCode code, behind)
    else (letter? c).map (·, rest)

theorem length_octal (more value : Nat) (chars : List Char) :
    (octal more value chars).2.length ≤ chars.length := by
  induction more generalizing value chars with
  | zero => simp [octal]
  | succ more ih =>
      cases chars with
      | nil => simp [octal]
      | cons c rest =>
          by_cases h : isOctal c = true
          · simpa [octal, h] using Nat.le_succ_of_le (ih _ rest)
          · simp [octal, h]

theorem length_of_sequence? {chars behind : List Char} {c : Char}
    (h : sequence? chars = some (c, behind)) : behind.length < chars.length := by
  cases chars with
  | nil => simp [sequence?] at h
  | cons first rest =>
      by_cases ho : isOctal first = true
      · simp only [sequence?, ho, if_true, Option.some.injEq, Prod.mk.injEq] at h
        have := length_octal 2 (0 * 8 + (first.toNat - '0'.toNat)) rest
        rw [← h.2]
        simp only [octal, ho, if_true, List.length_cons]
        omega
      · have hb : isOctal first = false := by simpa using ho
        simp only [sequence?, hb, Bool.false_eq_true, if_false, Option.map_eq_some_iff,
          Prod.mk.injEq] at h
        obtain ⟨_, _, _, rfl⟩ := h
        simp

/-- Reads an argument; a backslash in front of anything else just marks it. -/
def marks : List Char → List Mark
  | [] => []
  | '\\' :: rest =>
    match _h : sequence? rest with
    | some (c, behind) => ⟨c, true⟩ :: marks behind
    | none =>
      match rest with
      | [] => [⟨'\\', false⟩]
      | c :: behind => ⟨c, true⟩ :: marks behind
  | c :: rest => ⟨c, false⟩ :: marks rest
  termination_by chars => chars.length
  decreasing_by
    · have := length_of_sequence? _h
      simp only [List.length_cons]
      omega
    · simp only [List.length_cons]
      omega
    · simp

end Scaffold.Host.Escape
