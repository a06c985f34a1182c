import Mathlib.Data.List.DropRight
import Scaffold.Text.Blank

/-!
# Blanks around and between words

`trimEnd` takes off the longest run of blanks at the end of a text (`trimEnd_eq_iff`).  `Spaced
words text` says that a text consists of given words with blanks between them, and maybe in front of
and behind them; `blankSeparated` finds exactly these words (`blankSeparated_eq_iff`).
-/

set_option autoImplicit false

namespace Scaffold.Text

def Blank (text : List Char) : Prop := ∀ c ∈ text, isBlank c = true

instance : DecidablePred Blank :=
  fun text => inferInstanceAs (Decidable (∀ c ∈ text, isBlank c = true))

variable {c : Char} {text before word rest : List Char} {words : List (List Char)}

theorem blank_append : Blank (before ++ rest) ↔ Blank before ∧ Blank rest := by
  simp [Blank, or_imp, forall_and]

/-! ## The end of a text -/

def Trimmed (text : List Char) : Prop := ∀ c ∈ text.getLast?, isBlank c = false

theorem trimEnd_eq_rdropWhile (text : List Char) : trimEnd text = text.rdropWhile isBlank := rfl

theorem trimmed_trimEnd (text : List Char) : Trimmed (trimEnd text) := by
  intro c last
  have nonempty : text.rdropWhile isBlank ≠ [] := by
    intro empty
    rw [trimEnd_eq_rdropWhile, empty] at last
    cases last
  have solid := List.rdropWhile_last_not isBlank text nonempty
  rw [trimEnd_eq_rdropWhile, List.getLast?_eq_some_getLast nonempty] at last
  cases last
  exact Bool.eq_false_iff.mpr solid

theorem exists_trimEnd_append (text : List Char) :
    ∃ blanks, Blank blanks ∧ text = trimEnd text ++ blanks := by
  refine ⟨(text.reverse.takeWhile isBlank).reverse, ?_, ?_⟩
  · intro c member
    exact List.mem_takeWhile_imp (List.mem_reverse.mp member)
  · rw [trimEnd, ← List.reverse_append, List.takeWhile_append_dropWhile, List.reverse_reverse]

theorem trimEnd_append_of_blank {blanks : List Char} (blank : Blank blanks)
    (trimmed : Trimmed text) :
    trimEnd (text ++ blanks) = text := by
  induction blanks using List.reverseRecOn with
  | nil =>
      rw [List.append_nil, trimEnd_eq_rdropWhile, List.rdropWhile_eq_self_iff]
      intro nonempty
      have solid := trimmed _ (List.getLast?_eq_some_getLast nonempty)
      simp [solid]
  | append_singleton blanks c ih =>
      obtain ⟨front, last⟩ := blank_append.mp blank
      rw [← List.append_assoc, trimEnd_eq_rdropWhile,
        List.rdropWhile_concat_pos _ _ _ (last c (by simp))]
      exact ih front

theorem trimEnd_eq_iff : trimEnd text = before ↔
    Trimmed before ∧ ∃ blanks, Blank blanks ∧ text = before ++ blanks := by
  constructor
  · rintro rfl
    exact ⟨trimmed_trimEnd text, exists_trimEnd_append text⟩
  · rintro ⟨trimmed, blanks, blank, rfl⟩
    exact trimEnd_append_of_blank blank trimmed

theorem trimEnd_eq_nil_iff : trimEnd text = [] ↔ Blank text := by
  rw [trimEnd_eq_iff]
  simp [Trimmed]

/-! ## Words -/

/-- A text of words: none of them is empty or holds a blank, and behind each there is a blank or
nothing. -/
inductive Spaced : List (List Char) → List Char → Prop where
  | blank {text : List Char} (blank : Blank text) : Spaced [] text
  | word {before word rest : List Char} {words : List (List Char)} (blank : Blank before)
      (nonempty : word ≠ []) (solid : ∀ c ∈ word, isBlank c = false)
      (ends : ∀ c ∈ rest.head?, isBlank c = true) (behind : Spaced words rest) :
      Spaced (word :: words) (before ++ (word ++ rest))

theorem blankSeparatedFrom_blank (blank : Blank before) :
    blankSeparatedFrom [] (before ++ rest) = blankSeparatedFrom [] rest := by
  induction before with
  | nil => rfl
  | cons c before ih =>
      obtain ⟨first, others⟩ := List.forall_mem_cons.mp blank
      rw [List.cons_append, blankSeparatedFrom, if_pos first, if_pos rfl]
      exact ih others

theorem blankSeparatedFrom_solid (solid : ∀ c ∈ word, isBlank c = false) (front : List Char) :
    blankSeparatedFrom front (word ++ rest) = blankSeparatedFrom (front ++ word) rest := by
  induction word generalizing front with
  | nil => simp
  | cons c word ih =>
      obtain ⟨first, others⟩ := List.forall_mem_cons.mp solid
      rw [List.cons_append, blankSeparatedFrom, if_neg (by simp [first]), ih others]
      simp

theorem blankSeparatedFrom_ends (nonempty : word ≠ []) (ends : ∀ c ∈ rest.head?, isBlank c = true) :
    blankSeparatedFrom word rest = word :: blankSeparatedFrom [] rest := by
  cases rest with
  | nil => simp [blankSeparatedFrom, nonempty]
  | cons c rest => simp [blankSeparatedFrom, nonempty, ends c rfl]

theorem Spaced.blankSeparated_eq (spaced : Spaced words text) : blankSeparated text = words := by
  induction spaced with
  | @blank text blank =>
      have skipped : blankSeparatedFrom [] (text ++ []) = [] := blankSeparatedFrom_blank blank
      rwa [List.append_nil] at skipped
  | word blank nonempty solid ends _ ih =>
      rw [blankSeparated, blankSeparatedFrom_blank blank, blankSeparatedFrom_solid solid,
        List.nil_append, blankSeparatedFrom_ends nonempty ends]
      exact congrArg _ ih

theorem Spaced.cons_blank (is : isBlank c = true) (spaced : Spaced words text) :
    Spaced words (c :: text) := by
  cases spaced with
  | blank blank => exact .blank (List.forall_mem_cons.mpr ⟨is, blank⟩)
  | @word before _ _ _ blank nonempty solid ends behind =>
      exact @Spaced.word (c :: before) _ _ _ (List.forall_mem_cons.mpr ⟨is, blank⟩) nonempty
        solid ends behind

theorem Spaced.cons_solid (is : isBlank c = false) (spaced : Spaced words text) :
    ∃ words, Spaced words (c :: text) := by
  have own : ∀ c' ∈ [c], isBlank c' = false := by simpa using is
  by_cases ends : ∀ c' ∈ text.head?, isBlank c' = true
  · exact ⟨[c] :: words, @Spaced.word [] _ _ _ (by simp [Blank]) (by simp) own ends spaced⟩
  · push Not at ends
    obtain ⟨next, first, solidNext⟩ := ends
    cases spaced with
    | blank blank => exact absurd (blank next (List.mem_of_mem_head? first)) solidNext
    | @word before word rest words blank nonempty solid ends behind =>
        cases before with
        | nil =>
            have solid' : ∀ c' ∈ c :: word, isBlank c' = false :=
              List.forall_mem_cons.mpr ⟨is, solid⟩
            exact ⟨(c :: word) :: words, @Spaced.word [] _ _ _ blank (by simp) solid' ends behind⟩
        | cons blank' before =>
            cases first
            exact absurd (blank next List.mem_cons_self) solidNext

theorem exists_spaced (text : List Char) : ∃ words, Spaced words text := by
  induction text with
  | nil => exact ⟨[], .blank (by simp [Blank])⟩
  | cons c text ih =>
      obtain ⟨words, spaced⟩ := ih
      cases is : isBlank c with
      | true => exact ⟨words, spaced.cons_blank is⟩
      | false => exact spaced.cons_solid is

/-- The parts of a text are the words that it consists of. -/
theorem blankSeparated_eq_iff : blankSeparated text = words ↔ Spaced words text := by
  constructor
  · rintro rfl
    obtain ⟨words, spaced⟩ := exists_spaced text
    rw [spaced.blankSeparated_eq]
    exact spaced
  · exact Spaced.blankSeparated_eq

theorem spaced_nil_iff : Spaced [] text ↔ Blank text := by
  constructor
  · intro spaced
    cases spaced with
    | blank blank => exact blank
  · exact .blank

end Scaffold.Text
