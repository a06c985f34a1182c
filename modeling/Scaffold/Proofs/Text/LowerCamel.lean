import Mathlib.Tactic.SplitIfs
import Scaffold.Text.CamelCase

/-!
# What lower camel case keeps of a name

Turning a name into lower camel case drops separators and changes the case of letters, and nothing
else: the result is a respelling of the name (`respells_lowerCamel`).  So names without a respelling
in common do not come to the same, and ASCII names have none when they differ in more than case and
separators (`apart_of_letters_ne`).
-/

set_option autoImplicit false

namespace Scaffold.Text

def IsSeparator (c : Char) : Prop := c = '_' ∨ c = '-' ∨ c = ' '

instance : DecidablePred IsSeparator :=
  fun c => inferInstanceAs (Decidable (c = '_' ∨ c = '-' ∨ c = ' '))

/-- The forms of a character in lower or in upper case. -/
inductive CaseForm : Char → List Char → Prop where
  | lower (c : Char) : CaseForm c (lowerChar c)
  | upper (c : Char) : CaseForm c (upperChar c)
  | finalSigma : CaseForm 'Σ' ['ς']

/-- The second text is the first one without some separators and with each other character in one
case or the other. -/
inductive Respells : List Char → List Char → Prop where
  | nil : Respells [] []
  | drop {c : Char} {rest text : List Char} (separator : IsSeparator c)
    (behind : Respells rest text) :
      Respells (c :: rest) text
  | keep {c : Char} {form rest text : List Char} (cased : CaseForm c form)
    (behind : Respells rest text) :
      Respells (c :: rest) (form ++ text)

namespace Respells

variable {first second text : List Char}

theorem append {rest others : List Char} (here : Respells first rest)
    (behind : Respells second others) :
    Respells (first ++ second) (rest ++ others) := by
  induction here with
  | nil => exact behind
  | drop separator _ ih => exact .drop separator ih
  | keep cased _ ih =>
      rw [List.append_assoc]
      exact .keep cased ih

theorem exists_of_append (spelled : Respells (first ++ second) text) :
    ∃ front behind, text = front ++ behind ∧ Respells first front ∧ Respells second behind := by
  induction first generalizing text with
  | nil => exact ⟨[], text, rfl, .nil, spelled⟩
  | cons c first ih =>
      cases spelled with
      | drop separator rest =>
          obtain ⟨front, behind, rfl, here, there⟩ := ih rest
          exact ⟨front, behind, rfl, .drop separator here, there⟩
      | @keep _ form _ _ cased rest =>
          obtain ⟨front, behind, rfl, here, there⟩ := ih rest
          exact ⟨form ++ front, behind, (List.append_assoc ..).symm, .keep cased here, there⟩

end Respells

/-! ## Words -/

theorem caseForm_of_lower (c : Char) (final : Bool) :
    CaseForm c (if c = 'Σ' then (if final then ['ς'] else ['σ']) else lowerChar c) := by
  by_cases sigma : c = 'Σ'
  · subst sigma
    have small : lowerChar 'Σ' = ['σ'] := by decide +kernel
    cases final with
    | true => exact .finalSigma
    | false => exact small ▸ .lower 'Σ'
  · rw [if_neg sigma]
    exact .lower c

theorem respells_lowerFrom (before word : List Char) : Respells word (lowerFrom before word) := by
  induction word generalizing before with
  | nil => exact .nil
  | cons c rest ih => exact .keep (caseForm_of_lower c _) (ih (c :: before))

theorem respells_lower (word : List Char) : Respells word (lower word) := respells_lowerFrom [] word

theorem respells_capitalized (word : List Char) : Respells word (capitalized word) := by
  cases word with
  | nil => exact .nil
  | cons c rest => exact .keep (.upper c) (respells_lower rest)

/-! ## The words of a name -/

theorem flatten_clustersFrom (cluster : List Char) (before : Grapheme.Role)
    (pictograph oddRegional : Bool) (text : List Char) :
    (Grapheme.clustersFrom cluster before pictograph oddRegional text).flatten =
      cluster ++ text := by
  induction text generalizing cluster before pictograph oddRegional with
  | nil => simp [Grapheme.clustersFrom]
  | cons c rest ih =>
      unfold Grapheme.clustersFrom
      dsimp only
      split <;> simp [ih]

theorem flatten_clusters (text : List Char) : (Grapheme.clusters text).flatten = text := by
  cases text with
  | nil => rfl
  | cons c rest => exact flatten_clustersFrom [c] _ _ _ rest

def isKept (grapheme : List Char) : Bool := letterKind grapheme ≠ .separator

theorem flatten_filter_isKept_cons {grapheme : List Char} (kept : letterKind grapheme ≠ .separator)
    (rest : List (List Char)) :
    ((grapheme :: rest).filter isKept).flatten = grapheme ++ (rest.filter isKept).flatten := by
  have isKept : isKept grapheme = true := decide_eq_true kept
  rw [List.filter_cons_of_pos isKept, List.flatten_cons]

theorem flatten_wordsFrom (word : List Char) (graphemes : List (List Char)) :
    (wordsFrom word graphemes).flatten = word ++ (graphemes.filter isKept).flatten := by
  -- No grapheme, a separator, the last grapheme, one that ends a word, one that goes on with it.
  fun_induction wordsFrom word graphemes with
  | case1 word => simp
  | case2 word grapheme rest kind separator ih =>
      have dropped : isKept grapheme = false := decide_eq_false (fun kept => kept separator)
      rw [List.flatten_cons, ih, List.filter_cons_of_neg (by simp [dropped]), List.nil_append]
  | case3 word grapheme kind kept => simp [flatten_filter_isKept_cons kept]
  | case4 word grapheme kind kept next others ends ih =>
      rw [List.flatten_cons, ih, flatten_filter_isKept_cons kept, List.append_assoc,
        List.nil_append]
  | case5 word grapheme kind kept next others goesOn ih =>
      rw [ih, flatten_filter_isKept_cons kept, List.append_assoc]

theorem exists_separator_of_not_isKept {grapheme : List Char} (dropped : isKept grapheme = false) :
    ∃ c, IsSeparator c ∧ grapheme = [c] := by
  have kind : letterKind grapheme = .separator := by simpa [isKept] using dropped
  unfold letterKind at kind
  split at kind
  next separator =>
    rcases separator with rfl | rfl | rfl
    · exact ⟨'_', .inl rfl, rfl⟩
    · exact ⟨'-', .inr (.inl rfl), rfl⟩
    · exact ⟨' ', .inr (.inr rfl), rfl⟩
  next =>
    dsimp only at kind
    split_ifs at kind

theorem respells_of_kept {graphemes : List (List Char)} {text : List Char}
    (spelled : Respells (graphemes.filter isKept).flatten text) :
    Respells graphemes.flatten text := by
  induction graphemes generalizing text with
  | nil => exact spelled
  | cons grapheme rest ih =>
      cases kept : isKept grapheme with
      | true =>
          rw [List.filter_cons_of_pos kept, List.flatten_cons] at spelled
          obtain ⟨front, behind, rfl, here, there⟩ := spelled.exists_of_append
          exact here.append (ih there)
      | false =>
          rw [List.filter_cons_of_neg (by simp [kept])] at spelled
          obtain ⟨c, separator, rfl⟩ := exists_separator_of_not_isKept kept
          exact .drop separator (ih spelled)

theorem respells_words (words : List (List Char)) :
    Respells words.flatten (words.flatMap capitalized) := by
  induction words with
  | nil => exact .nil
  | cons word rest ih => exact (respells_capitalized word).append ih

/-- Lower camel case drops separators and changes case, and nothing else. -/
theorem respells_lowerCamel (name : String) : Respells name.toList (lowerCamel name).toList := by
  rw [← flatten_clusters name.toList]
  apply respells_of_kept
  have words : (nameWords name.toList).flatten =
      ((Grapheme.clusters name.toList).filter isKept).flatten :=
    flatten_wordsFrom [] _
  rw [← words]
  unfold lowerCamel
  cases nameWords name.toList with
  | nil => exact .nil
  | cons first others =>
      dsimp only
      rw [String.toList_ofList]
      exact (respells_lower first).append (respells_words others)

/-! ## Names that come to the same -/

def IsAscii (name : String) : Prop := ∀ c ∈ name.toList, c.toNat < 0x80

instance : DecidablePred IsAscii :=
  fun name => List.decidableBAll (fun c : Char => c.toNat < 0x80) name.toList

/-- The characters of a text without regard to case, and no separators. -/
def letters (text : List Char) : List Char :=
  (text.filter fun c => ¬ IsSeparator c).map Char.toLower

theorem letters_cons (c : Char) (rest : List Char) :
    letters (c :: rest) = (if IsSeparator c then [] else [c.toLower]) ++ letters rest := by
  by_cases separator : IsSeparator c <;> simp [letters, separator]

theorem letters_append (first second : List Char) :
    letters (first ++ second) = letters first ++ letters second := by
  simp [letters]

theorem letters_ascii : ∀ code < 0x80,
    letters [(Char.ofNat code).toLower] = letters [Char.ofNat code] ∧
      letters [(Char.ofNat code).toUpper] = letters [Char.ofNat code] := by
  decide +kernel

theorem CaseForm.letters_eq {c : Char} {form : List Char} (cased : CaseForm c form)
    (ascii : c.toNat < 0x80) :
    letters form = letters [c] := by
  have ofCode := letters_ascii c.toNat ascii
  rw [Char.ofNat_toNat] at ofCode
  cases cased with
  | lower =>
      rw [lowerChar, if_pos ascii]
      exact ofCode.1
  | upper =>
      rw [upperChar, if_pos ascii]
      exact ofCode.2
  | finalSigma => exact absurd ascii (by decide)

theorem Respells.letters_eq {name text : List Char} (spelled : Respells name text)
    (ascii : ∀ c ∈ name, c.toNat < 0x80) : letters text = letters name := by
  induction spelled with
  | nil => rfl
  | @drop c rest text separator _ ih =>
      rw [ih (List.forall_mem_cons.mp ascii).2, letters_cons, if_pos separator, List.nil_append]
  | @keep c form rest text cased _ ih =>
      obtain ⟨first, others⟩ := List.forall_mem_cons.mp ascii
      calc letters (form ++ text)
        _ = letters form ++ letters text := letters_append ..
        _ = letters [c] ++ letters rest := by rw [cased.letters_eq first, ih others]
        _ = letters (c :: rest) := (letters_append [c] rest).symm

def Apart (name other : String) : Prop :=
  ∀ text, Respells name.toList text → ¬ Respells other.toList text

variable {name other : String}

theorem Apart.lowerCamel_ne (apart : Apart name other) :
    lowerCamel name ≠ lowerCamel other := fun same =>
  apart _ (respells_lowerCamel name) (same ▸ respells_lowerCamel other)

theorem apart_of_letters_ne (ascii : IsAscii name) (asciiToo : IsAscii other)
    (different : letters name.toList ≠ letters other.toList) : Apart name other :=
  fun _ spelled spelledToo =>
  different ((spelled.letters_eq ascii).symm.trans (spelledToo.letters_eq asciiToo))

end Scaffold.Text
