/-!
# Cutting text at a separator

`cut sep s` gives what stands before the first separator and, when there is one, what stands behind
it.  `pieces sep s` gives every piece between separators, empty ones included.  `words s` keeps the
pieces between single spaces that are not empty.
-/

set_option autoImplicit false

namespace Scaffold.Text

/-- The part before the first `sep`, and the part behind it when `sep` occurs. -/
def cut (sep : Char) (s : List Char) : List Char × Option (List Char) :=
  (s.takeWhile (· ≠ sep), (s.dropWhile (· ≠ sep)).tail?)

/-- All parts between occurrences of `sep`; a text without `sep` is its only part. -/
def pieces (sep : Char) : List Char → List (List Char)
  | [] => [[]]
  | c :: rest =>
    if c = sep then [] :: pieces sep rest
    else match pieces sep rest with
      | [] => [[c]]
      | first :: others => (c :: first) :: others

/-- `cut` on strings, with an empty second part when there is no separator. -/
def cutString (sep : Char) (s : String) : String × String :=
  let (before, behind) := cut sep s.toList
  (String.ofList before, String.ofList (behind.getD []))

def splitSpaces (s : String) : List String :=
  (pieces ' ' s.toList).map String.ofList

def words (s : String) : List String :=
  (splitSpaces s).filter (· ≠ "")

theorem pieces_ne_nil (sep : Char) (s : List Char) : pieces sep s ≠ [] := by
  cases s with
  | nil => simp [pieces]
  | cons c rest =>
      simp only [pieces]
      split
      · simp
      · split <;> simp

theorem forall_mem_pieces_eq_nil_iff {sep : Char} {s : List Char} :
    (∀ piece ∈ pieces sep s, piece = []) ↔ ∀ c ∈ s, c = sep := by
  induction s with
  | nil => simp [pieces]
  | cons c rest ih =>
      rw [pieces, List.forall_mem_cons, ← ih]
      by_cases isSep : c = sep
      · simp [isSep]
      · rw [if_neg isSep]
        cases pieces sep rest <;> simp [isSep]

theorem words_eq_nil_iff {s : String} : words s = [] ↔ ∀ c ∈ s.toList, c = ' ' := by
  rw [← forall_mem_pieces_eq_nil_iff, words, splitSpaces, List.filter_eq_nil_iff,
    List.forall_mem_map]
  refine forall₂_congr fun piece _ => ?_
  simp [← String.toList_inj]

end Scaffold.Text
