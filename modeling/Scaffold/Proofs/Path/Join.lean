import Scaffold.Path

/-!
# Names in a directory

`Path.join dir name` walks to the directory and takes one more step.  That holds for a proper name,
one that holds no slash and is neither empty nor a step that stays or goes up; whatever the
directory is spelled like, two proper names in it are told apart by the last step.
-/

set_option autoImplicit false

namespace Scaffold

namespace Text

theorem pieces_of_notMem {sep : Char} : ∀ {s : List Char}, sep ∉ s → pieces sep s = [s] := by
  intro s
  induction s with
  | nil => intro _; rfl
  | cons c rest ih =>
      intro absent
      rw [List.mem_cons, not_or] at absent
      simp only [pieces, if_neg (Ne.symm absent.1), ih absent.2]

theorem pieces_append_cons (sep : Char) (behind : List Char) :
    ∀ before : List Char, pieces sep (before ++ sep :: behind) =
      pieces sep before ++ pieces sep behind := by
  intro before
  induction before with
  | nil => simp [pieces]
  | cons c rest ih =>
      simp only [List.cons_append, pieces]
      by_cases isSep : c = sep
      · simp only [if_pos isSep, ih, List.cons_append]
      · simp only [if_neg isSep, ih]
        cases front : pieces sep rest with
        | nil => exact absurd front (pieces_ne_nil sep rest)
        | cons first others => rfl

end Text

namespace Path

def IsName (name : String) : Prop :=
  '/' ∉ name.toList ∧ name ≠ "" ∧ name ≠ "." ∧ name ≠ ".."

instance (name : String) : Decidable (IsName name) := by
  unfold IsName
  infer_instance

variable {name : String}

theorem pieces_name (proper : IsName name) : pieces name = [name] := by
  simp [pieces, Text.pieces_of_notMem proper.1]

theorem not_isAbsolute_name (proper : IsName name) : isAbsolute name = false := by
  unfold isAbsolute
  cases spelled : name.toList with
  | nil => rfl
  | cons c rest =>
      have notSlash : c ≠ '/' := by
        rintro rfl
        exact proper.1 (by simp [spelled])
      simp [notSlash]

theorem pieces_append_slash (dir behind : String) :
    pieces (dir ++ "/" ++ behind) = pieces dir ++ pieces behind := by
  have spelled : (dir ++ "/" ++ behind).toList = dir.toList ++ '/' :: behind.toList := by simp
  simp only [pieces, spelled, Text.pieces_append_cons, List.map_append]

theorem exists_of_getLast?_slash {dir : String} (ends : dir.toList.getLast? = some '/') :
    ∃ front : String, dir = front ++ "/" := by
  obtain ⟨chars, spelled⟩ := List.getLast?_eq_some_iff.mp ends
  refine ⟨String.ofList chars, ?_⟩
  apply String.toList_injective
  simp [spelled]

/-- The pieces of a name in a directory: in front of the name stand pieces with the steps of the
directory, which its spelling with or without a slash at the end does not change. -/
theorem pieces_join (dir : String) (proper : IsName name) :
    ∃ front, pieces (join dir name) = front ++ [name] ∧
      (front.filter fun p => p ≠ "" && p ≠ ".") = steps dir := by
  have relative : name.toList.head? ≠ some '/' := by
    simpa [isAbsolute] using not_isAbsolute_name proper
  unfold join
  rw [if_neg relative]
  by_cases empty : dir = ""
  · subst empty
    exact ⟨[], by simp [pieces_name proper], rfl⟩
  · by_cases ends : dir.toList.getLast? = some '/'
    · obtain ⟨front, rfl⟩ := exists_of_getLast?_slash ends
      have bare : pieces (front ++ "/") = pieces front ++ [""] := by
        have split := pieces_append_slash front ""
        rwa [String.append_empty] at split
      rw [if_pos (Or.inr ends)]
      refine ⟨pieces front, ?_, ?_⟩
      · rw [pieces_append_slash, pieces_name proper]
      · simp [steps, bare]
    · rw [if_neg (not_or.mpr ⟨empty, ends⟩)]
      exact ⟨pieces dir, by rw [pieces_append_slash, pieces_name proper], rfl⟩

/-- The steps of a name in a directory are those of the directory and the name. -/
theorem steps_join (dir : String) (proper : IsName name) :
    steps (join dir name) = steps dir ++ [name] := by
  obtain ⟨front, spelled, walked⟩ := pieces_join dir proper
  have kept : (name ≠ "" && name ≠ ".") = true := by
    simp [proper.2.1, proper.2.2.1]
  simp only [steps, spelled, List.filter_append, List.filter_cons, kept, if_true, List.filter_nil]
  rw [walked, steps]

theorem not_endsInDirectory_join (dir : String) (proper : IsName name) :
    endsInDirectory (join dir name) = false := by
  obtain ⟨front, spelled, _⟩ := pieces_join dir proper
  simp [endsInDirectory, spelled, proper.2.1, proper.2.2.1]

theorem isAbsolute_join (dir : String) (proper : IsName name) :
    isAbsolute (join dir name) = isAbsolute dir := by
  have relative := not_isAbsolute_name proper
  unfold join
  rw [if_neg (by simpa [isAbsolute] using relative)]
  cases spelled : dir.toList with
  | nil =>
      obtain rfl : dir = "" := by simpa using spelled
      simpa [isAbsolute] using relative
  | cons c rest => split <;> simp [isAbsolute, spelled]

end Path

end Scaffold
