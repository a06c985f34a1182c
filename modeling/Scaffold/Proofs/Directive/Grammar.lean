import Mathlib.Data.List.Basic
import Mathlib.Data.List.TakeWhile
import Scaffold.Directive

/-!
# The grammar of directives

A comment addresses a directive in four forms: a target alone, which may be empty; a target with
arguments behind a space; a target with a topic behind a colon; and both.  What stands behind the
first space or colon may hold any further ones, a topic alone ends at a space.  Reading accepts
exactly these comments, so a directive that is written down is read back, whatever its arguments are
(`parse_accepts_forms`).
-/

set_option autoImplicit false

namespace Scaffold

/-! ## Cutting at the first separator -/

namespace Text

variable {sep : Char} {before : List Char}

theorem cut_of_notMem (absent : sep ∉ before) : cut sep before = (before, none) := by
  have plain : ∀ c ∈ before, decide (c ≠ sep) = true := fun c member =>
    decide_eq_true (ne_of_mem_of_not_mem member absent)
  rw [cut, List.takeWhile_eq_self_iff.mpr plain, List.dropWhile_eq_nil_iff.mpr plain]
  rfl

theorem cut_append_cons (absent : sep ∉ before) (behind : List Char) :
    cut sep (before ++ sep :: behind) = (before, some behind) := by
  have plain : ∀ c ∈ before, decide (c ≠ sep) = true := fun c member =>
    decide_eq_true (ne_of_mem_of_not_mem member absent)
  rw [cut, List.takeWhile_append_of_pos plain, List.dropWhile_append_of_pos plain]
  simp

end Text

namespace Directive

variable {comment target : String} {d : Directive}

/-! ## Forms of a comment -/

def IsTarget (target : String) : Prop := ∀ c ∈ target.toList, c ≠ ' ' ∧ c ≠ ':'

instance : DecidablePred IsTarget := fun target =>
  List.decidableBAll (fun c : Char => c ≠ ' ' ∧ c ≠ ':') target.toList

inductive Spells : String → Directive → Prop where
  | bare {target : String} (plain : IsTarget target) : Spells (marker ++ target) ⟨target, "", ""⟩
  | withArgs {target : String} (plain : IsTarget target) (named : target ≠ "") (args : String) :
      Spells (marker ++ (target ++ " " ++ args)) ⟨target, "", args⟩
  | withTopic {target topic : String} (plain : IsTarget target) (named : target ≠ "")
      (whole : ' ' ∉ topic.toList) : Spells (marker ++ (target ++ ":" ++ topic)) ⟨target, topic, ""⟩
  | withBoth {target topic : String} (plain : IsTarget target) (named : target ≠ "")
      (whole : ' ' ∉ topic.toList) (args : String) :
      Spells (marker ++ (target ++ ":" ++ topic ++ " " ++ args)) ⟨target, topic, args⟩

/-- The shortest comment for a directive: no colon without a topic, no space without arguments. -/
def write (d : Directive) : String :=
  marker ++ d.target ++ (if d.topic = "" then "" else ":" ++ d.topic)
    ++ (if d.args = "" then "" else " " ++ d.args)

theorem spells_write (plain : IsTarget d.target) (named : d.target ≠ "")
    (whole : ' ' ∉ d.topic.toList) :
    Spells d.write d := by
  obtain ⟨target, topic, args⟩ := d
  unfold write
  by_cases noTopic : topic = "" <;> by_cases noArgs : args = ""
  · subst noTopic noArgs
    simpa using Spells.bare plain
  · subst noTopic
    simpa [noArgs, String.append_assoc] using Spells.withArgs plain named args
  · subst noArgs
    simpa [noTopic, String.append_assoc] using Spells.withTopic plain named whole
  · simpa [noTopic, noArgs, String.append_assoc] using Spells.withBoth plain named whole args

/-! ## Reading a form -/

theorem isTargetChar_iff {c : Char} : isTargetChar c = true ↔ c ≠ ' ' ∧ c ≠ ':' := by
  rw [isTargetChar, Bool.and_eq_true, decide_eq_true_iff, decide_eq_true_iff]

theorem parse_marker_append (body : String) : parse (marker ++ body) = parseBody body.toList := by
  have behind : marker.toList.isPrefixOf? (marker ++ body).toList = some body.toList :=
    List.isPrefixOf?_eq_some_iff_append_eq.mpr (String.toList_append ..).symm
  rw [parse, behind, Option.bind_some]

theorem parseBody_target (plain : IsTarget target) :
    parseBody target.toList = some ⟨target, "", ""⟩ := by
  have all : ∀ c ∈ target.toList, isTargetChar c = true :=
    fun c member => isTargetChar_iff.mpr (plain c member)
  unfold parseBody
  rw [List.takeWhile_eq_self_iff.mpr all, List.dropWhile_eq_nil_iff.mpr all]
  exact congrArg (fun name => some (Directive.mk name "" "")) String.ofList_toList

theorem parseBody_separated (plain : IsTarget target) (named : target ≠ "") {separator : Char}
    (ends : isTargetChar separator = false) (tail : List Char) :
    parseBody (target.toList ++ separator :: tail) =
      if separator = ' ' then some ⟨target, "", String.ofList tail⟩
      else some ⟨target, String.ofList (Text.cut ' ' tail).1,
        String.ofList ((Text.cut ' ' tail).2.getD [])⟩ := by
  have all : ∀ c ∈ target.toList, isTargetChar c = true :=
    fun c member => isTargetChar_iff.mpr (plain c member)
  have nonempty : target.toList ≠ [] := by simpa using named
  unfold parseBody
  rw [List.takeWhile_append_of_pos all, List.dropWhile_append_of_pos all,
    List.takeWhile_cons_of_neg (by simp [ends]), List.dropWhile_cons_of_neg (by simp [ends]),
    List.append_nil]
  simp only [nonempty, if_false, String.ofList_toList]

theorem parse_of_spells (spelled : Spells comment d) : parse comment = some d := by
  cases spelled with
  | bare plain => rw [parse_marker_append, parseBody_target plain]
  | @withArgs target plain named args =>
      have body : (target ++ " " ++ args).toList = target.toList ++ ' ' :: args.toList := by simp
      rw [parse_marker_append, body, parseBody_separated plain named rfl, if_pos rfl,
        String.ofList_toList]
  | @withTopic target topic plain named whole =>
      have body : (target ++ ":" ++ topic).toList = target.toList ++ ':' :: topic.toList := by simp
      rw [parse_marker_append, body, parseBody_separated plain named rfl, if_neg (by decide),
        Text.cut_of_notMem whole, String.ofList_toList]
      rfl
  | @withBoth target topic plain named whole args =>
      have body : (target ++ ":" ++ topic ++ " " ++ args).toList =
          target.toList ++ ':' :: (topic.toList ++ ' ' :: args.toList) := by simp
      rw [parse_marker_append, body, parseBody_separated plain named rfl, if_neg (by decide),
        Text.cut_append_cons whole, String.ofList_toList, Option.getD_some, String.ofList_toList]

/-! ## What is read has a form -/

theorem exists_marker_of_parse (parsed : parse comment = some d) :
    ∃ body, comment = marker ++ body ∧ parseBody body.toList = some d := by
  obtain ⟨body, isBody, read⟩ := Option.bind_eq_some_iff.mp parsed
  refine ⟨String.ofList body, ?_, by rwa [String.toList_ofList]⟩
  rw [← String.toList_inj, String.toList_append, String.toList_ofList]
  exact (List.isPrefixOf?_eq_some_iff_append_eq.mp isBody).symm

theorem exists_target (body : List Char) :
    ∃ target, IsTarget target ∧ (body = target.toList ∨
      ∃ separator tail, isTargetChar separator = false ∧
        body = target.toList ++ separator :: tail) := by
  have whole := List.takeWhile_append_dropWhile (p := isTargetChar) (l := body)
  refine ⟨String.ofList (body.takeWhile isTargetChar), fun c member => ?_, ?_⟩
  · rw [String.toList_ofList] at member
    exact isTargetChar_iff.mp (List.mem_takeWhile_imp member)
  · rw [String.toList_ofList]
    cases rest : body.dropWhile isTargetChar with
    | nil => exact .inl (by rw [← List.append_nil (body.takeWhile _), ← rest, whole])
    | cons separator tail =>
        refine .inr ⟨separator, tail, ?_, by rw [← rest, whole]⟩
        have first := List.head?_dropWhile_not isTargetChar body
        simpa [rest] using first

theorem spells_of_colon {tail : List Char} (plain : IsTarget target) (named : target ≠ "") :
    Spells (marker ++ (target ++ ":" ++ String.ofList tail))
      ⟨target, String.ofList (Text.cut ' ' tail).1,
        String.ofList ((Text.cut ' ' tail).2.getD [])⟩ := by
  by_cases spaced : ' ' ∈ tail
  · obtain ⟨topic, args, rfl, whole⟩ := List.eq_append_cons_of_mem spaced
    have text : target ++ ":" ++ String.ofList (topic ++ ' ' :: args) =
        target ++ ":" ++ String.ofList topic ++ " " ++ String.ofList args := by
      rw [← String.toList_inj]
      simp
    rw [text, Text.cut_append_cons whole]
    exact .withBoth plain named (by rwa [String.toList_ofList]) (String.ofList args)
  · rw [Text.cut_of_notMem spaced]
    exact .withTopic plain named (by rwa [String.toList_ofList])

theorem spells_of_parse (parsed : parse comment = some d) : Spells comment d := by
  obtain ⟨body, rfl, read⟩ := exists_marker_of_parse parsed
  obtain ⟨target, plain, whole | ⟨separator, tail, ends, whole⟩⟩ := exists_target body.toList
  · rw [whole, parseBody_target plain] at read
    obtain rfl := Option.some.inj read
    rw [String.toList_inj.mp whole]
    exact .bare plain
  · have named : target ≠ "" := by
      rintro rfl
      rw [whole] at read
      simp [parseBody, ends] at read
    have spelled : body = target ++ String.singleton separator ++ String.ofList tail := by
      rw [← String.toList_inj, whole]
      simp
    rw [whole, parseBody_separated plain named ends] at read
    rw [spelled]
    by_cases space : separator = ' '
    · rw [if_pos space] at read
      obtain rfl := Option.some.inj read
      rw [space]
      exact .withArgs plain named (String.ofList tail)
    · have colon : separator = ':' := by
        by_contra other
        rw [isTargetChar_iff.mpr ⟨space, other⟩] at ends
        cases ends
      rw [if_neg space] at read
      obtain rfl := Option.some.inj read
      rw [colon]
      exact spells_of_colon plain named

/-- A comment is read as a directive exactly when it has one of the forms that address it.  So a
directive that can be told apart from its separators is read back from what is written for it. -/
theorem parse_accepts_forms :
    (∀ comment d, parse comment = some d ↔ Spells comment d) ∧
      ∀ d : Directive, IsTarget d.target → d.target ≠ "" → ' ' ∉ d.topic.toList →
        parse d.write = some d := by
  constructor
  · intro comment d
    exact ⟨spells_of_parse, parse_of_spells⟩
  · intro d plain named whole
    exact parse_of_spells (spells_write plain named whole)

/-- Later colons and spaces stay in the arguments. -/
theorem parse_accepts_forms_extra :
    let d : Directive := ⟨"repo", "extra", "Größe(ctx context.Context) (int: error)"⟩
    IsTarget d.target ∧ d.target ≠ "" ∧ ' ' ∉ d.topic.toList ∧
      d.write = "//repogen:repo:extra Größe(ctx context.Context) (int: error)" ∧
        parse d.write = some d := by
  intro d
  have plain : IsTarget d.target := by decide
  have named : d.target ≠ "" := by decide
  have whole : ' ' ∉ d.topic.toList := by decide
  exact ⟨plain, named, whole, rfl, parse_accepts_forms.2 d plain named whole⟩

end Directive

end Scaffold
