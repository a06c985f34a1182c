import Scaffold.Formatter
import Scaffold.Proofs.Text.Blank

/-!
# Verdicts of formatters

The words of a command line are the program and its arguments (`parse_eq_some_iff`).  A program that
has run either accepts a text or rejects it.  It accepts when it ends successfully and is `Silent`,
which leaves blanks on standard error out of account; the reason of every other one is what it says
there, without the blanks at the end, or its status in words when it says nothing (`Rejects`).
`judge` decides just this (`judge_eq_accepted_iff`, `judge_eq_rejected_iff`).
-/

set_option autoImplicit false

namespace Scaffold.Formatter

open Program Text

variable {output : Output} {text reason : String}

/-! ## Command lines -/

theorem parse_eq_none_iff : parse text = none ↔ Blank text.toList := by
  rw [← spaced_nil_iff, ← blankSeparated_eq_iff, parse]
  cases blankSeparated text.toList <;> simp

theorem parse_eq_some_iff {program : String} {args : List String} :
    parse text = some ⟨program, args⟩ ↔
    Spaced ((program :: args).map String.toList) text.toList := by
  rw [← blankSeparated_eq_iff, parse]
  cases blankSeparated text.toList with
  | nil => simp
  | cons first rest =>
      have spelled (word : List Char) (text : String) : String.ofList word = text ↔
          word = text.toList := by
        rw [← String.toList_inj, String.toList_ofList]
      have others : rest.map String.ofList = args ↔ rest = args.map String.toList := by
        constructor
        · rintro rfl
          simp [Function.comp_def]
        · rintro rfl
          simp [Function.comp_def]
      simp [spelled, others]

/-! ## Programs that have run -/

def complaint (output : Output) : String := Utf8.decodeLossy output.stderr

def Silent (output : Output) : Prop := Blank (complaint output).toList

/-- The reason for which a text is rejected by a program that has run on it. -/
inductive Rejects (output : Output) : String → Prop where
  | said {reason blanks : String} (spelled : complaint output = reason ++ blanks)
    (blank : Blank blanks.toList)
      (trimmed : Trimmed reason.toList) (nonempty : reason ≠ "") : Rejects output reason
  | failed (silent : Silent output)
    (status : output.status ≠ .exited 0) : Rejects output output.status.text

theorem success_iff (status : Status) : status.success = true ↔ status = .exited 0 := by
  cases status with
  | exited code => cases code <;> simp [Status.success]
  | killed => simp [Status.success]

theorem report_eq_empty_iff : report output = "" ↔ Silent output := by
  rw [report, ← String.toList_inj, String.toList_ofList]
  exact trimEnd_eq_nil_iff

theorem report_eq_iff : report output = reason ↔
    Trimmed reason.toList ∧ ∃ blanks : String, Blank blanks.toList ∧
      complaint output = reason ++ blanks := by
  rw [report, ← String.toList_inj, String.toList_ofList, trimEnd_eq_iff]
  refine and_congr_right fun _ => ⟨?_, ?_⟩
  · rintro ⟨blanks, blank, spelled⟩
    refine ⟨String.ofList blanks, by rwa [String.toList_ofList], ?_⟩
    rw [← String.toList_inj, String.toList_append, String.toList_ofList]
    exact spelled
  · rintro ⟨blanks, blank, spelled⟩
    refine ⟨blanks.toList, blank, ?_⟩
    rw [← String.toList_append, ← spelled]
    rfl

theorem judge_eq_accepted_iff : judge output = .accepted text ↔
    output.status = .exited 0 ∧ Silent output ∧ text = Utf8.decodeLossy output.stdout := by
  rw [← success_iff, ← report_eq_empty_iff, judge]
  by_cases silent : report output = ""
  · cases ended : output.status.success with
    | true => simp [silent, eq_comm]
    | false => simp [silent]
  · simp [silent]

theorem judge_eq_rejected_iff : judge output = .rejected reason ↔ Rejects output reason := by
  constructor
  · intro judged
    by_cases silent : report output = ""
    · cases ended : output.status.success with
      | true => simp [judge, silent, ended] at judged
      | false =>
          obtain rfl : output.status.text = reason := by simpa [judge, silent, ended] using judged
          refine .failed (report_eq_empty_iff.mp silent) fun success => ?_
          rw [(success_iff _).mpr success] at ended
          cases ended
    · obtain same : report output = reason := by simpa [judge, silent] using judged
      obtain ⟨trimmed, blanks, blank, spelled⟩ := report_eq_iff.mp same
      exact .said spelled blank trimmed (same ▸ silent)
  · intro rejected
    cases rejected with
    | @said reason blanks spelled blank trimmed nonempty =>
        have same : report output = reason := report_eq_iff.mpr ⟨trimmed, blanks, blank, spelled⟩
        simp [judge, same, nonempty]
    | failed silent status =>
        have ended : output.status.success = false :=
          Bool.eq_false_iff.mpr fun success => status ((success_iff _).mp success)
        simp [judge, report_eq_empty_iff.mpr silent, ended]

theorem exists_judge_eq_rejected (unaccepted : output.status ≠ .exited 0 ∨ ¬ Silent output) :
    ∃ reason, Rejects output reason ∧ judge output = .rejected reason := by
  cases judged : judge output with
  | accepted text =>
      obtain ⟨success, silent, _⟩ := judge_eq_accepted_iff.mp judged
      rcases unaccepted with failed | loud
      · exact absurd success failed
      · exact absurd silent loud
  | rejected reason => exact ⟨reason, judge_eq_rejected_iff.mp judged, rfl⟩
  | notStarted cause =>
      unfold judge at judged
      split_ifs at judged

section
variable {programs : Programs} {command : Command}

theorem format_of_ok (ran : programs command (Utf8.encode text) = .ok output) :
    format programs command text = judge output := by
  simp only [format, ran]

theorem format_of_error {cause : StartCause}
    (refused : programs command (Utf8.encode text) = .error cause) :
    format programs command text = .notStarted cause := by
  simp only [format, refused]

end

end Scaffold.Formatter
