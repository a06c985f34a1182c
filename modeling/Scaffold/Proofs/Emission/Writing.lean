import Scaffold.Proofs.Formatter
import Scaffold.Proofs.Generator

/-!
# The text that is left

`writing_settles` goes through all that a formatter can do to a text: which text becomes the file
then, and what is reported.  A file that cannot be written is reported in place of everything else,
and leaves all files as they were; a formatter that cannot be started does so too.
-/

set_option autoImplicit false

namespace Scaffold

open Checked FileSystem Text

namespace FileSystem

variable {before after : FileSystem} {path : String}

theorem readText_of_write {text : String}
    (written : before.write path (Utf8.encode text) = .ok after) :
    after.readText path = .ok text := by
  obtain ⟨location, located, _⟩ := bind_eq_ok.mp written
  rw [write_of_locate located] at written
  split_ifs at written with directory ends
  obtain rfl := Except.ok.inj written
  have same : SameDirectories before (before.setAt location (some (.file (Utf8.encode text)))) :=
    sameDirectories_setAt directory (by simp)
  have stands := node?_put directory (.file (Utf8.encode text)) location
  rw [if_pos rfl] at stands
  have located' : (before.put location (.file (Utf8.encode text))).locate path = .ok location :=
    same.locate_eq_ok located
  simp [readText, read, located', stands, ends, Utf8.decode?_encode, bind, Except.bind]

end FileSystem

namespace Emission

open Formatter Program

variable {α : Type} {files : FileSystem} {path content : String} {report : Except Failure α}

/-- What comes of an attempt to make a text the file at a path. -/
structure Settles (path content : String) (report : Except Failure α) (before : FileSystem)
    (outcome : Except Failure α × FileSystem) : Prop where
  written : ∀ after, before.write path (Utf8.encode content) = .ok after →
    outcome = (report, after) ∧ after.readText path = .ok content
  refused : ∀ cause, before.write path (Utf8.encode content) = .error cause →
    outcome = (.error (.output path cause), before)

theorem settles_perform (path content : String) (report : Except Failure α) (files : FileSystem) :
    Settles path content report files (perform ⟨some (.write path content), report⟩ files) where
  written after written := by
    refine ⟨?_, readText_of_write written⟩
    simp only [perform, Edit.apply, written]
  refused cause refused := by
    simp only [perform, Edit.apply, refused]
    rfl

/-- Whatever a formatter does, the right text becomes the file, or none does, and the report says
so. -/
theorem writing_settles (programs : Programs) (formatter : Option Command)
    (target path text : String) (value : α) (files : FileSystem) :
    let outcome := (writing programs formatter target path text value).perform files
    (formatter = none → Settles path text (.ok value) files outcome) ∧
    (∀ command cause, formatter = some command →
      programs command (Utf8.encode text) = .error cause →
        outcome = (.error (.notStarted target command.program cause), files)) ∧
    (∀ command output, formatter = some command → programs command (Utf8.encode text) = .ok output →
      (output.status = .exited 0 ∧ Silent output →
        Settles path (Utf8.decodeLossy output.stdout) (.ok value) files outcome) ∧
      (output.status ≠ .exited 0 ∨ ¬ Silent output →
        ∃ reason, Rejects output reason ∧
          Settles path text (.error (.rejected target reason)) files outcome)) ∧
    DifferOnlyAt [path] files outcome.2 := by
  intro outcome
  refine ⟨?_, ?_, ?_, ?_⟩
  · rintro rfl
    exact settles_perform path text _ files
  · rintro command cause rfl refused
    simp only [outcome, writing, format_of_error refused, perform_failed]
  · rintro command output rfl ran
    refine ⟨?_, ?_⟩
    · rintro ⟨success, silent⟩
      have accepted := judge_eq_accepted_iff.mpr ⟨success, silent, rfl⟩
      simp only [outcome, writing, format_of_ok ran, accepted]
      exact settles_perform path _ _ files
    · intro unaccepted
      obtain ⟨reason, rejects, rejected⟩ := exists_judge_eq_rejected unaccepted
      refine ⟨reason, rejects, ?_⟩
      simp only [outcome, writing, format_of_ok ran, rejected]
      exact settles_perform path text _ files
  · exact perform_differOnlyAt (writing_editsOnly programs formatter target path text value) files

/-- A formatter that ends successfully but warns has rejected the text. -/
theorem writing_settles_warned :
    let output : Output :=
      ⟨.exited 0, Utf8.encode "package shop\n", Utf8.encode "  x: unused\u00a0\n"⟩
    let text := "package  shop\n"
    let outcome :=
      (writing (fun _ _ => .ok output) (some ⟨"gofmt", []⟩) "crud" "out.go" text ()).perform
        (.empty [])
    outcome.1 = .error (.rejected "crud" "  x: unused") ∧
      outcome.2.readText "out.go" = .ok text := by
  intro output text outcome
  obtain ⟨_, _, ran, _⟩ :=
    writing_settles (fun _ _ => .ok output) (some ⟨"gofmt", []⟩) "crud" "out.go" text () (.empty [])
  have judged : judge output = .rejected "  x: unused" := by decide +kernel
  have loud : ¬ Silent output := fun silent => by
    rw [← report_eq_empty_iff] at silent
    revert silent
    decide +kernel
  obtain ⟨reason, rejects, settles⟩ := (ran _ output rfl rfl).2 (.inr loud)
  cases (judge_eq_rejected_iff.mpr rejects).symm.trans judged
  have located : (FileSystem.empty []).locate "out.go" = .ok ["out.go"] := by rfl
  have written : (FileSystem.empty []).write "out.go" (Utf8.encode text) =
      .ok ((FileSystem.empty []).put ["out.go"] (.file (Utf8.encode text))) := by
    have free : (FileSystem.empty []).node? ["out.go"] ≠ some .directory := by
      simp [node?, FileSystem.empty]
    have ends : Path.endsInDirectory "out.go" = false := by decide +kernel
    rw [write_of_locate located, if_neg free, if_neg (by simp [ends])]
  obtain ⟨same, readable⟩ := settles.written _ written
  have report : outcome = _ := same
  rw [report]
  exact ⟨rfl, readable⟩

end Emission

end Scaffold
