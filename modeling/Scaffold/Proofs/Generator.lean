import Scaffold.Generator
import Scaffold.Proofs.Emission

/-!
# What a generator leaves at its output

A prepared generator edits no other path than its output (`prepare_editsOnly`), and the generators
of the first wave are apart from each other and from every wrapper, since their file names differ
(`firstWave_apart`).  `Generator.Leaves` says case by case what stands at the output of a generator
that has been performed alone.
-/

set_option autoImplicit false

namespace Scaffold

open FileSystem
open Program (Command)

namespace Emission

variable {α : Type} {emission : Emission α} {path : String} {files : FileSystem}

theorem writing_editsOnly (programs : Programs) (formatter : Option Command)
    (target path text : String) (value : α) :
    (writing programs formatter target path text value).EditsOnly path := by
  intro edit edited
  unfold writing at edited
  split at edited
  · cases edited
    rfl
  · split at edited
    · cases edited
      rfl
    · cases edited
      rfl
    · cases edited

theorem at?_perform (edit : Edit) (edited : emission.edit = some edit)
    (replaceable : files.Replaceable edit.path) (ends : Path.endsInDirectory edit.path = false) :
    (emission.perform files).2.at? edit.path = edit.content? := by
  obtain ⟨changed, applied⟩ := Edit.apply_of_replaceable replaceable ends
  simp only [perform, edited, applied]
  exact (Edit.made_of_apply applied).there

theorem perform_of_not_replaceable (own : emission.EditsOnly path)
    (stuck : ¬ files.Replaceable path) :
    (emission.perform files).2 = files := by
  rcases perform_cases emission files with unchanged | ⟨edit, edited, applied⟩
  · exact unchanged
  · obtain rfl := own edit edited
    exact Edit.eq_of_not_replaceable stuck applied

end Emission

namespace Generator

variable {generator : Generator} {package : Package}

theorem prepare_editsOnly (generator : Generator) (programs : Programs) (formatter : Option Command)
    (dir : String) (package : Package) :
    (generator.prepare programs formatter dir package).EditsOnly (generator.outputPath dir) := by
  intro edit edited
  unfold prepare at edited
  cases built : generator.build package with
  | error diagnostic => simp [built, Emission.failed] at edited
  | ok product =>
      simp only [built, emissionOf] at edited
      split_ifs at edited with empty
      · cases edited
        rfl
      · split at edited
        · cases edited
        · exact Emission.writing_editsOnly programs formatter _ _ _ _ edit edited

theorem fileName_isName : ∀ generator ∈ firstWave, Path.IsName generator.fileName := by
  simp only [firstWave, List.forall_mem_cons]
  refine ⟨?_, ?_, ?_, ?_, fun _ member => absurd member List.not_mem_nil⟩ <;> decide +kernel

theorem isPlain_prepare (generator : Generator) (named : Path.IsName generator.fileName)
    (programs : Programs) (formatter : Option Program.Command) (dir : String) (package : Package) :
    (generator.prepare programs formatter dir package).IsPlain :=
  ⟨generator.outputPath dir, prepare_editsOnly generator programs formatter dir package,
    Path.not_endsInDirectory_join dir named⟩

theorem wrapperFile_isName : Path.IsName wrapperFile := by decide +kernel

theorem fileName_nodup : (wrapperFile :: firstWave.map fileName).Nodup := by decide +kernel

theorem firstWave_apart (programs : Programs) (formatter : Option Command) (dir : String)
    (package : Package) :
    firstWave.Pairwise (Emission.Apart (·.outputPath dir)
      (·.prepare programs formatter dir package)) := by
  have distinct := (List.nodup_cons.mp fileName_nodup).2
  rw [List.Nodup, List.pairwise_map] at distinct
  apply List.Pairwise.imp_of_mem _ distinct
  intro first second firstMember secondMember ne files
  have own := fun generator : Generator =>
    prepare_editsOnly generator programs formatter dir package
  have proper := fileName_isName first firstMember
  have proper' := fileName_isName second secondMember
  exact ⟨Emission.perform_agreeAt_sibling proper' proper (Ne.symm ne) (own first) files,
    Emission.perform_agreeAt_sibling proper proper' ne (own second) files⟩

/-- The text that a generator renders from the model of a package, which is not empty. -/
def Renders (generator : Generator) (package : Package) (text : String) : Prop :=
  ∃ product, generator.build package = .ok product ∧ product.size ≠ 0 ∧
    Template.render generator.template product.data = .ok text

/-- What a generator makes of the file at its output, case by case. -/
structure Leaves (generator : Generator) (programs : Programs) (formatter : Option Command)
    (package : Package) (path : String) (before after : FileSystem) : Prop where
  /-- The model cannot be built. -/
  faulty : ∀ diagnostic, generator.build package = .error diagnostic →
    after.at? path = before.at? path
  unrendered : ∀ product failure, generator.build package = .ok product → product.size ≠ 0 →
    Template.render generator.template product.data = .error failure →
    after.at? path = before.at? path
  notStarted : ∀ text command cause, generator.Renders package text → formatter = some command →
    Formatter.format programs command text = .notStarted cause → after.at? path = before.at? path
  /-- No file can be put there: the path leads nowhere, or to a directory. -/
  stuck : ¬ before.Replaceable path → after.at? path = before.at? path
  /-- There is nothing to generate. -/
  deleted : ∀ product, generator.build package = .ok product → product.size = 0 →
    before.Replaceable path → after.at? path = none
  unformatted : ∀ text, generator.Renders package text → formatter = none →
    before.Replaceable path → after.at? path = some (.file (Text.Utf8.encode text))
  formatted : ∀ text command result, generator.Renders package text → formatter = some command →
    Formatter.format programs command text = .accepted result →
    before.Replaceable path → after.at? path = some (.file (Text.Utf8.encode result))
  rejected : ∀ text command reason, generator.Renders package text → formatter = some command →
    Formatter.format programs command text = .rejected reason →
    before.Replaceable path → after.at? path = some (.file (Text.Utf8.encode text))

theorem Leaves.congr {programs : Programs} {formatter : Option Command} {path : String}
    {before after after' : FileSystem}
    (leaves : generator.Leaves programs formatter package path before after)
    (same : after'.at? path = after.at? path) :
    generator.Leaves programs formatter package path before after' := by
  constructor <;> rw [same]
  · exact leaves.faulty
  · exact leaves.unrendered
  · exact leaves.notStarted
  · exact leaves.stuck
  · exact leaves.deleted
  · exact leaves.unformatted
  · exact leaves.formatted
  · exact leaves.rejected

theorem prepare_of_renders {text : String} (rendered : generator.Renders package text)
    (programs : Programs) (formatter : Option Command) (dir : String) :
    ∃ value, generator.prepare programs formatter dir package =
      .writing programs formatter generator.target (generator.outputPath dir) text value := by
  obtain ⟨product, built, size, rendered⟩ := rendered
  refine ⟨⟨generator.target, generator.outputPath dir, product.size⟩, ?_⟩
  simp only [prepare, built, emissionOf, if_neg size, rendered]

theorem prepare_leaves (named : Path.IsName generator.fileName) (programs : Programs)
    (formatter : Option Command) (dir : String) (package : Package) (files : FileSystem) :
    generator.Leaves programs formatter package (generator.outputPath dir) files
      ((generator.prepare programs formatter dir package).perform files).2 := by
  have ends : Path.endsInDirectory (generator.outputPath dir) = false :=
    Path.not_endsInDirectory_join dir named
  constructor
  case faulty =>
    intro diagnostic built
    simp only [prepare, built, Emission.perform_failed]
  case unrendered =>
    intro product failure built size failed
    simp only [prepare, built, emissionOf, if_neg size, failed, Emission.perform_failed]
  case notStarted =>
    rintro text command cause rendered rfl format
    obtain ⟨value, prepared⟩ := prepare_of_renders rendered programs (some command) dir
    rw [prepared]
    simp only [Emission.writing, format, Emission.perform_failed]
  case stuck =>
    intro stuck
    have own := prepare_editsOnly generator programs formatter dir package
    rw [Emission.perform_of_not_replaceable own stuck]
  case deleted =>
    intro product built size replaceable
    apply Emission.at?_perform (.delete (generator.outputPath dir)) _ replaceable ends
    simp only [prepare, built, emissionOf, if_pos size, Emission.removal]
  case unformatted =>
    rintro text rendered rfl replaceable
    obtain ⟨value, prepared⟩ := prepare_of_renders rendered programs none dir
    apply Emission.at?_perform (.write (generator.outputPath dir) text) _ replaceable ends
    rw [prepared]
    rfl
  case formatted =>
    rintro text command result rendered rfl format replaceable
    obtain ⟨value, prepared⟩ := prepare_of_renders rendered programs (some command) dir
    apply Emission.at?_perform (.write (generator.outputPath dir) result) _ replaceable ends
    rw [prepared]
    simp only [Emission.writing, format]
  case rejected =>
    rintro text command reason rendered rfl format replaceable
    obtain ⟨value, prepared⟩ := prepare_of_renders rendered programs (some command) dir
    apply Emission.at?_perform (.write (generator.outputPath dir) text) _ replaceable ends
    rw [prepared]
    simp only [Emission.writing, format]

end Generator

end Scaffold
