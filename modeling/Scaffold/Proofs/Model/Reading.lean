import Scaffold.Proofs.Package.Alike
import Scaffold.Proofs.Model.Repository
import Scaffold.Proofs.Model.Criteria
import Scaffold.Proofs.Model.IdParser
import Scaffold.Proofs.Model.Wrapper

/-!
# Whose directives a builder reads

Besides its own directives the builder of repositories reads those for the package and the
stand-alone plurals, and the builder of wrappers those for setters.  What else the comments of a
package say makes no difference to any builder (`comments_of_others_ignored`): of two packages that
are alike for the targets that it reads, each builder makes the same, be it a model or an error.
-/

set_option autoImplicit false

namespace Scaffold

variable {first second package models : Package} {files : List SourceFile}

namespace Repository

/-- The targets of the directives that repositories depend on. -/
def reads : List String := [target, "plural", "repo"]

theorem build_withFiles (keeps : package.KeepsAbove files reads)
    (same : ∀ topic, (package.withFiles files).directives "repo" topic =
      package.directives "repo" topic) :
    build (package.withFiles files) = build package := by
  have entities : (package.withFiles files).entities target interfaceOf =
      package.entities target interfaceOf :=
    Package.entities_withFiles (by decide) keeps fun decl declared directives =>
      interfaceOf_withFiles directives (keeps decl declared "plural" (by decide))
  rw [build_eq, build_eq, entities]
  unfold packageLines
  rw [same, same]
  rfl

end Repository

namespace Criteria

/-- The targets of the directives that criteria depend on. -/
def reads : List String := [target]

theorem build_withFiles (keeps : package.KeepsAbove files reads) :
    build (package.withFiles files) = build package := by
  rw [build_eq, build_eq, Package.entities_withFiles (by decide) keeps fun _ _ directives =>
    criteriaTypeOf_withFiles files directives]
  rfl

end Criteria

namespace Setter

/-- The targets of the directives that setters depend on. -/
def reads : List String := [target]

theorem build_withFiles (keeps : package.KeepsAbove files reads) :
    build (package.withFiles files) = build package := by
  rw [build_eq, build_eq, Package.entities_withFiles (by decide) keeps fun _ _ directives =>
    setterOf_withFiles files directives]
  rfl

end Setter

namespace IdParser

/-- The targets of the directives that parsers depend on. -/
def reads : List String := [target]

theorem build_withFiles (keeps : package.KeepsAbove files reads) :
    build (package.withFiles files) = build package := by
  rw [build_eq, build_eq, Package.entities_withFiles (by decide) keeps fun _ _ directives =>
    parserOf_withFiles files directives]
  rfl

end IdParser

namespace Wrapper

/-- The targets of the directives that wrappers depend on. -/
def reads : List String := [target, Setter.target]

theorem build_withFiles (keeps : package.KeepsAbove files reads) :
    build (package.withFiles files) models = build package models := by
  rw [build_eq, build_eq,
    Package.entities_withFiles (by decide) keeps fun decl declared directives =>
      wrappedRecordOf_withFiles directives (keeps decl declared Setter.target (by decide))]
  rfl

end Wrapper

/-- Two packages that differ only in comments with directives for others lead each builder to the
same model or to the same error. -/
theorem comments_of_others_ignored (first second models : Package) :
    (first.AlikeFor Repository.reads second → Repository.build first = Repository.build second) ∧
    (first.AlikeFor Criteria.reads second → Criteria.build first = Criteria.build second) ∧
    (first.AlikeFor Setter.reads second → Setter.build first = Setter.build second) ∧
    (first.AlikeFor IdParser.reads second → IdParser.build first = IdParser.build second) ∧
    (first.AlikeFor Wrapper.reads second →
      Wrapper.build first models = Wrapper.build second models) := by
  refine ⟨fun alike => ?_, fun alike => ?_, fun alike => ?_, fun alike => ?_, fun alike => ?_⟩
  · rw [alike.eq_withFiles]
    refine (Repository.build_withFiles alike.keepsAbove fun topic => ?_).symm
    rw [← alike.eq_withFiles, alike.directives (by decide)]
  · rw [alike.eq_withFiles, Criteria.build_withFiles alike.keepsAbove]
  · rw [alike.eq_withFiles, Setter.build_withFiles alike.keepsAbove]
  · rw [alike.eq_withFiles, IdParser.build_withFiles alike.keepsAbove]
  · rw [alike.eq_withFiles, Wrapper.build_withFiles alike.keepsAbove]

/-- The second line above a record is for another builder, or for none. -/
theorem comments_of_others_ignored_widget :
    let widget : TypeDecl :=
      ⟨"Widget", ⟨"shop.go", 4, 6⟩, .struct [⟨"ID", .basic .int, "repogen:\"pk\"", false⟩]⟩
    let shop (own line : String) : Package :=
      ⟨"shop", "example.com/shop", [⟨"shop.go", [⟨[⟨own, 2⟩, ⟨line, 3⟩]⟩]⟩], [widget]⟩
    let models : Package := ⟨"models", "example.com/shop/models", [], [widget]⟩
    Repository.build (shop "//repogen:crud" "//repogen:search") =
        Repository.build (shop "//repogen:crud" "//repogen:setter:rename Name") ∧
      Criteria.build (shop "//repogen:search" "//repogen:crud:plural Widgets") =
        Criteria.build (shop "//repogen:search" "Widget is what the shop sells.") ∧
      Setter.build (shop "//repogen:setter" "//repogen:bob:ops spin") =
        Setter.build (shop "//repogen:setter" "//go:generate repogen") ∧
      IdParser.build (shop "//repogen:parseid" "//repogen:crud") =
        IdParser.build (shop "//repogen:parseid" "//repogen: parseid") ∧
      Wrapper.build (shop "//repogen:bob" "//repogen:parseid") models =
        Wrapper.build (shop "//repogen:bob" "//repogen:repo:extra Close() error") models := by
  intro widget shop models
  have alike {targets : List String} (own : String) {first second : String}
      (unread : ¬ (Comment.mk first 3).Addresses targets ∧
        ¬ (Comment.mk second 3).Addresses targets) :
      (shop own first).AlikeFor targets (shop own second) := by
    refine ⟨rfl, rfl, rfl, .cons ⟨rfl, .cons ?_ .nil⟩ .nil⟩
    exact .cons ⟨rfl, .inl rfl⟩ (.cons ⟨rfl, .inr unread⟩ .nil)
  have ignored (first second : Package) := comments_of_others_ignored first second models
  exact ⟨(ignored _ _).1 (alike _ (by decide +kernel)),
    (ignored _ _).2.1 (alike _ (by decide +kernel)),
    (ignored _ _).2.2.1 (alike _ (by decide +kernel)),
    (ignored _ _).2.2.2.1 (alike _ (by decide +kernel)),
    (ignored _ _).2.2.2.2 (alike _ (by decide +kernel))⟩

end Scaffold
