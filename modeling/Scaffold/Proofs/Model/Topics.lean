import Scaffold.Proofs.Model.Repository
import Scaffold.Proofs.Model.Criteria
import Scaffold.Proofs.Model.IdParser
import Scaffold.Proofs.Model.Wrapper

/-!
# Directives with an unknown topic

A builder of records fails on every package where some directive above a declaration has a topic
that the builder does not know, wherever in the block the directive stands and whatever surrounds it
(`unknown_topic_rejected`).  Identifier parsers differ: their builder does not look at the topic, so
that a directive with any topic counts as the one that asks for a parser
(`parser_built_under_unknown_topic`).
-/

set_option autoImplicit false

namespace Scaffold

open Checked

theorem Package.mem_directivesAbove {package : Package} {pos : Position} {target : String}
    {d : Directive} :
    d ∈ package.directivesAbove pos target ↔
      ∃ block, package.blockAbove? pos = some block ∧
        (∃ comment ∈ block.comments, Directive.parse comment.text = some d) ∧
          d.target = target := by
  unfold directivesAbove
  cases package.blockAbove? pos with
  | none => simp
  | some block => simp [List.mem_filter, List.mem_filterMap]

/-- A comment right above a declaration is a directive for the target with a topic that is not among
the given ones. -/
def Package.HasOtherTopic (package : Package) (target : String) (topics : List String) : Prop :=
  ∃ decl ∈ package.decls, ∃ block, package.blockAbove? decl.pos = some block ∧
    ∃ comment ∈ block.comments, ∃ d, Directive.parse comment.text = some d ∧
      d.target = target ∧ d.topic ∉ topics

/-- A builder fails on every package with a directive of another topic. -/
def RejectsOtherTopics {Model : Type} (build : Package → Except Diagnostic Model) (target : String)
    (topics : List String) : Prop :=
  ∀ {package : Package}, package.HasOtherTopic target topics →
    ∃ diagnostic, build package = .error diagnostic

/-- A builder with an entity for each annotated declaration rejects the topics that no entity
has. -/
theorem KeepsContract.rejectsOtherTopics {Model Entity : Type} {target : String}
    {entityOf : DirectiveIndex → TypeDecl → List Directive → Except Diagnostic Entity}
    {build : Package → Except Diagnostic Model} {part : Model → List Entity}
    {Describes : Package → TypeDecl → Entity → Prop}
    {Reports : Package → TypeDecl → Diagnostic → Prop}
    (contract : KeepsContract target entityOf (fun package => (build package).map part)
      Describes Reports)
    {topics : List String}
    (known : ∀ {index decl directives entity}, entityOf index decl directives = .ok entity →
      ∀ d ∈ directives, d.topic ∈ topics) :
    RejectsOtherTopics build target topics := by
  rintro package ⟨decl, declared, block, above, comment, member, d, parsed, addressed, unknown⟩
  have found : d ∈ package.directivesAbove decl.pos target :=
    Package.mem_directivesAbove.mpr ⟨block, above, ⟨comment, member, parsed⟩, addressed⟩
  have annotated : decl ∈ package.annotated target := by
    refine List.mem_filter.mpr ⟨declared, decide_eq_true fun empty => ?_⟩
    rw [empty] at found
    cases found
  exact contract.exists_error_of_unmade annotated fun entity made => unknown (known made d found)

/-! ## Topics that a builder knows -/

theorem topic_mem_of_foldlM {Entry : Type} {apply : Entry → Directive → Except Diagnostic Entry}
    {topics : List String}
    (known : ∀ {entry d next}, apply entry d = .ok next → d.topic ∈ topics)
    {directives : List Directive} {start last : Entry}
    (folded : directives.foldlM apply start = .ok last) :
    ∀ d ∈ directives, d.topic ∈ topics := by
  intro d member
  obtain ⟨entry, next, applied⟩ := exists_of_foldlM_eq_ok folded member
  exact known applied

namespace Repository

def topics : List String :=
  ["", "extra", "search", "repository", "plural", "*by", "createdby", "updatedby", "deletedby"]

theorem topic_mem_topics {subject : Subject} {entry next : Interface} {d : Directive}
    (applied : applyDirective subject entry d = .ok next) : d.topic ∈ topics := by
  unfold applyDirective at applied
  split at applied
  case h_10 => cases applied
  all_goals
    next topic =>
      rw [topic]
      decide

theorem rejectsOtherTopics : RejectsOtherTopics build target topics :=
  keepsContract.rejectsOtherTopics fun built => by
    obtain ⟨_, _, _, _, folded, _⟩ := interfaceOf_eq_ok built
    exact topic_mem_of_foldlM topic_mem_topics folded

end Repository

namespace Criteria

def topics : List String := ["", "extra"]

theorem rejectsOtherTopics : RejectsOtherTopics build target topics :=
  keepsContract.rejectsOtherTopics fun built => by
    obtain ⟨_, _, _, _, folded, _⟩ := criteriaTypeOf_eq_ok built
    rw [applyDirective_eq_step] at folded
    exact topic_mem_of_foldlM (fun applied => shape.exists_step_eq_ok_iff.mp ⟨_, applied⟩) folded

end Criteria

namespace Setter

def topics : List String := ["", "extra"]

theorem rejectsOtherTopics : RejectsOtherTopics build target topics :=
  keepsContract.rejectsOtherTopics fun built => by
    obtain ⟨_, _, _, _, folded, _⟩ := setterOf_eq_ok built
    rw [applyDirective_eq_step] at folded
    exact topic_mem_of_foldlM (fun applied => shape.exists_step_eq_ok_iff.mp ⟨_, applied⟩) folded

end Setter

namespace Wrapper

/-- The topics of wrapper directives above a declaration; the one that names a models package
belongs to the package as a whole. -/
def topics : List String := ["", "ops"]

theorem topic_mem_topics {subject : Subject} {options next : Options} {d : Directive}
    (applied : applyDirective subject options d = .ok next) : d.topic ∈ topics := by
  unfold applyDirective at applied
  split at applied
  case h_3 => cases applied
  all_goals
    next topic =>
      rw [topic]
      decide

theorem topic_mem_of_wrappedRecordOf {index : DirectiveIndex} {models : Package} {decl : TypeDecl}
    {directives : List Directive} {record : WrappedRecord}
    (built : wrappedRecordOf index models decl directives = .ok record) :
    ∀ d ∈ directives, d.topic ∈ topics := by
  obtain ⟨_, _, _, _, _, _, _, folded, _⟩ := exists_steps_of_wrappedRecordOf built
  exact topic_mem_of_foldlM topic_mem_topics folded

theorem rejectsOtherTopics (models : Package) :
    RejectsOtherTopics (build · models) target topics :=
  (keepsContract models).rejectsOtherTopics topic_mem_of_wrappedRecordOf

end Wrapper

/-! ## Identifier parsers -/

namespace IdParser

theorem exists_parserOf_eq_error {index : DirectiveIndex} {decl : TypeDecl}
    {directives : List Directive} :
    (∃ diagnostic, parserOf index decl directives = .error diagnostic) ↔
      1 < directives.length ∨ sizedInteger? index.package decl.type = none := by
  cases made : parserOf index decl directives with
  | ok parser =>
      obtain ⟨single, sized, _⟩ := parserOf_eq_ok_iff.mp made
      simp [sized, Nat.not_lt.mpr single]
  | error diagnostic =>
      refine iff_of_true ⟨diagnostic, rfl⟩ (by_contra fun fine => ?_)
      obtain ⟨single, sized⟩ := not_or.mp fine
      obtain ⟨integer, sized⟩ := Option.ne_none_iff_exists'.mp sized
      have ok : parserOf index decl directives =
          .ok ⟨decl.name, funcNameOf decl directives, integer.1, integer.2⟩ :=
        parserOf_eq_ok_iff.mpr ⟨Nat.not_lt.mp single, sized, rfl, rfl⟩
      cases made.symm.trans ok

/-- Parsers cannot be built exactly when an annotated declaration has several directives, or leads
to no integer of known width. -/
theorem exists_build_eq_error {package : Package} :
    (∃ diagnostic, build package = .error diagnostic) ↔
      ∃ decl ∈ package.annotated target,
        1 < (package.directivesAbove decl.pos target).length ∨
          sizedInteger? package decl.type = none := by
  have failsWith : (∃ diagnostic, build package = .error diagnostic) ↔
      ∃ diagnostic, package.entities target parserOf = .error diagnostic := by
    rw [build_eq]
    cases package.entities target parserOf <;> simp [Except.map]
  rw [failsWith]
  unfold Package.entities
  rw [exists_mapM_eq_error]
  exact exists_congr fun decl => and_congr_right fun _ => exists_parserOf_eq_error

end IdParser

/-- Directives with an unknown topic are rejected by all builders but that of identifier parsers,
which fails for other reasons only. -/
theorem unknown_topic_rejected (package models : Package) :
    (package.HasOtherTopic Repository.target Repository.topics →
      ∃ diagnostic, Repository.build package = .error diagnostic) ∧
    (package.HasOtherTopic Criteria.target Criteria.topics →
      ∃ diagnostic, Criteria.build package = .error diagnostic) ∧
    (package.HasOtherTopic Setter.target Setter.topics →
      ∃ diagnostic, Setter.build package = .error diagnostic) ∧
    (package.HasOtherTopic Wrapper.target Wrapper.topics →
      ∃ diagnostic, Wrapper.build package models = .error diagnostic) ∧
    ((∃ diagnostic, IdParser.build package = .error diagnostic) ↔
      ∃ decl ∈ package.annotated IdParser.target,
        1 < (package.directivesAbove decl.pos IdParser.target).length ∨
          IdParser.sizedInteger? package decl.type = none) :=
  ⟨Repository.rejectsOtherTopics, Criteria.rejectsOtherTopics, Setter.rejectsOtherTopics,
    Wrapper.rejectsOtherTopics models, IdParser.exists_build_eq_error⟩

/-- The unknown topic stands between directives that are all right, on a record that is. -/
theorem unknown_topic_rejected_between :
    let unknown : Comment := ⟨"//repogen:setter:rename Name Title", 3⟩
    let block : CommentGroup := ⟨[⟨"//repogen:setter WidgetPatch", 2⟩, unknown,
      ⟨"//repogen:setter:extra Note string", 4⟩]⟩
    let widget : TypeDecl :=
      ⟨"Widget", ⟨"shop.go", 5, 6⟩, .struct [⟨"Name", .basic .string, "", false⟩]⟩
    let package : Package := ⟨"shop", "example.com/shop", [⟨"shop.go", [block]⟩], [widget]⟩
    package.HasOtherTopic Setter.target Setter.topics ∧
      ∃ diagnostic, Setter.build package = .error diagnostic := by
  intro unknown block widget package
  have above : package.blockAbove? widget.pos = some block := by decide +kernel
  have parsed : Directive.parse unknown.text = some ⟨"setter", "rename", "Name Title"⟩ := by
    decide +kernel
  have other : package.HasOtherTopic Setter.target Setter.topics :=
    ⟨widget, List.mem_cons_self, block, above, unknown, by simp [block], _, parsed, rfl, by decide⟩
  exact ⟨other, (unknown_topic_rejected package package).2.2.1 other⟩

/-- A parser is built for a declaration whose only directive has a topic, as if it had none. -/
theorem parser_built_under_unknown_topic :
    let comment : Comment := ⟨"//repogen:parseid:extra ParseSlot", 2⟩
    let block : CommentGroup := ⟨[comment]⟩
    let slot : TypeDecl := ⟨"SlotID", ⟨"slots.go", 3, 6⟩, .basic .uint16⟩
    let package : Package := ⟨"shop", "example.com/shop", [⟨"slots.go", [block]⟩], [slot]⟩
    package.HasOtherTopic IdParser.target [""] ∧
      IdParser.build package = .ok ⟨"shop", [⟨"SlotID", "ParseSlot", false, 16⟩]⟩ ∧
      ¬ RejectsOtherTopics IdParser.build IdParser.target [""] := by
  intro comment block slot package
  have above : package.blockAbove? slot.pos = some block := by decide +kernel
  have parsed : Directive.parse comment.text = some ⟨"parseid", "extra", "ParseSlot"⟩ := by
    decide +kernel
  have other : package.HasOtherTopic IdParser.target [""] :=
    ⟨slot, List.mem_cons_self, block, above, comment, List.mem_cons_self, _, parsed, rfl, by decide⟩
  have built : IdParser.build package = .ok ⟨"shop", [⟨"SlotID", "ParseSlot", false, 16⟩]⟩ := by
    decide +kernel
  refine ⟨other, built, fun rejects => ?_⟩
  obtain ⟨diagnostic, failed⟩ := rejects other
  cases built.symm.trans failed

end Scaffold
