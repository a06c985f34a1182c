import Scaffold.Proofs.Model.Reading
import Scaffold.Proofs.Model.Topics
import Scaffold.Proofs.Package.Site

/-!
# Where a models package is named

A comment that comes to name a models package is one more such directive wherever it stands, and
says nothing else to the package as long as its block is apart from all declarations.  Right above a
declaration it is also taken for a directive of that declaration, which has no such topic: wrappers
cannot be built then (`models_directive_at_site`), although they could before
(`models_directive_above_rejected`).
-/

set_option autoImplicit false

namespace Scaffold.Wrapper

open Checked

variable {package models : Package} {index : DirectiveIndex} {site : CommentSite} {decl : TypeDecl}
  {pos : Position} {old : String}

/-! ## The comment -/

def modelsComment (dir : String) : String := "//repogen:bob:models " ++ dir

theorem parse_modelsComment (dir : String) :
    Directive.parse (modelsComment dir) = some ⟨target, modelsTopic, dir⟩ := by
  have marked : Directive.marker.toList.isPrefixOf? ("//repogen:bob:models ".toList ++ dir.toList) =
      some ("bob:models ".toList ++ dir.toList) := rfl
  have body : Directive.parseBody ("bob:models ".toList ++ dir.toList) =
      some ⟨.ofList "bob".toList, .ofList "models".toList, .ofList dir.toList⟩ := rfl
  simp only [String.ofList_toList] at body
  unfold Directive.parse modelsComment
  rw [String.toList_append, marked, Option.bind_some, body]
  rfl

theorem directive?_modelsComment (site : CommentSite) (dir : String) :
    (site.comment (modelsComment dir)).directive? target = some ⟨target, modelsTopic, dir⟩ := by
  rw [Comment.directive?, CommentSite.comment, parse_modelsComment]
  rfl

theorem directive?_modelsComment_setter (site : CommentSite) (dir : String) :
    (site.comment (modelsComment dir)).directive? Setter.target = none := by
  rw [Comment.directive?, CommentSite.comment, parse_modelsComment]
  rfl

theorem exists_modelsDirectives (unread : ¬ (site.comment old).Addresses reads) (package : Package)
    (dir : String) :
    ∃ front behind, modelsDirectives (package.withFiles (site.files old)) = front ++ behind ∧
      modelsDirectives (package.withFiles (site.files (modelsComment dir))) =
        front ++ (⟨site.path, site.line, 1⟩, dir) :: behind := by
  obtain ⟨front, behind, directives⟩ := site.exists_directives target modelsTopic
  have oldNone : (site.comment old).located? site.path target modelsTopic = none := by
    rw [Comment.located?, Comment.directive?_of_not_addresses unread (by decide)]
    rfl
  have newSome : (site.comment (modelsComment dir)).located? site.path target modelsTopic =
      some (⟨site.path, site.line, 1⟩, ⟨target, modelsTopic, dir⟩) := by
    rw [Comment.located?, directive?_modelsComment]
    rfl
  let named (entry : Position × Directive) : Position × String := (entry.1, entry.2.args)
  refine ⟨front.map named, behind.map named, ?_, ?_⟩
  · rw [modelsDirectives, directives, oldNone, List.map_append]
    rfl
  · rw [modelsDirectives, directives, newSome, List.map_append]
    rfl

/-! ## A directive with an unknown topic -/

theorem applyDirective_of_unknownTopic {subject : Subject} {options : Options} {d : Directive}
    (unknown : d.topic ∉ topics) :
    applyDirective subject options d = subject.fail (.unknownTopic d.topic) := by
  unfold applyDirective
  split
  · next bare => exact absurd (by rw [bare]; decide) unknown
  · next ops => exact absurd (by rw [ops]; decide) unknown
  · rfl

/-- A directive with an unknown topic among those of a record that can be wrapped is what is
wrong. -/
theorem wrappedRecordOf_of_unknownTopic {front behind : List Directive} {d : Directive}
    {record : WrappedRecord}
    (built : wrappedRecordOf index models decl (front ++ behind) = .ok record)
    (unknown : d.topic ∉ topics) :
    wrappedRecordOf index models decl (front ++ d :: behind) =
      .error (.of target decl (.unknownTopic d.topic)) := by
  obtain ⟨getter, setter, options, _, _, getterOk, setterOk, folded, _⟩ :=
    exists_steps_of_wrappedRecordOf built
  rw [List.foldlM_append] at folded
  obtain ⟨reached, frontFolded, _⟩ := bind_eq_ok.mp folded
  have rejected : (front ++ d :: behind).foldlM (applyDirective ⟨target, decl⟩)
      ⟨decl.name, false, false⟩ = .error (.of target decl (.unknownTopic d.topic)) := by
    rw [List.foldlM_append]
    refine bind_eq_error.mpr (.inr ⟨reached, frontFolded, ?_⟩)
    rw [List.foldlM_cons]
    exact bind_eq_error.mpr (.inl (applyDirective_of_unknownTopic unknown))
  unfold wrappedRecordOf
  refine bind_eq_error.mpr (.inr ⟨getter, Subject.record_eq_ok.mpr getterOk, ?_⟩)
  refine bind_eq_error.mpr (.inr ⟨setter, setterOk, ?_⟩)
  exact bind_eq_error.mpr (.inl rejected)

/-! ## Declarations below the comment -/

theorem modelsTopic_unknown : modelsTopic ∉ topics := by decide

section Below
variable (scanned : package.files = site.files old) (unread : ¬ (site.comment old).Addresses reads)
  (dir : String)

theorem exists_build_eq_error_of_isAbove (models : Package) (declared : decl ∈ package.decls)
    (above : site.IsAbove decl.pos) :
    ∃ diagnostic, build (package.withFiles (site.files (modelsComment dir))) models =
      .error diagnostic := by
  refine rejectsOtherTopics models ⟨decl, declared, _, above.blockAbove? package _,
    site.comment (modelsComment dir), ?_, _, parse_modelsComment dir, rfl, modelsTopic_unknown⟩
  exact List.mem_append_right _ List.mem_cons_self

include scanned

theorem build_of_apart (apart : ∀ decl ∈ package.decls, ¬ site.IsAbove decl.pos) (text : String) :
    build (package.withFiles (site.files text)) models = build package models :=
  build_withFiles fun decl declared target _ =>
    CommentSite.directivesAbove_of_not_isAbove scanned (apart decl declared) text target

include unread

/-- Below the comment, a declaration has the directives for wrappers that it had and the new one. -/
theorem directivesAbove_modelsComment (above : site.IsAbove pos) : ∃ front behind,
    package.directivesAbove pos target = front ++ behind ∧
      (package.withFiles (site.files (modelsComment dir))).directivesAbove pos target =
        front ++ ⟨target, modelsTopic, dir⟩ :: behind := by
  obtain ⟨front, behind, before, directives⟩ :=
    CommentSite.directivesAbove_of_isAbove target scanned
      (Comment.directive?_of_not_addresses unread (by decide)) above
  refine ⟨front, behind, before, ?_⟩
  rw [directives, directive?_modelsComment]
  rfl

theorem directivesAbove_modelsComment_setter (pos : Position) :
    (package.withFiles (site.files (modelsComment dir))).directivesAbove pos Setter.target =
      package.directivesAbove pos Setter.target := by
  by_cases above : site.IsAbove pos
  · obtain ⟨front, behind, before, directives⟩ :=
      CommentSite.directivesAbove_of_isAbove Setter.target scanned
        (Comment.directive?_of_not_addresses unread (by decide)) above
    rw [before, directives, directive?_modelsComment_setter]
    rfl
  · exact CommentSite.directivesAbove_of_not_isAbove scanned above _ Setter.target

/-- The first declaration below the comment is reported when the wrappers could be built before, and
for nothing but the comment if it was to be wrapped. -/
theorem exists_build_eq_error_of_first {model : Model} (built : build package models = .ok model)
    {before later : List TypeDecl} (decls : package.decls = before ++ decl :: later)
    (apart : ∀ earlier ∈ before, ¬ site.IsAbove earlier.pos) (above : site.IsAbove decl.pos) :
    let after := package.withFiles (site.files (modelsComment dir))
    ∃ diagnostic, build after models = .error diagnostic ∧ Reports after decl diagnostic ∧
      (package.isAnnotated target decl = true →
        diagnostic = .of target decl (.unknownTopic modelsTopic)) := by
  intro after
  have sameRecord (other : TypeDecl) (directives : List Directive) :
      wrappedRecordOf (.ofPackage after) models other directives =
        wrappedRecordOf (.ofPackage package) models other directives :=
    wrappedRecordOf_withFiles directives
      (directivesAbove_modelsComment_setter scanned unread dir other.pos)
  obtain ⟨front, behind, directives, newDirectives⟩ : ∃ front behind,
      package.directivesAbove decl.pos target = front ++ behind ∧
        after.directivesAbove decl.pos target = front ++ ⟨target, modelsTopic, dir⟩ :: behind :=
    directivesAbove_modelsComment scanned unread dir above
  obtain ⟨diagnostic, failed⟩ : ∃ diagnostic, wrappedRecordOf (.ofPackage after) models decl
      (after.directivesAbove decl.pos target) = .error diagnostic := by
    cases made : wrappedRecordOf (.ofPackage after) models decl
        (after.directivesAbove decl.pos target) with
    | error diagnostic => exact ⟨diagnostic, rfl⟩
    | ok record =>
        have named : ⟨target, modelsTopic, dir⟩ ∈ after.directivesAbove decl.pos target := by
          simp [newDirectives]
        exact absurd (topic_mem_of_wrappedRecordOf made _ named) modelsTopic_unknown
  rw [build_eq] at built
  obtain ⟨records, made, _⟩ := map_eq_ok.mp built
  refine ⟨diagnostic, ?_, reports_wrappedRecordOf after models decl _ diagnostic failed,
    fun wrapped => ?_⟩
  · have annotated : after.isAnnotated target decl = true :=
      decide_eq_true fun empty => by simp [newDirectives] at empty
    rw [build_eq, Package.entities_eq_error_of_first made decls (fun earlier member =>
      CommentSite.directivesAbove_of_not_isAbove scanned (apart earlier member) _ target) sameRecord
      annotated failed]
    rfl
  · obtain ⟨record, ok⟩ := Package.exists_entityAt_eq_ok made (by simp [decls]) wrapped
    unfold Package.entityAt at ok
    rw [directives] at ok
    rw [newDirectives, sameRecord, wrappedRecordOf_of_unknownTopic ok modelsTopic_unknown] at failed
    exact (Except.error.inj failed).symm

end Below

/-- A comment that comes to name a models package adds itself to such directives and leaves the
wrappers as they are when no declaration stands right below its block.  Otherwise they cannot be
built; if they could before, the first declaration below the block is reported. -/
theorem models_directive_at_site (package models : Package) (site : CommentSite) (old dir : String)
    (scanned : package.files = site.files old) (unread : ¬ (site.comment old).Addresses reads) :
    let after := package.withFiles (site.files (modelsComment dir))
    (∃ front behind, modelsDirectives package = front ++ behind ∧
      modelsDirectives after = front ++ (⟨site.path, site.line, 1⟩, dir) :: behind) ∧
    ((∀ decl ∈ package.decls, ¬ site.IsAbove decl.pos) →
      build after models = build package models) ∧
    ∀ before decl later, package.decls = before ++ decl :: later →
      (∀ earlier ∈ before, ¬ site.IsAbove earlier.pos) → site.IsAbove decl.pos →
      ∃ diagnostic, build after models = .error diagnostic ∧
        ∀ model, build package models = .ok model → Reports after decl diagnostic ∧
          (package.isAnnotated target decl = true →
            diagnostic = .of target decl (.unknownTopic modelsTopic)) := by
  intro after
  refine ⟨?_, fun apart => build_of_apart scanned apart _,
    fun before decl later decls apart above => ?_⟩
  · have directives := exists_modelsDirectives unread package dir
    rwa [← scanned] at directives
  · have declared : decl ∈ package.decls := by simp [decls]
    obtain ⟨diagnostic, failed⟩ := exists_build_eq_error_of_isAbove dir models declared above
    refine ⟨diagnostic, failed, fun model built => ?_⟩
    obtain ⟨reported, failed', about⟩ :=
      exists_build_eq_error_of_first scanned unread dir built decls apart above
    cases failed.symm.trans failed'
    exact about

/-- The comment stands above a number, which nothing was built of. -/
theorem models_directive_at_site_number :
    let site : CommentSite := ⟨[], "shop.go", [], [], 2, [], [], []⟩
    let gadget : TypeDecl := ⟨"Gadget", ⟨"shop.go", 3, 6⟩, .basic .int⟩
    let shop (line : String) : Package := ⟨"shop", "example.com/shop", site.files line, [gadget]⟩
    let models : Package := ⟨"models", "example.com/shop/models", [], []⟩
    let after := shop (modelsComment "models")
    build (shop "// Gadget counts.") models = .ok ⟨"models", "shop", "example.com/shop", []⟩ ∧
      modelsDirectives after = [(⟨"shop.go", 2, 1⟩, "models")] ∧
      ∃ diagnostic, build after models = .error diagnostic ∧ Reports after gadget diagnostic := by
  intro site gadget shop models after
  have built : build (shop "// Gadget counts.") models =
      .ok ⟨"models", "shop", "example.com/shop", []⟩ := by
    decide +kernel
  have none : modelsDirectives (shop "// Gadget counts.") = [] := by decide +kernel
  have above : site.IsAbove gadget.pos :=
    ⟨rfl, by decide, by simp [site, CommentSite.earlierBlocks]⟩
  obtain ⟨⟨front, behind, before, added⟩, _, below⟩ :=
    models_directive_at_site (shop "// Gadget counts.") models site "// Gadget counts." "models" rfl
      (by decide +kernel)
  obtain ⟨rfl, rfl⟩ := List.append_eq_nil_iff.mp (before.symm.trans none)
  obtain ⟨diagnostic, failed, about⟩ := below [] gadget [] rfl (by simp) above
  exact ⟨built, added, diagnostic, failed, (about _ built).1⟩

/-- A record that was wrapped is rejected once a line of the block above it names a models
package. -/
theorem models_directive_above_rejected :
    let site : CommentSite := ⟨[], "shop.go", [], [], 2, [⟨"//repogen:bob", 3⟩], [], []⟩
    let record : GoType := .struct [⟨"Name", .basic .string, "", false⟩]
    let widget : TypeDecl := ⟨"Widget", ⟨"shop.go", 4, 6⟩, record⟩
    let setter : TypeDecl := ⟨"WidgetSetter", ⟨"shop.go", 10, 6⟩, record⟩
    let shop (line : String) : Package :=
      ⟨"shop", "example.com/shop", site.files line, [widget, setter]⟩
    let models : Package :=
      ⟨"models", "example.com/shop/models", [], [⟨"Widget", ⟨"models.go", 3, 6⟩, record⟩]⟩
    (∃ model, build (shop "// Widget is what the shop sells.") models = .ok model) ∧
      build (shop (modelsComment "models")) models =
        .error (.of target widget (.unknownTopic modelsTopic)) ∧
      ¬ ∀ (package models : Package) (site : CommentSite) (old dir : String),
        package.files = site.files old → ¬ (site.comment old).Addresses reads →
          build (package.withFiles (site.files (modelsComment dir))) models =
            build package models := by
  intro site record widget setter shop models
  have rejected : build (shop (modelsComment "models")) models =
      .error (.of target widget (.unknownTopic modelsTopic)) := by decide +kernel
  have succeeds : (build (shop "// Widget is what the shop sells.") models).isOk = true := by
    decide +kernel
  obtain ⟨model, built⟩ : ∃ model, build (shop "// Widget is what the shop sells.") models =
      .ok model := by
    cases made : build (shop "// Widget is what the shop sells.") models with
    | ok model => exact ⟨model, rfl⟩
    | error diagnostic =>
        rw [made] at succeeds
        cases succeeds
  refine ⟨⟨model, built⟩, rejected, fun unread => ?_⟩
  have same := unread (shop "// Widget is what the shop sells.") models site
    "// Widget is what the shop sells." "models" rfl (by decide +kernel)
  cases (rejected.symm.trans same).trans built

end Scaffold.Wrapper
