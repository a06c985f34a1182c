import Scaffold.Model.Criteria
import Scaffold.Proofs.Model.Contract
import Scaffold.Proofs.Model.Extensible

/-!
# What the search criteria of a package hold

Built criteria are not empty, and every field of the record behind them has been read
(`describes_of_criteriaTypeOf`).  All that can go wrong is about the declaration itself
(`reports_criteriaTypeOf`).
-/

set_option autoImplicit false

namespace Scaffold.Criteria

open Checked

variable {subject : Subject} {package : Package} {index : DirectiveIndex} {decl : TypeDecl}
  {directives : List Directive} {entry : CriteriaType}

/-! ## Directives -/

def shape : Extensible CriteriaType Criterion where
  fields := CriteriaType.fields
  rename entry name := { entry with name := name }
  append entry field := { entry with fields := entry.fields ++ [field] }
  make name type := ⟨name, type, ""⟩
  fields_rename _ _ := rfl
  fields_append _ _ := rfl

theorem applyDirective_eq_step : applyDirective subject = shape.step subject := rfl

/-! ## Built criteria -/

theorem tag_of_criteriaOf {viewer : String} {relations : Option (List Field)} {field : Field}
    {criteria : List Criterion} (ok : criteriaOf subject viewer relations field = .ok criteria) :
    (FieldTag.ofComposite field.tag).isSome = true := by
  unfold criteriaOf at ok
  obtain ⟨tag, tagOk, _⟩ := bind_eq_ok.mp ok
  rw [Subject.tagOf_eq_ok.mp tagOk]
  rfl

/-- What is left to do for a searched field with an option type: its relation, and then its
names. -/
theorem criteriaOf_of_searched {viewer search type : String} {relations : Option (List Field)}
    {field : Field} {tag : FieldTag} (tagRead : FieldTag.ofComposite field.tag = some tag)
    (searched : tag.get? "search" = some search)
    (optional : optionType? viewer field.type = some type) :
    criteriaOf subject viewer relations field = do
      if tag.value "rel" ≠ "" then
        let _ ← subject.relation relations field.name (tag.value "rel")
      let names ← criterionNames subject field.name search
      return names.map fun name => ⟨name, type, tag.value "rel"⟩ := by
  unfold criteriaOf
  rw [Subject.tagOf_eq_ok.mpr tagRead, optional]
  dsimp only [bind, Except.bind]
  rw [searched]
  rfl

/-- The criteria of a field: none without a search, else its names, all of its option type and with
its relation. -/
theorem criteriaOf_eq_ok {viewer : String} {relations : Option (List Field)} {field : Field}
    {own : List Criterion} (ok : criteriaOf subject viewer relations field = .ok own) :
    ∃ tag, FieldTag.ofComposite field.tag = some tag ∧
      (tag.get? "search" = none ∧ own = [] ∨
        ∃ search type names, tag.get? "search" = some search ∧
          optionType? viewer field.type = some type ∧
          (tag.value "rel" ≠ "" →
            ∃ related, subject.relation relations field.name (tag.value "rel") = .ok related) ∧
          criterionNames subject field.name search = .ok names ∧
          own = names.map fun name => ⟨name, type, tag.value "rel"⟩) := by
  have named {tag : FieldTag} {search type : String}
      (ok : (criterionNames subject field.name search >>= fun names =>
        pure (names.map fun name => (⟨name, type, tag.value "rel"⟩ : Criterion))) = .ok own) :
      ∃ names, criterionNames subject field.name search = .ok names ∧
        own = names.map fun name => ⟨name, type, tag.value "rel"⟩ := by
    obtain ⟨names, namesOk, made⟩ := bind_eq_ok.mp ok
    exact ⟨names, namesOk, (Except.ok.inj made).symm⟩
  unfold criteriaOf at ok
  obtain ⟨tag, tagOk, ok⟩ := bind_eq_ok.mp ok
  refine ⟨tag, Subject.tagOf_eq_ok.mp tagOk, ?_⟩
  split at ok
  next absent => exact .inl ⟨absent, (Except.ok.inj ok).symm⟩
  next search searched =>
    obtain ⟨type, typeOk, ok⟩ := bind_eq_ok.mp ok
    have optional := Subject.expect_eq_ok.mp typeOk
    dsimp only at ok
    split at ok
    · obtain ⟨related, relationOk, ok⟩ := bind_eq_ok.mp ok
      obtain ⟨names, namesOk, own⟩ := named ok
      exact .inr ⟨search, type, names, searched, optional, fun _ => ⟨related, relationOk⟩,
        namesOk, own⟩
    next nowhere =>
      obtain ⟨names, namesOk, own⟩ := named ok
      exact .inr ⟨search, type, names, searched, optional, fun here => absurd here nowhere,
        namesOk, own⟩

/-- The steps of built criteria: their record, what the directives say, and what each field adds. -/
theorem criteriaTypeOf_eq_ok (built : criteriaTypeOf index decl directives = .ok entry) :
    ∃ record extra fields,
      index.package.baseType decl.type = .struct record ∧
      directives.foldlM (applyDirective ⟨target, decl⟩) ⟨decl.name ++ "SearchData", []⟩ =
        .ok extra ∧
      List.Forall₂ (fun field added =>
          criteriaOf ⟨target, decl⟩ index.package.path (relationsOf index.package record) field =
            .ok added)
        record fields ∧
      entry.fields ≠ [] ∧ entry = { extra with fields := extra.fields ++ fields.flatten } := by
  unfold criteriaTypeOf at built
  obtain ⟨record, recordOk, built⟩ := bind_eq_ok.mp built
  obtain ⟨extra, extraOk, built⟩ := bind_eq_ok.mp built
  obtain ⟨fields, fieldsOk, built⟩ := bind_eq_ok.mp built
  dsimp only at built
  split at built
  · cases built
  next nonempty =>
    obtain rfl := Except.ok.inj built
    exact ⟨record, extra, fields, Subject.record_eq_ok.mp recordOk, extraOk, mapM_eq_ok.mp fieldsOk,
      by simpa using nonempty, rfl⟩

structure Describes (package : Package) (decl : TypeDecl) (entry : CriteriaType) : Prop where
  tagged : package.IsTaggedRecord decl
  nonempty : entry.fields ≠ []

theorem describes_of_criteriaTypeOf (built : criteriaTypeOf index decl directives = .ok entry) :
    Describes index.package decl entry := by
  obtain ⟨record, extra, fields, resolved, _, related, nonempty, _⟩ := criteriaTypeOf_eq_ok built
  exact ⟨.of_forall₂ resolved related tag_of_criteriaOf, nonempty⟩

/-! ## Faults -/

theorem reports_criterionNames (fieldName search : String) :
    FailsWith subject.Reports (criterionNames subject fieldName search) := by
  unfold criterionNames
  split
  · exact .ok _
  · exact .ok _
  · exact .ok _
  · exact subject.reports_fail (by nofun)
  · exact subject.reports_fail (by nofun)

theorem reports_criteriaOf (viewer : String) (relations : Option (List Field)) (field : Field) :
    FailsWith subject.Reports (criteriaOf subject viewer relations field) := by
  unfold criteriaOf
  refine .bind (subject.reports_tagOf field) fun tag => ?_
  split
  · exact .ok _
  · refine .bind (subject.reports_expect (by nofun) _) fun type => ?_
    have names (search : String) : FailsWith subject.Reports (do
        let names ← criterionNames subject field.name search
        return names.map fun name => (⟨name, type, tag.value "rel"⟩ : Criterion)) :=
      .bind (reports_criterionNames _ _) fun _ => .ok _
    dsimp only
    split
    · exact .bind (subject.reports_relation _ _ _) fun _ => names _
    · exact names _

theorem reports_criteriaTypeOf (index : DirectiveIndex) (decl : TypeDecl)
    (directives : List Directive) :
    FailsWith (Subject.Reports ⟨target, decl⟩) (criteriaTypeOf index decl directives) := by
  unfold criteriaTypeOf
  refine .bind (Subject.reports_record _ _) fun record => ?_
  rw [applyDirective_eq_step]
  refine .bind (.foldlM (shape.reports_step _) _ _) fun entry => ?_
  refine .bind (.mapM (reports_criteriaOf _ _) _) fun fields => ?_
  dsimp only
  split
  · exact Subject.reports_fail _ (by nofun)
  · exact .ok _

/-! ## Criteria of a package -/

theorem criteriaTypeOf_withFiles (files : List SourceFile) (directives : List Directive) :
    criteriaTypeOf (.ofPackage (package.withFiles files)) decl directives =
      criteriaTypeOf (.ofPackage package) decl directives := by
  unfold criteriaTypeOf
  simp only [DirectiveIndex.package_ofPackage, Package.path_withFiles, Subject.record_withFiles,
    relationsOf_withFiles]

theorem build_eq (package : Package) :
    build package =
      (package.entities target criteriaTypeOf).map fun types => ⟨package.name, types⟩ := by
  unfold build
  dsimp only
  rw [Package.mapM_annotated]
  rfl

theorem keepsContract :
    KeepsContract target criteriaTypeOf (fun package => (build package).map (·.types)) Describes
      fun _ decl d => d.IsAbout target decl := by
  refine .of_entityOf (fun package => ?_) describes_of_criteriaTypeOf
    (fun _ decl directives d failed => (reports_criteriaTypeOf _ decl directives d failed).2)
    fun directives _ => criteriaTypeOf_withFiles _ directives
  rw [build_eq]
  exact map_map_eq_self (fun _ => rfl) _

end Scaffold.Criteria
