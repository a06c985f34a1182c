import Scaffold.Model.Setter
import Scaffold.Proofs.Model.Contract
import Scaffold.Proofs.Model.Extensible

/-!
# What the setters of a package hold

A built setter is taken apart into what the directives say and what each field of the record adds.
Its name is that of the last bare directive that gives one (`name_of_setterOf`), and every field
that is set at all has a printable type and a field in the setter (`exists_of_setterOf`).  No setter
is empty (`describes_of_entityAt`), and all that can go wrong is about the declaration itself
(`reports_setterOf`).
-/

set_option autoImplicit false

namespace Scaffold

namespace Directive

def isNaming (d : Directive) : Bool := d.isPrimary && d.args ≠ ""

theorem isPrimary_of_isNaming {d : Directive} (naming : d.isNaming = true) : d.isPrimary = true :=
  (Bool.and_eq_true_iff.mp naming).1

end Directive

namespace Setter

open Checked

variable {subject : Subject} {package : Package} {index : DirectiveIndex} {decl : TypeDecl}
  {directives : List Directive} {entry : SetterStruct}

/-! ## Directives -/

def shape : Extensible SetterStruct SetterField where
  fields := SetterStruct.fields
  rename entry name := { entry with name := name }
  append entry field := { entry with fields := entry.fields ++ [field] }
  make name type := ⟨name, type⟩
  fields_rename _ _ := rfl
  fields_append _ _ := rfl

theorem applyDirective_eq_step : applyDirective subject = shape.step subject := rfl

/-! ## Names -/

/-- The name that the last bare directive with one gives. -/
def givenName? (directives : List Directive) : Option String :=
  (directives.reverse.find? Directive.isNaming).map (·.args)

theorem givenName?_eq_none {directives : List Directive}
    (noBare : directives.reverse.find? Directive.isPrimary = none) :
    givenName? directives = none := by
  rw [givenName?, Option.map_eq_none_iff, List.find?_eq_none]
  intro d member naming
  have primary := List.find?_eq_none.mp noBare d member
  exact primary (Directive.isPrimary_of_isNaming naming)

theorem givenName?_eq_some {directives : List Directive} {last : Directive}
    (found : directives.reverse.find? Directive.isPrimary = some last) (named : last.args ≠ "") :
    givenName? directives = some last.args := by
  obtain ⟨primary, before, behind, split_, earlier⟩ := List.find?_eq_some_iff_append.mp found
  have naming : directives.reverse.find? Directive.isNaming = some last := by
    apply List.find?_eq_some_iff_append.mpr
    refine ⟨by simp [Directive.isNaming, primary, named], before, behind, split_,
      fun d member => ?_⟩
    have other := earlier d member
    simp_all [Directive.isNaming]
  rw [givenName?, naming]
  rfl

theorem applyDirective_name {d : Directive} {next : SetterStruct}
    (applied : applyDirective subject entry d = .ok next) :
    next.name = if d.isNaming then d.args else entry.name := by
  unfold applyDirective at applied
  split at applied
  · next bare =>
      obtain rfl := Except.ok.inj applied
      by_cases empty : d.args = "" <;> simp [Directive.isNaming, Directive.isPrimary, bare, empty]
  · next extra =>
      obtain rfl := Except.ok.inj applied
      simp [Directive.isNaming, Directive.isPrimary, extra]
  · cases applied

theorem name_of_foldlM {last : SetterStruct}
    (folded : directives.foldlM (applyDirective subject) entry = .ok last) :
    last.name = (givenName? directives).getD entry.name := by
  rw [givenName?, ← List.head?_filter, List.filter_reverse, List.head?_reverse]
  exact foldlM_overwrites SetterStruct.name Directive.isNaming Directive.args
    (fun _ _ _ => applyDirective_name) folded

/-! ## Fields -/

theorem setterFieldOf_eq_ok {field : Field} {fields : List SetterField} :
    setterFieldOf subject package field = .ok fields ↔
      ∃ tag, FieldTag.ofComposite field.tag = some tag ∧
        (fieldName? field.name (tag.value "set") = none ∧ fields = [] ∨
        ∃ name type, fieldName? field.name (tag.value "set") = some name ∧
          SetterType.select? package.path package.reference tag field.type = some type ∧
          fields = [⟨name, type.optionType⟩]) := by
  unfold setterFieldOf
  rw [bind_eq_ok]
  refine exists_congr fun tag => and_congr Subject.tagOf_eq_ok ?_
  cases fieldName? field.name (tag.value "set") with
  | none => simp [pure, Except.pure, eq_comm]
  | some name =>
      simp only [bind_eq_ok, Subject.expect_eq_ok]
      simp [pure, Except.pure, eq_comm]

/-! ## Setters -/

theorem setterOf_eq_ok (built : setterOf index decl directives = .ok entry) :
    ∃ record extra fields,
      index.package.baseType decl.type = .struct record ∧
      directives.foldlM (applyDirective ⟨target, decl⟩) ⟨defaultName decl.name, []⟩ = .ok extra ∧
      List.Forall₂ (fun field added => setterFieldOf ⟨target, decl⟩ index.package field = .ok added)
        record fields ∧
      entry.fields ≠ [] ∧ entry = { extra with fields := fields.flatten ++ extra.fields } := by
  unfold setterOf at built
  obtain ⟨record, recordOk, built⟩ := bind_eq_ok.mp built
  obtain ⟨extra, extraOk, built⟩ := bind_eq_ok.mp built
  obtain ⟨fields, fieldsOk, built⟩ := bind_eq_ok.mp built
  dsimp only at built
  split at built
  · cases built
  next nonempty =>
    obtain rfl := Except.ok.inj built
    exact ⟨record, extra, fields, Subject.record_eq_ok.mp recordOk, extraOk, mapM_eq_ok.mp fieldsOk,
      by simpa using nonempty, rfl⟩

theorem name_of_setterOf (built : setterOf index decl directives = .ok entry) :
    entry.name = (givenName? directives).getD (defaultName decl.name) := by
  obtain ⟨_, extra, _, _, folded, _, _, rfl⟩ := setterOf_eq_ok built
  exact name_of_foldlM folded

theorem exists_of_setterOf (built : setterOf index decl directives = .ok entry)
    {record : List Field} (resolved : index.package.baseType decl.type = .struct record)
    {field : Field} (member : field ∈ record)
    {tag : FieldTag} (tagged : FieldTag.ofComposite field.tag = some tag) {name : String}
    (named : fieldName? field.name (tag.value "set") = some name) :
    (∃ type, SetterType.select? index.package.path index.package.reference tag field.type =
      some type) ∧
      ∃ added ∈ entry.fields, added.name = name := by
  obtain ⟨record', extra, fields, resolved', _, related, _, rfl⟩ := setterOf_eq_ok built
  cases resolved.symm.trans resolved'
  obtain ⟨added, addedMember, addedOk⟩ := exists_right_of_mem related member
  obtain ⟨tag', tagged', addedCases⟩ := setterFieldOf_eq_ok.mp addedOk
  cases tagged.symm.trans tagged'
  rcases addedCases with ⟨unnamed, _⟩ | ⟨name', type, named', selected, rfl⟩
  · cases named.symm.trans unnamed
  · cases named.symm.trans named'
    refine ⟨⟨type, selected⟩, ⟨name, type.optionType⟩, ?_, rfl⟩
    exact List.mem_append_left _ (List.mem_flatten_of_mem addedMember List.mem_cons_self)

/-! ## What the builder promises -/

theorem tag_of_setterFieldOf {field : Field} {fields : List SetterField}
    (ok : setterFieldOf subject package field = .ok fields) :
    (FieldTag.ofComposite field.tag).isSome = true := by
  obtain ⟨tag, tagged, _⟩ := setterFieldOf_eq_ok.mp ok
  rw [tagged]
  rfl

/-- A setter for a declaration: it has the name that the directives give, and at least one field. -/
structure Describes (package : Package) (decl : TypeDecl) (entry : SetterStruct) : Prop where
  tagged : package.IsTaggedRecord decl
  name : entry.name =
    (givenName? (package.directivesAbove decl.pos target)).getD (defaultName decl.name)
  nonempty : entry.fields ≠ []

theorem describes_of_entityAt (built : package.entityAt target setterOf decl = .ok entry) :
    Describes package decl entry := by
  obtain ⟨record, extra, fields, resolved, _, related, nonempty, _⟩ := setterOf_eq_ok built
  exact ⟨.of_forall₂ resolved related tag_of_setterFieldOf, name_of_setterOf built, nonempty⟩

theorem reports_setterFieldOf (package : Package) (field : Field) :
    FailsWith subject.Reports (setterFieldOf subject package field) := by
  unfold setterFieldOf
  refine .bind (subject.reports_tagOf field) fun tag => ?_
  split
  · exact .ok _
  · exact .bind (subject.reports_expect (by nofun) _) fun _ => .ok _

theorem reports_setterOf (index : DirectiveIndex) (decl : TypeDecl) (directives : List Directive) :
    FailsWith (Subject.Reports ⟨target, decl⟩) (setterOf index decl directives) := by
  unfold setterOf
  refine .bind (Subject.reports_record _ _) fun record => ?_
  rw [applyDirective_eq_step]
  refine .bind (.foldlM (shape.reports_step _) _ _) fun extra => ?_
  refine .bind (.mapM (reports_setterFieldOf _) _) fun fields => ?_
  dsimp only
  split
  · exact Subject.reports_fail _ (by nofun)
  · exact .ok _

/-! ## Setters of a package -/

theorem setterOf_withFiles (files : List SourceFile) (directives : List Directive) :
    setterOf (.ofPackage (package.withFiles files)) decl directives =
      setterOf (.ofPackage package) decl directives := by
  have field (subject : Subject) :
      setterFieldOf subject (package.withFiles files) = setterFieldOf subject package := rfl
  unfold setterOf
  simp only [DirectiveIndex.package_ofPackage, Subject.record_withFiles, field]

theorem build_eq (package : Package) :
    build package = (package.entities target setterOf).map fun setters =>
      ⟨package.name, setters⟩ := by
  unfold build
  dsimp only
  rw [Package.mapM_annotated]
  rfl

theorem keepsContract :
    KeepsContract target setterOf (fun package => (build package).map (·.setters)) Describes
      fun _ decl d => d.IsAbout target decl := by
  refine .of_entityOf (fun package => ?_) describes_of_entityAt
    (fun _ decl directives d failed => (reports_setterOf _ decl directives d failed).2)
    fun directives _ => setterOf_withFiles _ directives
  rw [build_eq]
  exact map_map_eq_self (fun _ => rfl) _

theorem setters_of_build {model : Model} (built : build package = .ok model) :
    List.Forall₂ (fun annotated entry =>
        setterOf (.ofPackage package) annotated.1 annotated.2 = .ok entry)
      ((DirectiveIndex.ofPackage package).annotated target) model.setters := by
  unfold build at built
  obtain ⟨setters, settersOk, built⟩ := bind_eq_ok.mp built
  obtain rfl := Except.ok.inj built
  exact mapM_eq_ok.mp settersOk

end Setter

end Scaffold
