import Scaffold.Model.Repository
import Scaffold.Proofs.Model.Contract

/-!
# What the repositories of a package hold

A built interface keeps the name of its declaration and has a key, and every field of the record
behind it has been read (`describes_of_interfaceOf`).  All that can go wrong is about the
declaration itself (`reports_interfaceOf`).
-/

set_option autoImplicit false

namespace Scaffold.Repository

open Checked

variable {subject : Subject} {package : Package} {index : DirectiveIndex} {decl : TypeDecl}
  {directives : List Directive} {entry : Interface}

/-! ## Built interfaces -/

theorem applyDirective_singular {d : Directive} {next : Interface}
    (applied : applyDirective subject entry d = .ok next) : next.singular = entry.singular := by
  unfold applyDirective at applied
  split at applied
  case h_1 =>
    obtain ⟨operations, _, applied⟩ := bind_eq_ok.mp applied
    obtain rfl := Except.ok.inj applied
    rfl
  case h_10 => cases applied
  all_goals
    obtain rfl := Except.ok.inj applied
    rfl

theorem tag_of_keyOf {viewer : String} {field : Field} {keys : List Key}
    (ok : keyOf subject viewer field = .ok keys) :
    (FieldTag.ofComposite field.tag).isSome = true := by
  unfold keyOf at ok
  obtain ⟨tag, tagOk, _⟩ := bind_eq_ok.mp ok
  rw [Subject.tagOf_eq_ok.mp tagOk]
  rfl

/-- The steps of a built interface: its record, what the directives say, the keys, and who acts. -/
theorem interfaceOf_eq_ok (built : interfaceOf index decl directives = .ok entry) :
    ∃ record extra keys,
      index.package.baseType decl.type = .struct record ∧
      directives.foldlM (applyDirective ⟨target, decl⟩) (.ofName decl.name (pluralOf index decl)) =
        .ok extra ∧
      List.Forall₂ (fun field added =>
        keyOf ⟨target, decl⟩ index.package.path field = .ok added) record keys ∧
      keys.flatten ≠ [] ∧
      (actorType ⟨target, decl⟩ index.package.path record extra.createdBy "CreatedBy" =
          .ok entry.createdBy ∧
        actorType ⟨target, decl⟩ index.package.path record extra.updatedBy "UpdatedBy" =
          .ok entry.updatedBy ∧
        actorType ⟨target, decl⟩ index.package.path record extra.deletedBy "DeletedBy" =
          .ok entry.deletedBy) ∧
      entry = { extra with
        keys := keys.flatten
        createdBy := entry.createdBy
        updatedBy := entry.updatedBy
        deletedBy := entry.deletedBy } := by
  unfold interfaceOf at built
  obtain ⟨record, recordOk, built⟩ := bind_eq_ok.mp built
  obtain ⟨extra, extraOk, built⟩ := bind_eq_ok.mp built
  obtain ⟨keys, keysOk, built⟩ := bind_eq_ok.mp built
  obtain ⟨added, addedOk, flattened⟩ := bind_eq_ok.mp keysOk
  obtain rfl := Except.ok.inj flattened
  split at built
  · cases built
  next nonempty =>
    obtain ⟨createdBy, createdOk, built⟩ := bind_eq_ok.mp built
    obtain ⟨updatedBy, updatedOk, built⟩ := bind_eq_ok.mp built
    obtain ⟨deletedBy, deletedOk, built⟩ := bind_eq_ok.mp built
    obtain rfl := Except.ok.inj built
    exact ⟨record, extra, added, Subject.record_eq_ok.mp recordOk, extraOk, mapM_eq_ok.mp addedOk,
      by simpa using nonempty, ⟨createdOk, updatedOk, deletedOk⟩, rfl⟩

/-- An interface for a declaration: it has its name and at least one key. -/
structure Describes (package : Package) (decl : TypeDecl) (entry : Interface) : Prop where
  tagged : package.IsTaggedRecord decl
  name : entry.singular = decl.name
  keyed : entry.keys ≠ []

theorem describes_of_interfaceOf (built : interfaceOf index decl directives = .ok entry) :
    Describes index.package decl entry := by
  obtain ⟨record, extra, keys, resolved, folded, related, nonempty, _, same⟩ :=
    interfaceOf_eq_ok built
  refine ⟨.of_forall₂ resolved related tag_of_keyOf, ?_, ?_⟩
  · rw [same]
    exact foldlM_keeps Interface.singular (fun _ _ _ => applyDirective_singular) folded
  · rw [same]
    exact nonempty

/-! ## Faults -/

theorem reports_applyDirective (entry : Interface) (d : Directive) :
    FailsWith subject.Reports (applyDirective subject entry d) := by
  unfold applyDirective
  split
  case h_1 =>
    refine .bind ?_ fun _ => .ok _
    unfold enableAll
    split
    · exact .ok _
    · refine .foldlM (fun ops word => ?_) _ _
      split
      · exact .ok _
      · exact subject.reports_fail (by nofun)
  case h_10 => exact subject.reports_fail (by nofun)
  all_goals exact .ok _

theorem reports_keyOf (viewer : String) (field : Field) :
    FailsWith subject.Reports (keyOf subject viewer field) := by
  unfold keyOf
  refine .bind (subject.reports_tagOf field) fun tag => ?_
  split
  · exact .bind (subject.reports_expect (by nofun) _) fun _ => .ok _
  · exact .ok _

theorem reports_actorType (viewer : String) (record : List Field) (given fieldName : String) :
    FailsWith subject.Reports (actorType subject viewer record given fieldName) := by
  unfold actorType
  split
  · exact .ok _
  split
  · exact .ok _
  · refine .bind (subject.reports_tagOf _) fun tag => ?_
    split
    · exact .ok _
    · exact subject.reports_expect (by nofun) _

theorem reports_interfaceOf (index : DirectiveIndex) (decl : TypeDecl)
    (directives : List Directive) :
    FailsWith (Subject.Reports ⟨target, decl⟩) (interfaceOf index decl directives) := by
  unfold interfaceOf
  refine .bind (Subject.reports_record _ _) fun record => ?_
  refine .bind (.foldlM reports_applyDirective _ _) fun entry => ?_
  refine .bind (.bind (.mapM (reports_keyOf _) _) fun _ => .ok _) fun keys => ?_
  split
  · exact Subject.reports_fail _ (by nofun)
  · refine .bind (reports_actorType _ _ _ _) fun _ => ?_
    refine .bind (reports_actorType _ _ _ _) fun _ => ?_
    exact .bind (reports_actorType _ _ _ _) fun _ => .ok _

/-! ## Repositories of a package -/

theorem interfaceOf_withFiles {files : List SourceFile} (directives : List Directive)
    (same : (package.withFiles files).directivesAbove decl.pos "plural" =
      package.directivesAbove decl.pos "plural") :
    interfaceOf (.ofPackage (package.withFiles files)) decl directives =
      interfaceOf (.ofPackage package) decl directives := by
  unfold interfaceOf pluralOf
  simp only [DirectiveIndex.directives_withFiles same, DirectiveIndex.package_ofPackage,
    Package.path_withFiles, Subject.record_withFiles]

theorem build_eq (package : Package) :
    build package = (package.entities target interfaceOf).map fun interfaces =>
      ⟨package.name, interfaces, packageLines package "extra", packageLines package "base"⟩ := by
  unfold build
  dsimp only
  rw [Package.mapM_annotated]
  rfl

theorem keepsContract :
    KeepsContract target interfaceOf (fun package => (build package).map (·.interfaces)) Describes
      fun _ decl d => d.IsAbout target decl := by
  refine .of_entityOf (fun package => ?_) describes_of_interfaceOf
    (fun _ decl directives d failed => (reports_interfaceOf _ decl directives d failed).2)
    fun directives same =>
      interfaceOf_withFiles directives (Package.directivesAbove_withFiles _ same)
  rw [build_eq]
  exact map_map_eq_self (fun _ => rfl) _

end Scaffold.Repository
