import Scaffold.Proofs.GoType.Print
import Scaffold.Proofs.Model.FieldFaults

/-!
# Wrappers accept the setters that were generated

A wrapper may find that its record's setter does not fit: a field is missing, or the type of a field
to be set cannot be printed.  `wrapper_accepts_setter` says that neither happens with a setter that
has the fields of the generated one, as long as the record is the same: wrappers set no field that
the setter does not, and a type that is printed in one package can be printed in any.
-/

set_option autoImplicit false

namespace Scaffold

open Checked

/-- The faults of a setter that does not fit its record. -/
inductive Fault.IsMisfit : Fault → Prop where
  | noSetterField (field name : String) : IsMisfit (.noSetterField field name)
  | unprintableSetting (field : String) : IsMisfit (.unprintableSetting field)

namespace Wrapper

variable {subject : Subject} {models : Package} {index : DirectiveIndex} {decl : TypeDecl}
  {directives : List Directive} {diagnostic : Diagnostic}

theorem storedAs_not_misfit {other : Counterpart} {tag : FieldTag} {field : Field}
    {unwrapping : Unwrapping}
    (failed : storedAs subject other tag field unwrapping = .error diagnostic) :
    ¬ diagnostic.fault.IsMisfit := by
  intro misfit
  unfold storedAs at failed
  split at failed
  · cases failed
  · obtain ⟨name, fault | fault⟩ := fault_of_storageOf failed
    · rw [fault] at misfit
      cases misfit
    · rw [fault] at misfit
      cases misfit

theorem relatedTo_not_misfit {other : Counterpart} {tag : FieldTag} {field : Field}
    (failed : relatedTo subject other tag field = .error diagnostic) :
    ¬ diagnostic.fault.IsMisfit := by
  intro misfit
  rcases fault_of_relatedTo failed with fault | fault | fault
  · rw [fault] at misfit
    cases misfit
  · rw [fault] at misfit
    cases misfit
  · rw [fault] at misfit
    cases misfit

/-- Only the way from the setter into the model meets a setter that does not fit. -/
theorem exists_of_wrappedFieldOf_misfit {other : Counterpart} {field : Field}
    (failed : wrappedFieldOf subject other field = .error diagnostic)
    (misfit : diagnostic.fault.IsMisfit) :
    ∃ tag, FieldTag.ofComposite field.tag = some tag ∧
      unwrappingOf subject other tag field = .error diagnostic := by
  cases failedStep_of_wrappedFieldOf failed with
  | tag fault | type fault =>
      rw [fault] at misfit
      cases misfit
  | unwrapping tagRead failed => exact ⟨_, tagRead, failed⟩
  | storage _ _ _ failed => exact absurd misfit (storedAs_not_misfit failed)
  | relation failed => exact absurd misfit (relatedTo_not_misfit failed)

theorem exists_of_wrappedRecordOf_misfit
    (failed : wrappedRecordOf index models decl directives = .error diagnostic)
    (misfit : diagnostic.fault.IsMisfit) :
    ∃ getter setter model field,
      index.package.baseType decl.type = .struct getter ∧
      setterFieldsOf ⟨target, decl⟩ index.package (setterNameOf index decl) = .ok setter ∧
      field ∈ getter ∧
      wrappedFieldOf ⟨target, decl⟩ ⟨index.package, models, setter, model⟩ field =
        .error diagnostic := by
  have about : diagnostic.fault.field? ≠ none := by
    generalize diagnostic.fault = fault at misfit
    cases misfit <;> nofun
  obtain ⟨getter, setter, _, model, field, resolved, setterOk, _, _, isField, failed⟩ :=
    exists_of_wrappedRecordOf_eq_error failed about
  exact ⟨getter, setter, model, field, resolved, setterOk, isField, failed⟩

end Wrapper

/-- A wrapper never finds that a setter with the generated fields does not fit, whatever has
happened to the directives, the models and the rest of the package since. -/
theorem wrapper_accepts_setter {first second : Package} {setters : Setter.Model}
    (built : Setter.build first = .ok setters)
    {decl : TypeDecl} {directives : List Directive} {entry : Setter.SetterStruct}
    (generated : ((decl, directives), entry) ∈
      ((DirectiveIndex.ofPackage first).annotated Setter.target).zip setters.setters)
    (sameRecord : second.baseType decl.type = first.baseType decl.type)
    {fields : List Field}
    (resolved : Wrapper.setterFieldsOf ⟨Wrapper.target, decl⟩ second
      (Wrapper.setterNameOf (.ofPackage second) decl) = .ok fields)
    (complete : ∀ added ∈ entry.fields, ∃ field ∈ fields, field.name = added.name)
    {models : Package} {later : List Directive} {diagnostic : Diagnostic}
    (failed : Wrapper.wrappedRecordOf (.ofPackage second) models decl later = .error diagnostic)
    (field name : String) :
    diagnostic.fault ≠ .noSetterField field name ∧
      diagnostic.fault ≠ .unprintableSetting field := by
  have accepted := (List.forall₂_iff_zip.mp (Setter.setters_of_build built)).2 generated
  have fits : ¬ diagnostic.fault.IsMisfit := by
    intro misfit
    obtain ⟨getter, setter, model, member, getterIs, setterIs, isMember, failed⟩ :=
      Wrapper.exists_of_wrappedRecordOf_misfit failed misfit
    obtain ⟨tag, tagged, failed⟩ := Wrapper.exists_of_wrappedFieldOf_misfit failed misfit
    obtain ⟨set, unwrapped, missing⟩ := Wrapper.unwrappingOf_eq_error failed
    have named := Wrapper.fieldName?_of_unwrappedName? unwrapped
    obtain ⟨⟨type, selected⟩, added, addedMember, addedName⟩ :=
      Setter.exists_of_setterOf accepted (sameRecord.symm.trans getterIs) isMember tagged named
    rcases missing with missing | missing
    · obtain ⟨found, foundMember, foundName⟩ := complete added addedMember
      cases resolved.symm.trans setterIs
      exact findField?_eq_none.mp missing found foundMember (foundName.trans addedName)
    · have printable := SetterType.select?_isSome_eq first.path models.path first.reference
        second.reference tag member.type
      have printed : SetterType.select? first.path first.reference tag member.type = some type :=
        selected
      have unprintable : SetterType.select? models.path second.reference tag member.type = none :=
        missing
      rw [printed, unprintable] at printable
      cases printable
  constructor
  · intro fault
    exact fits (fault ▸ .noSetterField field name)
  · intro fault
    exact fits (fault ▸ .unprintableSetting field)

/-- A renamed field without a counterpart in the model: what is reported is the model. -/
theorem wrapper_accepts_setter_renamed :
    let widget : TypeDecl := ⟨"Widget", ⟨"shop.go", 4, 6⟩,
      .struct [⟨"Name", .basic .string, "repogen:\"set:'Title'\"", false⟩]⟩
    let title : TypeDecl := ⟨"WidgetSetter", ⟨"setter.repogen.go", 9, 6⟩,
      .struct [⟨"Title", .basic .string, "", false⟩]⟩
    let files : List SourceFile :=
      [⟨"shop.go", [⟨[⟨"//repogen:setter", 2⟩, ⟨"//repogen:bob", 3⟩]⟩]⟩]
    let second : Package := ⟨"shop", "example.com/shop", files, [widget, title]⟩
    let models : Package := ⟨"models", "example.com/models", [],
      [⟨"Widget", ⟨"models.go", 3, 6⟩, .struct [⟨"ID", .basic .int, "", false⟩]⟩]⟩
    ∃ diagnostic, Wrapper.wrappedRecordOf (.ofPackage second) models widget [⟨"bob", "", ""⟩] =
        .error diagnostic ∧
      diagnostic.fault ≠ .noSetterField "Name" "Title" := by
  intro widget title files second models
  let first : Package := ⟨"shop", "example.com/shop", files, [widget]⟩
  have built : Setter.build first =
      .ok ⟨"shop", [⟨"WidgetSetter", [⟨"Title", "omit.Val[string]"⟩]⟩]⟩ := by decide +kernel
  have failed : Wrapper.wrappedRecordOf (.ofPackage second) models widget [⟨"bob", "", ""⟩] =
      .error (.of Wrapper.target widget (.noModelField "Name" "Name")) := by decide +kernel
  have annotated : (widget, [⟨"setter", "", ""⟩]) ∈
      (DirectiveIndex.ofPackage first).annotated Setter.target :=
    DirectiveIndex.mem_annotated.mpr ⟨List.mem_cons_self, by decide +kernel, by decide⟩
  obtain ⟨entry, member, generated⟩ := exists_right_of_mem (List.forall₂_iff_zip.mpr
    ⟨(Setter.setters_of_build built).length_eq, fun paired => paired⟩) annotated
  obtain rfl := List.mem_singleton.mp member
  have resolved : Wrapper.setterFieldsOf ⟨Wrapper.target, widget⟩ second
      (Wrapper.setterNameOf (.ofPackage second) widget) =
        .ok [⟨"Title", .basic .string, "", false⟩] := by
    have named : Wrapper.setterNameOf (.ofPackage second) widget = "WidgetSetter" := by
      decide +kernel
    rw [named]
    exact Wrapper.setterFieldsOf_eq_ok.mpr ⟨title, rfl, rfl⟩
  have sameRecord : second.baseType widget.type = first.baseType widget.type := rfl
  refine ⟨_, failed,
    (wrapper_accepts_setter built generated sameRecord resolved ?_ failed "Name" "Title").1⟩
  intro added addedMember
  obtain rfl := List.mem_singleton.mp addedMember
  exact ⟨_, List.mem_cons_self, rfl⟩

end Scaffold
