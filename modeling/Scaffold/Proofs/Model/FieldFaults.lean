import Scaffold.Proofs.Model.Wrapper

/-!
# Faults of fields

A wrapper fails on the record as a whole or on one of its fields, and a fault that names a field
comes from one of its own steps (`exists_of_wrappedRecordOf_eq_error`).
-/

set_option autoImplicit false

namespace Scaffold

open Checked

def Fault.field? : Fault → Option String
  | malformedTag field _ | noRelations field | noRelation field _ => some field
  | unprintableKey field | unprintableActor field | unprintableCriterion field => some field
  | rangeNames field | unknownSearch field _ | unprintableSetting field => some field
  | unprintableField field | noSetterField field _ | noModelField field _ => some field
  | unprintableModelField field _ | unprintableRelation field _ => some field
  | _ => none

namespace Wrapper

variable {subject : Subject} {models : Package} {index : DirectiveIndex} {decl : TypeDecl}
  {directives : List Directive} {diagnostic : Diagnostic} {other : Counterpart} {tag : FieldTag}
  {field : Field}

theorem fault_of_unwrappingOf (failed : unwrappingOf subject other tag field = .error diagnostic) :
    (∃ name, diagnostic.fault = .noSetterField field.name name) ∨
      diagnostic.fault = .unprintableSetting field.name := by
  unfold unwrappingOf at failed
  dsimp only at failed
  split at failed
  · cases failed
  · rcases bind_eq_error.mp failed with failed | ⟨_, _, failed⟩
    · exact .inl ⟨_, Subject.fault_of_expect failed⟩
    · rcases bind_eq_error.mp failed with failed | ⟨_, _, failed⟩
      · exact .inr (Subject.fault_of_expect failed)
      · cases failed

theorem fault_of_relatedTo (failed : relatedTo subject other tag field = .error diagnostic) :
    diagnostic.fault = .noRelations field.name ∨
      diagnostic.fault = .noRelation field.name (tag.value "rel") ∨
      diagnostic.fault = .unprintableRelation field.name (tag.value "rel") := by
  unfold relatedTo at failed
  split at failed
  · cases failed
  · exact fault_of_relationTypeOf failed

/-- The step at which a field fails, as far as its fault tells them apart. -/
inductive FailedStep (subject : Subject) (other : Counterpart) (field : Field)
    (diagnostic : Diagnostic) :
    Prop where
  | tag (fault : diagnostic.fault = .malformedTag field.name field.tag)
  | type (fault : diagnostic.fault = .unprintableField field.name)
  | unwrapping {tag : FieldTag} (tagRead : FieldTag.ofComposite field.tag = some tag)
      (failed : unwrappingOf subject other tag field = .error diagnostic)
  | storage {tag : FieldTag} {unwrapping : Unwrapping}
    (tagRead : FieldTag.ofComposite field.tag = some tag)
      (kept : isSkipped tag = false)
      (unwraps : unwrappingOf subject other tag field = .ok unwrapping)
      (failed : storedAs subject other tag field unwrapping = .error diagnostic)
  | relation {tag : FieldTag} (failed : relatedTo subject other tag field = .error diagnostic)

theorem failedStep_of_wrappedFieldOf
    (failed : wrappedFieldOf subject other field = .error diagnostic) :
    FailedStep subject other field diagnostic := by
  rw [wrappedFieldOf_eq] at failed
  rcases bind_eq_error.mp failed with failed | ⟨tag, tagOk, failed⟩
  · exact .tag (Subject.fault_of_expect failed)
  have tagRead := Subject.tagOf_eq_ok.mp tagOk
  split at failed
  · cases failed
  next kept =>
    rcases bind_eq_error.mp failed with failed | ⟨getterType, _, failed⟩
    · exact .type (Subject.fault_of_expect failed)
    rcases bind_eq_error.mp failed with failed | ⟨unwrapping, unwraps, failed⟩
    · exact .unwrapping tagRead failed
    rcases bind_eq_error.mp failed with failed | ⟨stored, _, failed⟩
    · exact .storage tagRead (Bool.eq_false_iff.mpr kept) unwraps failed
    rcases bind_eq_error.mp failed with failed | ⟨relationType, _, failed⟩
    · exact .relation failed
    · cases failed

/-- A wrapper whose error is about a field has come to its fields, and one of them fails. -/
theorem exists_of_wrappedRecordOf_eq_error
    (failed : wrappedRecordOf index models decl directives = .error diagnostic)
    (about : diagnostic.fault.field? ≠ none) :
    ∃ getter setter options model field,
      index.package.baseType decl.type = .struct getter ∧
      setterFieldsOf ⟨target, decl⟩ index.package (setterNameOf index decl) = .ok setter ∧
      directives.foldlM (applyDirective ⟨target, decl⟩) ⟨decl.name, false, false⟩ = .ok options ∧
      modelFieldsOf ⟨target, decl⟩ models options.modelName = .ok model ∧ field ∈ getter ∧
      wrappedFieldOf ⟨target, decl⟩ ⟨index.package, models, setter, model⟩ field =
        .error diagnostic := by
  unfold wrappedRecordOf at failed
  rcases bind_eq_error.mp failed with failed | ⟨getter, getterOk, failed⟩
  · rw [Subject.fault_of_record failed] at about
    exact absurd rfl about
  rcases bind_eq_error.mp failed with failed | ⟨setter, setterOk, failed⟩
  · rcases fault_of_setterFieldsOf failed with fault | fault
    · exact absurd (congrArg Fault.field? fault) about
    · exact absurd (congrArg Fault.field? fault) about
  rcases bind_eq_error.mp failed with failed | ⟨options, optionsOk, failed⟩
  · obtain ⟨d, _, state, failed⟩ := exists_of_foldlM_eq_error failed
    obtain ⟨word, fault | fault⟩ := fault_of_applyDirective failed
    · exact absurd (congrArg Fault.field? fault) about
    · exact absurd (congrArg Fault.field? fault) about
  rcases bind_eq_error.mp failed with failed | ⟨model, modelOk, failed⟩
  · rcases fault_of_modelFieldsOf failed with fault | fault
    · exact absurd (congrArg Fault.field? fault) about
    · exact absurd (congrArg Fault.field? fault) about
  rcases bind_eq_error.mp failed with failed | ⟨fields, _, failed⟩
  · obtain ⟨field, member, failed⟩ := exists_of_mapM_eq_error failed
    exact ⟨getter, setter, options, model, field, Subject.record_eq_ok.mp getterOk, setterOk,
      optionsOk, modelOk, member, failed⟩
  split at failed
  · cases failed
    exact absurd rfl about
  · cases failed

end Wrapper

end Scaffold
