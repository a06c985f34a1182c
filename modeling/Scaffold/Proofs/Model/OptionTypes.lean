import Scaffold.Proofs.Model.SearchedFields
import Scaffold.Proofs.Model.Setter

/-!
# Option types of criteria and of setters

A search strips the pointer off a type and prints the rest, a setter prints the type and strips the
pointer's marker off the text.  Unless a tag spells another type for the setter or makes it that of
a relation, both come to the same optional value, or neither has one (`optionTypes_agree`).
-/

set_option autoImplicit false

namespace Scaffold

open Checked

namespace SetterType

variable {viewer : String} {owner : PackageRef} {tag : FieldTag}

theorem select?_of_declared (unspelled : tag.value "settyp" = "") (unrelated : tag.value "rel" = "")
    (type : GoType) : select? viewer owner tag type =
      (type.print? viewer).map fun text => ⟨text, type.isPointer, type.isSlice⟩ := by
  simp [select?, unspelled, unrelated]

theorem optionType_of_star (bare : String) (isSlice : Bool) :
    optionType ⟨"*" ++ bare, true, isSlice⟩ = "omitnull.Val[" ++ bare ++ "]" := by
  simp [optionType, unpointed, dropText]

theorem optionType?_eq_select? (unspelled : tag.value "settyp" = "")
    (unrelated : tag.value "rel" = "") (type : GoType) :
    Criteria.optionType? viewer type = (select? viewer owner tag type).map optionType := by
  rw [select?_of_declared unspelled unrelated, Option.map_map]
  cases direct : type.isPointer with
  | false =>
      rw [Criteria.optionType?_of_direct viewer direct]
      rfl
  | true =>
      obtain ⟨elem, rfl⟩ : ∃ elem, type = .pointer elem := by
        cases type with
        | pointer elem => exact ⟨elem, rfl⟩
        | _ => cases direct
      rw [Criteria.optionType?_of_pointer, GoType.print?, Option.map_map]
      refine congrArg (Option.map · (elem.print? viewer)) (funext fun bare => ?_)
      exact (optionType_of_star bare _).symm

end SetterType

namespace Criteria

variable {subject : Subject} {viewer : String} {relations : Option (List Field)} {field : Field}
    {tag : FieldTag}

theorem criterionNames_blames_value (fieldName search : String) :
    FailsWith (fun d => ∀ name, d.fault ≠ .unprintableCriterion name)
      (criterionNames subject fieldName search) := by
  unfold criterionNames
  split
  · exact .ok _
  · exact .ok _
  · exact .ok _
  · exact .error (by nofun)
  · exact .error (by nofun)

/-- Whatever else is wrong with a searched field, its type is reported first. -/
theorem criteriaOf_unprintable_iff (tagRead : FieldTag.ofComposite field.tag = some tag)
    (searched : tag.contains "search" = true) (unrelated : tag.value "rel" = "") :
    criteriaOf subject viewer relations field =
        .error (.of subject.target subject.decl (.unprintableCriterion field.name)) ↔
      optionType? viewer field.type = none := by
  obtain ⟨search, present⟩ := Option.isSome_iff_exists.mp searched
  cases optional : optionType? viewer field.type with
  | none =>
      refine iff_of_true ?_ rfl
      unfold criteriaOf
      rw [Subject.tagOf_eq_ok.mpr tagRead, optional]
      dsimp only [bind, Except.bind]
      rw [present]
      rfl
  | some type =>
      refine iff_of_false (fun failed => ?_) nofun
      rw [criteriaOf_of_searched tagRead present optional] at failed
      simp only [unrelated, ne_eq, not_true_eq_false, if_false] at failed
      rcases bind_eq_error.mp failed with failed | ⟨_, _, failed⟩
      · exact criterionNames_blames_value field.name search _ failed field.name rfl
      · cases failed

end Criteria

namespace Setter

variable {subject : Subject} {package : Package} {field : Field} {tag : FieldTag}

theorem setterFieldOf_unprintable_iff (tagRead : FieldTag.ofComposite field.tag = some tag)
    (settable : (fieldName? field.name (tag.value "set")).isSome = true) :
    setterFieldOf subject package field =
        .error (.of subject.target subject.decl (.unprintableSetting field.name)) ↔
      SetterType.select? package.path package.reference tag field.type = none := by
  obtain ⟨name, named⟩ := Option.isSome_iff_exists.mp settable
  unfold setterFieldOf
  rw [Subject.tagOf_eq_ok.mpr tagRead]
  dsimp only [bind, Except.bind]
  rw [named]
  cases SetterType.select? package.path package.reference tag field.type with
  | none => exact iff_of_true rfl rfl
  | some type => exact iff_of_false nofun nofun

end Setter

open Criteria Setter in
/-- A type that no tag spells and that is no relation has one optional value for searches and for
setters, or none for both.  So the criteria and the setter field of a record's field have the same
type, and its type is at fault for both or for neither. -/
theorem optionTypes_agree (package : Package) (field : Field) (tag : FieldTag)
    (unspelled : tag.value "settyp" = "") (unrelated : tag.value "rel" = "") :
    optionType? package.path field.type =
        (SetterType.select? package.path package.reference tag field.type).map
          SetterType.optionType ∧
      (FieldTag.ofComposite field.tag = some tag →
        ∀ (search setter : Subject) (relations : Option (List Field)),
          (∀ own added, criteriaOf search package.path relations field = .ok own →
          setterFieldOf setter package field = .ok added →
            ∀ criterion ∈ own, ∀ setting ∈ added, criterion.type = setting.type) ∧
        (tag.contains "search" = true → (fieldName? field.name (tag.value "set")).isSome = true →
          (criteriaOf search package.path relations field =
              .error (.of search.target search.decl (.unprintableCriterion field.name)) ↔
            setterFieldOf setter package field =
              .error (.of setter.target setter.decl (.unprintableSetting field.name))))) := by
  have same : optionType? package.path field.type =
      (SetterType.select? package.path package.reference tag field.type).map
        SetterType.optionType :=
    SetterType.optionType?_eq_select? unspelled unrelated field.type
  refine ⟨same, fun tagRead search setter relations => ⟨?_, fun searched settable => ?_⟩⟩
  · intro own added criteria settings criterion isCriterion setting isSetting
    obtain ⟨tag', read, ⟨_, rfl⟩ | ⟨_, type, _, _, optional, _, _, rfl⟩⟩ :=
      criteriaOf_eq_ok criteria
    · cases isCriterion
    obtain ⟨tag'', read', ⟨_, rfl⟩ | ⟨_, selected, _, isSelected, rfl⟩⟩ :=
      setterFieldOf_eq_ok.mp settings
    · cases isSetting
    cases tagRead.symm.trans read
    cases tagRead.symm.trans read'
    obtain ⟨_, _, rfl⟩ := List.mem_map.mp isCriterion
    obtain rfl := List.mem_singleton.mp isSetting
    rw [optional, isSelected] at same
    exact Option.some.inj same
  · rw [criteriaOf_unprintable_iff tagRead searched unrelated,
      setterFieldOf_unprintable_iff tagRead settable, same, Option.map_eq_none_iff]

open Criteria Setter in
/-- Below the pointer are markers again and a type of the package itself; and behind a pointer there
is a type without a printed form. -/
theorem optionTypes_agree_pointer :
    let shop : PackageRef := ⟨"example.com/shop", "shop"⟩
    let package : Package := ⟨shop.name, shop.path, [], []⟩
    let parents : Field := ⟨"Parents", .pointer (.pointer (.slice (.ofName (some shop) "Tag"))),
      "repogen:\"search set:'Above'\"", false⟩
    let hook : Field := ⟨"Hook", .pointer .func, "repogen:\"search\"", false⟩
    let decl : TypeDecl := ⟨"Widget", ⟨"shop.go", 3, 6⟩, .struct [parents, hook]⟩
    criteriaOf ⟨Criteria.target, decl⟩ package.path none parents =
      .ok [⟨"Parents", "omitnull.Val[*[]Tag]", ""⟩] ∧
      setterFieldOf ⟨Setter.target, decl⟩ package parents =
        .ok [⟨"Above", "omitnull.Val[*[]Tag]"⟩] ∧
      (∀ criterion ∈ [(⟨"Parents", "omitnull.Val[*[]Tag]", ""⟩ : Criterion)],
        ∀ setting ∈ [(⟨"Above", "omitnull.Val[*[]Tag]"⟩ : SetterField)], criterion.type =
          setting.type) ∧
      setterFieldOf ⟨Setter.target, decl⟩ package hook =
        .error (.of Setter.target decl (.unprintableSetting "Hook")) := by
  intro shop package parents hook decl
  have criteria : criteriaOf ⟨Criteria.target, decl⟩ package.path none parents =
      .ok [⟨"Parents", "omitnull.Val[*[]Tag]", ""⟩] := by decide +kernel
  have settings : setterFieldOf ⟨Setter.target, decl⟩ package parents =
      .ok [⟨"Above", "omitnull.Val[*[]Tag]"⟩] := by decide +kernel
  let renamed : FieldTag := ⟨[("search", ""), ("set", "Above")]⟩
  let plain : FieldTag := ⟨[("search", "")]⟩
  have parentsRead : FieldTag.ofComposite parents.tag = some renamed := by decide +kernel
  have hookRead : FieldTag.ofComposite hook.tag = some plain := by decide +kernel
  obtain ⟨_, both⟩ := optionTypes_agree package parents renamed (by decide) (by decide)
  obtain ⟨_, neither⟩ := optionTypes_agree package hook plain (by decide) (by decide)
  obtain ⟨types, _⟩ := both parentsRead ⟨Criteria.target, decl⟩ ⟨Setter.target, decl⟩ none
  obtain ⟨_, faults⟩ := neither hookRead ⟨Criteria.target, decl⟩ ⟨Setter.target, decl⟩ none
  exact ⟨criteria, settings, types _ _ criteria settings,
    (faults (by decide) (by decide +kernel)).mp (by decide +kernel)⟩

end Scaffold
