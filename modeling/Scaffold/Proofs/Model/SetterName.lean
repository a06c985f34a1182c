import Scaffold.Proofs.Model.Wrapper

/-!
# The name of a record's setter

Setters and wrappers read the name of a setter off the same directives, but not in the same way: the
setter keeps the last name that a bare directive gives, while the wrapper looks at the last bare
directive alone.  `setterNames_agree_iff` says exactly when both come to the same name.
-/

set_option autoImplicit false

namespace Scaffold

/-- No empty bare directive stands behind the last name, unless that name is the default one. -/
def Setter.NameStands (declName : String) (directives : List Directive) : Prop :=
  ∀ last, directives.reverse.find? Directive.isPrimary = some last → last.args = "" →
    ∀ name, givenName? directives = some name → name = defaultName declName

namespace Wrapper

open Checked

variable {index : DirectiveIndex} {decl : TypeDecl} {entry : Setter.SetterStruct}

/-- One declaration: the wrapper derives the name of the built setter exactly when that name
stands. -/
theorem setterNameOf_eq_iff
    (built : Setter.setterOf index decl (index.directives decl Setter.target) = .ok entry) :
    setterNameOf index decl = entry.name ↔
      Setter.NameStands decl.name (index.directives decl Setter.target) := by
  rw [Setter.name_of_setterOf built]
  unfold setterNameOf Setter.NameStands
  cases found : (index.directives decl Setter.target).reverse.find? Directive.isPrimary with
  | none => simp [Setter.givenName?_eq_none found]
  | some last =>
      dsimp only
      by_cases empty : last.args = ""
      · -- The wrapper falls back to the default, while the setter still has any earlier name.
        rw [if_pos empty]
        constructor
        · intro same _ _ _ name given
          rw [given] at same
          exact same.symm
        · intro stands
          cases given : Setter.givenName? (index.directives decl Setter.target) with
          | none => rfl
          | some name => exact (stands last rfl empty name given).symm
      · rw [if_neg empty, Setter.givenName?_eq_some found empty]
        refine iff_of_true rfl ?_
        rintro _ ⟨⟩ blank
        exact absurd blank empty

end Wrapper

open Checked

/-- Setters and wrappers agree on the name of a setter exactly when the name stands.  The wrapper
looks its name up in the package and keeps it. -/
theorem setterNames_agree_iff {package : Package} {setters : Setter.Model}
    (built : Setter.build package = .ok setters) :
    let index := DirectiveIndex.ofPackage package
    List.Forall₂ (fun annotated entry =>
        (Wrapper.setterNameOf index annotated.1 = entry.name ↔
          Setter.NameStands annotated.1.name annotated.2) ∧
        ∀ models directives record,
          Wrapper.wrappedRecordOf index models annotated.1 directives = .ok record →
          record.setterName = Wrapper.setterNameOf index annotated.1 ∧
            (package.lookup? record.setterName).isSome)
      (index.annotated Setter.target) setters.setters := by
  intro index
  have each := Setter.setters_of_build built
  rw [List.forall₂_iff_zip] at each ⊢
  refine ⟨each.1, fun {annotated entry} paired => ⟨?_, fun models directives record wrapped => ?_⟩⟩
  · obtain ⟨decl, directives⟩ := annotated
    have member := (List.of_mem_zip paired).1
    obtain ⟨_, rfl, _⟩ := DirectiveIndex.mem_annotated.mp member
    exact Wrapper.setterNameOf_eq_iff (each.2 paired)
  · obtain ⟨_, _, _, _, _, setterOk, _, _, _, named, _⟩ := Wrapper.wrappedRecordOf_eq_ok wrapped
    obtain ⟨declared, found, _⟩ := Wrapper.setterFieldsOf_eq_ok.mp setterOk
    exact ⟨named, Option.isSome_iff_exists.mpr ⟨declared, found⟩⟩

/-- A record `Widget` under two comment lines, with the struct `WidgetPatch` next to it. -/
def Setter.patchedWidget (first second : String) : Package :=
  ⟨"shop", "example.com/shop", [⟨"shop.go", [⟨[⟨first, 2⟩, ⟨second, 3⟩]⟩]⟩],
    [⟨"Widget", ⟨"shop.go", 4, 6⟩, .struct [⟨"Name", .basic .string, "", false⟩]⟩,
      ⟨"WidgetPatch", ⟨"shop.go", 9, 6⟩, .struct [⟨"Name", .basic .string, "", false⟩]⟩]⟩

/-- A directive for an extra field does not come between a setter and its name. -/
theorem setterNames_agree_behind_extra :
    let package :=
      Setter.patchedWidget "//repogen:setter WidgetPatch" "//repogen:setter:extra Touch bool"
    ∃ widget ∈ package.decls, Wrapper.setterNameOf (.ofPackage package) widget = "WidgetPatch" := by
  intro package
  let index := DirectiveIndex.ofPackage package
  let widget : TypeDecl :=
    ⟨"Widget", ⟨"shop.go", 4, 6⟩, .struct [⟨"Name", .basic .string, "", false⟩]⟩
  have declared : widget ∈ package.decls := List.mem_cons_self
  have built : Setter.build package = .ok ⟨"shop", [⟨"WidgetPatch",
      [⟨"Name", "omit.Val[string]"⟩, ⟨"Touch", "bool"⟩]⟩]⟩ := by decide +kernel
  have named : (index.directives widget Setter.target).reverse.find? Directive.isPrimary =
      some ⟨"setter", "", "WidgetPatch"⟩ := by decide +kernel
  have annotated : (widget, index.directives widget Setter.target) ∈
      index.annotated Setter.target :=
    DirectiveIndex.mem_annotated.mpr ⟨declared, rfl, by decide +kernel⟩
  obtain ⟨entry, member, agree, _⟩ := exists_right_of_mem (setterNames_agree_iff built) annotated
  obtain rfl := List.mem_singleton.mp member
  refine ⟨widget, declared, agree.mpr fun last found empty => ?_⟩
  cases named.symm.trans found
  exact absurd empty (by decide)

/-- An empty bare directive behind the name makes the wrapper look for another setter. -/
theorem setterNames_differ :
    let package := Setter.patchedWidget "//repogen:setter WidgetPatch" "//repogen:setter"
    Setter.build package = .ok ⟨"shop", [⟨"WidgetPatch", [⟨"Name", "omit.Val[string]"⟩]⟩]⟩ ∧
      package.decls.map (Wrapper.setterNameOf (.ofPackage package)) =
        ["WidgetSetter", "WidgetPatchSetter"] := by
  decide +kernel

end Scaffold
