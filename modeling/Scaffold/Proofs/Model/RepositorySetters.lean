import Scaffold.Proofs.Model.Operations
import Scaffold.Proofs.Model.RepositoryText
import Scaffold.Proofs.Model.Setter

/-!
# Setters in the methods of repositories

The methods that create and edit an entity take its setter, under the name that a setter has by
default.  A directive may give the setter another name, which the repository does not look at.  So
the type that both methods name is the generated setter exactly when no directive gives another name
(`repository_names_setter_iff`); else it is a type that is not generated
(`repository_names_missing_setter`).
-/

set_option autoImplicit false

namespace Scaffold

open Checked Text

theorem Repository.Interface.setterParameter_mem {entry : Interface} {op : Operation}
    (takes : op ∈ [Operation.create, .edit]) :
    entry.setterParameter ∈ (entry.method op).parameters := by
  simp only [List.mem_cons, List.not_mem_nil, or_false] at takes
  rcases takes with rfl | rfl <;> simp [method]

theorem Setter.defaultName_eq_iff {package : Package} {decl : TypeDecl} {setter : SetterStruct}
    (described : Describes package decl setter) : defaultName decl.name = setter.name ↔
      ∀ name, givenName? (package.directivesAbove decl.pos target) = some name →
        name = defaultName decl.name := by
  rw [described.name]
  cases givenName? (package.directivesAbove decl.pos target) with
  | none => simp
  | some name => simp [eq_comm]

/-- A declaration with both directives has an interface and a setter.  The methods that create and
edit the entity stand in the rendered interface and take the setter under its default name, which is
the name of the generated one exactly when no directive gives another name. -/
theorem repository_names_setter_iff {package : Package} {repositories : Repository.Model}
    {setters : Setter.Model} (built : Repository.build package = .ok repositories)
    (settersBuilt : Setter.build package = .ok setters) {decl : TypeDecl}
    (declared : decl ∈ package.decls)
    (hasRepository : package.isAnnotated Repository.target decl = true)
    (hasSetter : package.isAnnotated Setter.target decl = true) :
    ∃ entry ∈ repositories.interfaces, ∃ setter ∈ setters.setters,
      package.entityAt Repository.target Repository.interfaceOf decl = .ok entry ∧
      package.entityAt Setter.target Setter.setterOf decl = .ok setter ∧
      (∃ lines, Template.render Generator.repository.template repositories.toJson =
        .ok (ended lines) ∧ entry.lines <:+: lines) ∧
      (∀ op ∈ [Repository.Operation.create, .edit], entry.operations.has op = true →
        (entry.method op).line ∈ entry.lines ∧
          entry.setterParameter ∈ (entry.method op).parameters) ∧
      entry.setterParameter = ⟨"s", "*" ++ Setter.defaultName decl.name⟩ ∧
      (entry.setterParameter.type = "*" ++ setter.name ↔
        ∀ name, Setter.givenName? (package.directivesAbove decl.pos Setter.target) = some name →
          name = Setter.defaultName decl.name) := by
  have interfaces :=
    Repository.keepsContract.entity_of_each (map_eq_ok.mpr ⟨repositories, built, rfl⟩)
  have structs := Setter.keepsContract.entity_of_each (map_eq_ok.mpr ⟨setters, settersBuilt, rfl⟩)
  obtain ⟨entry, isEntry, made, described⟩ :=
    exists_right_of_mem interfaces (List.mem_filter.mpr ⟨declared, hasRepository⟩)
  obtain ⟨setter, isSetter, setterMade, setterDescribed⟩ :=
    exists_right_of_mem structs (List.mem_filter.mpr ⟨declared, hasSetter⟩)
  have parameter : entry.setterParameter = ⟨"s", "*" ++ Setter.defaultName decl.name⟩ := by
    rw [Repository.Interface.setterParameter, Repository.Interface.setterType, described.name,
      Setter.defaultName]
  refine ⟨entry, isEntry, setter, isSetter, made, setterMade,
    ⟨_, Repository.render_of_build built, Repository.Interface.lines_infix isEntry⟩,
    fun op takes has => ⟨Repository.Interface.line_mem has,
      Repository.Interface.setterParameter_mem takes⟩,
    parameter, ?_⟩
  rw [parameter, String.append_right_inj]
  exact Setter.defaultName_eq_iff setterDescribed

/-- A directive that spells the default name changes nothing. -/
theorem repository_names_setter_spelled :
    let package :=
      Repository.keyedWidget "//repogen:crud create edit" "//repogen:setter WidgetSetter"
    ∃ entry, Repository.build package = .ok ⟨"shop", [entry], [], []⟩ ∧
      Setter.build package = .ok ⟨"shop", [⟨"WidgetSetter", [⟨"Name", "omit.Val[string]"⟩]⟩]⟩ ∧
      entry.setterParameter.type = "*WidgetSetter" := by
  intro package
  let entry : Repository.Interface := ⟨"WidgetRepository", "Widget", "Widgets",
    ⟨true, false, false, true, false⟩, "", "", "", [], "WidgetSearchData", [⟨"id", "int64"⟩]⟩
  have built : Repository.build package = .ok ⟨"shop", [entry], [], []⟩ := by decide +kernel
  have settersBuilt : Setter.build package =
      .ok ⟨"shop", [⟨"WidgetSetter", [⟨"Name", "omit.Val[string]"⟩]⟩]⟩ := by decide +kernel
  have given : Setter.givenName? (package.directivesAbove Repository.widget.pos Setter.target) =
      some "WidgetSetter" := by
    decide +kernel
  have declared : Repository.widget ∈ package.decls := List.mem_cons_self
  obtain ⟨_, isEntry, setter, isSetter, _, _, _, _, _, names⟩ :=
    repository_names_setter_iff built settersBuilt declared (by decide +kernel) (by decide +kernel)
  obtain rfl := List.mem_singleton.mp isEntry
  obtain rfl := List.mem_singleton.mp isSetter
  refine ⟨entry, built, settersBuilt, names.mpr fun name found => ?_⟩
  exact Option.some.inj (found.symm.trans given)

/-- The setter has a name of its own, and the repository takes a type that there is not. -/
theorem repository_names_missing_setter :
    let package :=
      Repository.keyedWidget "//repogen:crud create edit" "//repogen:setter WidgetPatch"
    let entry : Repository.Interface := ⟨"WidgetRepository", "Widget", "Widgets",
      ⟨true, false, false, true, false⟩, "", "", "", [], "WidgetSearchData", [⟨"id", "int64"⟩]⟩
    let setter : Setter.SetterStruct := ⟨"WidgetPatch", [⟨"Name", "omit.Val[string]"⟩]⟩
    Repository.build package = .ok ⟨"shop", [entry], [], []⟩ ∧
      Setter.build package = .ok ⟨"shop", [setter]⟩ ∧
      entry.methods.map Repository.Method.line =
        ["\tCreateWidget(ctx context.Context, s *WidgetSetter) (*Widget, error)",
          "\tEditWidget(ctx context.Context, id int64, s *WidgetSetter) (*Widget, error)"] ∧
      ¬ ∀ (package : Package) (repositories : Repository.Model) (setters : Setter.Model),
        Repository.build package = .ok repositories → Setter.build package = .ok setters →
        ∀ decl ∈ package.decls, package.isAnnotated Repository.target decl = true →
        package.isAnnotated Setter.target decl = true →
        ∀ entry setter, package.entityAt Repository.target Repository.interfaceOf decl = .ok entry →
        package.entityAt Setter.target Setter.setterOf decl = .ok setter →
        ∀ op ∈ [Repository.Operation.create, .edit], entry.operations.has op = true →
          ⟨"s", "*" ++ setter.name⟩ ∈ (entry.method op).parameters := by
  intro package entry setter
  have built : Repository.build package = .ok ⟨"shop", [entry], [], []⟩ := by decide +kernel
  have settersBuilt : Setter.build package = .ok ⟨"shop", [setter]⟩ := by decide +kernel
  refine ⟨built, settersBuilt, by decide +kernel, fun named => ?_⟩
  have missing :=
    named package _ _ built settersBuilt Repository.widget List.mem_cons_self (by decide +kernel)
    (by decide +kernel) entry setter (by decide +kernel)
    (by decide +kernel) .create List.mem_cons_self rfl
  revert missing
  decide +kernel

end Scaffold
