import Scaffold.Proofs.Model.Repository

/-!
# The operations of a repository

A repository has an operation when some bare directive lists it or has no arguments at all
(`operations_of_directives`).  Whether a directive has arguments is decided by its raw text, while
what it lists are the words between its spaces: arguments of spaces only list nothing and do not
stand for all operations either (`blank_list_enables_nothing`).
-/

set_option autoImplicit false

namespace Scaffold

open Checked

/-! ## Names and flags -/

namespace Repository

variable {subject : Subject} {op : Operation}

theorem Operation.ofName?_eq_some_iff {word : String} :
    Operation.ofName? word = some op ↔ op.name = word := by
  constructor
  · intro found
    simpa using List.find?_some found
  · rintro rfl
    cases op <;> decide

@[simp] theorem Operations.has_all : Operations.all.has op = true := by
  cases op <;> rfl

@[simp] theorem Operations.not_has_none : ¬ Operations.none.has op = true := by
  cases op <;> nofun

@[simp] theorem Operations.has_enable (ops : Operations) (added : Operation) :
    (ops.enable added).has op = true ↔ ops.has op = true ∨ op = added := by
  cases added <;> cases op <;> simp [enable, has]

end Repository

/-! ## What directives add -/

def Directive.Enables (d : Directive) (op : Repository.Operation) : Prop :=
  d.isPrimary = true ∧ (d.args = "" ∨ op.name ∈ d.words)

namespace Repository

variable {subject : Subject} {op : Operation}

theorem has_of_enableAll {ops next : Operations} {d : Directive}
    (enabled : enableAll subject ops d = .ok next) :
    next.has op = true ↔ ops.has op = true ∨ d.args = "" ∨ op.name ∈ d.words := by
  unfold enableAll at enabled
  split at enabled
  next empty =>
    obtain rfl := Except.ok.inj enabled
    simp [empty]
  next given =>
    have listed : next.has op = true ↔ ops.has op = true ∨ ∃ word ∈ d.words, op.name = word := by
      refine foldlM_gains (P := fun ops => ops.has op = true) (fun state word after step => ?_)
        enabled
      split at step
      next added found =>
        obtain rfl := Except.ok.inj step
        rw [Operations.has_enable, ← Operation.ofName?_eq_some_iff, found, Option.some_inj]
        exact or_congr_right eq_comm
      next => cases step
    rw [listed]
    simp [given]

theorem has_of_applyDirective {entry next : Interface} {d : Directive}
    (applied : applyDirective subject entry d = .ok next) :
    next.operations.has op = true ↔ entry.operations.has op = true ∨ d.Enables op := by
  unfold applyDirective at applied
  split at applied
  case h_1 bare =>
    obtain ⟨operations, enabled, applied⟩ := bind_eq_ok.mp applied
    obtain rfl := Except.ok.inj applied
    simp [Directive.Enables, Directive.isPrimary, bare, has_of_enableAll enabled]
  case h_10 => cases applied
  all_goals
    next topic =>
      obtain rfl := Except.ok.inj applied
      simp [Directive.Enables, Directive.isPrimary, topic]

theorem has_of_foldlM {directives : List Directive} {start last : Interface}
    (folded : directives.foldlM (applyDirective subject) start = .ok last) :
    last.operations.has op = true ↔ start.operations.has op = true ∨
      ∃ d ∈ directives, d.Enables op :=
  foldlM_gains (P := fun entry : Interface => entry.operations.has op = true)
    (Q := fun d => d.Enables op) (fun _ _ _ => has_of_applyDirective) folded

theorem has_of_interfaceOf {index : DirectiveIndex} {decl : TypeDecl} {directives : List Directive}
    {entry : Interface} (built : interfaceOf index decl directives = .ok entry) :
    entry.operations.has op = true ↔ ∃ d ∈ directives, d.Enables op := by
  obtain ⟨_, extra, _, _, folded, _, _, _, same⟩ := interfaceOf_eq_ok built
  have operations : entry.operations = extra.operations := by rw [same]
  rw [operations, has_of_foldlM folded, Interface.ofName]
  simp

end Repository

/-- A bare directive adds the operations it lists, and all of them when it has no arguments.  So
when no arguments are made of spaces only, an operation is there exactly when some bare directive
lists it or lists none. -/
theorem operations_of_directives {package : Package} {model : Repository.Model}
    (built : Repository.build package = .ok model) :
    List.Forall₂ (fun decl entry =>
        let directives := package.directivesAbove decl.pos Repository.target
        ∀ op : Repository.Operation,
          (entry.operations.has op = true ↔
            ∃ d ∈ directives, d.isPrimary = true ∧ (d.args = "" ∨ op.name ∈ d.words)) ∧
          ((∀ d ∈ directives, d.isPrimary = true → d.args ≠ "" → ∃ c ∈ d.args.toList, c ≠ ' ') →
            (entry.operations.has op = true ↔
              ∃ d ∈ directives, d.isPrimary = true ∧ (op.name ∈ d.words ∨ d.words = []))))
      (package.annotated Repository.target) model.interfaces := by
  have contract := Repository.keepsContract.entity_of_each (map_eq_ok.mpr ⟨model, built, rfl⟩)
  refine contract.imp fun decl entry ⟨made, _⟩ op =>
    ⟨Repository.has_of_interfaceOf made, fun spelled => ?_⟩
  rw [Repository.has_of_interfaceOf made]
  refine exists_congr fun d => and_congr_right fun member => and_congr_right fun bare => ?_
  have wordless : d.args = "" ↔ d.words = [] := by
    rw [Directive.words, Text.words_eq_nil_iff]
    constructor
    · intro empty
      simp [empty]
    · intro blank
      by_contra given
      obtain ⟨c, isChar, other⟩ := spelled d member bare given
      exact other (blank c isChar)
  rw [wordless, or_comm]

def Repository.widget : TypeDecl :=
  ⟨"Widget", ⟨"shop.go", 4, 6⟩, .struct
    [⟨"ID", .basic .int64, "repogen:\"pk\"", false⟩, ⟨"Name", .basic .string, "", false⟩]⟩

def Repository.keyedWidget (first second : String) : Package :=
  ⟨"shop", "example.com/shop", [⟨"shop.go", [⟨[⟨first, 2⟩, ⟨second, 3⟩]⟩]⟩], [widget]⟩

/-- Spaces around the words of a list make no difference. -/
theorem operations_of_directives_spaced :
    let package :=
      Repository.keyedWidget "//repogen:crud get  delete " "//repogen:crud:plural Widgetz"
    ∃ entry, Repository.build package = .ok ⟨"shop", [entry], [], []⟩ ∧
      ∀ op : Repository.Operation, entry.operations.has op = true ↔
        op.name ∈ ["get", "delete"] := by
  intro package
  let entry : Repository.Interface := ⟨"WidgetRepository", "Widget", "Widgetz",
    ⟨false, true, false, false, true⟩, "", "", "", [], "WidgetSearchData", [⟨"id", "int64"⟩]⟩
  have built : Repository.build package = .ok ⟨"shop", [entry], [], []⟩ := by decide +kernel
  have directives : package.directivesAbove Repository.widget.pos Repository.target =
      [⟨"crud", "", "get  delete "⟩, ⟨"crud", "plural", "Widgetz"⟩] := by decide +kernel
  have annotated : package.annotated Repository.target = [Repository.widget] := rfl
  have each := operations_of_directives built
  rw [annotated] at each
  obtain ⟨listed, _⟩ := List.forall₂_cons.mp each
  refine ⟨entry, built, fun op => ?_⟩
  have words : Directive.words ⟨"crud", "", "get  delete "⟩ = ["get", "delete"] := by decide +kernel
  rw [(listed op).1, directives]
  simp [Directive.isPrimary, words]

/-- A list of spaces has no words, and the repository gets no operations. -/
theorem blank_list_enables_nothing :
    let package := Repository.keyedWidget "// Widget is what the shop sells." "//repogen:crud  "
    (∃ entry, Repository.build package = .ok ⟨"shop", [entry], [], []⟩ ∧ entry.operations = .none) ∧
      package.decls.map (package.directivesAbove ·.pos Repository.target) = [[⟨"crud", "", " "⟩]] ∧
      Directive.words ⟨"crud", "", " "⟩ = [] ∧
      ¬ ∀ (package : Package) (model : Repository.Model), Repository.build package = .ok model →
        List.Forall₂ (fun decl entry => ∀ op : Repository.Operation,
            entry.operations.has op = true ↔
              ∃ d ∈ package.directivesAbove decl.pos Repository.target,
              d.isPrimary = true ∧ (op.name ∈ d.words ∨ d.words = []))
          (package.annotated Repository.target) model.interfaces := by
  intro package
  let entry : Repository.Interface :=
    ⟨"WidgetRepository", "Widget", "Widgets", .none, "", "", "", [], "WidgetSearchData",
      [⟨"id", "int64"⟩]⟩
  have built : Repository.build package = .ok ⟨"shop", [entry], [], []⟩ := by decide +kernel
  have directives : package.directivesAbove Repository.widget.pos Repository.target =
      [⟨"crud", "", " "⟩] := by
    decide +kernel
  have wordless : Directive.words ⟨"crud", "", " "⟩ = [] := by decide +kernel
  have annotated : package.annotated Repository.target = [Repository.widget] := rfl
  refine ⟨⟨entry, built, rfl⟩, congrArg ([·]) directives, wordless, fun agree => ?_⟩
  have each := agree package _ built
  rw [annotated] at each
  obtain ⟨listed, _⟩ := List.forall₂_cons.mp each
  have enabled := (listed .get).mpr ⟨⟨"crud", "", " "⟩, directives ▸ List.mem_singleton_self _, rfl,
    .inr wordless⟩
  exact Repository.Operations.not_has_none enabled

end Scaffold
