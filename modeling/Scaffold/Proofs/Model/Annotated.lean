import Scaffold.Model.Annotated
import Scaffold.Proofs.Checked

/-!
# Annotated records, taken apart

What the shared steps of the models give when they succeed, and what they report when they do not.
-/

set_option autoImplicit false

namespace Scaffold

open Checked

/-! ## Fields by name -/

theorem findField?_eq_some {fields : List Field} {name : String} {field : Field}
    (found : findField? fields name = some field) : field ∈ fields ∧ field.name = name := by
  refine ⟨List.mem_of_find?_eq_some found, ?_⟩
  have named := List.find?_some found
  simpa using named

theorem findField?_eq_none {fields : List Field} {name : String} :
    findField? fields name = none ↔ ∀ field ∈ fields, field.name ≠ name := by
  unfold findField?
  rw [List.find?_eq_none]
  simp only [decide_eq_true_eq]

/-! ## Steps on behalf of a declaration -/

namespace Subject

variable {α : Type} {subject : Subject} {fault : Fault} {diagnostic : Diagnostic}

theorem expect_eq_ok {result : Option α} {value : α} :
    subject.expect fault result = .ok value ↔ result = some value := by
  cases result <;> simp [expect, fail]

theorem expect_eq_error {result : Option α} :
    subject.expect fault result = .error diagnostic ↔
      result = none ∧ diagnostic = .of subject.target subject.decl fault := by
  cases result <;> simp [expect, fail, eq_comm]

theorem fault_of_expect {result : Option α}
    (failed : subject.expect fault result = .error diagnostic) :
    diagnostic.fault = fault := by
  obtain ⟨_, rfl⟩ := expect_eq_error.mp failed
  rfl

theorem fault_of_record {package : Package} (failed : subject.record package = .error diagnostic) :
    diagnostic.fault = .notStruct := by
  unfold record at failed
  split at failed
  · cases failed
  · cases failed
    rfl

theorem record_eq_ok {package : Package} {fields : List Field} :
    subject.record package = .ok fields ↔ package.baseType subject.decl.type = .struct fields := by
  unfold record
  split
  · next found => rw [found]; simp
  · next other =>
      simp only [fail, reduceCtorEq, false_iff]
      exact other fields

theorem tagOf_eq_ok {field : Field} {tag : FieldTag} :
    subject.tagOf field = .ok tag ↔ FieldTag.ofComposite field.tag = some tag :=
  expect_eq_ok

theorem relation_eq_ok {relations : Option (List Field)} {fieldName name : String}
    {related : Field} :
    subject.relation relations fieldName name = .ok related ↔
      ∃ fields, relations = some fields ∧ findField? fields name = some related := by
  cases relations with
  | none => simp [relation, fail]
  | some fields => simp [relation, expect_eq_ok]

theorem fault_of_relation {relations : Option (List Field)} {fieldName name : String}
    (failed : subject.relation relations fieldName name = .error diagnostic) :
    diagnostic.fault = .noRelations fieldName ∨ diagnostic.fault = .noRelation fieldName name := by
  cases relations with
  | none =>
      cases failed
      exact .inl rfl
  | some fields => exact .inr (fault_of_expect failed)

end Subject

namespace Subject

/-- The fields of the struct that the declaration of a name leads to.  A missing declaration is a
fault of the subject; a declaration that is no struct is reported in its own way. -/
def structNamed (subject : Subject) (package : Package) (name : String) (missing : Fault)
    (notStruct : TypeDecl → Diagnostic) : Except Diagnostic (List Field) := do
  let declared ← subject.expect missing (package.lookup? name)
  match package.baseType declared.type with
  | .struct fields => return fields
  | _ => .error (notStruct declared)

variable {subject : Subject} {package : Package} {name : String} {missing : Fault}
  {notStruct : TypeDecl → Diagnostic} {diagnostic : Diagnostic}

theorem structNamed_eq_ok {fields : List Field} :
    subject.structNamed package name missing notStruct = .ok fields ↔
      ∃ declared, package.lookup? name = some declared ∧
        package.baseType declared.type = .struct fields := by
  unfold structNamed
  rw [bind_eq_ok]
  refine exists_congr fun declared => and_congr expect_eq_ok ?_
  split
  · next resolved => simp [resolved, pure, Except.pure]
  · next other => simpa using other fields

theorem structNamed_eq_error :
    subject.structNamed package name missing notStruct = .error diagnostic ↔
      package.lookup? name = none ∧ diagnostic = .of subject.target subject.decl missing ∨
      ∃ declared, package.lookup? name = some declared ∧
        (∀ fields, package.baseType declared.type ≠ .struct fields) ∧
          diagnostic = notStruct declared := by
  unfold structNamed
  rw [bind_eq_error]
  refine or_congr expect_eq_error (exists_congr fun declared => and_congr expect_eq_ok ?_)
  split
  · next resolved => simp [resolved, pure, Except.pure]
  · next other =>
      constructor
      · intro failed
        cases failed
        exact ⟨other, rfl⟩
      · rintro ⟨_, rfl⟩
        rfl

end Subject

/-- The diagnostic comes from a generator and carries the place and the name of a declaration. -/
def Diagnostic.IsAbout (d : Diagnostic) (target : String) (decl : TypeDecl) : Prop :=
  d.target = target ∧ d.pos = decl.pos ∧ d.decl = decl.name

theorem Diagnostic.of_isAbout (target : String) (decl : TypeDecl) (fault : Fault) :
    (Diagnostic.of target decl fault).IsAbout target decl := ⟨rfl, rfl, rfl⟩

namespace Subject

/-- The diagnostic is about the subject.  Of all faults only the one of a setter that is no struct
is ever found on another declaration. -/
def Reports (subject : Subject) (d : Diagnostic) : Prop :=
  d.fault ≠ .setterNotStruct ∧ d.IsAbout subject.target subject.decl

variable {α : Type} (subject : Subject)

theorem reports_fail {fault : Fault} (own : fault ≠ .setterNotStruct) :
    FailsWith (α := α) subject.Reports (subject.fail fault) :=
  .error ⟨own, Diagnostic.of_isAbout subject.target subject.decl fault⟩

theorem reports_expect {fault : Fault} (own : fault ≠ .setterNotStruct) (result : Option α) :
    FailsWith subject.Reports (subject.expect fault result) := by
  cases result with
  | none => exact subject.reports_fail own
  | some value => exact .ok value

theorem reports_record (package : Package) :
    FailsWith subject.Reports (subject.record package) := by
  unfold record
  split
  · exact .ok _
  · exact subject.reports_fail (by nofun)

theorem reports_tagOf (field : Field) : FailsWith subject.Reports (subject.tagOf field) :=
  subject.reports_expect (by nofun) _

theorem reports_relation (relations : Option (List Field)) (fieldName name : String) :
    FailsWith subject.Reports (subject.relation relations fieldName name) := by
  unfold relation
  split
  · exact subject.reports_fail (by nofun)
  · exact subject.reports_expect (by nofun) _

end Subject

theorem exists_of_relationsOf {package : Package} {record relations : List Field}
    (found : relationsOf package record = some relations) :
    ∃ holder ∈ record, holder.name = relationsField ∧
      package.structOf? holder.type = some relations := by
  unfold relationsOf at found
  obtain ⟨holder, holderFound, structFound⟩ := Option.bind_eq_some_iff.mp found
  obtain ⟨member, named⟩ := findField?_eq_some holderFound
  exact ⟨holder, member, named, structFound⟩

/-! ## Records with tags -/

/-- The declaration leads to a record, and the tags of all its fields are in the tag language. -/
def Package.IsTaggedRecord (package : Package) (decl : TypeDecl) : Prop :=
  ∃ record, package.baseType decl.type = .struct record ∧
    ∀ field ∈ record, (FieldTag.ofComposite field.tag).isSome = true

/-- A record is tagged when a step that reads the tag succeeds on each of its fields. -/
theorem Package.IsTaggedRecord.of_forall₂ {package : Package} {decl : TypeDecl}
    {record : List Field}
    {Added : Type} {step : Field → Except Diagnostic Added} {added : List Added}
    (resolved : package.baseType decl.type = .struct record)
    (related : List.Forall₂ (fun field value => step field = .ok value) record added)
    (tagged : ∀ {field value}, step field = .ok value →
      (FieldTag.ofComposite field.tag).isSome = true) :
    package.IsTaggedRecord decl := by
  refine ⟨record, resolved, fun field member => ?_⟩
  obtain ⟨value, _, ok⟩ := exists_right_of_mem related member
  exact tagged ok

/-! ## Annotated declarations -/

theorem DirectiveIndex.mem_annotated {index : DirectiveIndex} {target : String} {decl : TypeDecl}
    {directives : List Directive} :
    (decl, directives) ∈ index.annotated target ↔
      decl ∈ index.package.decls ∧ directives = index.directives decl target ∧ directives ≠ [] := by
  unfold annotated
  rw [List.mem_filter, List.mem_map]
  constructor
  · rintro ⟨⟨_, member, same⟩, nonempty⟩
    cases same
    exact ⟨member, rfl, by simpa using nonempty⟩
  · rintro ⟨member, rfl, nonempty⟩
    exact ⟨⟨decl, member, rfl⟩, by simpa using nonempty⟩

end Scaffold
