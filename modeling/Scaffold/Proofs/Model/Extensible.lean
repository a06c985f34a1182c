import Scaffold.Proofs.Model.Annotated

/-!
# Structs that directives name and extend

Search criteria and setters read their directives alike: a bare one can give the struct a name, one
for an extra field adds what is made of a name and a type, and no other is known.  `Extensible.step`
is this reading, with the struct and the making of a field left open.  It succeeds on the known
topics (`exists_step_eq_ok_iff`), and a run adds the extra fields in order (`fields_of_foldlM`).
-/

set_option autoImplicit false

namespace Scaffold

open Checked

/-- Structs that can be renamed and get fields, and what an extra field of a name and a type is. -/
structure Extensible (α β : Type) where
  fields : α → List β
  rename : α → String → α
  append : α → β → α
  make : String → String → β
  fields_rename : ∀ entry name, fields (rename entry name) = fields entry
  fields_append : ∀ entry field, fields (append entry field) = fields entry ++ [field]

namespace Extensible

variable {α β : Type} (shape : Extensible α β) (subject : Subject)

def topics : List String := ["", "extra"]

def step (entry : α) (d : Directive) : Except Diagnostic α :=
  match d.topic with
  | "" => .ok (if d.args = "" then entry else shape.rename entry d.args)
  | "extra" =>
    let (name, type) := splitExtra d.args
    .ok (shape.append entry (shape.make name type))
  | topic => subject.fail (.unknownTopic topic)

def extras (directives : List Directive) : List β :=
  (directives.filter (·.topic = "extra")).map fun d =>
    shape.make (splitExtra d.args).1 (splitExtra d.args).2

variable {subject} {entry next : α} {d : Directive} {directives : List Directive}

theorem exists_step_eq_ok_iff : (∃ next, shape.step subject entry d = .ok next) ↔
    d.topic ∈ topics := by
  unfold step
  split
  next bare => simp [bare, topics]
  next extra => simp [extra, topics]
  next notBare notExtra =>
    have unknown : d.topic ∉ topics := by
      intro known
      rcases List.mem_pair.mp known with bare | extra
      · exact notBare bare
      · exact notExtra extra
    simp [Subject.fail, unknown]

theorem reports_step (subject : Subject) (entry : α) (d : Directive) :
    FailsWith subject.Reports (shape.step subject entry d) := by
  unfold step
  split
  · exact .ok _
  · exact .ok _
  · exact subject.reports_fail (by nofun)

variable {shape}

theorem step_fields (applied : shape.step subject entry d = .ok next) :
    shape.fields next = if decide (d.topic = "extra") then
      shape.fields entry ++ [shape.make (splitExtra d.args).1 (splitExtra d.args).2]
      else shape.fields entry := by
  unfold step at applied
  split at applied
  next bare =>
    obtain rfl := Except.ok.inj applied
    rw [bare]
    split
    · rfl
    · exact shape.fields_rename entry d.args
  next extra =>
    obtain rfl := Except.ok.inj applied
    rw [extra]
    exact shape.fields_append entry _
  next => cases applied

theorem fields_of_foldlM {last : α}
    (folded : directives.foldlM (shape.step subject) entry = .ok last) :
    shape.fields last = shape.fields entry ++ shape.extras directives :=
  foldlM_collects shape.fields (fun d : Directive => decide (d.topic = "extra")) _
    (fun _ _ _ => step_fields) folded

end Extensible

end Scaffold
