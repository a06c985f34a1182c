import Scaffold.Proofs.Model.Contract

/-!
# Packages that grow

A package extends another one when it finds the same declaration for every name that the other one
knows.  A definition that was unknown may become known, so types may lead further; but what led to a
struct or to a predeclared type before leads there still (`Extends.baseType_eq`,
`Extends.structOf?`).  When a declaration is put behind the others and its comments into a file of
its own, the entities of the others stay and at most one is added (`entities_withDecl`).
-/

set_option autoImplicit false

namespace Scaffold

open Checked

namespace Package

/-- One package knows all declarations that another one knows by their names. -/
structure Extends (larger smaller : Package) : Prop where
  path : larger.path = smaller.path
  name : larger.name = smaller.name
  lookup? : ∀ {name : String} {decl : TypeDecl}, smaller.lookup? name = some decl →
    larger.lookup? name = some decl

namespace Extends

variable {larger smaller : Package} (grown : larger.Extends smaller)
include grown

theorem reference : larger.reference = smaller.reference := by
  rw [Package.reference, Package.reference, grown.path, grown.name]

theorem underlying? {type : NamedType} {definition : GoType}
    (known : smaller.underlying? type = some definition) :
    larger.underlying? type = some definition := by
  unfold Package.underlying? at known ⊢
  cases inline : type.underlying with
  | some inner =>
      rw [inline] at known
      exact known
  | none =>
      rw [inline] at known
      cases owned : type.package with
      | none => simp [owned] at known
      | some owner =>
          simp only [owned] at known ⊢
          rw [grown.path]
          split at known
          next own =>
            obtain ⟨decl, found, isDefinition⟩ := Option.map_eq_some_iff.mp known
            rw [if_pos own, grown.lookup? found, Option.map_some, isDefinition]
          · cases known

/-- Definitions that lead to something else than a name lead there still. -/
theorem follow_eq {hops : Nat} {type : GoType}
    (ends : ∀ named, smaller.follow hops type ≠ .named named) :
    larger.follow hops type = smaller.follow hops type := by
  induction hops generalizing type with
  | zero => cases type <;> rfl
  | succ hops ih =>
      cases type with
      | named type =>
          rw [follow] at ends
          rw [follow, follow]
          cases known : smaller.underlying? type with
          | none => exact absurd (by rw [known]) (ends type)
          | some definition =>
              simp only [known] at ends
              simp only [grown.underlying? known, ih ends]
      | basic | pointer | slice | array | map | chan | struct | func | interface => rfl

theorem baseType_eq {type : GoType} (ends : ∀ named, smaller.baseType type ≠ .named named) :
    larger.baseType type = smaller.baseType type :=
  grown.follow_eq ends

theorem structWithin? {hops : Nat} {type : GoType} {fields : List Field}
    (found : smaller.structWithin? hops type = some fields) :
    larger.structWithin? hops type = some fields := by
  induction hops generalizing type with
  | zero => cases found
  | succ hops ih =>
      rw [Package.structWithin?] at found ⊢
      split at found
      · exact found
      · obtain ⟨definition, known, found⟩ := Option.bind_eq_some_iff.mp found
        exact Option.bind_eq_some_iff.mpr ⟨definition, grown.underlying? known, ih found⟩
      · cases found

theorem structOf? {type : GoType} {fields : List Field}
    (found : smaller.structOf? type = some fields) :
    larger.structOf? type = some fields :=
  grown.structWithin? found

theorem relationsOf {record relations : List Field}
    (found : relationsOf smaller record = some relations) :
    Scaffold.relationsOf larger record = some relations := by
  unfold Scaffold.relationsOf at found ⊢
  obtain ⟨holder, isHolder, found⟩ := Option.bind_eq_some_iff.mp found
  exact Option.bind_eq_some_iff.mpr ⟨holder, isHolder, grown.structOf? found⟩

theorem record {subject : Subject} {fields : List Field}
    (ok : subject.record smaller = .ok fields) :
    subject.record larger = .ok fields := by
  rw [Subject.record_eq_ok] at ok ⊢
  rw [grown.baseType_eq (by simp [ok]), ok]

end Extends

/-! ## One more declaration -/

/-- The package with one more declaration behind the others, and one more file. -/
def withDecl (package : Package) (file : SourceFile) (decl : TypeDecl) : Package :=
  { package with files := package.files ++ [file], decls := package.decls ++ [decl] }

section
variable {package : Package} {file : SourceFile} {decl : TypeDecl}

theorem extends_withDecl (package : Package) (file : SourceFile) (decl : TypeDecl) :
    (package.withDecl file decl).Extends package where
  path := rfl
  name := rfl
  lookup? {name found} known := by
    have first : package.decls.find? (fun decl => decl.name = name) = some found := known
    show (package.decls ++ [decl]).find? (fun decl => decl.name = name) = some found
    rw [List.find?_append, first, Option.some_or]

theorem directivesAbove_withDecl {pos : Position} (apart : pos.file ≠ file.path) (target : String) :
    (package.withDecl file decl).directivesAbove pos target =
      package.directivesAbove pos target := by
  have files : (package.files ++ [file]).filter (·.path = pos.file) =
      package.files.filter (·.path = pos.file) := by
    simp [List.filter_append, Ne.symm apart]
  unfold directivesAbove blockAbove? withDecl
  dsimp only
  rw [files]

theorem annotated_withDecl (apart : ∀ other ∈ package.decls, other.pos.file ≠ file.path)
    (target : String) :
    (package.withDecl file decl).annotated target =
      package.annotated target ++
        [decl].filter ((package.withDecl file decl).isAnnotated target) := by
  show (package.decls ++ [decl]).filter _ = _
  rw [List.filter_append]
  refine congrArg (· ++ _) (List.filter_congr fun other declared => ?_)
  unfold isAnnotated
  rw [directivesAbove_withDecl (apart other declared)]

/-- When a builder makes the same of all earlier declarations, only the new one can fail, and it
adds one entity at most. -/
theorem entities_withDecl {Entity : Type} {target : String}
    {entityOf : DirectiveIndex → TypeDecl → List Directive → Except Diagnostic Entity}
    (apart : ∀ other ∈ package.decls, other.pos.file ≠ file.path) {entities : List Entity}
    (made : package.entities target entityOf = .ok entities)
    (stable : ∀ other ∈ package.decls, ∀ directives entity,
      entityOf (.ofPackage package) other directives = .ok entity →
        entityOf (.ofPackage (package.withDecl file decl)) other directives = .ok entity) :
    (∃ d, (package.withDecl file decl).entities target entityOf = .error d ∧
      (package.withDecl file decl).entityAt target entityOf decl = .error d) ∨
    ∃ added, added.length ≤ 1 ∧
      (package.withDecl file decl).entities target entityOf = .ok (entities ++ added) := by
  have earlier : (package.annotated target).mapM
      ((package.withDecl file decl).entityAt target entityOf) = .ok entities := by
    refine mapM_eq_ok.mpr ((List.forall₂_iff_zip.mpr ⟨(entities_eq_ok.mp made).length_eq, ?_⟩))
    intro other entity paired
    have declared : other ∈ package.decls := List.mem_of_mem_filter (List.of_mem_zip paired).1
    have ok := (List.forall₂_iff_zip.mp (entities_eq_ok.mp made)).2 paired
    unfold entityAt at ok ⊢
    rw [directivesAbove_withDecl (apart other declared)]
    exact stable other declared _ entity ok
  have both : (package.withDecl file decl).entities target entityOf = (do
      let added ← ([decl].filter ((package.withDecl file decl).isAnnotated target)).mapM
        ((package.withDecl file decl).entityAt target entityOf)
      return entities ++ added) := by
    unfold Package.entities
    rw [annotated_withDecl apart, List.mapM_append, earlier]
    rfl
  rw [both, List.filter_singleton]
  cases (package.withDecl file decl).isAnnotated target decl with
  | false => exact .inr ⟨[], Nat.zero_le 1, rfl⟩
  | true =>
      rw [cond_true, List.mapM_cons, List.mapM_nil]
      cases result : (package.withDecl file decl).entityAt target entityOf decl with
      | error d => exact .inl ⟨d, rfl, rfl⟩
      | ok entity => exact .inr ⟨[entity], Nat.le_refl 1, rfl⟩

end

end Package

end Scaffold
