import Scaffold.Proofs.Model.Annotated
import Scaffold.Proofs.Package.Comments

/-!
# The contract of a builder

A builder goes through the declarations of a package and makes one entity of each that carries
directives for it (`Package.entities`).  `KeepsContract` says what that promises: no annotated
declaration is left out and none is out of order, the first one without an entity is the one that
the error is about, and comments that only later declarations have do not matter to the error.  A
builder keeps its contract when the function that makes its entities does its part
(`KeepsContract.of_entityOf`).
-/

set_option autoImplicit false

namespace Scaffold

open Checked

namespace Package

variable {Entity : Type} (package : Package) (target : String)
  (entityOf : DirectiveIndex → TypeDecl → List Directive → Except Diagnostic Entity)

/-- A directive for the target stands above the declaration. -/
def isAnnotated (decl : TypeDecl) : Bool := package.directivesAbove decl.pos target ≠ []

/-- The declarations with directives for a target, in order. -/
def annotated : List TypeDecl := package.decls.filter (package.isAnnotated target)

/-- The entity that a builder makes of a declaration and the directives above it. -/
def entityAt (decl : TypeDecl) : Except Diagnostic Entity :=
  entityOf (.ofPackage package) decl (package.directivesAbove decl.pos target)

def entities : Except Diagnostic (List Entity) :=
  (package.annotated target).mapM (package.entityAt target entityOf)

theorem annotated_ofPackage :
    (DirectiveIndex.ofPackage package).annotated target =
      (package.annotated target).map fun decl =>
        (decl, package.directivesAbove decl.pos target) := by
  unfold DirectiveIndex.annotated DirectiveIndex.directives annotated
  simp only [DirectiveIndex.directivesAt_ofPackage, DirectiveIndex.package_ofPackage,
    List.filter_map]
  refine congrArg _ (List.filter_congr fun decl _ => ?_)
  rw [Bool.eq_iff_iff]
  simp [isAnnotated]

theorem mapM_annotated :
    (((DirectiveIndex.ofPackage package).annotated target).mapM fun (decl, directives) =>
      entityOf (.ofPackage package) decl directives) = package.entities target entityOf := by
  rw [annotated_ofPackage, List.mapM_map]
  rfl

variable {package target entityOf}

theorem entities_eq_ok {entities : List Entity} :
    package.entities target entityOf = .ok entities ↔
      List.Forall₂ (fun decl entity => package.entityAt target entityOf decl = .ok entity)
        (package.annotated target) entities :=
  mapM_eq_ok

theorem entities_eq_error {diagnostic : Diagnostic} :
    package.entities target entityOf = .error diagnostic ↔
      ∃ before decl behind, package.decls = before ++ decl :: behind ∧
        (∀ earlier ∈ before, package.isAnnotated target earlier = true →
          ∃ entity, package.entityAt target entityOf earlier = .ok entity) ∧
        package.isAnnotated target decl = true ∧
        package.entityAt target entityOf decl = .error diagnostic :=
  mapM_filter_eq_error

/-- Under other comments the entities are the same, when no declaration gets other directives and
the directives are read in the same way. -/
theorem entities_withFiles {files : List SourceFile} {targets : List String}
    (read : target ∈ targets) (keeps : package.KeepsAbove files targets)
    (stable : ∀ decl ∈ package.decls, ∀ directives,
      entityOf (.ofPackage (package.withFiles files)) decl directives =
        entityOf (.ofPackage package) decl directives) :
    (package.withFiles files).entities target entityOf = package.entities target entityOf := by
  have annotatedSame : (package.withFiles files).annotated target = package.annotated target := by
    refine List.filter_congr fun decl declared => ?_
    unfold isAnnotated
    rw [keeps decl declared target read]
  unfold entities
  rw [annotatedSame]
  refine mapM_congr fun decl member => ?_
  have declared : decl ∈ package.decls := List.mem_of_mem_filter member
  unfold entityAt
  rw [keeps decl declared target read, stable decl declared]

theorem exists_entityAt_eq_ok {entities : List Entity}
    (made : package.entities target entityOf = .ok entities) {decl : TypeDecl}
    (declared : decl ∈ package.decls) (annotated : package.isAnnotated target decl = true) :
    ∃ entity, package.entityAt target entityOf decl = .ok entity := by
  obtain ⟨entity, _, ok⟩ :=
    exists_right_of_mem (entities_eq_ok.mp made) (List.mem_filter.mpr ⟨declared, annotated⟩)
  exact ⟨entity, ok⟩

/-- When all entities were made, the first declaration that other comments give other directives is
the one to be reported. -/
theorem entities_eq_error_of_first {files : List SourceFile} {entities : List Entity}
    (made : package.entities target entityOf = .ok entities)
    {before later : List TypeDecl} {decl : TypeDecl}
    (decls : package.decls = before ++ decl :: later)
    (same : ∀ earlier ∈ before, (package.withFiles files).directivesAbove earlier.pos target =
      package.directivesAbove earlier.pos target)
    (stable : ∀ earlier directives,
      entityOf (.ofPackage (package.withFiles files)) earlier directives = entityOf
      (.ofPackage package) earlier directives)
    (annotated : (package.withFiles files).isAnnotated target decl = true) {diagnostic : Diagnostic}
    (failed : (package.withFiles files).entityAt target entityOf decl = .error diagnostic) :
    (package.withFiles files).entities target entityOf = .error diagnostic := by
  refine entities_eq_error.mpr ⟨before, decl, later, decls, fun earlier member taken => ?_,
    annotated, failed⟩
  unfold isAnnotated at taken
  rw [same earlier member] at taken
  unfold entityAt
  rw [same earlier member, stable]
  exact exists_entityAt_eq_ok made (decls ▸ List.mem_append_left _ member) taken

end Package

/-- What a builder for a target promises of every package: how an entity describes its declaration,
and which declaration an error reports. -/
structure KeepsContract {Entity : Type} (target : String)
    (entityOf : DirectiveIndex → TypeDecl → List Directive → Except Diagnostic Entity)
    (build : Package → Except Diagnostic (List Entity))
    (Describes : Package → TypeDecl → Entity → Prop)
    (Reports : Package → TypeDecl → Diagnostic → Prop) : Prop where
  /-- There is one entity for each annotated declaration, in the order of the declarations. -/
  entity_of_each : ∀ {package : Package} {entities : List Entity}, build package = .ok entities →
    List.Forall₂ (fun decl entity =>
        package.entityAt target entityOf decl = .ok entity ∧ Describes package decl entity)
      (package.annotated target) entities
  /-- The error is that of the first annotated declaration without an entity, and stays the same
  under other comments as long as the blocks above that declaration and the earlier ones are the
  same. -/
  first_failure : ∀ {package : Package} {diagnostic : Diagnostic},
    build package = .error diagnostic →
    ∃ before decl behind, package.decls = before ++ decl :: behind ∧
      (∀ earlier ∈ before, package.isAnnotated target earlier = true →
        ∃ entity, package.entityAt target entityOf earlier = .ok entity) ∧
      package.isAnnotated target decl = true ∧
      package.entityAt target entityOf decl = .error diagnostic ∧
      Reports package decl diagnostic ∧
      ∀ files, (∀ other ∈ before ++ [decl],
          (package.withFiles files).blockAbove? other.pos = package.blockAbove? other.pos) →
        build (package.withFiles files) = .error diagnostic

namespace KeepsContract

variable {Entity : Type} {target : String}
  {entityOf : DirectiveIndex → TypeDecl → List Directive → Except Diagnostic Entity}
  {build : Package → Except Diagnostic (List Entity)}
  {Describes : Package → TypeDecl → Entity → Prop}
  {Reports : Package → TypeDecl → Diagnostic → Prop}

/-- Three facts about the entity of one declaration, and that nothing else is built. -/
theorem of_entityOf
    (traverses : ∀ package, build package = package.entities target entityOf)
    (describes : ∀ {package : Package} {decl : TypeDecl} {entity : Entity},
      package.entityAt target entityOf decl = .ok entity → Describes package decl entity)
    (reports : ∀ package decl directives,
      FailsWith (Reports package decl) (entityOf (.ofPackage package) decl directives))
    (stable : ∀ {package : Package} {files : List SourceFile} {decl : TypeDecl} (directives),
      (package.withFiles files).blockAbove? decl.pos = package.blockAbove? decl.pos →
        entityOf (.ofPackage (package.withFiles files)) decl directives =
          entityOf (.ofPackage package) decl directives) :
    KeepsContract target entityOf build Describes Reports where
  entity_of_each {package entities} built := by
    rw [traverses] at built
    exact (Package.entities_eq_ok.mp built).imp fun decl entity made => ⟨made, describes made⟩
  first_failure {package diagnostic} failed := by
    rw [traverses] at failed
    obtain ⟨before, decl, behind, decls, earlierMade, annotated, declFailed⟩ :=
      Package.entities_eq_error.mp failed
    refine ⟨before, decl, behind, decls, earlierMade, annotated, declFailed,
      reports package decl _ diagnostic declFailed, fun files same => ?_⟩
    have sameAnnotated {other : TypeDecl} (member : other ∈ before ++ [decl]) :
        (package.withFiles files).isAnnotated target other = package.isAnnotated target other := by
      unfold Package.isAnnotated
      rw [Package.directivesAbove_withFiles target (same other member)]
    have sameEntity {other : TypeDecl} (member : other ∈ before ++ [decl]) :
        (package.withFiles files).entityAt target entityOf other =
          package.entityAt target entityOf other := by
      unfold Package.entityAt
      rw [Package.directivesAbove_withFiles target (same other member),
        stable _ (same other member)]
    have declMember : decl ∈ before ++ [decl] :=
      List.mem_append_right before (List.mem_singleton_self decl)
    rw [traverses]
    refine Package.entities_eq_error.mpr ⟨before, decl, behind, decls,
      fun earlier member taken => ?_, (sameAnnotated declMember).trans annotated,
      (sameEntity declMember).trans declFailed⟩
    have earlierMember : earlier ∈ before ++ [decl] := List.mem_append_left [decl] member
    rw [sameAnnotated earlierMember] at taken
    rw [sameEntity earlierMember]
    exact earlierMade earlier member taken

theorem exists_error_of_unmade {Model : Type} {build : Package → Except Diagnostic Model}
    {part : Model → List Entity}
    (contract : KeepsContract target entityOf (fun package => (build package).map part)
      Describes Reports)
    {package : Package} {decl : TypeDecl} (annotated : decl ∈ package.annotated target)
    (unmade : ∀ entity, package.entityAt target entityOf decl ≠ .ok entity) :
    ∃ diagnostic, build package = .error diagnostic := by
  cases built : build package with
  | error diagnostic => exact ⟨diagnostic, rfl⟩
  | ok model =>
      have each := contract.entity_of_each (map_eq_ok.mpr ⟨model, built, rfl⟩)
      obtain ⟨entity, _, made, _⟩ := exists_right_of_mem each annotated
      exact absurd made (unmade entity)

end KeepsContract

end Scaffold
