import Scaffold.Model.Annotated
import Scaffold.Proofs.Directive.Scan

/-!
# Packages with other comments

What a package declares does not depend on its comments: types lead to the same definitions
(`baseType_withFiles`) and records have the same relations in `Package.withFiles`.  Directives may
differ, but not those above a declaration whose block is the same (`directivesAbove_withFiles`).
-/

set_option autoImplicit false

namespace Scaffold

def Package.withFiles (package : Package) (files : List SourceFile) : Package :=
  { package with files }

@[simp] theorem DirectiveIndex.package_ofPackage (package : Package) :
    (DirectiveIndex.ofPackage package).package = package := rfl

section
variable (package : Package) (files : List SourceFile)

namespace Package

@[simp] theorem path_withFiles : (package.withFiles files).path = package.path := rfl

@[simp] theorem lookup?_withFiles (name : String) :
    (package.withFiles files).lookup? name = package.lookup? name := rfl

@[simp] theorem underlying?_withFiles (type : NamedType) :
    (package.withFiles files).underlying? type = package.underlying? type := rfl

theorem follow_withFiles (hops : Nat) (type : GoType) :
    (package.withFiles files).follow hops type = package.follow hops type := by
  induction hops generalizing type with
  | zero => cases type <;> rfl
  | succ hops ih => cases type <;> simp only [follow, underlying?_withFiles, ih]

@[simp] theorem baseType_withFiles (type : GoType) :
    (package.withFiles files).baseType type = package.baseType type :=
  follow_withFiles package files maxHops type

theorem structWithin?_withFiles (hops : Nat) :
    (package.withFiles files).structWithin? hops = package.structWithin? hops := by
  induction hops with
  | zero => rfl
  | succ hops ih =>
      funext type
      simp only [structWithin?, underlying?_withFiles, ih]

@[simp] theorem structOf?_withFiles (type : GoType) :
    (package.withFiles files).structOf? type = package.structOf? type :=
  congrFun (structWithin?_withFiles package files maxHops) type

end Package

@[simp] theorem relationsOf_withFiles (record : List Field) :
    relationsOf (package.withFiles files) record = relationsOf package record := by
  simp only [relationsOf, Package.structOf?_withFiles]

@[simp] theorem Subject.record_withFiles (subject : Subject) :
    subject.record (package.withFiles files) = subject.record package := by
  simp only [record, Package.baseType_withFiles]

@[simp] theorem TypeDescriptor.resolve?_withFiles (viewer : String) (type : GoType) :
    resolve? viewer (package.withFiles files) type = resolve? viewer package type := by
  simp only [resolve?, Package.baseType_withFiles]

/-! ## Comments that stay -/

variable {package files}

theorem Package.directivesAbove_withFiles {pos : Position} (target : String)
    (same : (package.withFiles files).blockAbove? pos = package.blockAbove? pos) :
    (package.withFiles files).directivesAbove pos target = package.directivesAbove pos target := by
  unfold Package.directivesAbove
  rw [same]

theorem DirectiveIndex.directives_withFiles {decl : TypeDecl} {target : String}
    (same : (package.withFiles files).directivesAbove decl.pos target =
      package.directivesAbove decl.pos target) :
    (ofPackage (package.withFiles files)).directives decl target =
      (ofPackage package).directives decl target := by
  unfold DirectiveIndex.directives
  rw [directivesAt_ofPackage, directivesAt_ofPackage, same]

/-- Other files have the same directives for given targets above the declarations of the package. -/
def Package.KeepsAbove (package : Package) (files : List SourceFile)
    (targets : List String) : Prop :=
  ∀ decl ∈ package.decls, ∀ target ∈ targets,
    (package.withFiles files).directivesAbove decl.pos target =
      package.directivesAbove decl.pos target

end

end Scaffold
