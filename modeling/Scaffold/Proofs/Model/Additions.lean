import Scaffold.Proofs.Package.Growth
import Scaffold.Proofs.Model.Repository
import Scaffold.Proofs.Model.Criteria
import Scaffold.Proofs.Model.Setter
import Scaffold.Proofs.Model.IdParser

/-!
# Adding a declaration

What repositories, criteria, setters and identifier parsers hold for a declaration does not depend
on later declarations, even when one of these is the definition that a type was missing: a type
without a definition was needed by none of them.  So a declaration that is added with a file of its
own either fails itself or adds one entity at most (`declaration_added`).
-/

set_option autoImplicit false

namespace Scaffold

open Checked

variable {larger smaller : Package} {decl : TypeDecl} {directives : List Directive}

/-! ## Entities in a larger package -/

namespace Repository

theorem interfaceOf_of_extends (grown : larger.Extends smaller)
    (same : larger.directivesAbove decl.pos "plural" = smaller.directivesAbove decl.pos "plural")
    {entry : Interface} (made : interfaceOf (.ofPackage smaller) decl directives = .ok entry) :
    interfaceOf (.ofPackage larger) decl directives = .ok entry := by
  have plural : pluralOf (.ofPackage larger) decl = pluralOf (.ofPackage smaller) decl := by
    unfold pluralOf DirectiveIndex.directives
    rw [DirectiveIndex.directivesAt_ofPackage, DirectiveIndex.directivesAt_ofPackage, same]
  unfold interfaceOf at made ⊢
  dsimp only at made ⊢
  rw [DirectiveIndex.package_ofPackage] at made ⊢
  obtain ⟨record, recordOk, made⟩ := bind_eq_ok.mp made
  rw [plural, grown.path]
  exact bind_eq_ok.mpr ⟨record, grown.record recordOk, made⟩

end Repository

namespace Criteria

/-- A field that takes part without relations has none, so relations make no difference to it. -/
theorem criteriaOf_of_relations {subject : Subject} {viewer : String} {field : Field}
    {relations others : Option (List Field)}
    (more : ∀ fields, relations = some fields → others = some fields)
    {criteria : List Criterion} (ok : criteriaOf subject viewer relations field = .ok criteria) :
    criteriaOf subject viewer others field = .ok criteria := by
  cases relations with
  | some fields => rwa [more fields rfl]
  | none =>
      unfold criteriaOf at ok ⊢
      obtain ⟨tag, tagOk, ok⟩ := bind_eq_ok.mp ok
      refine bind_eq_ok.mpr ⟨tag, tagOk, ?_⟩
      split at ok
      · exact ok
      next search _ =>
        obtain ⟨type, typeOk, ok⟩ := bind_eq_ok.mp ok
        refine bind_eq_ok.mpr ⟨type, typeOk, ?_⟩
        dsimp only at ok ⊢
        split at ok
        · obtain ⟨_, missing, _⟩ := bind_eq_ok.mp ok
          cases missing
        next unrelated => rwa [if_neg unrelated]

theorem criteriaTypeOf_of_extends (grown : larger.Extends smaller) {entry : CriteriaType}
    (made : criteriaTypeOf (.ofPackage smaller) decl directives = .ok entry) :
    criteriaTypeOf (.ofPackage larger) decl directives = .ok entry := by
  unfold criteriaTypeOf at made ⊢
  dsimp only at made ⊢
  rw [DirectiveIndex.package_ofPackage] at made ⊢
  obtain ⟨record, recordOk, made⟩ := bind_eq_ok.mp made
  obtain ⟨extra, extraOk, made⟩ := bind_eq_ok.mp made
  obtain ⟨fields, fieldsOk, made⟩ := bind_eq_ok.mp made
  have fieldsSame :
      record.mapM (criteriaOf ⟨target, decl⟩ larger.path (relationsOf larger record)) =
      .ok fields := by
    rw [grown.path]
    refine mapM_eq_ok.mpr ((mapM_eq_ok.mp fieldsOk).imp fun field added ok => ?_)
    exact criteriaOf_of_relations (fun _ found => grown.relationsOf found) ok
  exact bind_eq_ok.mpr ⟨record, grown.record recordOk,
    bind_eq_ok.mpr ⟨extra, extraOk, bind_eq_ok.mpr ⟨fields, fieldsSame, made⟩⟩⟩

end Criteria

namespace Setter

theorem setterOf_of_extends (grown : larger.Extends smaller) {entry : SetterStruct}
    (made : setterOf (.ofPackage smaller) decl directives = .ok entry) :
    setterOf (.ofPackage larger) decl directives = .ok entry := by
  have field (subject : Subject) : setterFieldOf subject larger =
      setterFieldOf subject smaller := by
    funext field
    unfold setterFieldOf
    rw [grown.path, grown.reference]
  unfold setterOf at made ⊢
  dsimp only at made ⊢
  rw [DirectiveIndex.package_ofPackage] at made ⊢
  obtain ⟨record, recordOk, made⟩ := bind_eq_ok.mp made
  rw [field]
  exact bind_eq_ok.mpr ⟨record, grown.record recordOk, made⟩

end Setter

namespace IdParser

theorem sizedInteger?_of_extends (grown : larger.Extends smaller) {type : GoType}
    {integer : Bool × Nat} (sized : sizedInteger? smaller type = some integer) :
    sizedInteger? larger type = some integer := by
  unfold sizedInteger? at sized ⊢
  split at sized
  next kind basic => rwa [grown.baseType_eq (by simp [basic]), basic]
  · cases sized

theorem parserOf_of_extends (grown : larger.Extends smaller) {parser : Parser}
    (made : parserOf (.ofPackage smaller) decl directives = .ok parser) :
    parserOf (.ofPackage larger) decl directives = .ok parser := by
  rw [parserOf_eq_ok_iff] at made ⊢
  obtain ⟨single, sized, named⟩ := made
  exact ⟨single, sizedInteger?_of_extends grown sized, named⟩

end IdParser

/-! ## The builders -/

/-- Where the first build succeeded, the second one has its entities in front and one more at most,
or it fails for a declaration. -/
def AddsAtMostOne {Entity : Type} (target : String) (decl : TypeDecl)
    (first second : Except Diagnostic (List Entity)) : Prop :=
  ∀ entities, first = .ok entities →
    (∃ d, second = .error d ∧ d.IsAbout target decl) ∨
    ∃ added, added.length ≤ 1 ∧ second = .ok (entities ++ added)

/-- A builder that keeps its contract adds one entity at most for one more declaration. -/
theorem KeepsContract.addsAtMostOne {Entity : Type} {target : String}
    {entityOf : DirectiveIndex → TypeDecl → List Directive → Except Diagnostic Entity}
    {package : Package} {file : SourceFile} {decl : TypeDecl}
    (apart : ∀ other ∈ package.decls, other.pos.file ≠ file.path)
    (reports : ∀ index decl directives,
      FailsWith (Subject.Reports ⟨target, decl⟩) (entityOf index decl directives))
    (stable : ∀ other ∈ package.decls, ∀ directives entity,
      entityOf (.ofPackage package) other directives = .ok entity →
        entityOf (.ofPackage (package.withDecl file decl)) other directives = .ok entity) :
    AddsAtMostOne target decl (package.entities target entityOf)
      ((package.withDecl file decl).entities target entityOf) := by
  intro entities made
  rcases Package.entities_withDecl apart made stable with ⟨d, failed, ofDecl⟩ | added
  · exact .inl ⟨d, failed, (reports _ decl _ d ofDecl).2⟩
  · exact .inr added

/-- A declaration that is added behind the others, with any comments in a file that none of them is
in, is the only one that can fail, and it adds one entity at most. -/
theorem declaration_added (package : Package) (file : SourceFile) (decl : TypeDecl)
    (apart : ∀ other ∈ package.decls, other.pos.file ≠ file.path) :
    AddsAtMostOne Repository.target decl ((Repository.build package).map (·.interfaces))
      ((Repository.build (package.withDecl file decl)).map (·.interfaces)) ∧
    AddsAtMostOne Criteria.target decl ((Criteria.build package).map (·.types))
      ((Criteria.build (package.withDecl file decl)).map (·.types)) ∧
    AddsAtMostOne Setter.target decl ((Setter.build package).map (·.setters))
      ((Setter.build (package.withDecl file decl)).map (·.setters)) ∧
    AddsAtMostOne IdParser.target decl ((IdParser.build package).map (·.parsers))
      ((IdParser.build (package.withDecl file decl)).map (·.parsers)) := by
  have grown := package.extends_withDecl file decl
  refine ⟨?_, ?_, ?_, ?_⟩
  · rw [Repository.build_eq, Repository.build_eq, map_map_eq_self fun _ => rfl,
      map_map_eq_self fun _ => rfl]
    refine KeepsContract.addsAtMostOne apart Repository.reports_interfaceOf
      fun other declared _ _ made => ?_
    exact Repository.interfaceOf_of_extends grown
      (Package.directivesAbove_withDecl (apart other declared) _) made
  · rw [Criteria.build_eq, Criteria.build_eq, map_map_eq_self fun _ => rfl,
      map_map_eq_self fun _ => rfl]
    exact KeepsContract.addsAtMostOne apart Criteria.reports_criteriaTypeOf fun _ _ _ _ made =>
      Criteria.criteriaTypeOf_of_extends grown made
  · rw [Setter.build_eq, Setter.build_eq, map_map_eq_self fun _ => rfl,
      map_map_eq_self fun _ => rfl]
    exact KeepsContract.addsAtMostOne apart Setter.reports_setterOf fun _ _ _ _ made =>
      Setter.setterOf_of_extends grown made
  · rw [IdParser.build_eq, IdParser.build_eq, map_map_eq_self fun _ => rfl,
      map_map_eq_self fun _ => rfl]
    exact KeepsContract.addsAtMostOne apart IdParser.reports_parserOf fun _ _ _ _ made =>
      IdParser.parserOf_of_extends grown made

/-- The new declaration is the definition that the type of a field was missing, and has a setter
itself. -/
theorem declaration_added_missing :
    let priceType : NamedType := ⟨some ⟨"example.com/shop", "shop"⟩, "Price", [], none⟩
    let package : Package :=
      ⟨"shop", "example.com/shop", [⟨"shop.go", [⟨[⟨"//repogen:setter", 2⟩]⟩]⟩],
        [⟨"Widget", ⟨"shop.go", 3, 6⟩, .struct [⟨"Price", .named priceType, "", false⟩]⟩]⟩
    let file : SourceFile := ⟨"price.go", [⟨[⟨"//repogen:setter", 2⟩]⟩]⟩
    let price : TypeDecl :=
      ⟨"Price", ⟨"price.go", 3, 6⟩, .struct [⟨"Cents", .basic .int, "", false⟩]⟩
    (∀ other ∈ package.decls, other.pos.file ≠ file.path) ∧
      package.underlying? priceType = none ∧
      (package.withDecl file price).underlying? priceType = some price.type ∧
      ∃ setters added, (Setter.build package).map (·.setters) = .ok setters ∧
        (Setter.build (package.withDecl file price)).map (·.setters) = .ok (setters ++ added) ∧
        setters.map (·.name) = ["WidgetSetter"] ∧ added.map (·.name) = ["PriceSetter"] := by
  intro priceType package file price
  have apart : ∀ other ∈ package.decls, other.pos.file ≠ file.path := by decide
  have before : ((Setter.build package).map (·.setters)).map (·.map (·.name)) =
      .ok ["WidgetSetter"] := by
    decide +kernel
  have behind : ((Setter.build (package.withDecl file price)).map (·.setters)).map
      (·.map (·.name)) =
      .ok ["WidgetSetter", "PriceSetter"] := by
    decide +kernel
  obtain ⟨setters, made, names⟩ := map_eq_ok.mp before
  obtain ⟨all, allMade, allNames⟩ := map_eq_ok.mp behind
  refine ⟨apart, rfl, rfl, setters, ?_⟩
  rcases (declaration_added package file price apart).2.2.1 setters made with ⟨d, failed, _⟩ |
    ⟨added, _, more⟩
  · cases failed.symm.trans allMade
  · refine ⟨added, made, more, names, ?_⟩
    cases more.symm.trans allMade
    simpa [names] using allNames

end Scaffold
