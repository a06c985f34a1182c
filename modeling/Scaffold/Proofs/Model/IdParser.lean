import Scaffold.Model.IdParser
import Scaffold.Proofs.Model.Contract

/-!
# What the identifier parsers of a package hold

A parser exists exactly for a declaration with one directive that leads to an integer of known width
(`parserOf_eq_ok_iff`), whatever the directive's topic is.
-/

set_option autoImplicit false

namespace Scaffold.IdParser

open Checked

variable {package : Package} {index : DirectiveIndex} {decl : TypeDecl}
    {directives : List Directive}
  {parser : Parser}

theorem parserOf_eq_ok_iff :
    parserOf index decl directives = .ok parser ↔
      directives.length ≤ 1 ∧
      sizedInteger? index.package decl.type = some (parser.signed, parser.bits) ∧
      parser.type = decl.name ∧ parser.funcName = funcNameOf decl directives := by
  unfold parserOf
  dsimp only
  split
  next several => simp [Subject.fail, Nat.not_le.mpr several]
  next single =>
    obtain ⟨type, funcName, signed, bits⟩ := parser
    rw [bind_eq_ok]
    simp only [Subject.expect_eq_ok, Prod.exists, pure, Except.pure, Except.ok.injEq,
      Parser.mk.injEq, Nat.le_of_not_lt single, true_and]
    constructor
    · rintro ⟨_, _, sized, rfl, rfl, rfl, rfl⟩
      exact ⟨sized, rfl, rfl⟩
    · rintro ⟨sized, rfl, rfl⟩
      exact ⟨signed, bits, sized, rfl, rfl, rfl, rfl⟩

/-- A parser for a declaration: it has its name, and parses the integer that the declaration leads
to. -/
structure Describes (package : Package) (decl : TypeDecl) (parser : Parser) : Prop where
  name : parser.type = decl.name
  integer : sizedInteger? package decl.type = some (parser.signed, parser.bits)

theorem describes_of_parserOf (built : parserOf index decl directives = .ok parser) :
    Describes index.package decl parser := by
  obtain ⟨_, integer, name, _⟩ := parserOf_eq_ok_iff.mp built
  exact ⟨name, integer⟩

theorem reports_parserOf (index : DirectiveIndex) (decl : TypeDecl) (directives : List Directive) :
    FailsWith (Subject.Reports ⟨target, decl⟩) (parserOf index decl directives) := by
  unfold parserOf
  dsimp only
  split
  · exact Subject.reports_fail _ (by nofun)
  · exact .bind (Subject.reports_expect _ (by nofun) _) fun _ => .ok _

theorem parserOf_withFiles (files : List SourceFile) (directives : List Directive) :
    parserOf (.ofPackage (package.withFiles files)) decl directives =
      parserOf (.ofPackage package) decl directives := by
  unfold parserOf sizedInteger?
  simp only [DirectiveIndex.package_ofPackage, Package.baseType_withFiles]

theorem build_eq (package : Package) :
    build package = (package.entities target parserOf).map fun parsers =>
      ⟨package.name, parsers⟩ := by
  unfold build
  dsimp only
  rw [Package.mapM_annotated]
  rfl

theorem keepsContract :
    KeepsContract target parserOf (fun package => (build package).map (·.parsers)) Describes
      fun _ decl d => d.IsAbout target decl := by
  refine .of_entityOf (fun package => ?_) describes_of_parserOf
    (fun _ decl directives d failed => (reports_parserOf _ decl directives d failed).2)
    fun directives _ => parserOf_withFiles _ directives
  rw [build_eq]
  exact map_map_eq_self (fun _ => rfl) _

end Scaffold.IdParser
