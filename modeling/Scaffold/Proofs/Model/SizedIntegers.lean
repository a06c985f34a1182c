import Scaffold.Proofs.Model.IdParser
import Scaffold.Proofs.Model.IdParserText
import Scaffold.Proofs.Package.Hops

/-!
# Parsers and the integers that they parse

`BasicKind.IsSized` reads sign and width of an integer type off its name.  A package has parsers
exactly when each declaration with directives for them has one of these and leads to such a type,
and the function that is printed for a declaration calls the library with just this sign and width
(`parsers_match_integers`).
-/

set_option autoImplicit false

namespace Scaffold

open Checked

namespace BasicKind

variable {kind : BasicKind} {signed : Bool} {bits : Nat}

def stem (signed : Bool) : String := if signed = true then "int" else "uint"

/-- An integer type of known width.  A name without a number stands for 64 bits; bytes and runes
have names of their own. -/
inductive IsSized : BasicKind → (signed : Bool) → (bits : Nat) → Prop where
  | sized {kind : BasicKind} {signed : Bool} {bits : Nat} (width : bits ∈ [8, 16, 32, 64])
      (name : kind.name = stem signed ++ toString bits) : IsSized kind signed bits
  | plain {kind : BasicKind} {signed : Bool}
    (name : kind.name = stem signed) : IsSized kind signed 64
  | byte : IsSized .byte false 8
  | rune : IsSized .rune true 32

theorem isSized_of_integerBits? (width : kind.integerBits? = some bits) :
    kind.IsSized (!kind.isUnsigned) bits := by
  cases kind <;> simp only [integerBits?, Option.some.injEq, reduceCtorEq] at width <;> subst width
  case int | uint => exact .plain rfl
  case byte => exact .byte
  case rune => exact .rune
  all_goals exact .sized (by decide) rfl

theorem isSized_iff : kind.IsSized signed bits ↔
    kind.integerBits? = some bits ∧ (!kind.isUnsigned) = signed := by
  constructor
  · intro sized
    cases sized with
    | sized width name =>
        have named : ∀ signed, ∀ bits ∈ [8, 16, 32, 64], kind.name = stem signed ++ toString bits →
            kind.integerBits? = some bits ∧ (!kind.isUnsigned) = signed := by
          cases kind <;> decide +kernel
        exact named signed bits width name
    | plain name =>
        have named : ∀ signed, kind.name = stem signed →
            kind.integerBits? = some 64 ∧ (!kind.isUnsigned) = signed := by
          cases kind <;> decide
        exact named signed name
    | byte => exact ⟨rfl, rfl⟩
    | rune => exact ⟨rfl, rfl⟩
  · rintro ⟨width, rfl⟩
    exact isSized_of_integerBits? width

theorem IsSized.lt_size (sized : kind.IsSized signed bits) : bits < UInt64.size := by
  obtain ⟨width, _⟩ := isSized_iff.mp sized
  cases kind <;> simp only [integerBits?, Option.some.injEq, reduceCtorEq] at width <;>
    subst width <;> decide

end BasicKind

namespace Package

variable {package : Package} {type : GoType} {kind : BasicKind}

theorem baseType_eq_basic_iff : package.baseType type = .basic kind ↔
    ∃ hops ≤ 64, package.LeadsTo hops type (.basic kind) := by
  constructor
  · intro base
    obtain ⟨hops, within, chain⟩ := exists_leadsTo_follow package maxHops type
    rw [show package.follow maxHops type = .basic kind from base] at chain
    exact ⟨hops, within, chain⟩
  · rintro ⟨hops, within, chain⟩
    exact baseType_of_ended chain rfl within

end Package

namespace IdParser

open Template Text

variable {package : Package} {type : GoType} {decl : TypeDecl} {parser : Parser} {signed : Bool}
    {bits : Nat}

theorem sizedInteger?_eq_some_iff : sizedInteger? package type = some (signed, bits) ↔
    ∃ kind, package.baseType type = .basic kind ∧ kind.IsSized signed bits := by
  unfold sizedInteger?
  cases package.baseType type with
  | basic kind =>
      cases width : kind.integerBits? with
      | none => simp [BasicKind.isSized_iff, width]
      | some bits' => simp [BasicKind.isSized_iff, width, and_comm]
  | _ => simp

/-- The parser of a declaration as its directive, the type that it leads to and the printed function
have it. -/
structure Matches (package : Package) (decl : TypeDecl) (parser : Parser) : Prop where
  type : parser.type = decl.name
  directive : ∃ directive, package.directivesAbove decl.pos target = [directive] ∧
    parser.funcName = if directive.args = "" then "Parse" ++ decl.name else directive.args
  integer : ∃ kind, (∃ hops ≤ 64, package.LeadsTo hops decl.type (.basic kind)) ∧
    kind.IsSized parser.signed parser.bits ∧
    ∀ signed bits, callLine signed bits ∈ parser.lines ↔ kind.IsSized signed bits

theorem entityAt_eq_ok_iff (annotated : package.isAnnotated target decl = true) :
    package.entityAt target parserOf decl = .ok parser ↔
      (∃ directive, package.directivesAbove decl.pos target = [directive] ∧
        parser.funcName = if directive.args = "" then "Parse" ++ decl.name else directive.args) ∧
      parser.type = decl.name ∧
      ∃ kind, package.baseType decl.type = .basic kind ∧
        kind.IsSized parser.signed parser.bits := by
  unfold Package.entityAt
  rw [parserOf_eq_ok_iff, DirectiveIndex.package_ofPackage, sizedInteger?_eq_some_iff]
  cases above : package.directivesAbove decl.pos target with
  | nil => simp [Package.isAnnotated, above] at annotated
  | cons directive rest =>
      cases rest with
      | nil =>
          simp only [List.length_singleton, Nat.le_refl, true_and, funcNameOf,
            List.getLast?_singleton, List.cons.injEq, and_true, exists_eq_left']
          constructor
          · rintro ⟨integer, type, name⟩
            exact ⟨name, type, integer⟩
          · rintro ⟨name, type, integer⟩
            exact ⟨integer, type, name⟩
      | cons => simp

theorem matches_of_entityAt (annotated : package.isAnnotated target decl = true)
    (made : package.entityAt target parserOf decl = .ok parser) : Matches package decl parser := by
  obtain ⟨directive, type, kind, base, sized⟩ := (entityAt_eq_ok_iff annotated).mp made
  refine ⟨type, directive, kind, Package.baseType_eq_basic_iff.mp base, sized,
    fun signed bits => ?_⟩
  obtain ⟨width, sign⟩ := BasicKind.isSized_iff.mp sized
  rw [Parser.callLine_mem_iff, BasicKind.isSized_iff, width, sign, Option.some.injEq]
  constructor
  · rintro ⟨rfl, rfl⟩
    exact ⟨rfl, rfl⟩
  · rintro ⟨widths, signs⟩
    exact ⟨signs.symm, widths.symm⟩

theorem exists_entityAt_iff (annotated : package.isAnnotated target decl = true) :
    (∃ parser, package.entityAt target parserOf decl = .ok parser) ↔
      (∃ directive, package.directivesAbove decl.pos target = [directive]) ∧
      ∃ kind signed bits, (∃ hops ≤ 64, package.LeadsTo hops decl.type (.basic kind)) ∧
        kind.IsSized signed bits := by
  simp only [entityAt_eq_ok_iff annotated, ← Package.baseType_eq_basic_iff]
  constructor
  · rintro ⟨parser, ⟨directive, above, _⟩, _, kind, base, sized⟩
    exact ⟨⟨directive, above⟩, kind, parser.signed, parser.bits, base, sized⟩
  · rintro ⟨⟨directive, above⟩, kind, signed, bits, base, sized⟩
    let name := if directive.args = "" then "Parse" ++ decl.name else directive.args
    exact ⟨⟨decl.name, name, signed, bits⟩, ⟨directive, above, rfl⟩, rfl, kind, base, sized⟩

/-- Parsers are built exactly when all declarations that ask for one lead to integers of known
width, and then the functions that are printed parse just these integers. -/
theorem parsers_match_integers (package : Package) :
    ((∃ model, build package = .ok model) ↔
      ∀ decl ∈ package.annotated target,
        (∃ directive, package.directivesAbove decl.pos target = [directive]) ∧
        ∃ kind signed bits, (∃ hops ≤ 64, package.LeadsTo hops decl.type (.basic kind)) ∧
          kind.IsSized signed bits) ∧
    ∀ model, build package = .ok model →
      List.Forall₂ (Matches package) (package.annotated target) model.parsers ∧
      render Generator.idParser.template model.toJson = .ok (ended model.lines) := by
  have isAnnotated {decl : TypeDecl} (member : decl ∈ package.annotated target) :
      package.isAnnotated target decl = true := (List.mem_filter.mp member).2
  rw [build_eq]
  constructor
  · have built : (∃ model, (package.entities target parserOf).map (⟨package.name, ·⟩ : _ → Model) =
        .ok model) ↔
        ∃ parsers, package.entities target parserOf = .ok parsers := by
      simp only [map_eq_ok]
      constructor
      · rintro ⟨_, parsers, made, _⟩
        exact ⟨parsers, made⟩
      · rintro ⟨parsers, made⟩
        exact ⟨_, parsers, made, rfl⟩
    rw [built, Package.entities, exists_mapM_eq_ok]
    exact forall₂_congr fun decl member => exists_entityAt_iff (isAnnotated member)
  · intro model built
    obtain ⟨parsers, made, rfl⟩ := map_eq_ok.mp built
    have annotated := (List.forall₂_and_left _ _).mpr
      ⟨fun _ member => isAnnotated member, Package.entities_eq_ok.mp made⟩
    have each : List.Forall₂ (Matches package) (package.annotated target) parsers :=
      annotated.imp fun _ _ made => matches_of_entityAt made.1 made.2
    refine ⟨each, Model.render_eq_ended _ fun parser member => ?_⟩
    obtain ⟨decl, _, matched⟩ := exists_left_of_mem each member
    obtain ⟨kind, _, sized, _⟩ := matched.integer
    exact sized.lt_size

/-- The declared type is defined through a name of its package, and that one through one with its
own definition. -/
theorem parsers_match_integers_mixed :
    let code : NamedType := ⟨some ⟨"example.com/codes", "codes"⟩, "Code", [], some (.basic .uint16)⟩
    let base : NamedType := ⟨some ⟨"example.com/shop", "shop"⟩, "Base", [], none⟩
    let slot : TypeDecl := ⟨"SlotID", ⟨"slots.go", 3, 6⟩, .named base⟩
    let package : Package := ⟨"shop", "example.com/shop",
      [⟨"slots.go", [⟨[⟨"//repogen:parseid ParseSlot", 2⟩]⟩]⟩],
      [slot, ⟨"Base", ⟨"slots.go", 5, 6⟩, .named code⟩]⟩
    ∃ model parser, build package = .ok model ∧ model.parsers = [parser] ∧
      Matches package slot parser ∧
      callLine false 16 ∈ parser.lines := by
  intro code base slot package
  obtain ⟨succeeds, described⟩ := parsers_match_integers package
  have annotated : package.annotated target = [slot] := by rfl
  have above : package.directivesAbove slot.pos target = [⟨target, "", "ParseSlot"⟩] := by
    decide +kernel
  have chain : package.LeadsTo 2 slot.type (.basic .uint16) := .define rfl (.define rfl (.here _))
  have sized : BasicKind.uint16.IsSized false 16 := .sized (by decide) rfl
  obtain ⟨model, built⟩ := succeeds.mpr fun decl member => by
    obtain rfl : decl = slot := by simpa [annotated] using member
    exact ⟨⟨_, above⟩, _, _, _, ⟨2, by decide, chain⟩, sized⟩
  obtain ⟨each, _⟩ := described model built
  rw [annotated] at each
  obtain ⟨parser, _, matched, others, only⟩ := List.forall₂_cons_left_iff.mp each
  cases List.forall₂_nil_left_iff.mp others
  refine ⟨model, parser, built, only, matched, ?_⟩
  obtain ⟨kind, ends, _, calls⟩ := matched.integer
  have same : GoType.basic kind = .basic .uint16 :=
    (Package.baseType_eq_basic_iff.mpr ends).symm.trans
      (Package.baseType_eq_basic_iff.mpr ⟨2, by decide, chain⟩)
  cases same
  exact (calls false 16).mpr sized

end IdParser

end Scaffold
