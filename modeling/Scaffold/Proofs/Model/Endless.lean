import Scaffold.Proofs.Package.Hops
import Scaffold.Proofs.Model.IdParser
import Scaffold.Proofs.Model.Wrapper

/-!
# Declarations whose definitions have no end

Following definitions is exact, and safe where it can have no result: of a declaration without an
end nothing is built, and no struct is found below it (`definitions_followed`).  Each check that
follows the definitions of a declaration reports it with its own fault.
-/

set_option autoImplicit false

namespace Scaffold

open Checked

namespace Package

variable {package : Package} {type : GoType} {hops : Nat} {fields : List Field}

theorem IsEndless.exists_definition (endless : package.IsEndless type) :
    ∃ named definition, type = .named named ∧ package.underlying? named = some definition ∧
      package.IsEndless definition := by
  obtain ⟨definition, known⟩ := Option.ne_none_iff_exists'.mp (endless.not_ended (.here type))
  cases type with
  | named named =>
      refine ⟨named, definition, rfl, known, fun hops => ?_⟩
      obtain ⟨last, chain⟩ := endless (hops + 1)
      obtain ⟨definition', known', behind⟩ := leadsTo_succ_iff.mp chain
      cases known.symm.trans known'
      exact ⟨last, behind⟩
  | _ => cases known

theorem IsEndless.not_reachesStruct (endless : package.IsEndless type) :
    ¬ package.ReachesStruct hops type fields := by
  intro reached
  induction reached with
  | here below =>
      obtain ⟨named, _, rfl, _, _⟩ := endless.exists_definition
      cases below
  | define below known _ ih =>
      obtain ⟨named, definition, rfl, known', behind⟩ := endless.exists_definition
      cases below
      cases known.symm.trans known'
      exact ih behind

end Package

/-! ## Checks -/

section Checks
variable {subject : Subject} {package : Package} {index : DirectiveIndex} {decl declared : TypeDecl}
  {directives : List Directive} {name : String}

theorem Subject.record_of_endless (endless : package.IsEndless subject.decl.type) :
    subject.record package = .error (.of subject.target subject.decl .notStruct) := by
  obtain ⟨named, based⟩ := endless.exists_baseType_eq
  rw [record, based]
  rfl

theorem IdParser.parserOf_of_endless (endless : index.package.IsEndless decl.type) :
    parserOf index decl directives =
      .error (.of target decl
        (if 1 < directives.length then .severalParsers else .notSizedInteger)) := by
  obtain ⟨named, based⟩ := endless.exists_baseType_eq
  have unsized : sizedInteger? index.package decl.type = none := by rw [sizedInteger?, based]
  unfold parserOf
  dsimp only
  split
  next => rfl
  next =>
    rw [unsized]
    rfl

theorem Subject.structNamed_of_endless (found : package.lookup? name = some declared)
    (endless : package.IsEndless declared.type) (missing : Fault)
    (notStruct : TypeDecl → Diagnostic) :
    subject.structNamed package name missing notStruct = .error (notStruct declared) := by
  obtain ⟨named, based⟩ := endless.exists_baseType_eq
  refine Subject.structNamed_eq_error.mpr (.inr ⟨declared, found, fun fields isStruct => ?_, rfl⟩)
  rw [based] at isStruct
  cases isStruct

end Checks

/-- A type leads to the end of its chain of definitions when that has at most 64 of them, and else
to the named type behind the 64th.  A chain that comes back to one of its types has no end; then no
record, no integer, no setter and no model is found, and wherever no struct is below the layers no
search finds one. -/
theorem definitions_followed (package : Package) :
    (∀ type hops last, package.LeadsTo hops type last → package.definition? last = none →
      hops ≤ 64 → package.baseType type = last) ∧
    (∀ type,
      (∀ hops last, package.LeadsTo hops type last → package.definition? last = none → 64 < hops) →
      ∃ named, package.baseType type = .named named ∧
        ∀ last, package.LeadsTo 64 type last ↔ last = .named named) ∧
    (∀ type knot front links, package.LeadsTo front type knot →
      package.LeadsTo (links + 1) knot knot → package.IsEndless type) ∧
    (∀ subject : Subject, package.IsEndless subject.decl.type →
      subject.record package = .error (.of subject.target subject.decl .notStruct)) ∧
    (∀ decl ∈ package.annotated IdParser.target, package.IsEndless decl.type →
      package.entityAt IdParser.target IdParser.parserOf decl = .error (.of IdParser.target decl
        (if 1 < (package.directivesAbove decl.pos IdParser.target).length then .severalParsers
          else .notSizedInteger)) ∧
      ∃ diagnostic, IdParser.build package = .error diagnostic) ∧
    (∀ models, ∀ decl ∈ package.annotated Wrapper.target,
      let subject : Subject := ⟨Wrapper.target, decl⟩
      let setterName := Wrapper.setterNameOf (.ofPackage package) decl
      (∀ setter, package.lookup? setterName = some setter → package.IsEndless setter.type →
        Wrapper.setterFieldsOf subject package setterName =
          .error (.of Wrapper.target setter .setterNotStruct) ∧
        ∃ diagnostic, Wrapper.build package models = .error diagnostic) ∧
      ∀ options, (package.directivesAbove decl.pos Wrapper.target).foldlM
        (Wrapper.applyDirective subject)
          ⟨decl.name, false, false⟩ = .ok options →
        ∀ model, models.lookup? options.modelName = some model → models.IsEndless model.type →
          Wrapper.modelFieldsOf subject models options.modelName =
            .error (.of Wrapper.target decl (.modelNotStruct models.name options.modelName)) ∧
          ∃ diagnostic, Wrapper.build package models = .error diagnostic) ∧
    ∀ type, (∀ hops fields, ¬ package.ReachesStruct hops type fields) →
      package.structOf? type = none := by
  refine ⟨?_, ?_, ?_, ?_, ?_, ?_, ?_⟩
  · intro type hops last chain ended within
    exact Package.baseType_of_ended chain ended within
  · intro type longer
    exact Package.baseType_of_longer longer
  · intro type knot front links chain cycle
    exact .of_leadsTo chain (Package.isEndless_of_cycle cycle)
  · intro subject endless
    exact Subject.record_of_endless endless
  · intro decl annotated endless
    have endlessThere : (DirectiveIndex.ofPackage package).package.IsEndless decl.type := endless
    have failed : package.entityAt IdParser.target IdParser.parserOf decl = _ :=
      IdParser.parserOf_of_endless endlessThere
    refine ⟨failed, IdParser.keepsContract.exists_error_of_unmade annotated fun parser made => ?_⟩
    cases failed.symm.trans made
  · intro models decl annotated subject setterName
    have unbuilt := (Wrapper.keepsContract models).exists_error_of_unmade annotated
    constructor
    · intro setter found endless
      have failed : Wrapper.setterFieldsOf subject package setterName = _ :=
        Subject.structNamed_of_endless found endless _ _
      refine ⟨failed, unbuilt fun record made => ?_⟩
      obtain ⟨_, _, _, _, _, _, setterOk, _⟩ := Wrapper.exists_steps_of_wrappedRecordOf made
      cases failed.symm.trans setterOk
    · intro options folded model found endless
      have failed : Wrapper.modelFieldsOf subject models options.modelName = _ :=
        Subject.structNamed_of_endless found endless _ _
      refine ⟨failed, unbuilt fun record made => ?_⟩
      obtain ⟨_, _, options', _, _, _, _, folded', modelOk, _⟩ :=
        Wrapper.exists_steps_of_wrappedRecordOf made
      cases folded.symm.trans folded'
      cases failed.symm.trans modelOk
  · intro type unreached
    exact Package.structOf?_of_unreached unreached

/-- Three definitions in a circle, two of them looked up and one spelled out: an identifier, a
setter and a model that lead into it are reported, and what is below slices and pointers to it is no
struct. -/
theorem definitions_followed_circle :
    let shop : PackageRef := ⟨"example.com/shop", "shop"⟩
    let ring : GoType := .ofName shop "Ring"
    let link : GoType := .ofName shop "Link"
    let hook : GoType := .named ⟨none, "Hook", [], some ring⟩
    let id : TypeDecl := ⟨"Ring", ⟨"shop.go", 3, 6⟩, link⟩
    let widget : TypeDecl := ⟨"Widget", ⟨"shop.go", 8, 6⟩, .struct []⟩
    let setter : TypeDecl := ⟨"WidgetSetter", ⟨"setter.go", 3, 6⟩, ring⟩
    let package : Package := ⟨"shop", "example.com/shop",
      [⟨"shop.go", [⟨[⟨"//repogen:parseid", 2⟩]⟩, ⟨[⟨"//repogen:bob", 7⟩]⟩]⟩],
      [id, ⟨"Link", ⟨"shop.go", 5, 6⟩, hook⟩, widget, setter]⟩
    let model : TypeDecl :=
      ⟨"Widget", ⟨"models.go", 3, 6⟩, .ofName (some ⟨"example.com/models", "models"⟩) "Widget"⟩
    let models : Package := ⟨"models", "example.com/models", [], [model]⟩
    package.baseType (.ofName shop "Widget") = .struct [] ∧
      (∃ named, package.baseType ring = .named named) ∧ package.IsEndless ring ∧
      Subject.record ⟨Setter.target, id⟩ package = .error (.of Setter.target id .notStruct) ∧
      (∃ diagnostic, IdParser.build package = .error diagnostic) ∧
      Wrapper.setterFieldsOf ⟨Wrapper.target, widget⟩ package "WidgetSetter" =
        .error (.of Wrapper.target setter .setterNotStruct) ∧
      Wrapper.modelFieldsOf ⟨Wrapper.target, widget⟩ models "Widget" =
        .error (.of Wrapper.target widget (.modelNotStruct "models" "Widget")) ∧
      package.structOf? (.slice (.pointer ring)) = none := by
  intro shop ring link hook id widget setter package model models
  obtain ⟨ended, longer, cyclic, recordFails, parserFails, wrapperFails, unreached⟩ :=
    definitions_followed package
  have toLink : package.underlying? ⟨shop, "Ring", [], none⟩ = some link := rfl
  have toHook : package.underlying? ⟨shop, "Link", [], none⟩ = some hook := rfl
  have toWidget : package.underlying? ⟨shop, "Widget", [], none⟩ = some (.struct []) := rfl
  have itself : models.underlying? ⟨some ⟨"example.com/models", "models"⟩, "Widget", [], none⟩ =
      some model.type := rfl
  have circle : package.LeadsTo 3 ring ring :=
    .define toLink (.define toHook (.define rfl (.here ring)))
  have endless : package.IsEndless ring := cyclic ring ring 0 2 (.here ring) circle
  have endlessId : package.IsEndless link := cyclic link link 0 2 (.here link)
    (.define toHook (.define rfl (.define toLink (.here link))))
  have parsed : id ∈ package.annotated IdParser.target :=
    List.mem_filter.mpr ⟨List.mem_cons_self, by decide +kernel⟩
  have wrapped : widget ∈ package.annotated Wrapper.target :=
    List.mem_filter.mpr ⟨by simp [package], by decide +kernel⟩
  have named : Wrapper.setterNameOf (.ofPackage package) widget = "WidgetSetter" := by
    decide +kernel
  have endlessModel : models.IsEndless model.type :=
    Package.isEndless_of_cycle (.define itself (.here _))
  obtain ⟨setterFails, modelFails⟩ := wrapperFails models widget wrapped
  refine ⟨ended _ 1 _ (.define toWidget (.here _)) rfl (by decide), ?_, endless, ?_, ?_, ?_, ?_, ?_⟩
  · obtain ⟨named, based, _⟩ :=
      longer ring fun hops last chain isEnd => absurd isEnd (endless.not_ended chain)
    exact ⟨named, based⟩
  · exact recordFails ⟨Setter.target, id⟩ endlessId
  · exact (parserFails id parsed endlessId).2
  · have failed := (setterFails setter (by rw [named]; rfl) endless).1
    rwa [named] at failed
  · exact (modelFails ⟨"Widget", false, false⟩ (by decide +kernel) model rfl endlessModel).1
  · refine unreached _ fun hops fields reached => ?_
    cases reached with
    | here below => cases below
    | define below known behind =>
        cases below
        cases toLink.symm.trans known
        exact endlessId.not_reachesStruct behind

end Scaffold
