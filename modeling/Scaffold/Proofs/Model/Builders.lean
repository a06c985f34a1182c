import Scaffold.Proofs.Model.Repository
import Scaffold.Proofs.Model.Criteria
import Scaffold.Proofs.Model.IdParser
import Scaffold.Proofs.Model.Wrapper

/-!
# All builders keep the contract

Repositories, search criteria, setters, identifier parsers and wrappers are built under one contract
(`builders_keep_contract`).  What they differ in is how an entity describes its declaration, and
that a wrapper may have to report the declaration of a setter.
-/

set_option autoImplicit false

namespace Scaffold

/-- On success there is one entity for each annotated declaration, in order, none of them empty and
none of a record with a tag outside the tag language.  On failure the first annotated declaration
without an entity is reported, whatever stands above the later ones. -/
theorem builders_keep_contract :
    KeepsContract Repository.target Repository.interfaceOf
      (fun package => (Repository.build package).map (·.interfaces))
      Repository.Describes (fun _ decl d => d.IsAbout Repository.target decl) ∧
    KeepsContract Criteria.target Criteria.criteriaTypeOf
      (fun package => (Criteria.build package).map (·.types))
      Criteria.Describes (fun _ decl d => d.IsAbout Criteria.target decl) ∧
    KeepsContract Setter.target Setter.setterOf
      (fun package => (Setter.build package).map (·.setters))
      Setter.Describes (fun _ decl d => d.IsAbout Setter.target decl) ∧
    KeepsContract IdParser.target IdParser.parserOf
      (fun package => (IdParser.build package).map (·.parsers))
      IdParser.Describes (fun _ decl d => d.IsAbout IdParser.target decl) ∧
    ∀ models, KeepsContract Wrapper.target (fun index => Wrapper.wrappedRecordOf index models)
      (fun package => (Wrapper.build package models).map (·.records))
      Wrapper.Describes Wrapper.Reports :=
  ⟨Repository.keepsContract, Criteria.keepsContract, Setter.keepsContract, IdParser.keepsContract,
    Wrapper.keepsContract⟩

/-- A wrapped declaration whose setter is a number: the setter, which stands above it, is reported,
also when the block of a later declaration asks for an operation that does not exist. -/
theorem builders_keep_contract_setter :
    let file (later : String) : SourceFile :=
      ⟨"shop.go", [⟨[⟨"//repogen:bob", 4⟩]⟩, ⟨[⟨later, 8⟩]⟩]⟩
    let setter : TypeDecl := ⟨"WidgetSetter", ⟨"shop.go", 2, 6⟩, .basic .int⟩
    let widget : TypeDecl := ⟨"Widget", ⟨"shop.go", 5, 6⟩, .struct []⟩
    let gadget : TypeDecl := ⟨"Gadget", ⟨"shop.go", 9, 6⟩, .basic .int⟩
    let models : Package := ⟨"models", "example.com/shop/models", [], []⟩
    let package (later : String) : Package :=
      ⟨"shop", "example.com/shop", [file later], [setter, widget, gadget]⟩
    let fault : Diagnostic := ⟨⟨"shop.go", 2, 6⟩, "bob", "WidgetSetter", .setterNotStruct⟩
    (Wrapper.build (package "//repogen:bob") models).map (·.records) = .error fault ∧
      (Wrapper.build (package "//repogen:bob:ops spin") models).map (·.records) = .error fault := by
  intro file setter widget gadget models package fault
  have failed : (Wrapper.build (package "//repogen:bob") models).map (·.records) =
      .error fault := by
    decide +kernel
  have bare : (package "//repogen:bob").isAnnotated Wrapper.target setter = false := by
    decide +kernel
  have unmade : (package "//repogen:bob").entityAt Wrapper.target
      (fun index => Wrapper.wrappedRecordOf index models) widget = .error fault := by decide +kernel
  refine ⟨failed, ?_⟩
  obtain ⟨before, decl, behind, decls, earlierMade, annotated, _, _, stays⟩ :=
    (builders_keep_contract.2.2.2.2 models).first_failure failed
  refine stays [file "//repogen:bob:ops spin"] fun other member => ?_
  rcases before with _ | ⟨first, _ | ⟨second, before⟩⟩
  · obtain ⟨rfl, _⟩ := List.cons.inj decls
    cases bare.symm.trans annotated
  · obtain ⟨rfl, others⟩ := List.cons.inj decls
    obtain ⟨rfl, _⟩ := List.cons.inj others
    rcases List.mem_pair.mp member with rfl | rfl <;> rfl
  · obtain ⟨rfl, others⟩ := List.cons.inj decls
    obtain ⟨rfl, _⟩ := List.cons.inj others
    obtain ⟨entity, made⟩ := earlierMade widget (by simp) (by decide +kernel)
    cases made.symm.trans unmade

end Scaffold
