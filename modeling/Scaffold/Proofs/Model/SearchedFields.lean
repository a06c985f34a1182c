import Scaffold.Proofs.Model.Topics

/-!
# What search criteria consist of

The criteria for a record are those of its extra directives, and behind them those of its fields in
their order.  A field without a search gives none; one with a search gives one or two, all of its
option type and with its relation (`Yields`).  A relation that the record does not have makes the
builder fail (`criteria_of_extras_and_fields`).
-/

set_option autoImplicit false

namespace Scaffold

open Checked

/-- The struct that the relations field of the record leads to has a field of the given name. -/
def Package.HasRelation (package : Package) (record : List Field) (name : String) : Prop :=
  ∃ holder relations, findField? record relationsField = some holder ∧
    package.structOf? holder.type = some relations ∧ ∃ related ∈ relations, related.name = name

theorem Subject.exists_relation_eq_ok_iff {subject : Subject} {package : Package}
    {record : List Field} {fieldName name : String} :
    (∃ related, subject.relation (relationsOf package record) fieldName name = .ok related) ↔
      package.HasRelation record name := by
  have found (fields : List Field) :
      (∃ related, findField? fields name = some related) ↔
        ∃ related ∈ fields, related.name = name := by
    rw [← Option.ne_none_iff_exists', ne_eq, findField?_eq_none]
    push Not
    rfl
  simp only [Subject.relation_eq_ok, relationsOf, Option.bind_eq_some_iff,
    Package.HasRelation, ← found]
  constructor
  · rintro ⟨related, fields, ⟨holder, isHolder, reached⟩, isRelated⟩
    exact ⟨holder, fields, isHolder, reached, related, isRelated⟩
  · rintro ⟨holder, fields, isHolder, reached, related, isRelated⟩
    exact ⟨related, fields, ⟨holder, isHolder, reached⟩, isRelated⟩

theorem Subject.relation_of_unrelated (subject : Subject) {package : Package} {record : List Field}
    {name : String} (unrelated : ¬ package.HasRelation record name) (fieldName : String) :
    ∃ fault, (fault = .noRelations fieldName ∨ fault = .noRelation fieldName name) ∧
      subject.relation (relationsOf package record) fieldName name =
        .error (.of subject.target subject.decl fault) := by
  cases reached : relationsOf package record with
  | none => exact ⟨_, .inl rfl, rfl⟩
  | some fields =>
      cases found : findField? fields name with
      | none =>
          refine ⟨_, .inr rfl, ?_⟩
          rw [relation, found]
          rfl
      | some related =>
          have ok : subject.relation (relationsOf package record) fieldName name = .ok related :=
            Subject.relation_eq_ok.mpr ⟨fields, reached, found⟩
          exact absurd (exists_relation_eq_ok_iff.mp ⟨related, ok⟩) unrelated

namespace Criteria

variable {package : Package} {decl : TypeDecl} {record : List Field} {field : Field}
    {own : List Criterion}
  {subject : Subject}

/-! ## Extra criteria -/

def extras (directives : List Directive) : List Criterion :=
  (directives.filter (·.topic = "extra")).map fun d =>
    ⟨(splitExtra d.args).1, (splitExtra d.args).2, ""⟩

/-! ## Criteria of fields -/

/-- The optional value of a type: below a pointer it may also be null. -/
inductive IsOptionOf (viewer : String) : GoType → String → Prop where
  | nullable {elem : GoType} {printed : String} (prints : elem.print? viewer = some printed) :
      IsOptionOf viewer (.pointer elem) ("omitnull.Val[" ++ printed ++ "]")
  | plain {type : GoType} {printed : String} (direct : type.isPointer = false)
      (prints : type.print? viewer = some printed) :
        IsOptionOf viewer type ("omit.Val[" ++ printed ++ "]")

theorem optionType?_of_pointer (viewer : String) (elem : GoType) :
    optionType? viewer (.pointer elem) =
      (elem.print? viewer).map ("omitnull.Val[" ++ · ++ "]") := by
  simp [optionType?, GoType.pointee?, Function.comp_def]

theorem optionType?_of_direct (viewer : String) {type : GoType} (direct : type.isPointer = false) :
    optionType? viewer type = (type.print? viewer).map ("omit.Val[" ++ · ++ "]") := by
  have taken : type.pointee? viewer = (type.print? viewer).map (⟨·, false⟩) := by
    cases type with
    | pointer elem => cases direct
    | _ => rfl
  simp [optionType?, taken, Function.comp_def]

theorem optionType?_eq_some_iff {viewer option : String} {type : GoType} :
    optionType? viewer type = some option ↔ IsOptionOf viewer type option := by
  constructor
  · intro spelled
    cases direct : type.isPointer with
    | false =>
        rw [optionType?_of_direct viewer direct] at spelled
        obtain ⟨printed, prints, rfl⟩ := Option.map_eq_some_iff.mp spelled
        exact .plain direct prints
    | true =>
        obtain ⟨elem, rfl⟩ : ∃ elem, type = .pointer elem := by
          cases type with
          | pointer elem => exact ⟨elem, rfl⟩
          | _ => cases direct
        rw [optionType?_of_pointer] at spelled
        obtain ⟨printed, prints, rfl⟩ := Option.map_eq_some_iff.mp spelled
        exact .nullable prints
  · rintro (prints | ⟨direct, prints⟩)
    · rw [optionType?_of_pointer, prints, Option.map_some]
    · rw [optionType?_of_direct viewer direct, prints, Option.map_some]

/-- The one or two names that a search value asks for, by its parts between spaces. -/
inductive AsksFor (fieldName : String) : List String → List String → Prop where
  | own : AsksFor fieldName [""] [fieldName]
  | bounds : AsksFor fieldName ["range"] [fieldName ++ "From", fieldName ++ "Until"]
  | named (first last : String) : AsksFor fieldName ["range", first, last] [first, last]

theorem criterionNames_eq_ok_iff {fieldName search : String} {names : List String} :
    criterionNames subject fieldName search = .ok names ↔
      AsksFor fieldName (Text.splitSpaces search) names := by
  unfold criterionNames
  generalize Text.splitSpaces search = parts
  constructor
  · intro ok
    split at ok
    · obtain rfl := Except.ok.inj ok
      exact .own
    · obtain rfl := Except.ok.inj ok
      exact .bounds
    · obtain rfl := Except.ok.inj ok
      exact .named _ _
    · cases ok
    · cases ok
  · rintro (_ | _ | ⟨first, last⟩) <;> rfl

inductive Yields (package : Package) (record : List Field) (field : Field) :
    List Criterion → Prop where
  | unsearched {tag : FieldTag} (tagRead : FieldTag.ofComposite field.tag = some tag)
      (absent : tag.contains "search" = false) : Yields package record field []
  | searched {tag : FieldTag} {search type : String} {names : List String}
      (tagRead : FieldTag.ofComposite field.tag = some tag)
      (present : tag.get? "search" = some search)
      (optional : IsOptionOf package.path field.type type)
      (related : tag.value "rel" ≠ "" → package.HasRelation record (tag.value "rel"))
      (asked : AsksFor field.name (Text.splitSpaces search) names) :
      Yields package record field (names.map fun name => ⟨name, type, tag.value "rel"⟩)

theorem yields_of_criteriaOf
    (ok : criteriaOf subject package.path (relationsOf package record) field = .ok own) :
    Yields package record field own := by
  obtain ⟨tag, tagRead, ⟨absent, rfl⟩ |
    ⟨search, type, names, searched, optional, related, namesOk, rfl⟩⟩ :=
    criteriaOf_eq_ok ok
  · exact .unsearched tagRead (by rw [FieldTag.contains, absent]; rfl)
  · exact .searched tagRead searched (optionType?_eq_some_iff.mp optional)
      (fun here => Subject.exists_relation_eq_ok_iff.mp (related here))
      (criterionNames_eq_ok_iff.mp namesOk)

/-- A search on behalf of a relation that the record does not have gives no criteria. -/
theorem criteriaOf_of_unrelated {tag : FieldTag}
    (tagRead : FieldTag.ofComposite field.tag = some tag)
    (present : tag.contains "search" = true) (named : tag.value "rel" ≠ "")
    (unrelated : ¬ package.HasRelation record (tag.value "rel")) :
    criteriaOf subject package.path (relationsOf package record) field ≠ .ok own := by
  intro ok
  cases yields_of_criteriaOf ok with
  | unsearched tagRead' absent =>
      cases tagRead.symm.trans tagRead'
      cases present.symm.trans absent
  | searched tagRead' _ _ related =>
      cases tagRead.symm.trans tagRead'
      exact unrelated (related named)

theorem exists_build_eq_error_of_field (annotated : decl ∈ package.annotated target)
    (resolved : package.baseType decl.type = .struct record) (member : field ∈ record)
    (unmade : ∀ own, criteriaOf ⟨target, decl⟩ package.path (relationsOf package record) field ≠
      .ok own) :
    ∃ diagnostic, build package = .error diagnostic := by
  refine keepsContract.exists_error_of_unmade annotated fun entry made => ?_
  obtain ⟨record', _, parts, resolved', _, related, _⟩ := criteriaTypeOf_eq_ok made
  cases resolved.symm.trans resolved'
  obtain ⟨own, _, ok⟩ := exists_right_of_mem related member
  exact unmade own ok

structure Lists (package : Package) (decl : TypeDecl) (entry : CriteriaType) (record : List Field)
    (parts : List (List Criterion)) : Prop where
  resolved : package.baseType decl.type = .struct record
  yielded : List.Forall₂ (Yields package record) record parts
  listed : entry.fields = extras (package.directivesAbove decl.pos target) ++ parts.flatten

theorem exists_lists_of_entityAt {entry : CriteriaType}
    (made : package.entityAt target criteriaTypeOf decl = .ok entry) :
    ∃ record parts, Lists package decl entry record parts := by
  obtain ⟨record, extra, parts, resolved, folded, related, _, rfl⟩ := criteriaTypeOf_eq_ok made
  rw [applyDirective_eq_step] at folded
  have added : extra.fields = extras (package.directivesAbove decl.pos target) :=
    shape.fields_of_foldlM folded
  refine ⟨record, parts, resolved, related.imp fun field own => yields_of_criteriaOf, ?_⟩
  dsimp only
  rw [added]

end Criteria

open Criteria in
/-- The criteria of a package are just those that extra directives and searched fields give, and a
search for a relation that is not there is reported. -/
theorem criteria_of_extras_and_fields (package : Package) :
    (∀ model, Criteria.build package = .ok model →
      List.Forall₂ (fun decl entry => ∃ record parts, Lists package decl entry record parts)
        (package.annotated target) model.types) ∧
    ∀ decl ∈ package.annotated target, ∀ record, package.baseType decl.type = .struct record →
      ∀ field ∈ record, ∀ tag, FieldTag.ofComposite field.tag = some tag →
        tag.contains "search" = true → tag.value "rel" ≠ "" →
        ¬ package.HasRelation record (tag.value "rel") →
          ∃ diagnostic, Criteria.build package = .error diagnostic := by
  constructor
  · intro model built
    have each := keepsContract.entity_of_each (map_eq_ok.mpr ⟨model, built, rfl⟩)
    exact each.imp fun decl entry ⟨made, _⟩ => exists_lists_of_entityAt made
  · intro decl annotated record resolved field member tag tagRead present named unrelated
    exact exists_build_eq_error_of_field annotated resolved member fun own =>
      criteriaOf_of_unrelated tagRead present named unrelated

open Criteria in
/-- An extra criterion, one of a field's own name, two bounds that search a relation, and a field
that is not searched; and a search for a relation of a record that has none. -/
theorem criteria_of_extras_and_fields_widget :
    let files : List SourceFile :=
      [⟨"shop.go", [⟨[⟨"//repogen:search:extra Query string", 2⟩]⟩]⟩]
    let owner : Field :=
      ⟨"Owner", .pointer (.ofName (some ⟨"example.com/shop", "shop"⟩) "User"), "", false⟩
    let widget : TypeDecl :=
      ⟨"Widget", ⟨"shop.go", 3, 6⟩, .struct [⟨"R", .struct [owner], "", false⟩,
        ⟨"Name", .basic .string, "repogen:\"search\"", false⟩,
        ⟨"Note", .basic .string, "", false⟩,
        ⟨"Rating", .pointer (.basic .int), "repogen:\"search:'range' rel:'Owner'\"", false⟩]⟩
    let package : Package := ⟨"shop", "example.com/shop", files, [widget]⟩
    let entry : CriteriaType :=
      ⟨"WidgetSearchData", [⟨"Query", "string", ""⟩, ⟨"Name", "omit.Val[string]", ""⟩,
        ⟨"RatingFrom", "omitnull.Val[int]", "Owner"⟩,
        ⟨"RatingUntil", "omitnull.Val[int]", "Owner"⟩]⟩
    let buyer : Field := ⟨"BuyerID", .basic .int64, "repogen:\"search rel:'Buyer'\"", false⟩
    let gadget : TypeDecl := ⟨"Gadget", ⟨"shop.go", 3, 6⟩, .struct [buyer]⟩
    let unrelated : Package := ⟨"shop", "example.com/shop", files, [gadget]⟩
    Criteria.build package = .ok ⟨"shop", [entry]⟩ ∧
      (∃ record parts, Lists package widget entry record parts) ∧
      ∃ diagnostic, Criteria.build unrelated = .error diagnostic := by
  intro files owner widget package entry buyer gadget unrelated
  have built : Criteria.build package = .ok ⟨"shop", [entry]⟩ := by decide +kernel
  have only : package.annotated target = [widget] := rfl
  have annotated : gadget ∈ unrelated.annotated target :=
    List.mem_filter.mpr ⟨List.mem_cons_self, by decide +kernel⟩
  have without : ¬ unrelated.HasRelation [buyer] "Buyer" := by
    rintro ⟨holder, _, found, _⟩
    cases found
  obtain ⟨each, _⟩ := criteria_of_extras_and_fields package
  obtain ⟨_, reported⟩ := criteria_of_extras_and_fields unrelated
  have listed := each _ built
  rw [only] at listed
  refine ⟨built, (List.forall₂_cons.mp listed).1, ?_⟩
  exact reported gadget annotated [buyer] rfl buyer List.mem_cons_self
    ⟨[("search", ""), ("rel", "Buyer")]⟩
    (by decide +kernel) (by decide) (by decide) without

end Scaffold
