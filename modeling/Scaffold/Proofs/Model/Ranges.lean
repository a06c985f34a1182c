import Scaffold.Proofs.Model.SearchedFields

/-!
# Ranges of search criteria

A search value is read by its parts between single spaces, empty ones included.  Behind `range` two
parts name the bounds, no part stands for the bounds named after the field, and any other number is
reported (`range_read_by_parts`).  So a value with a space too many is not read by its words: the
bounds may have an empty name, and such criteria are built (`spaced_range_unnamed`).
-/

set_option autoImplicit false

namespace Scaffold

open Checked

/-- The first word of a text is its first part, unless a space stands in front of it. -/
theorem Text.exists_splitSpaces_of_words {text word : String} {rest : List String}
    (read : Text.words text = word :: rest) :
    (∃ parts, Text.splitSpaces text = "" :: parts) ∨
      ∃ parts, Text.splitSpaces text = word :: parts ∧ parts.filter (· ≠ "") = rest := by
  unfold Text.words at read
  cases split : Text.splitSpaces text with
  | nil =>
      rw [split] at read
      cases read
  | cons first parts =>
      by_cases empty : first = ""
      · exact .inl ⟨parts, by rw [empty]⟩
      · rw [split, List.filter_cons_of_pos (by simpa using empty)] at read
        obtain ⟨rfl, kept⟩ := List.cons.inj read
        exact .inr ⟨parts, rfl, kept⟩

namespace Criteria

variable {package : Package} {decl : TypeDecl}

/-! ## The first declaration and the first field that fail -/

/-- The first field with a fault decides the error, when the directives have none. -/
theorem criteriaTypeOf_eq_error_of_first {index : DirectiveIndex} {directives : List Directive}
    {front behind : List Field} {field : Field} {diagnostic : Diagnostic}
    (resolved : index.package.baseType decl.type = .struct (front ++ field :: behind))
    (known : ∀ d ∈ directives, d.topic ∈ topics)
    (given : ∀ earlier ∈ front, ∃ own, criteriaOf ⟨target, decl⟩ index.package.path
      (relationsOf index.package (front ++ field :: behind)) earlier = .ok own)
    (failed : criteriaOf ⟨target, decl⟩ index.package.path
      (relationsOf index.package (front ++ field :: behind)) field = .error diagnostic) :
    criteriaTypeOf index decl directives = .error diagnostic := by
  obtain ⟨extra, folded⟩ : ∃ extra, directives.foldlM (applyDirective ⟨target, decl⟩)
      ⟨decl.name ++ "SearchData", []⟩ = .ok extra := by
    rw [applyDirective_eq_step]
    exact exists_foldlM_eq_ok
      (fun d member _ => shape.exists_step_eq_ok_iff.mpr (known d member)) _
  have traversed := mapM_eq_error.mpr ⟨front, field, behind, rfl, given, failed⟩
  unfold criteriaTypeOf
  refine bind_eq_error.mpr (.inr ⟨_, Subject.record_eq_ok.mpr resolved, ?_⟩)
  refine bind_eq_error.mpr (.inr ⟨extra, folded, ?_⟩)
  exact bind_eq_error.mpr (.inl traversed)

theorem build_eq_error_of_first {before behind : List TypeDecl}
    (decls : package.decls = before ++ decl :: behind)
    (made : ∀ earlier ∈ before, package.isAnnotated target earlier = true →
      ∃ entry, package.entityAt target criteriaTypeOf earlier = .ok entry)
    (annotated : package.isAnnotated target decl = true) {diagnostic : Diagnostic}
    (failed : package.entityAt target criteriaTypeOf decl = .error diagnostic) :
    build package = .error diagnostic := by
  rw [build_eq, map_eq_error]
  exact Package.entities_eq_error.mpr ⟨before, decl, behind, decls, made, annotated, failed⟩

/-! ## A field among the others -/

/-- A field of the record behind a declaration, with the fields in front of it and behind it. -/
structure FieldPlace where
  package : Package
  decl : TypeDecl
  front : List Field
  field : Field
  behind : List Field

namespace FieldPlace

variable (place : FieldPlace)

def record : List Field := place.front ++ place.field :: place.behind

def criteriaAt (field : Field) : Except Diagnostic (List Criterion) :=
  criteriaOf ⟨target, place.decl⟩ place.package.path (relationsOf place.package place.record) field

/-- The declaration is annotated, and the field is named, printable and searched by the value. -/
structure IsSearched (tag : FieldTag) (value type : String) : Prop where
  annotated : place.decl ∈ place.package.annotated target
  resolved : place.package.baseType place.decl.type = .struct place.record
  tagRead : FieldTag.ofComposite place.field.tag = some tag
  searched : tag.get? "search" = some value
  named : place.field.name ≠ ""
  optional : IsOptionOf place.package.path place.field.type type

/-- The relation that the tag speaks of, if it does, is there. -/
def IsRelated (tag : FieldTag) : Prop :=
  tag.value "rel" ≠ "" → place.package.HasRelation place.record (tag.value "rel")

/-- The field does not make the builder fail, and whatever is built has its criteria in their
place. -/
structure Gives (own : List Criterion) : Prop where
  step : place.criteriaAt place.field = .ok own
  listed : ∀ model, build place.package = .ok model →
    ∃ entry ∈ model.types, place.package.entityAt target criteriaTypeOf place.decl = .ok entry ∧
      ∃ before after, List.Forall₂ (Yields place.package place.record) place.front before ∧
        List.Forall₂ (Yields place.package place.record) place.behind after ∧
        entry.fields = extras (place.package.directivesAbove place.decl.pos target) ++
          (before.flatten ++ (own ++ after.flatten))

/-- The field makes the builder fail, and unless something in front of it does so first, with this
fault. -/
structure Refuses (fault : Fault) : Prop where
  step : place.criteriaAt place.field = .error (.of target place.decl fault)
  unbuilt : ∃ diagnostic, build place.package = .error diagnostic
  reported : ∀ before behind, place.package.decls = before ++ place.decl :: behind →
    (∀ earlier ∈ before, place.package.isAnnotated target earlier = true →
      ∃ entry, place.package.entityAt target criteriaTypeOf earlier = .ok entry) →
    (∀ d ∈ place.package.directivesAbove place.decl.pos target, d.topic ∈ topics) →
    (∀ earlier ∈ place.front, ∃ own, place.criteriaAt earlier = .ok own) →
    build place.package = .error (.of target place.decl fault)

variable {place} {tag : FieldTag} {value type : String} {names : List String}

namespace IsSearched

theorem criteriaAt_eq (searched : place.IsSearched tag value type) (related : place.IsRelated tag) :
    place.criteriaAt place.field =
      (criterionNames ⟨target, place.decl⟩ place.field.name value).map fun names =>
        names.map fun name => ⟨name, type, tag.value "rel"⟩ := by
  have optional := optionType?_eq_some_iff.mpr searched.optional
  rw [criteriaAt, criteriaOf_of_searched searched.tagRead searched.searched optional]
  split
  next here =>
    obtain ⟨partner, found⟩ := Subject.exists_relation_eq_ok_iff.mpr (related here)
    rw [found]
    cases criterionNames ⟨target, place.decl⟩ place.field.name value <;> rfl
  next => cases criterionNames ⟨target, place.decl⟩ place.field.name value <;> rfl

theorem gives (searched : place.IsSearched tag value type) (related : place.IsRelated tag)
    (asked : AsksFor place.field.name (Text.splitSpaces value) names) :
    place.Gives (names.map fun name => ⟨name, type, tag.value "rel"⟩) := by
  have step : place.criteriaAt place.field =
      .ok (names.map fun name => ⟨name, type, tag.value "rel"⟩) := by
    rw [searched.criteriaAt_eq related, criterionNames_eq_ok_iff.mpr asked]
    rfl
  refine ⟨step, fun model built => ?_⟩
  have each := keepsContract.entity_of_each (map_eq_ok.mpr ⟨model, built, rfl⟩)
  obtain ⟨entry, member, made, _⟩ := exists_right_of_mem each searched.annotated
  obtain ⟨record, extra, parts, resolved, folded, related, _, rfl⟩ := criteriaTypeOf_eq_ok made
  cases searched.resolved.symm.trans resolved
  obtain ⟨before, rest, rfl, front, others⟩ := exists_append_of_forall₂ related
  obtain ⟨own, after, ownOk, behind, rfl⟩ := List.forall₂_cons_left_iff.mp others
  cases step.symm.trans ownOk
  refine ⟨_, member, made, before, after, front.imp fun _ _ => yields_of_criteriaOf,
    behind.imp fun _ _ => yields_of_criteriaOf, ?_⟩
  rw [applyDirective_eq_step] at folded
  have added : extra.fields = extras (place.package.directivesAbove place.decl.pos target) :=
    shape.fields_of_foldlM folded
  dsimp only
  rw [added, List.flatten_append, List.flatten_cons]

theorem refuses (searched : place.IsSearched tag value type) {fault : Fault}
    (step : place.criteriaAt place.field = .error (.of target place.decl fault)) :
    place.Refuses fault := by
  have member : place.field ∈ place.record := List.mem_append_right _ List.mem_cons_self
  refine ⟨step,
    exists_build_eq_error_of_field searched.annotated searched.resolved member fun own ok => ?_, ?_⟩
  · cases step.symm.trans ok
  · intro before behind decls made known given
    refine build_eq_error_of_first decls made (List.mem_filter.mp searched.annotated).2 ?_
    exact criteriaTypeOf_eq_error_of_first searched.resolved known given step

end IsSearched

/-! ## Ranges -/

variable (place tag type) in
/-- The answer to a range: two names are taken as they are, none gives the bounds of the field, and
any other number is refused. -/
def AnswersRange : List String → Prop
  | [] => place.Gives ([place.field.name ++ "From", place.field.name ++ "Until"].map
      fun name => ⟨name, type, tag.value "rel"⟩)
  | [first, last] => place.Gives ([first, last].map fun name => ⟨name, type, tag.value "rel"⟩)
  | _ => place.Refuses (.rangeNames place.field.name)

namespace IsSearched

theorem answersRange (searched : place.IsSearched tag value type) (related : place.IsRelated tag)
    {parts : List String} (split : Text.splitSpaces value = "range" :: parts) :
    place.AnswersRange tag type parts := by
  match parts with
  | [] => exact searched.gives related (split ▸ .bounds)
  | [first, last] => exact searched.gives related (split ▸ .named first last)
  | [_] | _ :: _ :: _ :: _ =>
      refine searched.refuses ?_
      rw [searched.criteriaAt_eq related, criterionNames, split]
      rfl

theorem refuses_of_space (searched : place.IsSearched tag value type)
    (related : place.IsRelated tag)
    {part : String} {parts : List String} (split : Text.splitSpaces value = "" :: part :: parts) :
    place.Refuses (.unknownSearch place.field.name value) := by
  refine searched.refuses ?_
  rw [searched.criteriaAt_eq related, criterionNames, split]
  rfl

theorem exists_refuses_of_unrelated (searched : place.IsSearched tag value type)
    (unrelated : ¬ place.IsRelated tag) :
    ∃ fault, (fault = .noRelations place.field.name ∨
      fault = .noRelation place.field.name (tag.value "rel")) ∧
      place.Refuses fault := by
  obtain ⟨here, nowhere⟩ := Classical.not_imp.mp unrelated
  obtain ⟨fault, isMissing, failed⟩ :=
    Subject.relation_of_unrelated ⟨target, place.decl⟩ nowhere place.field.name
  have optional := optionType?_eq_some_iff.mpr searched.optional
  refine ⟨fault, isMissing, searched.refuses ?_⟩
  rw [criteriaAt, criteriaOf_of_searched searched.tagRead searched.searched optional,
    if_pos here, failed]
  rfl

theorem exists_unnamed_iff (searched : place.IsSearched tag value type) {own : List Criterion}
    (step : place.criteriaAt place.field = .ok own) :
    (∃ criterion ∈ own, criterion.name = "") ↔
      ∃ first last, Text.splitSpaces value = ["range", first, last] ∧ (first = "" ∨ last = "") := by
  obtain ⟨_, tagRead, ⟨absent, _⟩ | ⟨_, type, names, present, _, _, namesOk, rfl⟩⟩ :=
    criteriaOf_eq_ok step
  · cases searched.tagRead.symm.trans tagRead
    cases searched.searched.symm.trans absent
  · cases searched.tagRead.symm.trans tagRead
    cases searched.searched.symm.trans present
    have asked := criterionNames_eq_ok_iff.mp namesOk
    generalize Text.splitSpaces value = parts at asked
    cases asked with
    | own => simp [searched.named]
    | bounds => simp
    | named first last => simp

end IsSearched

end FieldPlace

end Criteria

open Criteria in
/-- A range is answered by the parts of its value behind `range`, which are its words when no part
is empty.  With a space in front it is refused as an unknown search.  Only an empty part becomes an
empty name, and a relation that is not there is reported whatever the value is. -/
theorem range_read_by_parts (place : FieldPlace) {tag : FieldTag} {value type : String}
    (searched : place.IsSearched tag value type) :
    (place.IsRelated tag → ∀ names, Text.words value = "range" :: names →
      ((∃ parts, Text.splitSpaces value = "" :: parts) ∧
          place.Refuses (.unknownSearch place.field.name value) ∨
        ∃ parts, Text.splitSpaces value = "range" :: parts ∧ parts.filter (· ≠ "") = names ∧
          place.AnswersRange tag type parts) ∧
      ("" ∉ Text.splitSpaces value → place.AnswersRange tag type names)) ∧
    (¬ place.IsRelated tag → ∃ fault,
      (fault = .noRelations place.field.name ∨
        fault = .noRelation place.field.name (tag.value "rel")) ∧
        place.Refuses fault) ∧
    ∀ own, place.criteriaAt place.field = .ok own →
      ((∃ criterion ∈ own, criterion.name = "") ↔
        ∃ first last, Text.splitSpaces value = ["range", first, last] ∧
          (first = "" ∨ last = "")) := by
  refine ⟨fun related names read => ⟨?_, fun single => ?_⟩, searched.exists_refuses_of_unrelated,
    fun own step => searched.exists_unnamed_iff step⟩
  · rcases Text.exists_splitSpaces_of_words read with ⟨parts, split⟩ | ⟨parts, split, kept⟩
    · cases parts with
      | nil =>
          rw [Text.words, split] at read
          cases read
      | cons part parts => exact .inl ⟨⟨_, split⟩, searched.refuses_of_space related split⟩
    · exact .inr ⟨parts, split, kept, searched.answersRange related split⟩
  · have whole : Text.words value = Text.splitSpaces value :=
      List.filter_eq_self.mpr fun part member => decide_eq_true (ne_of_mem_of_not_mem member single)
    exact searched.answersRange related (whole.symm.trans read)

open Criteria in
/-- Two names behind a pointer's range, between a field that is not searched and one with a space
too many: the first gives its two names, and the last an empty one. -/
theorem range_read_by_parts_between :
    let note : Field := ⟨"Note", .basic .string, "", false⟩
    let price : Field :=
      ⟨"Price", .pointer (.basic .int64), "repogen:\"search:'range Min Max'\"", false⟩
    let age : Field := ⟨"Age", .basic .int, "repogen:\"search:'range Oldest '\"", false⟩
    let widget : TypeDecl := ⟨"Widget", ⟨"shop.go", 3, 6⟩, .struct [note, price, age]⟩
    let package : Package :=
      ⟨"shop", "example.com/shop", [⟨"shop.go", [⟨[⟨"//repogen:search", 2⟩]⟩]⟩], [widget]⟩
    FieldPlace.Gives ⟨package, widget, [note], price, [age]⟩
        [⟨"Min", "omitnull.Val[int64]", ""⟩, ⟨"Max", "omitnull.Val[int64]", ""⟩] ∧
      ∃ own, FieldPlace.Gives ⟨package, widget, [note, price], age, []⟩ own ∧
        ∃ criterion ∈ own, criterion.name = "" := by
  intro note price age widget package
  have annotated : widget ∈ package.annotated target :=
    List.mem_filter.mpr ⟨List.mem_cons_self, by decide +kernel⟩
  have priced : FieldPlace.IsSearched ⟨package, widget, [note], price, [age]⟩
      ⟨[("search", "range Min Max")]⟩ "range Min Max" "omitnull.Val[int64]" :=
    ⟨annotated, rfl, by decide +kernel, rfl, by decide,
      optionType?_eq_some_iff.mp (by decide +kernel)⟩
  have aged : FieldPlace.IsSearched ⟨package, widget, [note, price], age, []⟩
      ⟨[("search", "range Oldest ")]⟩ "range Oldest " "omit.Val[int]" :=
    ⟨annotated, rfl, by decide +kernel, rfl, by decide,
      optionType?_eq_some_iff.mp (by decide +kernel)⟩
  obtain ⟨answered, _⟩ := range_read_by_parts _ priced
  obtain ⟨spaced, _, unnamed⟩ := range_read_by_parts _ aged
  refine ⟨(answered (fun related => absurd rfl related) ["Min", "Max"] (by decide +kernel)).2
    (by decide +kernel), ?_⟩
  have whole : Text.splitSpaces "range Oldest " = ["range", "Oldest", ""] := by decide +kernel
  rcases (spaced (fun related => absurd rfl related) ["Oldest"] (by decide +kernel)).1
    with ⟨⟨parts, split⟩, _⟩ | ⟨parts, split, _, given⟩
  · exact absurd (List.cons.inj (whole.symm.trans split)).1 (by decide)
  · obtain rfl := (List.cons.inj (whole.symm.trans split)).2
    exact ⟨_, given, (unnamed _ given.step).mpr ⟨"Oldest", "", whole, .inr rfl⟩⟩

open Criteria in
/-- Two spaces behind `range` make an empty name of the bound in front of the one that is given,
where the words of the value are a range with a single name. -/
theorem spaced_range_unnamed :
    let age : Field := ⟨"Age", .basic .int, "repogen:\"search:'range  Min'\"", false⟩
    let widget : TypeDecl := ⟨"Widget", ⟨"shop.go", 3, 6⟩, .struct [age]⟩
    let package : Package :=
      ⟨"shop", "example.com/shop", [⟨"shop.go", [⟨[⟨"//repogen:search", 2⟩]⟩]⟩], [widget]⟩
    Text.words "range  Min" = ["range", "Min"] ∧
      Criteria.build package =
        .ok ⟨"shop",
          [⟨"WidgetSearchData", [⟨"", "omit.Val[int]", ""⟩, ⟨"Min", "omit.Val[int]", ""⟩]⟩]⟩ ∧
      ¬ ∀ (place : FieldPlace) tag value type names, place.IsSearched tag value type →
        place.IsRelated tag →
        Text.words value = "range" :: names → place.AnswersRange tag type names := by
  intro age widget package
  have read : Text.words "range  Min" = ["range", "Min"] := by decide +kernel
  have built : Criteria.build package = .ok ⟨"shop", [⟨"WidgetSearchData",
      [⟨"", "omit.Val[int]", ""⟩, ⟨"Min", "omit.Val[int]", ""⟩]⟩]⟩ := by decide +kernel
  have annotated : widget ∈ package.annotated target :=
    List.mem_filter.mpr ⟨List.mem_cons_self, by decide +kernel⟩
  have searched : FieldPlace.IsSearched ⟨package, widget, [], age, []⟩
      ⟨[("search", "range  Min")]⟩ "range  Min" "omit.Val[int]" :=
    ⟨annotated, rfl, by decide +kernel, rfl, by decide,
      optionType?_eq_some_iff.mp (by decide +kernel)⟩
  refine ⟨read, built, fun byWords => ?_⟩
  have refused : FieldPlace.Refuses _ _ :=
    byWords _ _ _ _ _ searched (fun related => absurd rfl related) read
  obtain ⟨diagnostic, failed⟩ := refused.unbuilt
  cases built.symm.trans failed

end Scaffold
