import Scaffold.Proofs.Model.Operations

/-!
# What the directives of a repository decide

The attributes of a repository are settled by its directives one by one: the last directive that
sets an attribute counts, and what no directive sets is named after the declaration or read off the
record (`attributes_of_directives`).  So two neighbours that set different attributes may change
places.
-/

set_option autoImplicit false

namespace Scaffold

open Checked

def Directive.hasTopic (topics : List String) (d : Directive) : Bool := d.topic ∈ topics

namespace Repository

variable {subject : Subject} {entry next last : Interface} {directives : List Directive}

/-- The arguments of the last directive with one of the topics. -/
def lastArgs? (topics : List String) (directives : List Directive) : Option String :=
  (directives.filter (·.hasTopic topics)).getLast?.map (·.args)

def extraLines (directives : List Directive) : List String :=
  (directives.filter (·.hasTopic ["extra"])).map (·.args)

/-! ## One directive and all of them -/

theorem applyDirective_eq {d : Directive} (applied : applyDirective subject entry d = .ok next) :
    next = { entry with
      operations := next.operations
      repository := if d.hasTopic ["repository"] then d.args else entry.repository
      searchType := if d.hasTopic ["search"] then d.args else entry.searchType
      plural := if d.hasTopic ["plural"] then d.args else entry.plural
      createdBy := if d.hasTopic ["*by", "createdby"] then d.args else entry.createdBy
      updatedBy := if d.hasTopic ["*by", "updatedby"] then d.args else entry.updatedBy
      deletedBy := if d.hasTopic ["*by", "deletedby"] then d.args else entry.deletedBy
      extra := if d.hasTopic ["extra"] then entry.extra ++ [d.args] else entry.extra } := by
  unfold applyDirective at applied
  split at applied
  case h_1 bare =>
    obtain ⟨operations, _, applied⟩ := bind_eq_ok.mp applied
    obtain rfl := Except.ok.inj applied
    simp [Directive.hasTopic, bare]
  case h_10 => cases applied
  all_goals
    next topic =>
      obtain rfl := Except.ok.inj applied
      simp [Directive.hasTopic, topic]

/-- An interface with each attribute as the last directive for it has it. -/
def Interface.settled (entry : Interface) (directives : List Directive) (operations : Operations) :
    Interface :=
  { entry with
    operations
    repository := (lastArgs? ["repository"] directives).getD entry.repository
    searchType := (lastArgs? ["search"] directives).getD entry.searchType
    plural := (lastArgs? ["plural"] directives).getD entry.plural
    createdBy := (lastArgs? ["*by", "createdby"] directives).getD entry.createdBy
    updatedBy := (lastArgs? ["*by", "updatedby"] directives).getD entry.updatedBy
    deletedBy := (lastArgs? ["*by", "deletedby"] directives).getD entry.deletedBy
    extra := entry.extra ++ extraLines directives }

theorem settled_of_foldlM (folded : directives.foldlM (applyDirective subject) entry = .ok last) :
    last = entry.settled directives last.operations := by
  have decides (view : Interface → String) (topics : List String)
      (step : ∀ state d next, applyDirective subject state d = .ok next →
        view next = if d.hasTopic topics then d.args else view state) :
      view last = (lastArgs? topics directives).getD (view entry) :=
    foldlM_overwrites view (Directive.hasTopic topics) Directive.args step folded
  have repository := decides (·.repository) ["repository"] fun _ _ _ applied =>
    congrArg Interface.repository (applyDirective_eq applied)
  have searchType := decides (·.searchType) ["search"] fun _ _ _ applied =>
    congrArg Interface.searchType (applyDirective_eq applied)
  have plural := decides (·.plural) ["plural"] fun _ _ _ applied =>
    congrArg Interface.plural (applyDirective_eq applied)
  have createdBy := decides (·.createdBy) ["*by", "createdby"] fun _ _ _ applied =>
    congrArg Interface.createdBy (applyDirective_eq applied)
  have updatedBy := decides (·.updatedBy) ["*by", "updatedby"] fun _ _ _ applied =>
    congrArg Interface.updatedBy (applyDirective_eq applied)
  have deletedBy := decides (·.deletedBy) ["*by", "deletedby"] fun _ _ _ applied =>
    congrArg Interface.deletedBy (applyDirective_eq applied)
  have extra := foldlM_collects Interface.extra (Directive.hasTopic ["extra"]) Directive.args
    (fun _ _ _ applied => congrArg Interface.extra (applyDirective_eq applied)) folded
  have others := foldlM_keeps (fun entry : Interface => (entry.singular, entry.keys))
    (fun _ _ _ applied => by rw [applyDirective_eq applied]) folded
  obtain ⟨singular, keys⟩ := Prod.mk.inj others
  rw [Interface.settled, extraLines, ← repository, ← searchType, ← plural, ← createdBy, ← updatedBy,
    ← deletedBy, ← extra, ← singular, ← keys]

/-! ## Who acts -/

/-- Who acts: what directives give unless that is empty, else what the field of a given name is
tagged with or printed as, else nobody. -/
inductive ActsAs (viewer : String) (record : List Field) (fieldName : String)
    (given : Option String) :
    String → Prop where
  | given {type : String} (isGiven : given = some type) (nonempty : type ≠ "") :
      ActsAs viewer record fieldName given type
  | tagged {field : Field} {tag : FieldTag} (left : given.getD "" = "")
      (found : findField? record fieldName = some field)
      (read : FieldTag.ofComposite field.tag = some tag)
      (unrelated : tag.value "unrel" ≠ "") :
        ActsAs viewer record fieldName given (tag.value "unrel")
  | typed {field : Field} {tag : FieldTag} {type : String} (left : given.getD "" = "")
      (found : findField? record fieldName = some field)
      (read : FieldTag.ofComposite field.tag = some tag)
      (related : tag.value "unrel" = "") (printed : field.type.print? viewer = some type) :
      ActsAs viewer record fieldName given type
  | nobody (left : given.getD "" = "") (absent : findField? record fieldName = none) :
      ActsAs viewer record fieldName given ""

theorem actsAs_of_actorType {viewer fieldName type : String} {record : List Field}
    {given : Option String}
    (ok : actorType subject viewer record (given.getD "") fieldName = .ok type) :
    ActsAs viewer record fieldName given type := by
  unfold actorType at ok
  split at ok
  next nonempty =>
    obtain rfl := Except.ok.inj ok
    cases given with
    | none => exact absurd rfl nonempty
    | some type => exact .given rfl nonempty
  next empty =>
    have left := Decidable.not_not.mp empty
    split at ok
    next absent =>
      obtain rfl := Except.ok.inj ok
      exact .nobody left absent
    next field found =>
      obtain ⟨tag, tagOk, ok⟩ := bind_eq_ok.mp ok
      have read := Subject.tagOf_eq_ok.mp tagOk
      split at ok
      next unrelated =>
        obtain rfl := Except.ok.inj ok
        exact .tagged left found read unrelated
      next related =>
        exact .typed left found read (Decidable.not_not.mp related) (Subject.expect_eq_ok.mp ok)

/-! ## Directives that change places -/

inductive Attribute where
  | operation (op : Operation)
  | repository
  | searchType
  | plural
  | createdBy
  | updatedBy
  | deletedBy
  | extra

end Repository

/-- A directive for repositories, or a stand-alone one for the plural, sets an attribute. -/
def Directive.Sets (d : Directive) : Repository.Attribute → Prop
  | .operation op => d.target = Repository.target ∧ d.Enables op
  | .repository => d.target = Repository.target ∧ d.hasTopic ["repository"] = true
  | .searchType => d.target = Repository.target ∧ d.hasTopic ["search"] = true
  | .plural => d.target = Repository.target ∧ d.hasTopic ["plural"] = true ∨ d.target = "plural"
  | .createdBy => d.target = Repository.target ∧ d.hasTopic ["*by", "createdby"] = true
  | .updatedBy => d.target = Repository.target ∧ d.hasTopic ["*by", "updatedby"] = true
  | .deletedBy => d.target = Repository.target ∧ d.hasTopic ["*by", "deletedby"] = true
  | .extra => d.target = Repository.target ∧ d.hasTopic ["extra"] = true

/-- The directives above a position that the repository of the declaration there is made of. -/
def Package.repositoryDirectives (package : Package) (pos : Position) : List Directive :=
  match package.blockAbove? pos with
  | some block =>
    (block.comments.filterMap (Directive.parse ·.text)).filter
      (·.target ∈ [Repository.target, "plural"])
  | none => []

theorem Package.directivesAbove_eq_filter {package : Package} {pos : Position} {target : String}
    (read : target ∈ [Repository.target, "plural"]) :
    package.directivesAbove pos target =
      (package.repositoryDirectives pos).filter (·.target = target) := by
  unfold directivesAbove repositoryDirectives
  cases package.blockAbove? pos with
  | none => rfl
  | some block =>
      rw [List.filter_filter]
      refine List.filter_congr fun d _ => ?_
      by_cases own : d.target = target
      · simp [own, read]
      · simp [own]

theorem filter_exchange {α : Type} {chosen : α → Bool} {front behind : List α} {first second : α}
    (apart : ¬ (chosen first = true ∧ chosen second = true)) :
    (front ++ second :: first :: behind).filter chosen =
      (front ++ first :: second :: behind).filter chosen := by
  rw [List.filter_append, List.filter_append]
  cases isFirst : chosen first with
  | false => simp [List.filter_cons, isFirst]
  | true =>
      have notSecond : chosen second = false :=
        Bool.eq_false_iff.mpr fun isSecond => apart ⟨isFirst, isSecond⟩
      simp [isFirst, notSecond]

namespace Repository

variable {subject : Subject} {package : Package} {files : List SourceFile} {decl : TypeDecl}
  {entry : Interface} {front behind : List Directive} {first second : Directive}

theorem Operations.eq_of_has {ops others : Operations}
    (same : ∀ op, ops.has op = true ↔ others.has op = true) : ops = others := by
  have flag (op : Operation) : ops.has op = others.has op := Bool.eq_iff_iff.mpr (same op)
  obtain ⟨create, get, search, edit, delete⟩ := ops
  obtain ⟨create', get', search', edit', delete'⟩ := others
  have both := And.intro (flag .create) (And.intro (flag .get) (And.intro (flag .search)
    (And.intro (flag .edit) (flag .delete))))
  simpa [has] using both

theorem exists_enableAll {ops next others : Operations} {d : Directive}
    (enabled : enableAll subject ops d = .ok next) :
    ∃ after, enableAll subject others d = .ok after := by
  unfold enableAll at enabled ⊢
  split at enabled
  next empty => exact ⟨.all, if_pos empty⟩
  next given =>
    rw [if_neg given]
    refine exists_foldlM_eq_ok_of_subset (fun state word after other step => ?_) enabled
      (fun _ => id) others
    split at step
    next op _ => exact ⟨other.enable op, rfl⟩
    next => cases step

theorem exists_applyDirective {next other : Interface} {d : Directive}
    (applied : applyDirective subject entry d = .ok next) :
    ∃ after, applyDirective subject other d = .ok after := by
  unfold applyDirective at applied ⊢
  split at applied
  case h_1 =>
    obtain ⟨operations, enabled, _⟩ := bind_eq_ok.mp applied
    obtain ⟨after, enabled⟩ : ∃ after, enableAll subject other.operations d = .ok after :=
      exists_enableAll enabled
    exact ⟨_, bind_eq_ok.mpr ⟨after, enabled, rfl⟩⟩
  case h_10 => cases applied
  all_goals exact ⟨_, rfl⟩

/-- Directives that settle each attribute alike make the same of an interface. -/
theorem foldlM_of_settled {directives others : List Directive} {start last : Interface}
    (folded : directives.foldlM (applyDirective subject) start = .ok last)
    (members : ∀ d, d ∈ others ↔ d ∈ directives)
    (settled : ∀ operations, start.settled others operations =
      start.settled directives operations) :
    others.foldlM (applyDirective subject) start = .ok last := by
  have independent (state : Interface) (d : Directive) (next other : Interface)
      (applied : applyDirective subject state d = .ok next) :
      ∃ after, applyDirective subject other d = .ok after := exists_applyDirective applied
  have subset (d : Directive) : d ∈ others → d ∈ directives := (members d).mp
  obtain ⟨after, afterFolded⟩ := exists_foldlM_eq_ok_of_subset independent folded subset start
  have operations : after.operations = last.operations := by
    refine Operations.eq_of_has fun op => ?_
    rw [has_of_foldlM afterFolded, has_of_foldlM folded]
    simp only [members]
  rw [afterFolded, settled_of_foldlM afterFolded, operations, settled, ← settled_of_foldlM folded]

theorem entityAt_of_exchange (built : package.entityAt target interfaceOf decl = .ok entry)
    (before : package.repositoryDirectives decl.pos = front ++ first :: second :: behind)
    (after : (package.withFiles files).repositoryDirectives decl.pos = front ++
      second :: first :: behind)
    (apart : ∀ part, ¬ (first.Sets part ∧ second.Sets part)) :
    (package.withFiles files).entityAt target interfaceOf decl = .ok entry := by
  have kept {chosen : Directive → Bool} (notBoth : ¬ (chosen first = true ∧ chosen second = true)) :
      ((package.withFiles files).repositoryDirectives decl.pos).filter chosen =
        (package.repositoryDirectives decl.pos).filter chosen := by
    rw [before, after]
    exact filter_exchange notBoth
  have own (package : Package) : package.directivesAbove decl.pos target =
      (package.repositoryDirectives decl.pos).filter (·.target = target) :=
    Package.directivesAbove_eq_filter (by simp)
  have plurals : (package.withFiles files).directivesAbove decl.pos "plural" =
      package.directivesAbove decl.pos "plural" := by
    rw [Package.directivesAbove_eq_filter (by simp), Package.directivesAbove_eq_filter (by simp)]
    refine kept fun both => apart .plural ⟨.inr ?_, .inr ?_⟩
    · simpa using both.1
    · simpa using both.2
  have members (d : Directive) : d ∈ (package.withFiles files).directivesAbove decl.pos target ↔
      d ∈ package.directivesAbove decl.pos target := by
    rw [own, own, before, after]
    simp only [List.mem_filter, List.mem_append, List.mem_cons]
    rw [or_left_comm (a := d = second)]
  have sameTopics {topics : List String}
      (notBoth : ¬ ((first.target = target ∧ first.hasTopic topics = true) ∧
        second.target = target ∧ second.hasTopic topics = true)) :
      ((package.withFiles files).directivesAbove decl.pos target).filter (·.hasTopic topics) =
        (package.directivesAbove decl.pos target).filter (·.hasTopic topics) := by
    rw [own, own, List.filter_filter, List.filter_filter]
    refine kept fun both => notBoth ⟨?_, ?_⟩
    · simpa [and_comm] using both.1
    · simpa [and_comm] using both.2
  have settled (start : Interface) (operations : Operations) :
      start.settled ((package.withFiles files).directivesAbove decl.pos target) operations =
        start.settled (package.directivesAbove decl.pos target) operations := by
    have plural := @sameTopics ["plural"] fun both => apart .plural ⟨.inl both.1, .inl both.2⟩
    simp only [Interface.settled, lastArgs?, extraLines, plural, sameTopics (apart .repository),
      sameTopics (apart .searchType), sameTopics (apart .createdBy), sameTopics (apart .updatedBy),
      sameTopics (apart .deletedBy), sameTopics (apart .extra)]
  obtain ⟨_, extra, _, _, folded, _⟩ := interfaceOf_eq_ok built
  have refolded := foldlM_of_settled folded members (settled _)
  unfold Package.entityAt at built ⊢
  rw [interfaceOf_withFiles _ plurals, ← built]
  unfold interfaceOf
  dsimp only
  rw [refolded, folded]

end Repository

/-- Every attribute of a repository comes from the last directive that sets it.  What none sets is
named after the declaration; who acts, when no directive says so, is read off the record.
Directives that have no attribute in common may change places with their neighbours. -/
theorem attributes_of_directives {package : Package} {model : Repository.Model}
    (built : Repository.build package = .ok model) :
    List.Forall₂ (fun decl entry =>
        let directives := package.directivesAbove decl.pos Repository.target
        let plurals := package.directivesAbove decl.pos "plural"
        entry.repository =
          (Repository.lastArgs? ["repository"] directives).getD (decl.name ++ "Repository") ∧
        entry.searchType =
          (Repository.lastArgs? ["search"] directives).getD (decl.name ++ "SearchData") ∧
        entry.plural =
          ((Repository.lastArgs? ["plural"] directives).or (plurals.getLast?.map (·.args))).getD
          (decl.name ++ "s") ∧
        entry.extra = (directives.filter (·.hasTopic ["extra"])).map (·.args) ∧
        (∃ record, package.baseType decl.type = .struct record ∧
          Repository.ActsAs package.path record "CreatedBy"
            (Repository.lastArgs? ["*by", "createdby"] directives) entry.createdBy ∧
          Repository.ActsAs package.path record "UpdatedBy"
            (Repository.lastArgs? ["*by", "updatedby"] directives) entry.updatedBy ∧
          Repository.ActsAs package.path record "DeletedBy"
            (Repository.lastArgs? ["*by", "deletedby"] directives) entry.deletedBy) ∧
        ∀ files front first second behind,
          package.repositoryDirectives decl.pos = front ++ first :: second :: behind →
          (package.withFiles files).repositoryDirectives decl.pos =
            front ++ second :: first :: behind →
          (∀ part, ¬ (first.Sets part ∧ second.Sets part)) →
          (package.withFiles files).entityAt Repository.target Repository.interfaceOf decl =
            .ok entry)
      (package.annotated Repository.target) model.interfaces := by
  have contract := Repository.keepsContract.entity_of_each (map_eq_ok.mpr ⟨model, built, rfl⟩)
  refine contract.imp fun decl entry ⟨made, _⟩ => ?_
  intro directives plurals
  obtain ⟨record, extra, keys, resolved, folded, _, _, ⟨createdBy, updatedBy, deletedBy⟩, same⟩ :=
    Repository.interfaceOf_eq_ok made
  rw [Repository.settled_of_foldlM folded] at same createdBy updatedBy deletedBy
  have plural : Repository.pluralOf (.ofPackage package) decl =
      (plurals.getLast?.map (·.args)).getD (decl.name ++ "s") := by
    unfold Repository.pluralOf DirectiveIndex.directives
    rw [DirectiveIndex.directivesAt_ofPackage]
    cases (package.directivesAbove decl.pos "plural").getLast? <;> rfl
  refine ⟨?_, ?_, ?_, ?_, ⟨record, resolved, ?_, ?_, ?_⟩, ?_⟩
  · rw [same]
    rfl
  · rw [same]
    rfl
  · rw [same, Option.getD_or, ← plural]
    rfl
  · rw [same]
    rfl
  · exact Repository.actsAs_of_actorType createdBy
  · exact Repository.actsAs_of_actorType updatedBy
  · exact Repository.actsAs_of_actorType deletedBy
  · intro files front first second behind before after apart
    exact Repository.entityAt_of_exchange made before after apart

/-- The empty directive for who updates leaves that to the record, and the plural may be set in
front of it. -/
theorem attributes_of_directives_moved :
    let widget : TypeDecl := ⟨"Widget", ⟨"shop.go", 5, 6⟩, .struct
      [⟨"ID", .basic .int64, "repogen:\"pk\"", false⟩,
        ⟨"UpdatedBy", .basic .string, "repogen:\"unrel:'Editor'\"", false⟩]⟩
    let package (second third : String) : Package := ⟨"shop", "example.com/shop",
      [⟨"shop.go", [⟨[⟨"//repogen:crud:*by User", 2⟩, ⟨second, 3⟩, ⟨third, 4⟩]⟩]⟩], [widget]⟩
    let entry : Repository.Interface :=
      ⟨"WidgetRepository", "Widget", "Widgetz", .none, "User", "Editor", "User",
      [], "WidgetSearchData", [⟨"id", "int64"⟩]⟩
    Repository.build (package "//repogen:crud:updatedby" "//repogen:crud:plural Widgetz") =
        .ok ⟨"shop", [entry], [], []⟩ ∧
      entry.plural = "Widgetz" ∧
      (package "//repogen:crud:plural Widgetz" "//repogen:crud:updatedby").entityAt
        Repository.target
        Repository.interfaceOf widget = .ok entry := by
  intro widget package entry
  let before := package "//repogen:crud:updatedby" "//repogen:crud:plural Widgetz"
  let after := package "//repogen:crud:plural Widgetz" "//repogen:crud:updatedby"
  have built : Repository.build before = .ok ⟨"shop", [entry], [], []⟩ := by decide +kernel
  have directives : before.repositoryDirectives widget.pos =
      [⟨"crud", "*by", "User"⟩] ++ ⟨"crud", "updatedby", ""⟩ ::
        ⟨"crud", "plural", "Widgetz"⟩ :: [] := by
    decide +kernel
  have moved : (before.withFiles after.files).repositoryDirectives widget.pos =
      [⟨"crud", "*by", "User"⟩] ++ ⟨"crud", "plural", "Widgetz"⟩ ::
        ⟨"crud", "updatedby", ""⟩ :: [] := by
    decide +kernel
  have last : Repository.lastArgs? ["plural"]
      (before.directivesAbove widget.pos Repository.target) =
      some "Widgetz" := by decide +kernel
  have annotated : before.annotated Repository.target = [widget] := rfl
  have each := attributes_of_directives built
  rw [annotated] at each
  obtain ⟨_, _, plural, _, _, exchange⟩ := (List.forall₂_cons.mp each).1
  rw [last] at plural
  refine ⟨built, plural, exchange after.files _ _ _ _ directives moved fun part both => ?_⟩
  cases part <;> simp [Directive.Sets, Directive.Enables, Directive.hasTopic, Directive.isPrimary,
    Repository.target] at both

end Scaffold
