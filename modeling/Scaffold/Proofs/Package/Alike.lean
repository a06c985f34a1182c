import Mathlib.Data.List.Forall2
import Scaffold.Proofs.Package.Comments

/-!
# Packages that differ in the comments of others

Two packages are alike for some targets when they differ in the text of comments only, and the
comments that differ are directives for none of these targets.  Then they have the same directives
for each of the targets, above every position (`Package.AlikeFor.directivesAbove`) and anywhere
(`Package.AlikeFor.directives`).
-/

set_option autoImplicit false

namespace Scaffold

/-! ## Lists member by member -/

section Related
variable {α β γ : Type} {R : α → β → Prop} {items : List α} {others : List β}

theorem filterMap_eq_of_forall₂ {f : α → Option γ} {g : β → Option γ}
    (related : List.Forall₂ R items others) (same : ∀ item other, R item other → f item = g other) :
    items.filterMap f = others.filterMap g := by
  rw [← List.forall₂_eq_eq_eq]
  refine List.rel_filterMap (fun item other both => ?_) related
  rw [same item other both]
  cases g other with
  | none => exact .none
  | some value => exact .some rfl

/-- What is found first in both lists is related, or nothing is found in either. -/
theorem find?_forall₂ {p : α → Bool} {q : β → Bool} (related : List.Forall₂ R items others)
    (same : ∀ item other, R item other → p item = q other) :
    items.find? p = none ∧ others.find? q = none ∨
      ∃ item other, items.find? p = some item ∧ others.find? q = some other ∧ R item other := by
  induction related with
  | nil => exact .inl ⟨rfl, rfl⟩
  | @cons item other _ _ first _ ih =>
      rw [List.find?_cons, List.find?_cons, same item other first]
      cases q other with
      | true => exact .inr ⟨item, other, rfl, rfl, first⟩
      | false => exact ih

end Related

/-! ## Alike comments -/

def Comment.Addresses (comment : Comment) (targets : List String) : Prop :=
  ∃ d, Directive.parse comment.text = some d ∧ d.target ∈ targets

instance (comment : Comment) (targets : List String) : Decidable (comment.Addresses targets) :=
  decidable_of_iff ((Directive.parse comment.text).any fun d => d.target ∈ targets) (by
    rw [Option.any_eq_true]
    simp [Comment.Addresses])

/-- The directive for a target that a comment is, if it is one. -/
def Comment.directive? (comment : Comment) (target : String) : Option Directive :=
  (Directive.parse comment.text).filter (·.target = target)

/-- The directive with a target and a topic that a comment in a file is, and where it stands. -/
def Comment.located? (comment : Comment) (path target topic : String) :
    Option (Position × Directive) :=
  ((comment.directive? target).filter (·.topic = topic)).map (⟨path, comment.line, 1⟩, ·)

/-- Both comments stand on one line and have one text, unless neither is a directive for a
target. -/
structure Comment.AlikeFor (targets : List String) (first second : Comment) : Prop where
  line : first.line = second.line
  text : first.text = second.text ∨ ¬ first.Addresses targets ∧ ¬ second.Addresses targets

def CommentGroup.AlikeFor (targets : List String) (first second : CommentGroup) : Prop :=
  List.Forall₂ (Comment.AlikeFor targets) first.comments second.comments

structure SourceFile.AlikeFor (targets : List String) (first second : SourceFile) : Prop where
  path : first.path = second.path
  groups : List.Forall₂ (CommentGroup.AlikeFor targets) first.comments second.comments

/-- Both packages are the same but for the text of comments that are no directives for the
targets. -/
structure Package.AlikeFor (targets : List String) (first second : Package) : Prop where
  name : first.name = second.name
  path : first.path = second.path
  decls : first.decls = second.decls
  files : List.Forall₂ (SourceFile.AlikeFor targets) first.files second.files

variable {targets : List String} {target : String}

namespace Comment

variable {comment first second : Comment}

theorem directive?_of_not_addresses (unread : ¬ comment.Addresses targets)
    (read : target ∈ targets) :
    comment.directive? target = none := by
  unfold directive?
  rw [Option.filter_eq_none_iff]
  intro d parsed addressed
  rw [decide_eq_true_eq] at addressed
  exact unread ⟨d, parsed, addressed ▸ read⟩

theorem AlikeFor.directive? (alike : AlikeFor targets first second) (read : target ∈ targets) :
    first.directive? target = second.directive? target := by
  rcases alike.text with same | ⟨firstUnread, secondUnread⟩
  · unfold Comment.directive?
    rw [same]
  · rw [directive?_of_not_addresses firstUnread read, directive?_of_not_addresses secondUnread read]

end Comment

namespace CommentGroup

variable {first second : CommentGroup}

def directives (group : CommentGroup) (target : String) : List Directive :=
  group.comments.filterMap (·.directive? target)

theorem endsAbove_eq (group : CommentGroup) (line : UInt32) :
    group.endsAbove line =
      ((group.comments.map (·.line)).getLast?.any fun last => last.toNat + 1 = line.toNat) := by
  unfold endsAbove
  rw [List.getLast?_map]
  cases group.comments.getLast? <;> rfl

theorem AlikeFor.endsAbove (alike : AlikeFor targets first second) (line : UInt32) :
    first.endsAbove line = second.endsAbove line := by
  have lines : List.Forall₂ Eq (first.comments.map (·.line)) (second.comments.map (·.line)) :=
    List.rel_map (fun _ _ comments => comments.line) alike
  rw [List.forall₂_eq_eq_eq] at lines
  rw [endsAbove_eq, endsAbove_eq, lines]

theorem AlikeFor.directives (alike : AlikeFor targets first second) (read : target ∈ targets) :
    first.directives target = second.directives target :=
  filterMap_eq_of_forall₂ alike fun _ _ comments => comments.directive? read

end CommentGroup

/-! ## Alike packages -/

section Files
variable {first second : SourceFile} {files others : List SourceFile}

theorem SourceFile.directives_eq (file : SourceFile) (target topic : String) :
    file.directives target topic =
      (file.comments.flatMap (·.comments)).filterMap (·.located? file.path target topic) := by
  unfold SourceFile.directives Comment.located? Comment.directive?
  refine congrArg (List.filterMap · _) (funext fun comment => ?_)
  cases Directive.parse comment.text with
  | none => rfl
  | some d =>
      by_cases addressed : d.target = target
      · by_cases same : d.topic = topic <;> simp [addressed, same, Option.filter]
      · simp [addressed, Option.filter]

theorem SourceFile.AlikeFor.directives (alike : SourceFile.AlikeFor targets first second)
    (read : target ∈ targets) (topic : String) :
    first.directives target topic = second.directives target topic := by
  have comments : List.Forall₂ (Comment.AlikeFor targets) (first.comments.flatMap (·.comments))
      (second.comments.flatMap (·.comments)) :=
    List.rel_flatMap alike.groups fun _ _ groups => groups
  rw [directives_eq, directives_eq, ← alike.path]
  refine filterMap_eq_of_forall₂ comments fun comment other pair => ?_
  rw [Comment.located?, Comment.located?, pair.directive? read, pair.line]

theorem groups_alike (alike : List.Forall₂ (SourceFile.AlikeFor targets) files others)
    (path : String) :
    List.Forall₂ (CommentGroup.AlikeFor targets)
      ((files.filter (·.path = path)).flatMap (·.comments))
      ((others.filter (·.path = path)).flatMap (·.comments)) := by
  induction alike with
  | nil => exact .nil
  | cons head _ ih =>
      rw [List.filter_cons, List.filter_cons, head.path]
      split
      · exact List.rel_append head.groups ih
      · exact ih

end Files

namespace Package

theorem directivesAbove_eq (package : Package) (pos : Position) (target : String) :
    package.directivesAbove pos target =
      ((package.blockAbove? pos).map (·.directives target)).getD [] := by
  unfold directivesAbove
  cases package.blockAbove? pos with
  | none => rfl
  | some block => exact List.filter_filterMap ..

namespace AlikeFor

variable {first second : Package}

theorem eq_withFiles (alike : first.AlikeFor targets second) :
    second = first.withFiles second.files := by
  obtain ⟨name, path, files, decls⟩ := second
  obtain ⟨rfl, rfl, rfl, _⟩ := alike
  rfl

theorem directivesAbove (alike : AlikeFor targets first second) (read : target ∈ targets)
    (pos : Position) : first.directivesAbove pos target = second.directivesAbove pos target := by
  rw [directivesAbove_eq, directivesAbove_eq, blockAbove?, blockAbove?]
  rcases find?_forall₂ (groups_alike alike.files pos.file)
      fun _ _ group => group.endsAbove pos.line with
    ⟨firstMissing, secondMissing⟩ | ⟨firstBlock, secondBlock, firstFound, secondFound, block⟩
  · rw [firstMissing, secondMissing]
  · rw [firstFound, secondFound, Option.map_some, Option.map_some, block.directives read]

theorem keepsAbove (alike : AlikeFor targets first second) :
    first.KeepsAbove second.files targets := by
  intro decl _ target read
  rw [← alike.eq_withFiles, alike.directivesAbove read]

theorem directives (alike : AlikeFor targets first second) (read : target ∈ targets)
    (topic : String) :
    first.directives target topic = second.directives target topic := by
  have files : List.Forall₂ Eq (first.files.map (·.directives target topic))
      (second.files.map (·.directives target topic)) :=
    List.rel_map (fun _ _ files => files.directives read topic) alike.files
  rw [List.forall₂_eq_eq_eq] at files
  unfold Package.directives
  rw [List.flatMap_def, List.flatMap_def, files]

end AlikeFor

end Package

end Scaffold
