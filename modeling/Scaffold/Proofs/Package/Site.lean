import Scaffold.Proofs.Package.Alike

/-!
# The place of one comment

A `CommentSite` is a package's comments around one comment whose text is left open.  The text
matters to the directives above a position only where the block of the site is the one right above
(`CommentSite.IsAbove`), which no text changes; to the directives anywhere in the package it adds
what the comment itself is (`CommentSite.exists_directives`).
-/

set_option autoImplicit false

namespace Scaffold

/-- What surrounds one comment in the files of a package, and the line it stands on. -/
structure CommentSite where
  filesBefore : List SourceFile
  path : String
  groupsBefore : List CommentGroup
  commentsBefore : List Comment
  line : UInt32
  commentsBehind : List Comment
  groupsBehind : List CommentGroup
  filesBehind : List SourceFile
  deriving DecidableEq, Repr, Inhabited

namespace CommentSite

variable {site : CommentSite} {package : Package} {pos : Position}

/-! ## The text at a site -/

section Text
variable (site : CommentSite) (text : String)

def comment : Comment := ⟨text, site.line⟩

def block : CommentGroup := ⟨site.commentsBefore ++ site.comment text :: site.commentsBehind⟩

def file : SourceFile := ⟨site.path, site.groupsBefore ++ site.block text :: site.groupsBehind⟩

def files : List SourceFile := site.filesBefore ++ site.file text :: site.filesBehind

end Text

/-! ## Directives above a position -/

def lastLine (site : CommentSite) : UInt32 :=
  (site.commentsBehind.getLast?.map (·.line)).getD site.line

/-- The blocks before the one of the site in files of the same path. -/
def earlierBlocks (site : CommentSite) : List CommentGroup :=
  (site.filesBefore.filter (·.path = site.path)).flatMap (·.comments) ++ site.groupsBefore

/-- The block of the site is the first that ends right above a position. -/
structure IsAbove (site : CommentSite) (pos : Position) : Prop where
  path : site.path = pos.file
  line : site.lastLine.toNat + 1 = pos.line.toNat
  first : ∀ block ∈ site.earlierBlocks, block.endsAbove pos.line = false

theorem endsAbove_block (site : CommentSite) (text : String) (line : UInt32) :
    (site.block text).endsAbove line = decide (site.lastLine.toNat + 1 = line.toNat) := by
  rw [CommentGroup.endsAbove_eq, block, lastLine]
  cases found : site.commentsBehind.getLast? with
  | none =>
      rw [List.getLast?_eq_none_iff.mp found]
      simp [comment]
  | some last =>
      simp [List.getLast?_append, List.getLast?_cons, found]

theorem flatMap_files_path (site : CommentSite) : ∃ later, ∀ text,
    ((site.files text).filter (·.path = site.path)).flatMap (·.comments) =
      site.earlierBlocks ++ site.block text :: later := by
  refine ⟨site.groupsBehind ++ (site.filesBehind.filter (·.path = site.path)).flatMap (·.comments),
    fun text => ?_⟩
  simp [files, file, earlierBlocks, List.filter_append]

theorem flatMap_files_other {path : String} (other : site.path ≠ path) (first second : String) :
    ((site.files first).filter (·.path = path)).flatMap (·.comments) =
      ((site.files second).filter (·.path = path)).flatMap (·.comments) := by
  simp [files, file, List.filter_append, other]

theorem IsAbove.blockAbove? (above : site.IsAbove pos) (package : Package) (text : String) :
    (package.withFiles (site.files text)).blockAbove? pos = some (site.block text) := by
  obtain ⟨later, blocks⟩ := site.flatMap_files_path
  have missing : site.earlierBlocks.find? (·.endsAbove pos.line) = none :=
    List.find?_eq_none.mpr fun block member => by simp [above.first block member]
  have ends : (site.block text).endsAbove pos.line = true := by
    rw [endsAbove_block, decide_eq_true above.line]
  unfold Package.blockAbove? Package.withFiles
  dsimp only
  rw [← above.path, blocks, List.find?_append, missing, List.find?_cons, ends, Option.none_or]

theorem blockAbove?_of_not_isAbove (apart : ¬ site.IsAbove pos) (package : Package)
    (first second : String) :
    (package.withFiles (site.files first)).blockAbove? pos =
      (package.withFiles (site.files second)).blockAbove? pos := by
  unfold Package.blockAbove? Package.withFiles
  dsimp only
  by_cases path : site.path = pos.file
  · obtain ⟨later, blocks⟩ := site.flatMap_files_path
    rw [← path, blocks, blocks, List.find?_append, List.find?_append]
    cases earlier : site.earlierBlocks.find? (·.endsAbove pos.line) with
    | some block => rfl
    | none =>
        have unfound := List.find?_eq_none.mp earlier
        have line : ¬ site.lastLine.toNat + 1 = pos.line.toNat := fun line =>
          apart ⟨path, line, fun block member => Bool.eq_false_iff.mpr (unfound block member)⟩
        rw [List.find?_cons, List.find?_cons, endsAbove_block, endsAbove_block,
          decide_eq_false line]
  · rw [flatMap_files_other path first second]

/-! ## Directives that a text adds -/

theorem filterMap_around {α β : Type} (f : α → Option β) (front : List α) (item : α)
    (behind : List α) :
    (front ++ item :: behind).filterMap f =
      front.filterMap f ++ ((f item).toList ++ behind.filterMap f) := by
  rw [List.filterMap_append, List.filterMap_cons]
  cases f item <;> rfl

section Added
variable (site : CommentSite) (target topic : String)

/-- In its block a text stands between the directives before and behind the site. -/
theorem exists_directives_block : ∃ front behind, ∀ text, (site.block text).directives target =
    front ++ (((site.comment text).directive? target).toList ++ behind) :=
  ⟨_, _, fun _ => filterMap_around ..⟩

/-- The comments of its file before the one at the site. -/
def commentsAhead : List Comment := site.groupsBefore.flatMap (·.comments) ++ site.commentsBefore

/-- The comments of its file behind the one at the site. -/
def commentsAfter : List Comment := site.commentsBehind ++ site.groupsBehind.flatMap (·.comments)

theorem flatMap_comments_file (text : String) :
    (site.file text).comments.flatMap (·.comments) =
      site.commentsAhead ++ site.comment text :: site.commentsAfter := by
  simp [file, block, commentsAhead, commentsAfter]

theorem directives_file (text : String) :
    (site.file text).directives target topic =
      site.commentsAhead.filterMap (·.located? site.path target topic) ++
        (((site.comment text).located? site.path target topic).toList ++
          site.commentsAfter.filterMap (·.located? site.path target topic)) := by
  rw [SourceFile.directives_eq, flatMap_comments_file, filterMap_around]
  rfl

/-- In its package a text stands between the directives before and behind the site. -/
theorem exists_directives : ∃ front behind, ∀ (package : Package) text,
    (package.withFiles (site.files text)).directives target topic =
      front ++ (((site.comment text).located? site.path target topic).toList ++ behind) := by
  refine ⟨site.filesBefore.flatMap (·.directives target topic) ++
      site.commentsAhead.filterMap (·.located? site.path target topic),
    site.commentsAfter.filterMap (·.located? site.path target topic) ++
      site.filesBehind.flatMap (·.directives target topic), fun package text => ?_⟩
  simp [Package.directives, Package.withFiles, files, directives_file]

end Added

/-- Where an old text is no directive, a new one only adds its own to the directives above. -/
theorem directivesAbove_of_isAbove {old : String} (target : String)
    (scanned : package.files = site.files old)
    (unread : (site.comment old).directive? target = none) (above : site.IsAbove pos) :
    ∃ front behind, package.directivesAbove pos target = front ++ behind ∧
      ∀ text, (package.withFiles (site.files text)).directivesAbove pos target =
        front ++ (((site.comment text).directive? target).toList ++ behind) := by
  obtain ⟨front, behind, directives⟩ := site.exists_directives_block target
  have above (text : String) : (package.withFiles (site.files text)).directivesAbove pos target =
      front ++ (((site.comment text).directive? target).toList ++ behind) := by
    rw [Package.directivesAbove_eq, above.blockAbove?, Option.map_some,
      Option.getD_some, directives]
  have before := above old
  rw [← scanned, unread] at before
  exact ⟨front, behind, before, above⟩

theorem directivesAbove_of_not_isAbove {old : String} (scanned : package.files = site.files old)
    (apart : ¬ site.IsAbove pos) (text target : String) :
    (package.withFiles (site.files text)).directivesAbove pos target =
      package.directivesAbove pos target := by
  refine Package.directivesAbove_withFiles target ?_
  rw [blockAbove?_of_not_isAbove apart package text old, ← scanned]
  rfl

end CommentSite

end Scaffold
