import Scaffold.Directive.Index

/-!
# Finding a block by searching

What an index is asked can also be found without it, by going through the files in order and through
the blocks of each file in order: `Package.blockAbove?` and `Package.directivesAbove`.  The table of
an index gives the same answers (`index_refines_scan`).  The invariant of the loop that fills it is
that a look-up is what was there before, else the first of the blocks added since that ends where it
asks (`getElem?_foldl_addFile`).
-/

set_option autoImplicit false

namespace Scaffold

/-- The last comment of the block stands right above a line. -/
def CommentGroup.endsAbove (group : CommentGroup) (line : UInt32) : Bool :=
  match group.comments.getLast? with
  | some last => last.line.toNat + 1 = line.toNat
  | none => false

/-- The first block in files of the position's name that ends right above the position. -/
def Package.blockAbove? (package : Package) (pos : Position) : Option CommentGroup :=
  ((package.files.filter (·.path = pos.file)).flatMap (·.comments)).find? (·.endsAbove pos.line)

/-- The directives for a target that the block above a position spells. -/
def Package.directivesAbove (package : Package) (pos : Position) (target : String) :
    List Directive :=
  match package.blockAbove? pos with
  | some block => (block.comments.filterMap (Directive.parse ·.text)).filter (·.target = target)
  | none => []

namespace DirectiveIndex

/-- The block has lines and the last of them has a given number. -/
def endsAt (line : Nat) (group : CommentGroup) : Bool := group.endLine?.map (·.toNat) = some line

theorem endsAt_eq_endsAbove {line : Nat} {above : UInt32} (next : above.toNat = line + 1)
    (group : CommentGroup) : endsAt line group = group.endsAbove above := by
  unfold endsAt CommentGroup.endsAbove CommentGroup.endLine?
  cases group.comments.getLast? with
  | none => rfl
  | some last => simp [next]

/-! ## The loop that fills the table -/

section Table
variable (blocks : BlockTable) (path file : String) (line : Nat)

theorem getElem?_addBlock (group : CommentGroup) :
    (addBlock path blocks group)[(file, line)]? =
      blocks[(file, line)]?.or (if path = file ∧ endsAt line group then some group else none) := by
  unfold addBlock endsAt
  cases group.endLine? with
  | none => simp
  | some last =>
      rw [Std.TreeMap.getElem?_insertIfNew]
      by_cases same : (path, last.toNat) = (file, line)
      · obtain ⟨rfl, rfl⟩ := Prod.mk.inj same
        by_cases known : (path, last.toNat) ∈ blocks
        · simp [known]
        · simp [known, Std.ReflCmp.compare_self]
      · have other : blockEndOrder (path, last.toNat) (file, line) ≠ .eq :=
          fun equal => same (Std.LawfulEqCmp.eq_of_compare equal)
        have unequal : ¬(path = file ∧ last.toNat = line) :=
          fun both => same (Prod.ext both.1 both.2)
        rw [if_neg fun both => other both.1]
        simp [unequal]

theorem getElem?_foldl_addBlock (groups : List CommentGroup) :
    (groups.foldl (addBlock path) blocks)[(file, line)]? =
      blocks[(file, line)]?.or (if path = file then groups.find? (endsAt line) else none) := by
  induction groups generalizing blocks with
  | nil => simp
  | cons group rest ih =>
      rw [List.foldl_cons, ih, getElem?_addBlock, Option.or_assoc]
      by_cases same : path = file
      · cases ends : endsAt line group <;> simp [same, ends]
      · simp [same]

theorem getElem?_foldl_addFile (files : List SourceFile) :
    (files.foldl addFile blocks)[(file, line)]? =
      blocks[(file, line)]?.or
        (((files.filter (·.path = file)).flatMap (·.comments)).find? (endsAt line)) := by
  induction files generalizing blocks with
  | nil => simp
  | cons first rest ih =>
      rw [List.foldl_cons, ih, addFile, getElem?_foldl_addBlock, Option.or_assoc]
      by_cases same : first.path = file
      · simp [same, List.find?_append]
      · simp [same]

end Table

/-! ## Look-ups -/

theorem blockBefore?_ofPackage (package : Package) (pos : Position) :
    (ofPackage package).blockBefore? pos = package.blockAbove? pos := by
  unfold blockBefore? Package.blockAbove?
  cases above : pos.line.toNat with
  | zero =>
      refine (List.find?_eq_none.mpr fun group _ => ?_).symm
      unfold CommentGroup.endsAbove
      cases group.comments.getLast? <;> simp [above]
  | succ line =>
      dsimp only [ofPackage]
      rw [getElem?_foldl_addFile, Std.TreeMap.getElem?_emptyc, Option.none_or]
      exact congrArg (List.find? · _) (funext (endsAt_eq_endsAbove above))

theorem directivesAt_ofPackage (package : Package) (pos : Position) (target : String) :
    (ofPackage package).directivesAt pos target = package.directivesAbove pos target := by
  unfold directivesAt Package.directivesAbove
  rw [blockBefore?_ofPackage]
  cases package.blockAbove? pos with
  | none => rfl
  | some block =>
      dsimp only
      rw [Directive.parseAll, CommentGroup.texts, List.filterMap_map]
      rfl

end DirectiveIndex

/-- Looking a block up gives what searching for it gives, and a declaration's directives are those
of the block that is found, so they stay the same whatever the other blocks say. -/
theorem index_refines_scan (package : Package) :
    let index := DirectiveIndex.ofPackage package
    (∀ pos, index.blockBefore? pos = package.blockAbove? pos) ∧
    ∀ decl target, index.directives decl target = package.directivesAbove decl.pos target ∧
      ∀ other : Package, other.blockAbove? decl.pos = package.blockAbove? decl.pos →
        (DirectiveIndex.ofPackage other).directives decl target = index.directives decl target := by
  intro index
  refine ⟨DirectiveIndex.blockBefore?_ofPackage package, fun decl target => ?_⟩
  have found : index.directives decl target = package.directivesAbove decl.pos target :=
    DirectiveIndex.directivesAt_ofPackage package decl.pos target
  refine ⟨found, fun other same => ?_⟩
  rw [found]
  calc (DirectiveIndex.ofPackage other).directives decl target
      = other.directivesAbove decl.pos target :=
        DirectiveIndex.directivesAt_ofPackage other decl.pos target
    _ = package.directivesAbove decl.pos target := by
        unfold Package.directivesAbove
        rw [same]

/-- Two files of one name, a block without lines, and two blocks that end on one line, the first of
them with its lines in disorder: only what that block says counts. -/
theorem index_refines_scan_collision :
    let block (lines : List (String × UInt32)) : CommentGroup :=
      ⟨lines.map fun line => ⟨line.1, line.2⟩⟩
    let first :=
      block [("//repogen:crud get", 9), ("//repogen:search", 1), ("//repogen:crud:plural Axes", 6)]
    let second (line : String) := block [(line, 6)]
    let widget : TypeDecl := ⟨"Axis", ⟨"axis.go", 7, 6⟩, .struct []⟩
    let package (line : String) : Package :=
      ⟨"shop", "example.com/shop", [⟨"axis.go", [⟨[]⟩]⟩, ⟨"b.go", [second line]⟩,
        ⟨"axis.go", [first, second line]⟩], [widget]⟩
    (package "//repogen:crud:extra Count() int").blockAbove? widget.pos = some first ∧
      (DirectiveIndex.ofPackage (package "//repogen:crud:extra Count() int")).directives
        widget "crud" =
        [⟨"crud", "", "get"⟩, ⟨"crud", "plural", "Axes"⟩] := by
  intro block first second widget package
  have scans (line : String) : (package line).blockAbove? widget.pos = some first := rfl
  have same := (index_refines_scan (package "")).2 widget "crud"
  refine ⟨scans _, ?_⟩
  rw [same.2 (package "//repogen:crud:extra Count() int") ((scans _).trans (scans _).symm), same.1]
  decide +kernel

end Scaffold
