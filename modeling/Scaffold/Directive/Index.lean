import Std.Data.TreeMap
import Scaffold.Directive
import Scaffold.Package

/-!
# Which comments annotate which declaration

A comment block annotates a declaration when its last line is the line right above the declaration,
in the same file.  `DirectiveIndex.ofPackage` keeps the blocks of a package by file and last line,
so that a block is found without searching; of two blocks that end on one line the first is kept.
-/

set_option autoImplicit false

namespace Scaffold

abbrev blockEndOrder : String × Nat → String × Nat → Ordering :=
  compareLex (compareOn Prod.fst) (compareOn Prod.snd)

instance : Std.LawfulEqCmp blockEndOrder where
  eq_of_compare {a b} h := by
    simp only [compareLex_eq_eq, compareOn] at h
    exact Prod.ext (Std.LawfulEqOrd.eq_of_compare h.1) (Std.LawfulEqOrd.eq_of_compare h.2)

abbrev BlockTable := Std.TreeMap (String × Nat) CommentGroup blockEndOrder

/-- A package with its comment blocks by file and last line. -/
structure DirectiveIndex where
  package : Package
  blocks : BlockTable

namespace DirectiveIndex

/-- Adds a block of a file, unless another one ends there or it has no lines. -/
def addBlock (path : String) (blocks : BlockTable) (group : CommentGroup) : BlockTable :=
  match group.endLine? with
  | some line => blocks.insertIfNew (path, line.toNat) group
  | none => blocks

def addFile (blocks : BlockTable) (file : SourceFile) : BlockTable :=
  file.comments.foldl (addBlock file.path) blocks

def ofPackage (package : Package) : DirectiveIndex :=
  ⟨package, package.files.foldl addFile ∅⟩

def blockBefore? (index : DirectiveIndex) (pos : Position) : Option CommentGroup :=
  match pos.line.toNat with
  | 0 => none
  | line + 1 => index.blocks[(pos.file, line)]?

/-- The directives for a target in the block above a position. -/
def directivesAt (index : DirectiveIndex) (pos : Position) (target : String) : List Directive :=
  match index.blockBefore? pos with
  | some block => (Directive.parseAll block.texts).filter (fun d => d.target = target)
  | none => []

def directives (index : DirectiveIndex) (decl : TypeDecl) (target : String) : List Directive :=
  index.directivesAt decl.pos target

/-- The declarations that carry directives for a target, in order, with these directives. -/
def annotated (index : DirectiveIndex) (target : String) : List (TypeDecl × List Directive) :=
  (index.package.decls.map fun decl => (decl, index.directives decl target)).filter
    fun (_, directives) => !directives.isEmpty

end DirectiveIndex

/-- The directives with a given target and topic anywhere in a file, each with the position of its
comment. -/
def SourceFile.directives (file : SourceFile) (target topic : String) :
    List (Position × Directive) :=
  (file.comments.flatMap (·.comments)).filterMap fun comment =>
    match Directive.parse comment.text with
    | some d =>
      if d.target = target ∧ d.topic = topic then some (⟨file.path, comment.line, 1⟩, d) else none
    | none => none

/-- The directives with a given target and topic anywhere in a package. -/
def Package.directives (package : Package) (target topic : String) : List (Position × Directive) :=
  package.files.flatMap (·.directives target topic)

end Scaffold
