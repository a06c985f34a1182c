import Scaffold.GoType

/-!
# Package snapshots

A `Package` is what one Go package looks like to the generators: its comments by file and its type
declarations in order.  `Package.underlying?` is the definition of a named type as far as this
package knows it.
-/

set_option autoImplicit false

namespace Scaffold

structure Position where
  file : String
  line : UInt32
  column : UInt32
  deriving DecidableEq, Repr, Inhabited

namespace Position

/-- The usual `file:line:column`. -/
def text (pos : Position) : String :=
  pos.file ++ ":" ++ toString pos.line.toNat ++ ":" ++ toString pos.column.toNat

end Position

structure Comment where
  text : String
  line : UInt32
  deriving DecidableEq, Repr, Inhabited

structure CommentGroup where
  comments : List Comment
  deriving DecidableEq, Repr, Inhabited

namespace CommentGroup

def endLine? (group : CommentGroup) : Option UInt32 := group.comments.getLast?.map (·.line)

def texts (group : CommentGroup) : List String := group.comments.map (·.text)

end CommentGroup

structure SourceFile where
  path : String
  comments : List CommentGroup
  deriving DecidableEq, Repr, Inhabited

structure TypeDecl where
  name : String
  pos : Position
  type : GoType
  deriving BEq, Repr, Inhabited

structure Package where
  name : String
  path : String
  files : List SourceFile
  decls : List TypeDecl
  deriving BEq, Repr, Inhabited

namespace Package

def reference (package : Package) : PackageRef := ⟨package.path, package.name⟩

def lookup? (package : Package) (name : String) : Option TypeDecl :=
  package.decls.find? (fun decl => decl.name = name)

/-- The definition of a named type: the one it carries, else the one that this package declares for
a name of its own. -/
def underlying? (package : Package) (type : NamedType) : Option GoType :=
  match type.underlying with
  | some definition => some definition
  | none =>
    match type.package with
    | some owner =>
      if owner.path = package.path then (package.lookup? type.name).map (·.type) else none
    | none => none

end Package

end Scaffold
