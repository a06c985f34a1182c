import Scaffold.Package
import Scaffold.GoType.Snapshot
import Scaffold.Json.Reader
import Scaffold.Json.Writer

/-!
# Package snapshots as JSON

`Package.toJson` writes a snapshot with every field, `Package.ofJson?` reads one: files,
declarations and comments may be left out, and other keys are skipped.  `Package.ofText?` reads the
text of a snapshot file.
-/

set_option autoImplicit false

namespace Scaffold

/-- How deep arrays and objects may nest in what is read from a snapshot. -/
def snapshotDepth : Nat := 127

namespace Position

def toJson (pos : Position) : Json :=
  .object [("file", .string pos.file), ("line", .ofNat pos.line.toNat),
    ("column", .ofNat pos.column.toNat)]

def read? (value : Json) : Option Position := do
  let record ← value.record? ["file", "line", "column"]
  let file ← record.required "file" Json.string?
  let line ← record.required "line" Json.uint32?
  let column ← record.required "column" Json.uint32?
  return ⟨file, line, column⟩

end Position

namespace Comment

def toJson (comment : Comment) : Json :=
  .object [("text", .string comment.text), ("line", .ofNat comment.line.toNat)]

def read? (value : Json) : Option Comment := do
  let record ← value.record? ["text", "line"]
  let text ← record.required "text" Json.string?
  let line ← record.required "line" Json.uint32?
  return ⟨text, line⟩

end Comment

namespace CommentGroup

def toJson (group : CommentGroup) : Json :=
  .object [("comments", .array (group.comments.map Comment.toJson))]

def read? (value : Json) : Option CommentGroup := do
  let record ← value.record? ["comments"]
  let comments ← record.required "comments" (Json.list? Comment.read?)
  return ⟨comments⟩

end CommentGroup

namespace SourceFile

def toJson (file : SourceFile) : Json :=
  .object [("path", .string file.path),
    ("comments", .array (file.comments.map CommentGroup.toJson))]

def read? (value : Json) : Option SourceFile := do
  let record ← value.record? ["path", "comments"]
  let path ← record.required "path" Json.string?
  let comments ← record.optional "comments" (Json.list? CommentGroup.read?) []
  return ⟨path, comments⟩

end SourceFile

namespace TypeDecl

def toJson (decl : TypeDecl) : Json :=
  .object [("name", .string decl.name), ("pos", decl.pos.toJson), ("type", decl.type.toJson)]

/-- A declaration; its type stands three levels deep in a snapshot. -/
def read? (value : Json) : Option TypeDecl := do
  let record ← value.record? ["name", "pos", "type"]
  let name ← record.required "name" Json.string?
  let pos ← record.required "pos" Position.read?
  let type ← record.required "type" (GoType.read? (snapshotDepth - 3))
  return ⟨name, pos, type⟩

end TypeDecl

namespace Package

def toJson (package : Package) : Json :=
  .object [("name", .string package.name), ("path", .string package.path),
    ("files", .array (package.files.map SourceFile.toJson)),
    ("decls", .array (package.decls.map TypeDecl.toJson))]

def ofJson? (value : Json) : Option Package := do
  let record ← value.record? ["name", "path", "files", "decls"]
  let name ← record.required "name" Json.string?
  let path ← record.required "path" Json.string?
  let files ← record.optional "files" (Json.list? SourceFile.read?) []
  let decls ← record.optional "decls" (Json.list? TypeDecl.read?) []
  return ⟨name, path, files, decls⟩

def ofText? (text : String) : Option Package := (Json.parse text).bind ofJson?

def text (package : Package) : String := package.toJson.text

end Package

namespace GoType

def ofText? (text : String) : Option GoType := (Json.parse text).bind (read? snapshotDepth)

end GoType

end Scaffold
