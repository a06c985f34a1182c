import Scaffold.Text.Split

/-!
# Paths as text

`Path.join` puts a name behind a directory, `Path.parts` are the components by which two paths are
compared, and `Path.steps` are the steps by which a path is walked.
-/

set_option autoImplicit false

namespace Scaffold.Path

/-- The path of a name in a directory; an absolute name stays as it is. -/
def join (dir name : String) : String :=
  if name.toList.head? = some '/' then name
  else if dir = "" ∨ dir.toList.getLast? = some '/' then dir ++ name
  else dir ++ "/" ++ name

def isAbsolute (path : String) : Bool := path.toList.head? = some '/'

def pieces (path : String) : List String := (Text.pieces '/' path.toList).map String.ofList

/-- The directory that a path's last piece is in; empty for the directory that paths start from. -/
def parent (path : String) : String :=
  match (pieces path).dropLast with
  | [""] => "/"
  | front => "/".intercalate front

/-- The names to walk through: pieces that are not empty and do not stay where they are. -/
def steps (path : String) : List String := (pieces path).filter fun p => p ≠ "" && p ≠ "."

/-- The components by which paths are compared: the root, a dot in front, and the names. -/
def parts (path : String) : List String :=
  (if isAbsolute path then ["/"] else if (pieces path).head? = some "." then ["."] else [])
    ++ steps path

/-- What the path names has to be a directory: it ends in a slash or in a step that stays. -/
def endsInDirectory (path : String) : Bool :=
  match (pieces path).getLast? with
  | some last => last = "" || last = "."
  | none => false

end Scaffold.Path
