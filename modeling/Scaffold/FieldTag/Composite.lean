import Scaffold.FieldTag
import Scaffold.Text.Escape

/-!
# Composite tags

The raw tag of a field holds entries `key:"value"` of several tools, separated by spaces.  Ours is
the first entry of our name space, and its value is a double-quoted literal that spells a field tag.
Reading stops at the first entry that does not have that shape, so what stands behind it is never
seen; a raw tag without an entry of ours has the empty field tag.
-/

set_option autoImplicit false

namespace Scaffold.FieldTag

def nameSpace : String := "repogen"

/-- Keys of a composite tag are made of these: no space, control character, colon or quote. -/
def isCompositeKeyChar (c : Char) : Bool := ' ' < c && c ≠ ':' && c ≠ '"' && c ≠ '\x7f'

/-- Where a reader of a composite tag stands, with what it has collected of the current entry. -/
inductive CompositeState where
  | gap
  | inKey (key : List Char)
  | colon (key : List Char)
  | inValue (key quoted : List Char)
  | escaped (key quoted : List Char)

/-- The entries that a text starts with, each with its value as written between the quotes. -/
def compositeScan : CompositeState → List Char → List (List Char × List Char)
  | _, [] => []
  | .gap, c :: rest =>
    if c = ' ' then compositeScan .gap rest
    else if isCompositeKeyChar c then compositeScan (.inKey [c]) rest
    else []
  | .inKey key, c :: rest =>
    if isCompositeKeyChar c then compositeScan (.inKey (key ++ [c])) rest
    else if c = ':' then compositeScan (.colon key) rest
    else []
  | .colon key, c :: rest => if c = '"' then compositeScan (.inValue key []) rest else []
  | .inValue key quoted, c :: rest =>
    if c = '"' then (key, quoted) :: compositeScan .gap rest
    else if c = '\\' then compositeScan (.escaped key (quoted ++ [c])) rest
    else compositeScan (.inValue key (quoted ++ [c])) rest
  | .escaped key quoted, c :: rest => compositeScan (.inValue key (quoted ++ [c])) rest

/-- The value of our entry as written between its quotes, if the composite tag has one. -/
def compositeLookup (raw : String) : Option (List Char) :=
  (compositeScan .gap raw.toList).lookup nameSpace.toList

/-- The field tag in a composite tag; none when our entry is not a proper literal or its value is
not a field tag. -/
def ofComposite (raw : String) : Option FieldTag :=
  match compositeLookup raw with
  | none => some empty
  | some quoted => (Text.Escape.decode quoted).bind fun text => parse (String.ofList text)

end Scaffold.FieldTag
