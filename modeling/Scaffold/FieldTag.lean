/-!
# Field tags

A field tag is a small language of keys and values:

    tag   = entry { " " entry }
    entry = key | key ":'" value "'"

Keys hold no space, colon or quote and may be empty, values hold no quote.  Reading is all or
nothing: a text outside the language has no tag.  Of two entries with one key the later one counts,
and entries with an empty key carry nothing.
-/

set_option autoImplicit false

namespace Scaffold

/-- The values of a tag by key; a key without a value has the empty one. -/
structure FieldTag where
  entries : List (String × String)
  deriving DecidableEq, Repr, Inhabited

namespace FieldTag

def empty : FieldTag := ⟨[]⟩

/-- Sets the value of a key, in place of an earlier one.  The empty key is not kept. -/
def insert (t : FieldTag) (key value : String) : FieldTag :=
  if key = "" then t
  else ⟨t.entries.filter (fun entry => entry.1 ≠ key) ++ [(key, value)]⟩

def get? (t : FieldTag) (key : String) : Option String :=
  t.entries.lookup key

/-- The value of a key, empty when the tag does not have it. -/
def value (t : FieldTag) (key : String) : String := (t.get? key).getD ""

def contains (t : FieldTag) (key : String) : Bool := (t.get? key).isSome

def size (t : FieldTag) : Nat := t.entries.length

def ofEntries (entries : List (String × String)) : FieldTag :=
  entries.foldl (fun t entry => t.insert entry.1 entry.2) empty

/-- Where a reader of tag text stands, with what it has collected of the current entry. -/
inductive ScanState where
  | inKey (key : List Char)
  | colon (key : List Char)
  | inValue (key value : List Char)
  | closed

/-- The entries that a text holds from a state on, if it is in the language. -/
def scan : ScanState → List Char → Option (List (List Char × List Char))
  | .inKey key, [] => some [(key, [])]
  | .inKey key, c :: rest =>
    if c = ' ' then (scan (.inKey []) rest).map ((key, []) :: ·)
    else if c = ':' then scan (.colon key) rest
    else if c = '\'' then none
    else scan (.inKey (key ++ [c])) rest
  | .colon _, [] => none
  | .colon key, c :: rest => if c = '\'' then scan (.inValue key []) rest else none
  | .inValue _ _, [] => none
  | .inValue key value, c :: rest =>
    if c = '\'' then (scan .closed rest).map ((key, value) :: ·)
    else scan (.inValue key (value ++ [c])) rest
  | .closed, [] => some []
  | .closed, c :: rest => if c = ' ' then scan (.inKey []) rest else none

/-- The entries of a tag text in order, empty keys and repeated keys included. -/
def readEntries (text : String) : Option (List (String × String)) :=
  (scan (.inKey []) text.toList).map fun entries =>
    entries.map fun entry => (String.ofList entry.1, String.ofList entry.2)

def parse (text : String) : Option FieldTag := (readEntries text).map ofEntries

end FieldTag

end Scaffold
