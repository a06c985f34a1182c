import Scaffold.Json

/-!
# Records in JSON

A record with fixed field names is written as an object, or as the array of its fields in order.  In
an object the known names stand at most once each and other names are skipped; an array may stop
early but has no surplus items.  Either way the reader sees the record as named members, and a field
is read by name, as one that must be there or as one with a default.
-/

set_option autoImplicit false

namespace Scaffold

abbrev Json.Record := List (String × Json)

namespace Json

/-- The members of a record with the given field names, from either of its two spellings. -/
def record? (names : List String) : Json → Option Record
  | object members =>
    if names.all fun name => members.countP (fun entry => entry.1 = name) ≤ 1 then some members
    else none
  | array items => if items.length ≤ names.length then some (names.zip items) else none
  | _ => none

namespace Record

variable {α : Type}

def required (record : Record) (name : String) (read : Json → Option α) : Option α :=
  (record.lookup name).bind read

def optional (record : Record) (name : String) (read : Json → Option α) (default : α) : Option α :=
  match record.lookup name with
  | some value => read value
  | none => some default

end Record

/-! ## Reading simple values -/

def string? : Json → Option String
  | string text => some text
  | _ => none

def bool? : Json → Option Bool
  | bool value => some value
  | _ => none

/-- An integer from zero up to, but not including, `bound`. -/
def natBelow? (bound : Nat) : Json → Option Nat
  | number (.whole (.ofNat n)) => if n < bound then some n else none
  | _ => none

def uint32? (value : Json) : Option UInt32 := (natBelow? UInt32.size value).map UInt32.ofNat

def uint64? (value : Json) : Option UInt64 := (natBelow? UInt64.size value).map UInt64.ofNat

def list? {α : Type} (read : Json → Option α) : Json → Option (List α)
  | array items => items.mapM read
  | _ => none

def option? {α : Type} (read : Json → Option α) : Json → Option (Option α)
  | null => some none
  | value => (read value).map some

end Json

end Scaffold
