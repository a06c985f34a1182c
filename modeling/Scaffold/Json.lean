/-!
# JSON values

Object members keep their order and repetitions.  Numbers keep apart the integers, written with
digits alone, from all other spellings, so that `1.0`, `1e3` and `-0` are not integers.
-/

set_option autoImplicit false

namespace Scaffold

inductive Json.Number where
  | whole (value : Int)
  /-- Written with a fraction or an exponent, or as a negative zero: plus or minus `digits` times
  ten to the `exponent`. -/
  | real (negative : Bool) (digits : Nat) (exponent : Int)
  deriving DecidableEq, Repr, Inhabited

inductive Json where
  | null
  | bool (value : Bool)
  | number (value : Json.Number)
  | string (text : String)
  | array (items : List Json)
  | object (members : List (String × Json))
  /-- Well formed, but nothing can be read from it: a string with half a surrogate pair, a number
  beyond the range of double precision, or an object with such a key.  It can only be skipped. -/
  | unreadable
  deriving BEq, Repr, Inhabited

namespace Json

def ofNat (n : Nat) : Json := .number (.whole n)

def strings (items : List String) : Json := .array (items.map .string)

/-- The value of the first member of a given name; only objects have members. -/
def member? (name : String) : Json → Option Json
  | object members => members.lookup name
  | _ => none

mutual

/-- All parts can be read, and arrays and objects nest at most `limit` deep. -/
def readableWithin (limit : Nat) : Json → Bool
  | array items => 0 < limit && allReadableWithin (limit - 1) items
  | object members => 0 < limit && membersReadableWithin (limit - 1) members
  | unreadable => false
  | _ => true

def allReadableWithin (limit : Nat) : List Json → Bool
  | [] => true
  | item :: rest => item.readableWithin limit && allReadableWithin limit rest

def membersReadableWithin (limit : Nat) : List (String × Json) → Bool
  | [] => true
  | (_, value) :: rest => value.readableWithin limit && membersReadableWithin limit rest

end

end Json

end Scaffold
