/-!
# Bytes and text

UTF-8 bytes of a text, and the text of bytes that need not be valid UTF-8: each longest beginning of
a character that breaks off, and each byte that starts none, becomes one replacement character.
-/

set_option autoImplicit false

namespace Scaffold.Text.Utf8

def encode (text : String) : List UInt8 := text.toUTF8.data.toList

def replacement : Char := '\ufffd'

/-- A character that has begun: how many bytes it still needs, the bounds of the next one and the
code point so far. -/
structure Pending where
  owed : Nat
  low : Nat
  high : Nat
  code : Nat
  deriving DecidableEq, Repr

inductive Lead where
  | whole (c : Char)
  | begins (pending : Pending)
  | stray

def lead (b : Nat) : Lead :=
  if b < 0x80 then .whole (Char.ofNat b)
  else if b < 0xc2 then .stray
  else if b < 0xe0 then .begins ⟨1, 0x80, 0xbf, b - 0xc0⟩
  else if b = 0xe0 then .begins ⟨2, 0xa0, 0xbf, 0⟩
  else if b = 0xed then .begins ⟨2, 0x80, 0x9f, 0xd⟩
  else if b < 0xf0 then .begins ⟨2, 0x80, 0xbf, b - 0xe0⟩
  else if b = 0xf0 then .begins ⟨3, 0x90, 0xbf, 0⟩
  else if b < 0xf4 then .begins ⟨3, 0x80, 0xbf, b - 0xf0⟩
  else if b = 0xf4 then .begins ⟨3, 0x80, 0x8f, 4⟩
  else .stray

def decodeFrom : Option Pending → List UInt8 → List Char
  | none, [] => []
  | some _, [] => [replacement]
  | some p, b :: rest =>
    let n := b.toNat
    if p.low ≤ n ∧ n ≤ p.high then
      let code := p.code * 64 + (n - 0x80)
      if p.owed ≤ 1 then Char.ofNat code :: decodeFrom none rest
      else decodeFrom (some ⟨p.owed - 1, 0x80, 0xbf, code⟩) rest
    else
      replacement :: match lead n with
        | .whole c => c :: decodeFrom none rest
        | .begins next => decodeFrom (some next) rest
        | .stray => replacement :: decodeFrom none rest
  | none, b :: rest =>
    match lead b.toNat with
    | .whole c => c :: decodeFrom none rest
    | .begins next => decodeFrom (some next) rest
    | .stray => replacement :: decodeFrom none rest

/-- The text of some bytes, with replacement characters where they are not UTF-8. -/
def decodeLossy (bytes : List UInt8) : String := String.ofList (decodeFrom none bytes)

def decode? (bytes : List UInt8) : Option String := String.fromUTF8? ⟨bytes.toArray⟩

theorem decode?_encode (text : String) : decode? (encode text) = some text := by
  have bytes : (⟨(encode text).toArray⟩ : ByteArray) = text.toByteArray := rfl
  rw [decode?, bytes, String.fromUTF8?, dif_pos text.isValidUTF8]
  rfl

end Scaffold.Text.Utf8
