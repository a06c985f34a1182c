import Scaffold.Text.Utf8

/-!
# Texts made of bytes

Programs deal in bytes.  Where they treat them as text, a byte is a character below 256, so that
such a text has as many characters as it has bytes.
-/

set_option autoImplicit false

namespace Scaffold.Host.Octets

def ofBytes (bytes : List UInt8) : String := String.ofList (bytes.map fun b => Char.ofNat b.toNat)

def toBytes (text : String) : List UInt8 := text.toList.map fun c => c.toNat.toUInt8

/-- The bytes that a text of any characters is written in, as a text. -/
def ofText (text : String) : String := ofBytes (Text.Utf8.encode text)

def toText (octets : String) : String := Text.Utf8.decodeLossy (toBytes octets)

end Scaffold.Host.Octets
