import Scaffold.Text.Printable

/-!
# Quoted text in messages

`quoted s` shows a text between double quotes such that nothing in it is hidden: the usual short
escapes, and `\u{..}` for characters that extend a grapheme or have no visible form.
-/

set_option autoImplicit false

namespace Scaffold.Text

def quotedChar (c : Char) : List Char :=
  if c = '\x00' then ['\\', '0']
  else if c = '\t' then ['\\', 't']
  else if c = '\r' then ['\\', 'r']
  else if c = '\n' then ['\\', 'n']
  else if c = '\\' then ['\\', '\\']
  else if c = '"' then ['\\', '"']
  else if extendsGrapheme c || !isPrintable c then
    ['\\', 'u', '\x7b'] ++ Nat.toDigits 16 c.toNat ++ ['\x7d']
  else [c]

/-- The text between double quotes with everything special escaped. -/
def quoted (s : String) : String :=
  String.ofList ('"' :: (s.toList.flatMap quotedChar ++ ['"']))

end Scaffold.Text
