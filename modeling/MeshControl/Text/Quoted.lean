import MeshControl.Text.Numeral
import MeshControl.Text.Printable

/-!
Text between double quotes, as diagnostics show it.

A quote, a backslash and the common controls are written with a backslash, and every other
character that is not plain by its code point. An apostrophe needs no backslash, because it does
not end the text. So a quoted text is one line, shows every character, and can be read back.
-/

namespace MeshControl.Text

def escape (c : Char) : List Char :=
  if c = '"' then ['\\', '"']
  else if c = '\\' then ['\\', '\\']
  else if c = '\x00' then ['\\', '0']
  else if c = '\t' then ['\\', 't']
  else if c = '\n' then ['\\', 'n']
  else if c = '\r' then ['\\', 'r']
  else if isPlain c then [c]
  else ['\\', 'u', '\x7b'] ++ hexadecimal c.toNat ++ ['\x7d']

/-- The text between double quotes. -/
def quote (content : List Char) : List Char :=
  '"' :: (content.flatMap escape ++ ['"'])

/-- A text in double quotes. -/
def quoted (content : String) : String :=
  String.ofList (quote content.toList)

end MeshControl.Text
