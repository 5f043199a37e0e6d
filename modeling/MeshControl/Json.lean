import MeshControl.Text.Numeral

/-!
JSON values and their compact text.

The debug pages publish natural numbers, texts, lists, records and absent values; nothing else is
needed, so truth values, fractions and negative numbers are no values here. Fields keep their
order. A text is escaped no further than the format demands: the quote, the backslash and the
controls below the space.
-/

namespace MeshControl

inductive Json where
  | null
  | number (value : Nat)
  | text (content : String)
  | list (items : List Json)
  | record (fields : List (String × Json))

namespace Json

/-- The written form of one character of a text. -/
def escape (c : Char) : List Char :=
  if c = '"' then ['\\', '"']
  else if c = '\\' then ['\\', '\\']
  else if c = '\x08' then ['\\', 'b']
  else if c = '\x0c' then ['\\', 'f']
  else if c = '\n' then ['\\', 'n']
  else if c = '\r' then ['\\', 'r']
  else if c = '\t' then ['\\', 't']
  else if c.toNat < 0x20 then
    ['\\', 'u', '0', '0', Nat.digitChar (c.toNat / 16), Nat.digitChar (c.toNat % 16)]
  else [c]

def writeText (content : List Char) : List Char :=
  '"' :: (content.flatMap escape ++ ['"'])

mutual

/-- The compact text of a value, without a blank between its parts. -/
def write : Json → List Char
  | null => ['n', 'u', 'l', 'l']
  | number value => Text.decimal value
  | text content => writeText content.toList
  | list items => '[' :: (writeItems items ++ [']'])
  | record fields => '\x7b' :: (writeFields fields ++ ['\x7d'])

def writeItems : List Json → List Char
  | [] => []
  | [item] => write item
  | item :: rest => write item ++ ',' :: writeItems rest

def writeFields : List (String × Json) → List Char
  | [] => []
  | [(name, value)] => writeText name.toList ++ ':' :: write value
  | (name, value) :: rest =>
    writeText name.toList ++ ':' :: (write value ++ ',' :: writeFields rest)

end

def compact (value : Json) : String :=
  String.ofList (write value)

/-- A text, or the absent value. -/
def optionalText : Option String → Json
  | none => null
  | some content => text content

end Json

end MeshControl
