import MeshControl.Text.Numeral

/-!
What a backslash means in a pattern.

A backslash takes the meaning away from the character behind it, or gives it one: a letter may
stand for a control character, a class or a place in the text, and three of them for a character
by its number. Letters and digits without a meaning are refused behind a backslash, so that they
can be given one later.
-/

namespace MeshControl.Log.Pattern

/-- What a backslash and the characters behind it stand for. -/
inductive Escape where
  /-- A character without any other meaning. -/
  | character (c : Char)
  /-- A character by a number that may also be meant as that of a byte. -/
  | byte (c : Char)
  /-- A class of characters, or its complement. -/
  | charClass (isNegated : Bool)
  /-- The beginning or the end of a word, or of neither. -/
  | wordBoundary
  /-- The beginning or the end of the text. -/
  | textEnd
deriving DecidableEq

namespace Escape

/-- The letters behind a backslash that stand for a control character. -/
def controlLetters : List (Char × Char) :=
  [('a', '\x07'), ('f', '\x0c'), ('t', '\t'), ('n', '\n'), ('r', '\r'), ('v', '\x0b')]

/-- How many hexadecimal digits a letter behind a backslash asks for. -/
def digitCount : Char → Nat
  | 'x' => 2
  | 'u' => 4
  | 'U' => 8
  | _ => 0

/-- Whether a text behind a backslash has all the digits that its letter asks for. -/
def isComplete : List Char → Bool
  | [] => false
  | letter :: digits => digitCount letter ≤ digits.length

def readCode (digits : List Char) : Option Char := do
  let code ← Text.readHexadecimal digits
  if code.isValidChar then return Char.ofNat code else none

/-- What a complete text behind a backslash stands for. -/
def read : List Char → Option Escape
  | [] => none
  | 'x' :: digits => (readCode digits).map .byte
  | 'u' :: digits | 'U' :: digits => (readCode digits).map .character
  | c :: _ =>
    match controlLetters.lookup c with
    | some control => some (.character control)
    | none =>
      if "dsw".toList.contains c then some (.charClass false)
      else if "DSW".toList.contains c then some (.charClass true)
      else if "bB<>".toList.contains c then some .wordBoundary
      else if "Az".toList.contains c then some .textEnd
      else if c.isAlphanum || 0x80 ≤ c.toNat then none
      else some (.character c)

end Escape

end MeshControl.Log.Pattern
