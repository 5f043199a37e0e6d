/-!
Natural numbers as text: decimal and hexadecimal digits, and the syntax of an unsigned number.

A written number is a non-empty run of ASCII digits; leading zeros are allowed, and the reader of
an unsigned number also takes one plus sign in front. Ports, scopes and settings are numbers of a
fixed width, so their readers have a limit: a value beyond it is refused, not reduced.
-/

namespace MeshControl.Text

/-- The decimal digits of a number, without leading zeros. -/
def decimal (value : Nat) : List Char :=
  Nat.toDigits 10 value

/-- The hexadecimal digits of a number, in lower case and without leading zeros. -/
def hexadecimal (value : Nat) : List Char :=
  Nat.toDigits 16 value

def decimalText (value : Nat) : String :=
  String.ofList (decimal value)

/-- The number written by a non-empty run of decimal digits. -/
def readDigits (digits : List Char) : Option Nat :=
  if digits.isEmpty || !digits.all Char.isDigit then none
  else some (Nat.ofDigitChars 10 digits 0)

/-- The number written by a non-empty run of decimal digits, if it is below the limit. -/
def readBounded (limit : Nat) (digits : List Char) : Option (Fin limit) :=
  match readDigits digits with
  | some value => if below : value < limit then some ⟨value, below⟩ else none
  | none => none

/-- The number written by decimal digits after an optional plus sign, if it is below the limit. -/
def readUnsigned (limit : Nat) : List Char → Option (Fin limit)
  | '+' :: digits => readBounded limit digits
  | digits => readBounded limit digits

/-- The value of one hexadecimal digit, in either case. -/
def hexValue (digit : Char) : Option Nat :=
  if digit.isDigit then some (digit.toNat - '0'.toNat)
  else if 'a' ≤ digit ∧ digit ≤ 'f' then some (digit.toNat - 'a'.toNat + 10)
  else if 'A' ≤ digit ∧ digit ≤ 'F' then some (digit.toNat - 'A'.toNat + 10)
  else none

/-- The number written by a non-empty run of hexadecimal digits. -/
def readHexadecimal (digits : List Char) : Option Nat :=
  if digits.isEmpty then none
  else digits.foldlM (fun sofar digit => (hexValue digit).map (16 * sofar + ·)) 0

end MeshControl.Text
