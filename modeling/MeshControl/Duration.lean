import MeshControl.Text.Numeral

/-!
Lengths of time, counted in nanoseconds, and their exact text.

A duration is written in the largest unit of which it has at least one, with as many decimal
places as it needs. No digit is dropped, so two different durations never look the same in a
message.
-/

namespace MeshControl

structure Duration where
  nanoseconds : Nat
deriving DecidableEq

namespace Duration

/-- A number of whole seconds, and nanoseconds on top. -/
def ofSeconds (seconds : Nat) (nanoseconds : Nat) : Duration :=
  ⟨seconds * 1000000000 + nanoseconds⟩

def ofMilliseconds (milliseconds : Nat) : Duration :=
  ⟨milliseconds * 1000000⟩

/-- A unit of time: its name, and how many decimal places count nanoseconds in it. -/
structure Measure where
  name : String
  places : Nat

/-- The largest unit of which the duration has at least one; nanoseconds if it is zero. -/
def measure (duration : Duration) : Measure :=
  if 1000000000 ≤ duration.nanoseconds then ⟨"s", 9⟩
  else if 1000000 ≤ duration.nanoseconds then ⟨"ms", 6⟩
  else if 1000 ≤ duration.nanoseconds then ⟨"µs", 3⟩
  else ⟨"ns", 0⟩

/-- The decimal digits of a number, filled up with zeros in front to a number of places. -/
def padded (places value : Nat) : List Char :=
  let digits := Text.decimal value
  List.replicate (places - digits.length) '0' ++ digits

/-- The fraction after the point, without the zeros at its end, and without a point if nothing
remains. -/
def fraction (places value : Nat) : List Char :=
  if value = 0 then []
  else '.' :: ((padded places value).reverse.dropWhile (· = '0')).reverse

/-- The exact text of a duration, such as `1.5s`, `400ms` or `0ns`. -/
def text (duration : Duration) : String :=
  let unit := duration.measure
  let scale := Nat.pow 10 unit.places
  String.ofList (Text.decimal (duration.nanoseconds / scale) ++
    fraction unit.places (duration.nanoseconds % scale)) ++ unit.name

end Duration

end MeshControl
