/-!
White space in the sense of Unicode's `White_Space` property, and trimming by it.

Names in a list of registries and the port of a test listener are written by hand, so blanks
around them are not part of the value. The property is wider than the ASCII blanks and narrower
than "invisible": a zero width space is not white space.
-/

namespace MeshControl.Text

/-- The characters with Unicode's `White_Space` property. -/
def isBlank (c : Char) : Bool :=
  let code := c.toNat
  (0x9 ≤ code && code ≤ 0xd) || code == 0x20 || code == 0x85 || code == 0xa0 || code == 0x1680 ||
    (0x2000 ≤ code && code ≤ 0x200a) || code == 0x2028 || code == 0x2029 || code == 0x202f ||
    code == 0x205f || code == 0x3000

/-- The text without the blanks at its end. -/
def trimEnd (text : List Char) : List Char :=
  (text.reverse.dropWhile isBlank).reverse

/-- The text without the blanks at either end. -/
def trim (text : List Char) : List Char :=
  trimEnd (text.dropWhile isBlank)

/-- The words between commas, trimmed, without those that are blank throughout. -/
def listedNames (text : List Char) : List (List Char) :=
  ((text.splitOn ',').map trim).filter (fun name => !name.isEmpty)

end MeshControl.Text
