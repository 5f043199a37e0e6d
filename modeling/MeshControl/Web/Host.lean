import MeshControl.Net.Ip.Printer
import MeshControl.Net.Ip.Reader

/-!
Hosts of web addresses.

A host is an IPv6 address in brackets, an IPv4 address, or a name. Bytes may be written with a
percent sign, and only a host of ASCII characters is read. A host whose last part is a number is
meant as an IPv4 address: it may have fewer than four parts, of which the last takes up the rest of
the address, and each part may be octal or hexadecimal.
-/

namespace MeshControl.Web.Host

/-- Whether a character may stand in the name of a host. -/
def isNameCharacter (c : Char) : Bool :=
  0x21 ≤ c.toNat && c.toNat < 0x7f &&
    ['"', '#', '%', '/', ':', '<', '>', '?', '@', '[', '\\', ']', '^', '\x60', '|', '\x7b',
      '\x7d'].all (· != c)

/-- The text with each percent sign and two hexadecimal digits taken for the byte they write. -/
def decodePercent : List Char → List Char
  | '%' :: upper :: lower :: text =>
    match Text.readHexadecimal [upper, lower] with
    | some byte => Char.ofNat byte :: decodePercent text
    | none => '%' :: upper :: lower :: decodePercent text
  | c :: text => c :: decodePercent text
  | [] => []

/-! ## Numbers -/

/-- The number that octal digits write. -/
def readOctal (digits : List Char) : Option Nat :=
  if digits.all fun digit => '0' ≤ digit && digit ≤ '7' then some (Nat.ofDigitChars 8 digits 0)
  else none

/-- A part of an IPv4 address: octal behind a zero, and hexadecimal behind a zero and an x. -/
def readPart : List Char → Option Nat
  | ['0', 'x'] => some 0
  | '0' :: 'x' :: digits => Text.readHexadecimal digits
  | '0' :: digits => readOctal digits
  | digits => Text.readDigits digits

/-- The parts of a host between dots, without an empty one behind the last dot. -/
def parts (host : List Char) : List (List Char) :=
  let all := host.splitOn '.'
  if all.length ≠ 1 ∧ all.getLast? = some [] then all.dropLast else all

/-- Whether a host is meant as an IPv4 address. -/
def endsInNumber (host : List Char) : Bool :=
  (parts host).getLast?.any fun part =>
    !part.isEmpty && (part.all Char.isDigit || (readPart part).isSome)

/-- The IPv4 address of a host, most of whose parts are octets. -/
def readIpv4 (host : List Char) : Option Net.Ipv4 := do
  let numbers ← (parts host).mapM readPart
  let front := numbers.dropLast
  let last := numbers.getLastD 0
  if 3 < front.length || front.any (255 < ·) || Nat.pow 256 (4 - front.length) ≤ last then none
  let octets := (List.range 4).map fun place =>
    match front[place]? with
    | some octet => Fin.ofNat 256 octet
    | none => Fin.ofNat 256 (last / Nat.pow 256 (3 - place))
  return ⟨octets, by simp [octets]⟩

/-! ## Hosts -/

/-- The one text of a host, in lower case. -/
def read : List Char → Option (List Char)
  | '[' :: text =>
    match text.reverse with
    | ']' :: inside => do
      let ip ← Net.Ipv6.read inside.reverse
      return '[' :: (ip.write ++ [']'])
    | _ => none
  | text =>
    let name := (decodePercent text).map Char.toLower
    if name.isEmpty || !name.all isNameCharacter then none
    else if endsInNumber name then (readIpv4 name).map Net.Ipv4.write
    else some name

end MeshControl.Web.Host
