import MeshControl.Net.Ip
import MeshControl.Text.Numeral

/-!
Reading addresses from text.

An IPv4 address is four decimal octets without leading zeros. An IPv6 address is eight groups of
one to four hexadecimal digits; one run of zero groups may be left out at a double colon, and the
last two groups may be written as an IPv4 address.
-/

namespace MeshControl.Net

/-- An octet: one to three digits, and no zero in front of another digit. -/
def readOctet (text : List Char) : Option (Fin 256) :=
  if 3 < text.length ∨ (1 < text.length ∧ text.head? = some '0') then none
  else Text.readBounded 256 text

/-- An IPv4 address: four octets separated by dots. -/
def Ipv4.read (text : List Char) : Option Ipv4 := do
  let octets ← (text.splitOn '.').mapM readOctet
  if length : octets.length = 4 then some ⟨octets, length⟩ else none

/-- The two groups that an IPv4 address takes the place of. -/
def Ipv4.toGroups (address : Ipv4) : List (Fin 65536) :=
  match address.octets with
  | [a, b, c, d] => [Fin.ofNat 65536 (256 * a + b), Fin.ofNat 65536 (256 * c + d)]
  | _ => []

/-- A group: one to four hexadecimal digits. -/
def readGroup (text : List Char) : Option (Fin 65536) :=
  if 4 < text.length then none
  else (Text.readHexadecimal text).map (Fin.ofNat 65536)

/-- The groups between colons, of which the last may be an IPv4 address. -/
def readGroups : List (List Char) → Option (List (Fin 65536))
  | [] => some []
  | [last] =>
    match Ipv4.read last with
    | some address => some address.toGroups
    | none => (readGroup last).map ([·])
  | first :: rest => do
    let group ← readGroup first
    let groups ← readGroups rest
    return group :: groups

/-- The groups of one side of a double colon; there may be none. -/
def readSide (text : List Char) : Option (List (Fin 65536)) :=
  if text.isEmpty then some [] else readGroups (text.splitOn ':')

/-- The text on either side of the first double colon. -/
def splitAtGap : List Char → Option (List Char × List Char)
  | [] => none
  | ':' :: ':' :: rest => some ([], rest)
  | c :: rest => (splitAtGap rest).map fun (before, after) => (c :: before, after)

/-- An IPv6 address of these groups, if there are eight. -/
def Ipv6.ofGroups (groups : List (Fin 65536)) : Option Ipv6 :=
  if length : groups.length = 8 then some ⟨groups, length⟩ else none

/-- An IPv6 address. A double colon stands for at least one group, and no IPv4 address is written
before it. -/
def Ipv6.read (text : List Char) : Option Ipv6 :=
  match splitAtGap text with
  | none => (readGroups (text.splitOn ':')).bind Ipv6.ofGroups
  | some (before, after) => do
    let front ← if before.isEmpty then some [] else (before.splitOn ':').mapM readGroup
    let back ← readSide after
    if front.length + back.length < 8 then
      Ipv6.ofGroups (front ++ List.replicate (8 - (front.length + back.length)) 0 ++ back)
    else none

/-- An address of either family. -/
def IpAddress.read (text : List Char) : Option IpAddress :=
  match Ipv4.read text with
  | some address => some (.v4 address)
  | none => (Ipv6.read text).map .v6

end MeshControl.Net
