import MeshControl.Net.Ip
import MeshControl.Text.Numeral

/-!
Writing addresses as text, each in one way.

The longest run of zero groups of an IPv6 address is left out at a double colon, the first of
several that are equally long, unless it is a single group. An IPv4 address mapped into IPv6 shows
its last two groups as IPv4.
-/

namespace MeshControl.Net

/-- The octets in decimal, separated by dots. -/
def Ipv4.write (address : Ipv4) : List Char :=
  List.intercalate ['.'] (address.octets.map fun octet => Text.decimal octet.val)

/-- The groups in hexadecimal, separated by colons. -/
def writeGroups (groups : List (Fin 65536)) : List Char :=
  List.intercalate [':'] (groups.map fun group => Text.hexadecimal group.val)

/-- A run of zero groups: where it begins, and how long it is. -/
structure ZeroRun where
  start : Nat
  length : Nat
deriving DecidableEq

/-- The number of zero groups in front. -/
def leadingZeros (groups : List (Fin 65536)) : Nat :=
  (groups.takeWhile (· == 0)).length

/-- The longest run of zero groups, and the first of those; the groups begin at the given
position. -/
def longestZeroRun (position : Nat) : List (Fin 65536) → ZeroRun
  | [] => ⟨position, 0⟩
  | group :: rest =>
    let here : ZeroRun := ⟨position, leadingZeros (group :: rest)⟩
    let later := longestZeroRun (position + 1) rest
    if here.length < later.length then later else here

/-- The groups, without the longest run of zeros if it has at least two. -/
def Ipv6.writeCompressed (address : Ipv6) : List Char :=
  let run := longestZeroRun 0 address.groups
  if 1 < run.length then
    writeGroups (address.groups.take run.start) ++ [':', ':'] ++
      writeGroups (address.groups.drop (run.start + run.length))
  else writeGroups address.groups

/-- The one text of an IPv6 address. -/
def Ipv6.write (address : Ipv6) : List Char :=
  match address.mapped with
  | some inner => "::ffff:".toList ++ inner.write
  | none => address.writeCompressed

/-- The one text of an address. -/
def IpAddress.write : IpAddress → List Char
  | v4 address => address.write
  | v6 address => address.write

end MeshControl.Net
