import Mathlib.Data.List.TakeDrop
import MeshControl.Net.SocketAddress
import MeshControl.Proofs.Net.IpText
import MeshControl.Proofs.Text.Cutting

/-!
Socket addresses survive being written and read.

The text of a socket address is cut at its outermost marks first: the brackets of an IPv6 address,
or the last colon after an IPv4 address. Neither the address nor its scope nor its port contains
those marks, and so each part comes back as it was written.

Main statement: `SocketAddress.read_write`.
-/

namespace MeshControl.Net.SocketAddress

/-! ## Cutting a text in two -/

theorem splitAtFirst_append {mark : Char} {before : List Char} (absent : mark ∉ before)
    (after : List Char) : splitAtFirst mark (before ++ mark :: after) = some (before, after) := by
  rw [splitAtFirst, List.span_eq_takeWhile_dropWhile, Text.takeWhile_append_mark absent,
    Text.dropWhile_append_mark absent]

theorem splitAtFirst_of_not_mem {mark : Char} {text : List Char} (absent : mark ∉ text) :
    splitAtFirst mark text = none := by
  have rest : (text ++ []).dropWhile (· ≠ mark) = [] := by
    rw [List.dropWhile_append_of_pos (Text.ne_of_not_mem absent), List.dropWhile_nil]
  rw [List.append_nil] at rest
  rw [splitAtFirst, List.span_eq_takeWhile_dropWhile, rest]

theorem splitAtLast_append {mark : Char} {after : List Char} (absent : mark ∉ after)
    (before : List Char) : splitAtLast mark (before ++ mark :: after) = some (before, after) := by
  have backwards : (before ++ mark :: after).reverse =
      after.reverse ++ mark :: before.reverse := by
    simp
  rw [splitAtLast, backwards, splitAtFirst_append (mt List.mem_reverse.mp absent)]
  simp

/-! ## Between the brackets -/

/-- The scope of an address as it stands behind the address: nothing if there is none. -/
def writeScope (scope : Scope) : List Char :=
  if scope = 0 then [] else '%' :: Text.decimal scope.val

theorem write_v6 (ip : Ipv6) (scope : Scope) (port : Port) :
    (v6 ip scope port).write =
      '[' :: (ip.write ++ writeScope scope ++ ']' :: ':' :: Text.decimal port.val) := by
  simp [write, writeScope]

theorem bracket_not_mem (ip : Ipv6) (scope : Scope) : ']' ∉ ip.write ++ writeScope scope := by
  intro member
  rcases List.mem_append.mp member with inside | inside
  · exact Ipv6.not_mem_write (by decide) (by decide) (by decide) inside
  · unfold writeScope at inside
    split at inside
    · cases inside
    · rcases List.mem_cons.mp inside with percent | digit
      · exact absurd percent (by decide)
      · exact Text.not_mem_decimal (by decide) digit

theorem readScoped_write (ip : Ipv6) (scope : Scope) :
    readScoped (ip.write ++ writeScope scope) = some (ip, scope) := by
  have unscoped : '%' ∉ ip.write := Ipv6.not_mem_write (by decide) (by decide) (by decide)
  by_cases none : scope = 0
  · simp [readScoped, writeScope, none, splitAtFirst_of_not_mem unscoped, ip.read_write]
  · simp [readScoped, writeScope, none, splitAtFirst_append unscoped, ip.read_write,
      Text.readBounded_decimal]

/-! ## The whole address -/

/-- A port opens no bracket behind a host that does not. -/
theorem opening_not_mem {host : List Char} (plain : '[' ∉ host) (port : Port) :
    '[' ∉ host ++ ':' :: Text.decimal port.val := by
  intro member
  rcases List.mem_append.mp member with inside | inside
  · exact plain inside
  · rcases List.mem_cons.mp inside with colon | digit
    · exact absurd colon (by decide)
    · exact Text.not_mem_decimal (by decide) digit

/-- The port behind the last colon is cut off whatever stands before it. -/
theorem splitAtLast_port (host : List Char) (port : Port) :
    splitAtLast ':' (host ++ ':' :: Text.decimal port.val) =
      some (host, Text.decimal port.val) :=
  splitAtLast_append (Text.not_mem_decimal (by decide)) host

/-- A host without a bracket and a port are read as an IPv4 address and that port. -/
theorem read_plain {host : List Char} (plain : '[' ∉ host) (port : Port) :
    read (host ++ ':' :: Text.decimal port.val) = (Ipv4.read host).map (v4 · port) := by
  have unopened := opening_not_mem plain port
  unfold read
  split
  case h_1 opened =>
    rw [opened] at unopened
    exact absurd List.mem_cons_self unopened
  case h_2 =>
    cases inner : Ipv4.read host <;> simp [splitAtLast_port, Text.readBounded_decimal, inner]

theorem read_write (address : SocketAddress) : read address.write = some address := by
  cases address with
  | v4 ip port =>
    rw [write, read_plain (Ipv4.not_mem_write (by decide) (by decide)), ip.read_write,
      Option.map_some]
  | v6 ip scope port =>
    rw [write_v6]
    simp only [read, splitAtFirst_append (bracket_not_mem ip scope)]
    simp [readScoped_write, Text.readBounded_decimal]

theorem ofString?_text (address : SocketAddress) : ofString? address.text = some address := by
  rw [ofString?, text, String.toList_ofList, read_write]

end MeshControl.Net.SocketAddress
