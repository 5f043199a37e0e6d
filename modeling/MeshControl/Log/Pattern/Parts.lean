/-!
How deep the parts of a pattern are nested.

Groups, sets and repetitions stand around other parts of a pattern, and so do items that stand
side by side. A pattern may not be nested too deep. A reader meets the inner parts first, so it
keeps no more of a part than its depth, and adds one for what turns out to stand around it.
-/

namespace MeshControl.Log.Pattern

/-- The depth of parts with the given depths that stand side by side. A single part has nothing
around it. -/
def depthTogether : List Nat → Nat
  | [] => 0
  | [depth] => depth
  | depths => depths.foldl max 0 + 1

/-- The parts that were read of a pattern, of a group or of a set. -/
structure Parts where
  /-- The depths of what stands in front of the last bar, or of the last operator. -/
  earlier : List Nat
  /-- The depths of the items behind it, the last item first. Options are an item without a depth,
  and cannot be repeated. -/
  items : List (Option Nat)
deriving DecidableEq

namespace Parts

def empty : Parts := ⟨[], []⟩

/-- The depth of the items that were read last. -/
def itemsDepth (parts : Parts) : Nat :=
  depthTogether (parts.items.map fun depth => depth.getD 0)

def depth (parts : Parts) : Nat :=
  depthTogether (parts.itemsDepth :: parts.earlier)

def add (parts : Parts) (depth : Nat) : Parts :=
  { parts with items := some depth :: parts.items }

def addOptions (parts : Parts) : Parts :=
  { parts with items := none :: parts.items }

/-- Repeat the last item, which has to be there. -/
def repeatLast (parts : Parts) : Option Parts :=
  match parts.items with
  | some depth :: items => some { parts with items := some (depth + 1) :: items }
  | _ => none

/-- Go on behind a bar. All alternatives stand side by side. -/
def endAlternative (parts : Parts) : Parts :=
  ⟨parts.itemsDepth :: parts.earlier, []⟩

/-- Go on behind an operator. It joins no more than two operands, of which the left one is all that
was read. -/
def endOperand (parts : Parts) : Parts :=
  ⟨[parts.depth], []⟩

end Parts

end MeshControl.Log.Pattern
