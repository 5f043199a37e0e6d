import MeshControl.Log.Directive

/-!
Filters that choose the events to write.

A filter is a list of directives between commas. Of those that apply to an event one decides: it
has the level up to which events are written. An event to which none applies is not written.
-/

namespace MeshControl.Log

structure Filter where
  directives : List Directive
deriving DecidableEq

namespace Filter

/-- The filter of a text, if each of its directives can be read. -/
def read (text : String) : Option Filter :=
  (((text.toList.splitOn ',').filter (!·.isEmpty)).mapM Directive.read).map Filter.mk

/-- The directive that decides about an event. -/
def deciding (filter : Filter) (event : Event) : Option Directive :=
  (filter.directives.filter (·.appliesTo event)).foldl (fun best directive =>
    match best with
    | some other => if directive.overrules other then some directive else best
    | none => some directive) none

def admits (filter : Filter) (event : Event) : Bool :=
  match filter.deciding event with
  | some directive => event.level.rank ≤ directive.threshold
  | none => false

end Filter

end MeshControl.Log
