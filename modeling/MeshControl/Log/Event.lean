/-!
Events of a log, and the lines they are written as.

An event has a level, the name of the part of the program that it comes from, a message, and
fields with their values. Values are written as they are, so one with a line end in it spreads an
event over several lines.
-/

namespace MeshControl.Log

inductive Level where
  | error
  | warn
  | info
  | debug
  | trace
deriving DecidableEq

namespace Level

def title : Level → String
  | error => "ERROR"
  | warn => "WARN"
  | info => "INFO"
  | debug => "DEBUG"
  | trace => "TRACE"

/-- The position of a level, of which the most important is the first. -/
def rank : Level → Nat
  | error => 1
  | warn => 2
  | info => 3
  | debug => 4
  | trace => 5

end Level

structure Event where
  level : Level
  /-- The part of the program that the event comes from. -/
  target : String
  message : String
  fields : List (String × String)
deriving DecidableEq

namespace Event

/-- The names of the fields of an event; its message is one of them. -/
def fieldNames (event : Event) : List String :=
  "message" :: event.fields.map (·.1)

def text (event : Event) : String :=
  event.level.title ++ " " ++ event.target ++ ": " ++ event.message ++
    "".intercalate (event.fields.map fun (name, value) => " " ++ name ++ "=" ++ value)

def lines (event : Event) : List String :=
  (event.text.toList.splitOn '\n').map String.ofList

end Event

end MeshControl.Log
