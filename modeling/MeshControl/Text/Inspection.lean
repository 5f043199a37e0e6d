import MeshControl.Text.Quoted

/-!
The diagnostic form of structured values: a name with its fields in braces, a case with its
content in parentheses, and lists in brackets. It is meant for people; what has to be read back
by a program is written as JSON.
-/

namespace MeshControl.Text

/-- The fields of a record, each with its name, separated by commas. -/
private def inspectFields (fields : List (String × String)) : String :=
  ", ".intercalate (fields.map fun (name, value) => name ++ ": " ++ value)

def inspectRecord (name : String) (fields : List (String × String)) : String :=
  name ++ " \x7b " ++ inspectFields fields ++ " \x7d"

/-- A record of which only some fields are shown; two dots stand for the rest. -/
def inspectPart (name : String) (fields : List (String × String)) : String :=
  name ++ " \x7b " ++ inspectFields fields ++ ", .. \x7d"

/-- One case of an alternative, with its content. -/
def inspectCase (name content : String) : String :=
  name ++ "(" ++ content ++ ")"

def inspectList (items : List String) : String :=
  "[" ++ ", ".intercalate items ++ "]"

/-- A value that may be absent. -/
def inspectOption : Option String → String
  | none => "None"
  | some content => inspectCase "Some" content

def inspectBool (value : Bool) : String :=
  if value then "true" else "false"

end MeshControl.Text
