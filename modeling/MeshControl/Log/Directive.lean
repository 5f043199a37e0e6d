import MeshControl.Log.Event
import MeshControl.Log.Pattern

/-!
Directives of a filter.

A directive gives a level for the parts of the program whose names begin in some way, or for all
of them. It may ask for a field: it is then only about events that have the field. Scopes stand in
square brackets, and a directive that names one, or that compares the value of a field in it, is
about events within scopes; the events of a start-up are in none.
-/

namespace MeshControl.Log

/-- A condition of a directive: a field that has to be there, and that may be compared. -/
structure FieldCondition where
  name : List Char
  isCompared : Bool
deriving DecidableEq

structure Directive where
  /-- The beginning of the names that it applies to. -/
  target : List Char
  /-- Whether it names a scope. -/
  isScoped : Bool
  condition : Option FieldCondition
  /-- The last level that is written, or zero for none. -/
  threshold : Nat
deriving DecidableEq

/-! ## Levels -/

/-- Everything is written where no level is given. -/
def fullThreshold : Nat := Level.trace.rank

/-- The names of the levels in directives; there is one for none of them. -/
def thresholdNames : List (String × Nat) :=
  ("off", 0) ::
    [Level.error, .warn, .info, .debug, .trace].map fun level =>
      (level.title.toLower, level.rank)

/-- The level of a name in any case, or of its position. -/
def readThreshold (text : List Char) : Option Nat :=
  match Text.readUnsigned (fullThreshold + 1) text with
  | some rank => some rank.val
  | none =>
    (thresholdNames.find? fun entry => entry.1.toList == text.map Char.toLower).map (·.2)

/-- The level behind an equals sign, where none means all. -/
def readLevel (text : List Char) : Option Nat :=
  if text.isEmpty then some fullThreshold else readThreshold text

/-! ## Conditions -/

/-- The text without a sign in front of it. -/
def withoutSign : List Char → List Char
  | '+' :: text | '-' :: text => text
  | text => text

def isExponent : List Char → Bool
  | [] => true
  | 'e' :: text | 'E' :: text => (Text.readDigits (withoutSign text)).isSome
  | _ => false

/-- A number with a sign, a point and an exponent, of which all can be missing, or a word for a
number without digits. -/
def isNumber (text : List Char) : Bool :=
  let text := withoutSign text
  let (whole, rest) := text.span Char.isDigit
  let (fraction, rest) := match rest with
    | '.' :: rest => rest.span Char.isDigit
    | rest => ([], rest)
  ["inf", "infinity", "nan"].any (fun word => word.toList == text.map Char.toLower) ||
    (!(whole ++ fraction).isEmpty && isExponent rest)

/-- A condition: the name of a field, and a value that is a number or a pattern. What follows a
second equals sign does not count. -/
def FieldCondition.read (text : List Char) : Option FieldCondition :=
  match text.splitOn '=' with
  | name :: value :: _ =>
    if isNumber value || Pattern.isPattern value then some ⟨name, true⟩ else none
  | _ => if text.isEmpty then none else some ⟨text, false⟩

/-! ## Pieces of a text -/

def byteLength (text : List Char) : Nat :=
  (text.map Char.utf8Size).foldr (· + ·) 0

/-- The text behind its first bytes, unless a character would be divided. -/
def dropBytes : Nat → List Char → Option (List Char)
  | 0, text => some text
  | _ + 1, [] => none
  | count + 1, c :: text =>
    if c.utf8Size ≤ count + 1 then dropBytes (count + 1 - c.utf8Size) text else none

/-- The first bytes of a text, unless a character would be divided. -/
def takeBytes : Nat → List Char → Option (List Char)
  | 0, _ => some []
  | _ + 1, [] => none
  | count + 1, c :: text =>
    if c.utf8Size ≤ count + 1 then (takeBytes (count + 1 - c.utf8Size) text).map (c :: ·)
    else none

namespace Directive

/-! ## Reading -/

/-- Whether a directive may begin with a character, if it does not begin with a scope. -/
def beginsName (c : Char) : Bool :=
  "-:_".toList.contains c || Text.isLetterOrDigit c

/-- A directive: a level alone, or a name, a scope and a level of which any may be missing.

The marks between the parts are looked for in the text without the blanks around it, but the parts
are cut out of the whole text at the same distances from its beginning. So a blank in front of a
directive shifts every part of it, and one behind it belongs to the last part. -/
def read (text : List Char) : Option Directive := do
  let scanned := Text.trim text
  let textFrom (start : List Char) := dropBytes (byteLength scanned - byteLength start) text
  let piece (start stop : List Char) := do
    takeBytes (byteLength start - byteLength stop) (← textFrom start)
  let levelOf : List Char → Option Nat
    | [] => some fullThreshold
    | '=' :: level => do readLevel (← textFrom level)
    | _ => none
  if !(scanned.head?.any fun c => c == '[' || beginsName c) then none
  let rest := scanned.dropWhile fun c => c ≠ '=' && c ≠ '['
  match rest with
  | [] =>
    match readThreshold text with
    | some threshold => return ⟨[], false, none, threshold⟩
    | none => return ⟨text, false, none, fullThreshold⟩
  | '[' :: scope =>
    let target ← piece scanned rest
    let ending := scope.dropWhile fun c => c ≠ ']' && c ≠ '\x7b'
    match ending with
    | ']' :: rest => return ⟨target, true, none, ← levelOf rest⟩
    | _ :: conditions =>
      let closing := conditions.dropWhile (· ≠ '\x7d')
      let condition ← FieldCondition.read (← piece conditions closing)
      match closing with
      | _ :: ']' :: rest =>
        return ⟨target, scope.length ≠ ending.length, some condition, ← levelOf rest⟩
      | _ => none
    | [] => none
  | _ => return ⟨← piece scanned rest, false, none, ← levelOf rest⟩

/-! ## Deciding -/

def appliesTo (directive : Directive) (event : Event) : Bool :=
  !directive.isScoped && directive.target.isPrefixOf event.target.toList &&
    directive.condition.all fun condition =>
      !condition.isCompared && event.fieldNames.any (·.toList == condition.name)

/-- Whether a directive decides about an event to which an earlier one applies as well. The longer
name counts first, then a condition, then the name of the field that comes later in the order of
texts; of two that are alike the later one decides. -/
def overrules (later earlier : Directive) : Bool :=
  if later.target.length ≠ earlier.target.length then
    earlier.target.length < later.target.length
  else
    match later.condition, earlier.condition with
    | some condition, some other => !(condition.name < other.name)
    | none, some _ => false
    | _, none => true

end Directive

end MeshControl.Log
