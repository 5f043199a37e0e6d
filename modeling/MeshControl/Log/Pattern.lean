import MeshControl.Log.Pattern.Escape
import MeshControl.Log.Pattern.Parts
import MeshControl.Text.Blank
import MeshControl.Text.Letter

/-!
Which texts are patterns.

A directive may compare the value of a field with a pattern, a regular expression. The events of a
start-up are never compared with one, so a pattern has no meaning here beyond being one: a
directive with a text that is none cannot be read.

The characters of a text are read one by one, and the reader remembers where in a pattern it
stands. It also sees what is ahead, because a bracket, a dash or an operator of a set can have a
meaning that only the characters behind it show.

There are no tables of Unicode, so a pattern that would need them is refused: a class such as the
digits, a word boundary, or any letter case to be ignored, unless Unicode is switched off. Without
Unicode a class consists of bytes, and one with a byte that is no character is refused too.
-/

namespace MeshControl.Log.Pattern

/-! ## Options -/

/-- The options that decide which patterns there are. -/
structure Options where
  ignoresCase : Bool
  usesUnicode : Bool
  /-- Blanks and comments mean nothing. -/
  ignoresBlanks : Bool
deriving DecidableEq

namespace Options

def initial : Options := ⟨false, true, false⟩

def letters : List Char := "imsURux".toList

def switch (options : Options) (letter : Char) (isOn : Bool) : Options :=
  match letter with
  | 'i' => { options with ignoresCase := isOn }
  | 'u' => { options with usesUnicode := isOn }
  | 'x' => { options with ignoresBlanks := isOn }
  | _ => options

/-- Whether a character can be used. To ignore its case, Unicode's table of cases is needed. -/
def allowsCharacter (options : Options) : Bool :=
  !(options.ignoresCase && options.usesUnicode)

/-- Whether a character can be used that is a byte if Unicode is switched off. The larger bytes are
no characters. -/
def allowsByte (options : Options) (c : Char) : Bool :=
  options.allowsCharacter && (options.usesUnicode || c.toNat < 0x80)

/-- Whether a class, or its complement, can be used. -/
def allowsClass (options : Options) (isNegated : Bool) : Bool :=
  !options.usesUnicode && !isNegated

/-- Whether a class of ASCII characters, or its complement, can be in a set. -/
def allowsNamedClass (options : Options) (isNegated : Bool) : Bool :=
  options.allowsCharacter && (options.usesUnicode || !isNegated)

end Options

/-! ## The reader -/

inductive SetPlace where
  /-- Behind the bracket. -/
  | opened
  /-- Behind a circumflex or some dashes. A closing bracket is a member only in front of these. -/
  | leading (takesBracket : Bool)
  | member
  /-- Between the two characters of an operator. -/
  | operator
  | namedClass
  /-- Behind a member, which is a character if a range can begin with it. -/
  | afterMember (c : Option Char)
  /-- In front of the end of a range. -/
  | rangeEnd (start : Option Char)
deriving DecidableEq

inductive Place where
  | item
  /-- Behind a repetition, which a question mark makes a reluctant one. -/
  | repeated
  /-- Behind an opening parenthesis. -/
  | group
  /-- Behind the question mark in a parenthesis. -/
  | groupKind
  /-- Behind the question mark and the letter that announce a name. -/
  | groupLetter
  | name (read : List Char)
  /-- Among options, of which some were read and may have to be switched off. -/
  | options (read : List Char) (isOff : Bool) (result : Options)
  | set (place : SetPlace)
deriving DecidableEq

structure Reader where
  place : Place
  options : Options
  /-- What was read behind a backslash, if that is not complete. -/
  escape : Option (List Char)
  /-- Whether the reader is in a comment. -/
  inComment : Bool
  /-- What was read of the pattern, or of the innermost group that is open. -/
  parts : Parts
  /-- The options and the parts around each open group, the innermost first. -/
  groups : List (Options × Parts)
  /-- What was read of each open set, the innermost first. -/
  sets : List Parts
  groupNames : List (List Char)
deriving DecidableEq

namespace Reader

/-- A reader in front of a pattern. -/
def initial : Reader := ⟨.item, .initial, none, false, .empty, [], [], []⟩

def moveTo (reader : Reader) (place : Place) : Reader :=
  { reader with place }

/-- The reader behind an item with nothing in it, if the item is allowed. -/
def addItem (reader : Reader) (isAllowed : Bool) : Option Reader :=
  if isAllowed then some { reader with place := .item, parts := reader.parts.add 0 } else none

/-- Open a group, in which other options may hold. -/
def openGroup (reader : Reader) (options : Options) : Reader :=
  { reader with
    place := .item
    options
    parts := .empty
    groups := (reader.options, reader.parts) :: reader.groups }

def closeGroup (reader : Reader) : Option Reader :=
  match reader.groups with
  | [] => none
  | (options, parts) :: groups =>
    some { reader with
      place := .item
      options
      parts := parts.add (reader.parts.depth + 1)
      groups }

def openSet (reader : Reader) : Reader :=
  { reader with place := .set .opened, sets := .empty :: reader.sets }

/-- Close the innermost set. It is a member of the set around it, or else an item. -/
def closeSet (reader : Reader) : Option Reader :=
  match reader.sets with
  | [] => none
  | [set] => some { reader with
      place := .item
      parts := reader.parts.add (set.depth + 1)
      sets := [] }
  | set :: outer :: sets => some { reader with
      place := .set .member
      sets := outer.add (set.depth + 1) :: sets }

/-- Add a member to the innermost set, if the member is allowed. -/
def addMember (reader : Reader) (isAllowed : Bool) (place : SetPlace) : Option Reader :=
  if isAllowed then
    some { reader with place := .set place, sets := reader.sets.modifyHead (·.add 0) }
  else none

/-! ## Items -/

def readItem (reader : Reader) : Char → Option Reader
  | '(' => some (reader.moveTo .group)
  | ')' => reader.closeGroup
  | '|' => some { reader with place := .item, parts := reader.parts.endAlternative }
  | '[' => some reader.openSet
  | '?' | '*' | '+' => do
    return { reader with place := .repeated, parts := ← reader.parts.repeatLast }
  | '\x7b' => none
  | '^' | '$' => reader.addItem true
  | '.' => reader.addItem reader.options.usesUnicode
  | _ => reader.addItem reader.options.allowsCharacter

def readItemEscape (reader : Reader) : Escape → Option Reader
  | .character _ => reader.addItem reader.options.allowsCharacter
  | .byte c => reader.addItem (reader.options.allowsByte c)
  | .charClass isNegated => reader.addItem (reader.options.allowsClass isNegated)
  | .wordBoundary => reader.addItem (!reader.options.usesUnicode)
  | .textEnd => reader.addItem true

/-! ## Groups -/

/-- Read on in the name of a group. It begins with a letter, and no two groups have the same. -/
def readName (reader : Reader) (read : List Char) (c : Char) : Option Reader :=
  if c = '>' then
    if read.isEmpty || reader.groupNames.contains read then none
    else some { reader.openGroup reader.options with groupNames := read :: reader.groupNames }
  else if c == '_' || (if read.isEmpty then Text.isLetter c
      else ".[]".toList.contains c || Text.isLetterOrDigit c) then
    some (reader.moveTo (.name (read ++ [c])))
  else none

/-- Read on among options. Each may stand there once, and a dash is followed by an option. -/
def readOption (reader : Reader) (read : List Char) (isOff : Bool) (result : Options) (c : Char) :
    Option Reader :=
  if c = ':' then
    if read.getLast? = some '-' then none else some (reader.openGroup result)
  else if c = ')' then
    if read.isEmpty || read.getLast? = some '-' then none
    else some { reader with place := .item, options := result, parts := reader.parts.addOptions }
  else if read.contains c then none
  else if c = '-' then some (reader.moveTo (.options (read ++ [c]) true result))
  else if Options.letters.contains c then
    some (reader.moveTo (.options (read ++ [c]) isOff (result.switch c (!isOff))))
  else none

/-! ## Sets -/

def classNames : List String :=
  ["alnum", "alpha", "ascii", "blank", "cntrl", "digit", "graph", "lower", "print", "punct",
    "space", "upper", "word", "xdigit"]

/-- Whether the name of a class, a colon and a bracket are ahead. -/
def seesClassName (ahead : List Char) : Bool :=
  classNames.any fun name => (name ++ ":]").toList.isPrefixOf ahead

/-- Behind a bracket, whether a class between colons is ahead, and whether it is a complement. -/
def seenNamedClass : List Char → Option Bool
  | ':' :: '^' :: ahead => if seesClassName ahead then some true else none
  | ':' :: ahead => if seesClassName ahead then some false else none
  | _ => none

/-- The next character ahead that is not skipped. Of a comment no more than its mark is skipped. -/
def seenBehindBlanks (reader : Reader) (ahead : List Char) : Option Char :=
  if reader.options.ignoresBlanks then
    match ahead.dropWhile Text.isBlank with
    | '#' :: comment => (comment.dropWhile Text.isBlank).head?
    | ahead => ahead.head?
  else ahead.head?

/-- Read a character as a member of a set. Without Unicode the members of sets are bytes. -/
def readCharacter (reader : Reader) (c : Char) : Option Reader :=
  reader.addMember (reader.options.allowsByte c) (.afterMember (some c))

/-- Read the beginning of a member of a set, an operator, or the end of the set. -/
def readMember (reader : Reader) (c : Char) (ahead : List Char) : Option Reader :=
  if c = '[' then
    match seenNamedClass ahead with
    | some isNegated => reader.addMember (reader.options.allowsNamedClass isNegated) .namedClass
    | none => some reader.openSet
  else if c = ']' then reader.closeSet
  else if "&-~".toList.contains c && ahead.head? == some c then
    some { reader with
      place := .set .operator
      sets := reader.sets.modifyHead Parts.endOperand }
  else reader.readCharacter c

/-- Read the end of a range, which is not before its beginning. -/
def readRangeEnd (reader : Reader) (start : Option Char) (stop : Char) : Option Reader :=
  match start with
  | some start =>
    if start ≤ stop && reader.options.allowsByte stop then some (reader.moveTo (.set .member))
    else none
  | none => none

/-- Read on in a set. A dash behind a member begins a range, unless the set, or an operator, seems
to follow. -/
def readSet (reader : Reader) (place : SetPlace) (c : Char) (ahead : List Char) : Option Reader :=
  match place, c with
  | .opened, '^' =>
    if reader.options.usesUnicode then some (reader.moveTo (.set (.leading true))) else none
  | .opened, '-' | .leading _, '-' =>
    reader.addMember (reader.options.allowsByte c) (.leading false)
  | .opened, ']' | .leading true, ']' =>
    reader.addMember (reader.options.allowsByte c) .member
  | .operator, _ | .namedClass, ']' => some (reader.moveTo (.set .member))
  | .namedClass, _ => some reader
  | .afterMember start, '-' =>
    if (reader.seenBehindBlanks ahead).any fun d => d == ']' || d == '-' then
      reader.readMember c ahead
    else some (reader.moveTo (.set (.rangeEnd start)))
  | .rangeEnd start, _ => reader.readRangeEnd start c
  | _, _ => reader.readMember c ahead

/-- Read a member of a set, or the end of a range, that begins with a backslash. -/
def readSetEscape (reader : Reader) (place : SetPlace) (escape : Escape) : Option Reader :=
  match place, escape with
  | .rangeEnd start, .character c | .rangeEnd start, .byte c => reader.readRangeEnd start c
  | .rangeEnd _, _ => none
  | _, .character c | _, .byte c => reader.readCharacter c
  | _, .charClass isNegated =>
    reader.addMember (reader.options.allowsClass isNegated) (.afterMember none)
  | _, .wordBoundary | _, .textEnd => none

/-! ## Texts -/

/-- Whether blanks and comments mean nothing where the reader stands. -/
def skipsBlanks (reader : Reader) : Bool :=
  reader.options.ignoresBlanks &&
    match reader.escape, reader.place with
    | some read, _ => !read.isEmpty
    | none, .item | none, .repeated | none, .group => true
    | none, .set place => place != .namedClass
    | none, _ => false

/-- The reader behind a blank. A repetition is no longer made a reluctant one there. -/
def skip (reader : Reader) : Reader :=
  if reader.place = .repeated then reader.moveTo .item else reader

def readPlain (reader : Reader) (c : Char) (ahead : List Char) : Option Reader :=
  match reader.place, c with
  | .item, _ => reader.readItem c
  | .repeated, '?' => some (reader.moveTo .item)
  | .repeated, _ => reader.readItem c
  | .group, '?' => some (reader.moveTo .groupKind)
  | .group, _ => (reader.openGroup reader.options).readItem c
  | .groupKind, 'P' => some (reader.moveTo .groupLetter)
  | .groupKind, '<' | .groupLetter, '<' => some (reader.moveTo (.name []))
  | .groupKind, _ => reader.readOption [] false reader.options c
  | .groupLetter, _ => none
  | .name read, _ => reader.readName read c
  | .options read isOff result, _ => reader.readOption read isOff result c
  | .set place, _ => reader.readSet place c ahead

def readEscape (reader : Reader) (escape : Escape) : Option Reader :=
  match reader.place with
  | .item | .repeated => reader.readItemEscape escape
  | .group => (reader.openGroup reader.options).readItemEscape escape
  | .set place => reader.readSetEscape place escape
  | _ => none

/-- Read a character, with the characters ahead of it in sight. -/
def read (reader : Reader) (c : Char) (ahead : List Char) : Option Reader :=
  if reader.inComment then some { reader with inComment := c != '\n' }
  else if reader.skipsBlanks && Text.isBlank c then some reader.skip
  else if reader.skipsBlanks && c == '#' then some { reader.skip with inComment := true }
  else
    match reader.escape with
    | some read =>
      let read := read ++ [c]
      if Escape.isComplete read then
        (Escape.read read).bind { reader with escape := none }.readEscape
      else some { reader with escape := some read }
    | none =>
      if c = '\\' then some { reader with escape := some [] } else reader.readPlain c ahead

def readAll (reader : Reader) : List Char → Option Reader
  | [] => some reader
  | c :: ahead => (reader.read c ahead).bind fun reader => reader.readAll ahead

/-- How deep the parts of a pattern may be nested. -/
def depthLimit : Nat := 250

/-- Whether a pattern may end where the reader stands. -/
def isAtEnd (reader : Reader) : Bool :=
  reader.groups.isEmpty && reader.escape.isNone &&
    (reader.place == .item || reader.place == .repeated) &&
    reader.parts.depth ≤ depthLimit

end Reader

def isPattern (text : List Char) : Bool :=
  (Reader.initial.readAll text).any Reader.isAtEnd

end MeshControl.Log.Pattern
