import MeshControl.Json

/-!
A reader of JSON.

The debug pages are for other programs, and these read them without knowing how they were written.
So this reader takes every compact or spaced text of the values there are, with any escapes. What
the format has beyond these values, such as truth values, fractions and negative numbers, is refused
like a text that is no JSON at all.

A text is cut into tokens first. The value is put together from the tokens with a stack of the lists
and records that are still open, so that every token is looked at once.
-/

namespace MeshControl.Json

/-! ## Texts -/

/-- The character that a backslash and a mark stand for. -/
def unescape : Char → Option Char
  | '"' => some '"'
  | '\\' => some '\\'
  | '/' => some '/'
  | 'b' => some '\x08'
  | 'f' => some '\x0c'
  | 'n' => some '\n'
  | 'r' => some '\r'
  | 't' => some '\t'
  | _ => none

/-- The character of a code, unless the code is half of a pair. -/
def ofCode (code : Nat) : Option Char :=
  if code.isValidChar then some (Char.ofNat code) else none

/-- The character beyond the first plane that a pair of codes stands for. -/
def ofPair (high low : Nat) : Option Char :=
  if 0xd800 ≤ high ∧ high < 0xdc00 ∧ 0xdc00 ≤ low ∧ low < 0xe000 then
    ofCode (0x10000 + 0x400 * (high - 0xd800) + (low - 0xdc00))
  else none

/-- The next character of a text, before the characters that were read behind it. -/
def prepend (c : Option Char) (text : Option (List Char × List Char)) :
    Option (List Char × List Char) :=
  c.bind fun c => text.map fun (content, after) => (c :: content, after)

/-- The text up to the closing quote, and what comes after the quote. -/
def readText : List Char → Option (List Char × List Char)
  | [] => none
  | '"' :: after => some ([], after)
  | '\\' :: 'u' :: a :: b :: c :: d :: rest =>
    match Text.readHexadecimal [a, b, c, d] with
    | none => none
    | some code =>
      if code.isValidChar then prepend (ofCode code) (readText rest)
      else match rest with
        | '\\' :: 'u' :: e :: f :: g :: h :: rest =>
          prepend ((Text.readHexadecimal [e, f, g, h]).bind (ofPair code)) (readText rest)
        | _ => none
  | '\\' :: mark :: rest => prepend (unescape mark) (readText rest)
  | c :: rest => if c.toNat < 0x20 then none else prepend (some c) (readText rest)

theorem exists_of_prepend {c : Option Char} {text : Option (List Char × List Char)}
    {content after : List Char} (read : prepend c text = some (content, after)) :
    ∃ content, text = some (content, after) := by
  cases c with
  | none => cases read
  | some c =>
      rcases Option.map_eq_some_iff.mp read with ⟨⟨content, after⟩, earlier, same⟩
      cases same
      exact ⟨content, earlier⟩

/-- Reading a text takes the closing quote at least. -/
theorem length_of_readText {text content after : List Char}
    (read : readText text = some (content, after)) : after.length < text.length := by
  fun_induction readText text generalizing content with
  | case1 | case3 | case6 | case8 => cases read
  | case2 rest =>
      cases read
      exact Nat.lt_succ_self _
  | case4 _ _ _ _ rest _ _ _ inductionHypothesis
  | case5 _ _ _ _ _ _ _ _ _ _ _ rest inductionHypothesis
  | case7 _ rest _ inductionHypothesis
  | case9 _ rest _ _ _ _ inductionHypothesis =>
      rcases exists_of_prepend read with ⟨content, earlier⟩
      have shorter := inductionHypothesis earlier
      simp only [List.length_cons]
      omega

/-! ## Tokens -/

inductive Token where
  | openList
  | closeList
  | openRecord
  | closeRecord
  | comma
  | colon
  | null
  | number (value : Nat)
  | text (content : String)
deriving DecidableEq

/-- The token of a mark between values. -/
def Token.ofMark : Char → Option Token
  | '[' => some openList
  | ']' => some closeList
  | '\x7b' => some openRecord
  | '\x7d' => some closeRecord
  | ',' => some comma
  | ':' => some colon
  | _ => none

/-- The characters that may stand between tokens. -/
def isSpace (c : Char) : Bool :=
  c = ' ' || c = '\t' || c = '\n' || c = '\r'

/-- A number has no leading zero. -/
def readNumber : List Char → Option Nat
  | '0' :: _ :: _ => none
  | digits => Text.readDigits digits

def readTokens : List Char → Option (List Token)
  | [] => some []
  | 'n' :: 'u' :: 'l' :: 'l' :: rest => (readTokens rest).map (.null :: ·)
  | first :: rest =>
    if first = '"' then
      match _ : readText rest with
      | none => none
      | some (content, after) => (readTokens after).map (.text (String.ofList content) :: ·)
    else if first.isDigit then
      (readNumber (first :: rest.takeWhile Char.isDigit)).bind fun value =>
        (readTokens (rest.dropWhile Char.isDigit)).map (.number value :: ·)
    else if isSpace first then readTokens rest
    else (Token.ofMark first).bind fun mark => (readTokens rest).map (mark :: ·)
termination_by text => text.length
decreasing_by
  · simp only [List.length_cons]
    omega
  · have := length_of_readText ‹_›
    simp only [List.length_cons]
    omega
  · have := (List.dropWhile_suffix (l := rest) Char.isDigit).length_le
    simp only [List.length_cons]
    omega
  · simp
  · simp

/-! ## Values -/

/-- A list or a record that is still open, with what was read of it. A record waits for the value of
a field. -/
inductive Frame where
  | list (items : List Json)
  | record (fields : List (String × Json)) (name : String)

mutual

/-- Read a value inside the frames. -/
def readValue (frames : List Frame) : List Token → Option Json
  | .null :: rest => readOn frames .null rest
  | .number value :: rest => readOn frames (.number value) rest
  | .text content :: rest => readOn frames (.text content) rest
  | .openList :: .closeList :: rest => readOn frames (.list []) rest
  | .openList :: rest => readValue (.list [] :: frames) rest
  | .openRecord :: .closeRecord :: rest => readOn frames (.record []) rest
  | .openRecord :: .text name :: .colon :: rest => readValue (.record [] name :: frames) rest
  | _ => none

/-- Go on behind a value: close a frame or read its next value, until all frames are closed. -/
def readOn : List Frame → Json → List Token → Option Json
  | [], value, [] => some value
  | .list items :: frames, value, .comma :: rest =>
    readValue (.list (items ++ [value]) :: frames) rest
  | .list items :: frames, value, .closeList :: rest =>
    readOn frames (.list (items ++ [value])) rest
  | .record fields name :: frames, value, .comma :: .text next :: .colon :: rest =>
    readValue (.record (fields ++ [(name, value)]) next :: frames) rest
  | .record fields name :: frames, value, .closeRecord :: rest =>
    readOn frames (.record (fields ++ [(name, value)])) rest
  | _, _, _ => none

end

/-- The value of a text, if the text is JSON and has no other values than those there are. -/
def read (text : String) : Option Json :=
  (readTokens text.toList).bind (readValue [])

example : read " \x7b \"\\u0061\\ud83d\\uDE00\\/\" : [ 1,\tnull ] \x7d\n" =
    some (.record [("a😀/", .list [.number 1, .null])]) := by cbv

end MeshControl.Json
