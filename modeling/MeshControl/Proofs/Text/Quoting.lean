import MeshControl.Proofs.Json.RoundTrip
import MeshControl.Text.Quoted

/-!
Finding the parts of a message again.

A message is put together from fixed words and from values. A value without some mark ends where the
mark follows. A quoted value can have any character, and it still ends at one place only: the first quote
that is not behind a backslash. That is shown by a reader, which knows in every place whether the next
character stands for itself.

Main statements: `readQuoted_quote`, `quote_append_inj`.
-/

namespace MeshControl.Text

/-- Where the reader of a quoted text is: among its characters, behind a backslash, or among the
digits of a code, of which it has read some. -/
inductive Place where
  | content
  | escape
  | code (digits : List Char)

/-- The character that a backslash and a mark stand for. -/
def unmark : Char → Option Char
  | '"' => some '"'
  | '\\' => some '\\'
  | '0' => some '\x00'
  | 't' => some '\t'
  | 'n' => some '\n'
  | 'r' => some '\r'
  | _ => none

/-- The characters from some place up to the closing quote, and what comes behind the quote. -/
def readFrom : Place → List Char → Option (List Char × List Char)
  | _, [] => none
  | .content, '"' :: after => some ([], after)
  | .content, '\\' :: rest => readFrom .escape rest
  | .content, c :: rest => Json.prepend (some c) (readFrom .content rest)
  | .escape, 'u' :: '\x7b' :: rest => readFrom (.code []) rest
  | .escape, mark :: rest => Json.prepend (unmark mark) (readFrom .content rest)
  | .code digits, '\x7d' :: rest =>
    Json.prepend ((readHexadecimal digits).bind Json.ofCode) (readFrom .content rest)
  | .code digits, digit :: rest => readFrom (.code (digits ++ [digit])) rest

/-- The content of a quoted text, and what comes behind the text. -/
def readQuoted : List Char → Option (List Char × List Char)
  | '"' :: rest => readFrom .content rest
  | _ => none

/-- A character without an escape is read as it stands. -/
theorem readFrom_plain {c : Char} (unquoted : c ≠ '"') (unescaped : c ≠ '\\') (rest : List Char) :
    readFrom .content (c :: rest) = Json.prepend (some c) (readFrom .content rest) := by
  rw [readFrom]
  · exact fun same => unquoted same
  · exact fun same => unescaped same

/-- A code is read up to the brace behind its last digit. -/
theorem readFrom_code {digits : List Char} (unclosed : '\x7d' ∉ digits) (before rest : List Char) :
    readFrom (.code before) (digits ++ '\x7d' :: rest) =
      Json.prepend ((readHexadecimal (before ++ digits)).bind Json.ofCode)
        (readFrom .content rest) := by
  induction digits generalizing before with
  | nil => rw [List.nil_append, List.append_nil, readFrom]
  | cons digit digits ih =>
      rcases not_or.mp (mt List.mem_cons.mpr unclosed) with ⟨other, later⟩
      rw [List.cons_append, readFrom, ih later, List.append_assoc, List.singleton_append]
      exact fun same => other same.symm

/-- However a character is shown, it is read as itself. -/
theorem readFrom_escape (c : Char) (rest : List Char) :
    readFrom .content (escape c ++ rest) =
      Json.prepend (some c) (readFrom .content rest) := by
  unfold escape
  split_ifs with quote backslash null tab newline carriageReturn plain
  case pos | pos | pos | pos | pos | pos => subst_vars; rfl
  · exact readFrom_plain quote backslash rest
  · have unclosed : '\x7d' ∉ hexadecimal c.toNat := not_mem_hexadecimal (by decide)
    have code := readFrom_code unclosed [] rest
    rw [List.nil_append, readHexadecimal_hexadecimal, Option.bind_some, Json.ofCode_toNat] at code
    rw [← code]
    simp [readFrom]

/-- A quoted text is read back, and so is where it ends. -/
theorem readQuoted_quote (content rest : List Char) :
    readQuoted (quote content ++ rest) = some (content, rest) := by
  have inside : readFrom .content (content.flatMap escape ++ '"' :: rest) =
      some (content, rest) := by
    induction content with
    | nil => rfl
    | cons c content ih =>
        rw [List.flatMap_cons, List.append_assoc, readFrom_escape, ih]
        rfl
  rw [← inside, quote, List.cons_append, List.append_assoc, List.singleton_append, readQuoted]

theorem quote_append_inj {content content' rest rest' : List Char}
    (same : quote content ++ rest = quote content' ++ rest') :
    content = content' ∧ rest = rest' := by
  have read := readQuoted_quote content rest
  rw [same, readQuoted_quote] at read
  cases read
  exact ⟨rfl, rfl⟩

/-- A control character and a text that looks like its code. -/
example : quoted "\x7f" = "\"\\u\x7b7f\x7d\"" ∧
    quoted "\\u\x7b7f\x7d" = "\"\\\\u\x7b7f\x7d\"" := by decide

end MeshControl.Text
