import MeshControl.Proofs.Json.Reader
import MeshControl.Proofs.Text.Cutting
import MeshControl.Proofs.Text.Numerals

/-!
JSON values survive being written and read.

The proof follows the reader. An escaped character is one way to write that character, so texts
come back. A number ends where no digit follows, and what is written behind a number never begins
with a digit, so the written parts of a value are cut into the tokens that they stand for. The
tokens of a value take the reader from the place before it to the place behind it, whatever is open
around it, so nested values come back as well.

Main statement: `read_compact`.
-/

namespace MeshControl.Json

/-! ## Texts -/

theorem isValidChar_toNat (c : Char) : c.toNat.isValidChar := c.valid

theorem ofCode_toNat (c : Char) : ofCode c.toNat = some c := by
  rw [ofCode, if_pos (isValidChar_toNat c), Char.ofNat_toNat]

/-- A control below the space is written with two hexadecimal digits, after two zeros. -/
theorem readHexadecimal_control {code : Nat} (control : code < 0x20) :
    Text.readHexadecimal ['0', '0', Nat.digitChar (code / 16), Nat.digitChar (code % 16)] =
      some code := by
  have all : ∀ code < 0x20, Text.readHexadecimal
      ['0', '0', Nat.digitChar (code / 16), Nat.digitChar (code % 16)] = some code := by decide
  exact all code control

/-- A character without an escape is read as it stands. -/
theorem readText_plain {c : Char} (unquoted : c ≠ '"') (unescaped : c ≠ '\\')
    (visible : ¬ c.toNat < 0x20) (rest : List Char) :
    readText (c :: rest) = prepend (some c) (readText rest) := by
  rw [readText, if_neg visible]
  · exact fun same => unquoted same
  · intro _ _ _ _ _ same
    exact absurd same unescaped
  · intro _ _ same
    exact absurd same unescaped

/-- However a character is written, it is read as itself. -/
theorem readText_escape (c : Char) (rest : List Char) :
    readText (escape c ++ rest) = prepend (some c) (readText rest) := by
  unfold escape
  split_ifs with quote backslash backspace formFeed newline carriageReturn tab control
  case pos | pos | pos | pos | pos | pos | pos => subst_vars; rfl
  · simp only [List.cons_append, List.nil_append, readText]
    rw [readHexadecimal_control control, ← ofCode_toNat c]
    exact if_pos (isValidChar_toNat c)
  · exact readText_plain quote backslash control rest

theorem readText_flatMap_escape (content rest : List Char) :
    readText (content.flatMap escape ++ '"' :: rest) = some (content, rest) := by
  induction content with
  | nil => rfl
  | cons c content inductionHypothesis =>
      rw [List.flatMap_cons, List.append_assoc, readText_escape, inductionHypothesis]
      rfl

/-! ## Tokens -/

mutual

/-- The tokens of a value. -/
def tokens : Json → List Token
  | null => [.null]
  | number value => [.number value]
  | text content => [.text content]
  | list [] => [.openList, .closeList]
  | list (item :: rest) => .openList :: (tokens item ++ (itemTokens rest ++ [.closeList]))
  | record [] => [.openRecord, .closeRecord]
  | record ((name, value) :: rest) =>
    .openRecord :: .text name :: .colon :: (tokens value ++ (fieldTokens rest ++ [.closeRecord]))

/-- The tokens of the items behind the first. -/
def itemTokens : List Json → List Token
  | [] => []
  | item :: rest => .comma :: (tokens item ++ itemTokens rest)

/-- The tokens of the fields behind the first. -/
def fieldTokens : List (String × Json) → List Token
  | [] => []
  | (name, value) :: rest => .comma :: .text name :: .colon :: (tokens value ++ fieldTokens rest)

end

/-- What follows does not go on with a number. -/
def Undigited (rest : List Char) : Prop :=
  ∀ c, rest.head? = some c → c.isDigit = false

theorem undigited_cons {c : Char} (other : c.isDigit = false) (rest : List Char) :
    Undigited (c :: rest) := by
  rintro _ ⟨⟩
  exact other

theorem readTokens_mark {mark : Char} {token : Token} (found : Token.ofMark mark = some token)
    (rest : List Char) : readTokens (mark :: rest) = (readTokens rest).map (token :: ·) := by
  unfold Token.ofMark at found
  split at found <;> cases found <;> simp [readTokens, isSpace, Token.ofMark]

theorem readTokens_text (content : String) (rest : List Char) :
    readTokens (writeText content.toList ++ rest) =
      (readTokens rest).map (.text content :: ·) := by
  have whole : writeText content.toList ++ rest =
      '"' :: (content.toList.flatMap escape ++ '"' :: rest) := by
    simp [writeText]
  rw [whole, readTokens, if_pos rfl]
  · split
    case h_1 missing =>
      rw [readText_flatMap_escape] at missing
      cases missing
    case h_2 found =>
      rw [readText_flatMap_escape] at found
      cases found
      rw [String.ofList_toList]
  · intro _ same
    exact absurd same (by decide)

theorem readNumber_decimal (value : Nat) : readNumber (Text.decimal value) = some value := by
  have read := Text.readDigits_decimal value
  unfold readNumber
  split
  case h_1 second rest written =>
      have zero : value = 0 := Text.eq_zero_of_head_decimal (by rw [written, List.head?_cons])
      rw [zero] at written
      cases written
  case h_2 => exact read

/-- A number ends in front of what is no digit. -/
theorem readTokens_number (value : Nat) {rest : List Char} (undigited : Undigited rest) :
    readTokens (Text.decimal value ++ rest) = (readTokens rest).map (.number value :: ·) := by
  have digits : ∀ digit ∈ Text.decimal value, digit.isDigit = true :=
    fun _ written => Text.isDigit_of_mem_decimal written
  have number := readNumber_decimal value
  cases written : Text.decimal value with
  | nil => exact absurd written Nat.toDigits_ne_nil
  | cons first more =>
      rw [written] at digits number
      have front : ∀ digit ∈ more, digit.isDigit = true :=
        fun digit member => digits digit (List.mem_cons_of_mem first member)
      have numeral : first.isDigit = true := digits first List.mem_cons_self
      -- The first digit keeps the reader from taking the number for a text or the absent value.
      have unquoted : first ≠ '"' := by
        rintro rfl
        cases numeral
      rw [List.cons_append, readTokens, if_neg unquoted, if_pos numeral,
        Text.takeWhile_append_of_ends front undigited,
        Text.dropWhile_append_of_ends front undigited, number, Option.bind_some]
      rintro _ rfl
      cases numeral

/-- A part of a list or record behind the first. The writer looks ahead to tell whether a part is the
last; it is easier to follow if the comma belongs to the part behind it. -/
def writeNext {Part : Type} (write : Part → List Char) (part : Part) : List Char :=
  ',' :: write part

def writeField (field : String × Json) : List Char :=
  writeText field.1.toList ++ ':' :: write field.2

theorem writeItems_cons (item : Json) (items : List Json) :
    writeItems (item :: items) = write item ++ items.flatMap (writeNext write) := by
  induction items generalizing item with
  | nil => rw [writeItems, List.flatMap_nil, List.append_nil]
  | cons next items inductionHypothesis =>
      rw [writeItems, inductionHypothesis, List.flatMap_cons, writeNext, List.cons_append]
      exact List.cons_ne_nil next items

theorem writeFields_cons (field : String × Json) (fields : List (String × Json)) :
    writeFields (field :: fields) = writeField field ++ fields.flatMap (writeNext writeField) := by
  induction fields generalizing field with
  | nil => rw [writeFields, List.flatMap_nil, List.append_nil, writeField]
  | cons next fields inductionHypothesis =>
      rw [writeFields, inductionHypothesis, List.flatMap_cons, writeNext]
      · simp only [writeField, List.append_assoc, List.cons_append]
      · exact List.cons_ne_nil next fields

theorem undigited_flatMap {Part : Type} (write : Part → List Char) (parts : List Part)
    {rest : List Char} (undigited : Undigited rest) :
    Undigited (parts.flatMap (writeNext write) ++ rest) := by
  cases parts with
  | nil => exact undigited
  | cons part parts => exact undigited_cons rfl _

mutual

/-- A written value is cut into its tokens, and what follows it into the tokens of that. -/
theorem readTokens_write (value : Json) {rest : List Char} (undigited : Undigited rest) :
    readTokens (write value ++ rest) = (readTokens rest).map (tokens value ++ ·) := by
  match value with
  | null =>
      rw [write, tokens]
      simp only [List.cons_append, List.nil_append, readTokens]
  | number value => exact readTokens_number value undigited
  | text content => exact readTokens_text content rest
  | list [] =>
      rw [write, writeItems, List.nil_append, List.cons_append, List.singleton_append,
        readTokens_mark rfl, readTokens_mark rfl, Option.map_map]
      rfl
  | list (item :: items) =>
      -- An item is followed by a comma or by the bracket, so a number that is an item ends there.
      have closed : Undigited (']' :: rest) := undigited_cons rfl rest
      rw [write, List.cons_append, List.append_assoc, List.singleton_append, writeItems_cons,
        List.append_assoc, readTokens_mark rfl,
        readTokens_write item (undigited_flatMap write items closed),
        readTokens_writeItems items closed, readTokens_mark rfl]
      simp [tokens, Function.comp_def]
  | record [] =>
      rw [write, writeFields, List.nil_append, List.cons_append, List.singleton_append,
        readTokens_mark rfl, readTokens_mark rfl, Option.map_map]
      rfl
  | record ((name, value) :: fields) =>
      have closed : Undigited ('\x7d' :: rest) := undigited_cons rfl rest
      rw [write, List.cons_append, List.append_assoc, List.singleton_append, writeFields_cons,
        writeField, List.append_assoc, List.append_assoc, List.cons_append,
        readTokens_mark rfl, readTokens_text, readTokens_mark rfl,
        readTokens_write value (undigited_flatMap writeField fields closed),
        readTokens_writeFields fields closed, readTokens_mark rfl]
      simp [tokens, Function.comp_def]

theorem readTokens_writeItems (items : List Json) {rest : List Char}
    (undigited : Undigited rest) :
    readTokens (items.flatMap (writeNext write) ++ rest) =
      (readTokens rest).map (itemTokens items ++ ·) := by
  match items with
  | [] => simp [itemTokens]
  | item :: items =>
      rw [List.flatMap_cons, writeNext, List.append_assoc, List.cons_append,
        readTokens_mark rfl, readTokens_write item (undigited_flatMap write items undigited),
        readTokens_writeItems items undigited]
      simp [itemTokens, Function.comp_def]

theorem readTokens_writeFields (fields : List (String × Json)) {rest : List Char}
    (undigited : Undigited rest) :
    readTokens (fields.flatMap (writeNext writeField) ++ rest) =
      (readTokens rest).map (fieldTokens fields ++ ·) := by
  match fields with
  | [] => simp [fieldTokens]
  | (name, value) :: fields =>
      rw [List.flatMap_cons, writeNext, writeField, List.append_assoc, List.cons_append,
        List.append_assoc, List.cons_append, readTokens_mark rfl, readTokens_text,
        readTokens_mark rfl,
        readTokens_write value (undigited_flatMap writeField fields undigited),
        readTokens_writeFields fields undigited]
      simp [fieldTokens, Function.comp_def]

end

/-! ## Values -/

/-- No value begins with the end of a list. -/
theorem readValue_openList (frames : List Frame) (value : Json) (rest : List Token) :
    readValue frames (.openList :: (tokens value ++ rest)) =
      readValue (.list [] :: frames) (tokens value ++ rest) := by
  match value with
  | null | number _ | text _ | list [] | list (_ :: _) | record [] | record (_ :: _) => rfl

mutual

/-- The tokens of a value take the reader from before the value to behind it. -/
theorem readValue_tokens (frames : List Frame) (value : Json) (rest : List Token) :
    readValue frames (tokens value ++ rest) = readOn frames value rest := by
  match value with
  | null | number _ | text _ | list [] | record [] => rfl
  | list (item :: items) =>
      rw [tokens, List.cons_append, List.append_assoc, List.append_assoc, readValue_openList,
        readValue_tokens, List.singleton_append, readOn_itemTokens, List.nil_append]
  | record ((name, value) :: fields) =>
      rw [tokens, List.cons_append, List.cons_append, List.cons_append, List.append_assoc,
        List.append_assoc, readValue, readValue_tokens, List.singleton_append,
        readOn_fieldTokens, List.nil_append]

/-- The items behind the first of a list are read into it. -/
theorem readOn_itemTokens (frames : List Frame) (done : List Json) (item : Json)
    (items : List Json) (rest : List Token) :
    readOn (.list done :: frames) item (itemTokens items ++ .closeList :: rest) =
      readOn frames (.list (done ++ item :: items)) rest := by
  match items with
  | [] => rfl
  | next :: items =>
      rw [itemTokens, List.cons_append, List.append_assoc, readOn, readValue_tokens,
        readOn_itemTokens, List.append_assoc, List.singleton_append]

/-- The fields behind the first of a record are read into it. -/
theorem readOn_fieldTokens (frames : List Frame) (done : List (String × Json)) (name : String)
    (value : Json) (fields : List (String × Json)) (rest : List Token) :
    readOn (.record done name :: frames) value (fieldTokens fields ++ .closeRecord :: rest) =
      readOn frames (.record (done ++ (name, value) :: fields)) rest := by
  match fields with
  | [] => rfl
  | (next, following) :: fields =>
      rw [fieldTokens, List.cons_append, List.cons_append, List.cons_append, List.append_assoc,
        readOn, readValue_tokens, readOn_fieldTokens, List.append_assoc, List.singleton_append]

end

theorem read_compact (value : Json) : read value.compact = some value := by
  have cut : readTokens (write value) = some (tokens value) := by
    have ended : Undigited [] := nofun
    have written := readTokens_write value ended
    rw [List.append_nil, readTokens, Option.map_some, List.append_nil] at written
    exact written
  have built := readValue_tokens [] value []
  rw [List.append_nil] at built
  rw [read, compact, String.toList_ofList, cut, Option.bind_some, built, readOn]

end MeshControl.Json
