import Mathlib.Data.List.Basic
import Mathlib.Data.Char

/-!
# JSON texts

JSON values, the text that a value is written as, and a reader that takes one
character at a time.  The reader keeps the arrays and objects that are still open
on a stack, so that what it has accepted can never be continued by more than white
space: a text that an object is written as has no prefix that can be read.

Text outside strings is ASCII.  A character of a string is written as it is unless
it is a quote, a backslash or a control character.
-/

namespace EaBot.Foundation

namespace Json

/-- Whether the character can stand in a word or a number. -/
def isBare (char : Char) : Bool :=
  char.isAlphanum || char == '+' || char == '-' || char == '.'

/-- Whether the characters after a run of digits meet a condition. -/
def afterDigits (next : List Char → Bool) : List Char → Bool
  | [] => next []
  | char :: rest => if char.isDigit then afterDigits next rest else next (char :: rest)

/-- Whether there is at least one digit, and what follows the digits meets a
condition. -/
def digitsThen (next : List Char → Bool) : List Char → Bool
  | [] => false
  | char :: rest => char.isDigit && afterDigits next rest

/-- Whether the characters are nothing or an exponent. -/
def isExponent : List Char → Bool
  | [] => true
  | mark :: '+' :: rest => (mark == 'e' || mark == 'E') && digitsThen List.isEmpty rest
  | mark :: '-' :: rest => (mark == 'e' || mark == 'E') && digitsThen List.isEmpty rest
  | mark :: rest => (mark == 'e' || mark == 'E') && digitsThen List.isEmpty rest

/-- Whether the characters are a fraction, an exponent, both or nothing. -/
def isFraction : List Char → Bool
  | '.' :: rest => digitsThen isExponent rest
  | chars => isExponent chars

/-- Whether the characters are a number without a sign. -/
def isMagnitude : List Char → Bool
  | '0' :: rest => isFraction rest
  | chars => digitsThen isFraction chars

/-- Whether the characters are a number or one of the three words for a number that
is not finite. -/
def isNumeral : List Char → Bool
  | ['N', 'a', 'N'] => true
  | ['I', 'n', 'f', 'i', 'n', 'i', 't', 'y'] => true
  | ['-', 'I', 'n', 'f', 'i', 'n', 'i', 't', 'y'] => true
  | '-' :: rest => isMagnitude rest
  | chars => isMagnitude chars

/-- A number as it is spelt. -/
structure Numeral where
  chars : List Char
  bare : chars.all isBare = true
  valid : isNumeral chars = true
deriving DecidableEq

/-! ## Natural numbers -/

theorem afterDigits_of_digits {next : List Char → Bool} {chars : List Char}
    (digits : ∀ char ∈ chars, char.isDigit = true) : afterDigits next chars = next [] := by
  induction chars with
  | nil => rfl
  | cons char rest ih =>
      have now : char.isDigit = true := digits char List.mem_cons_self
      rw [afterDigits, if_pos now]
      exact ih fun other member => digits other (.tail _ member)

/-- The digits of a positive number do not begin with a zero. -/
theorem toDigits_head {n : Nat} (positive : 0 < n) :
    ∃ char rest, Nat.toDigits 10 n = char :: rest ∧ char ≠ '0' := by
  induction n using Nat.strongRecOn with
  | _ n ih =>
      by_cases small : n < 10
      · refine ⟨n.digitChar, [], Nat.toDigits_of_lt_base small, ?_⟩
        rw [ne_eq, Nat.digitChar_eq_zero]
        omega
      · rcases ih (n / 10) (by omega) (by omega) with ⟨char, rest, digits, solid⟩
        refine ⟨char, rest ++ [Nat.digitChar (n % 10)], ?_, solid⟩
        rw [Nat.toDigits_of_base_le (by omega) (by omega), digits, List.cons_append]

theorem isNumeral_toDigits (n : Nat) : isNumeral (Nat.toDigits 10 n) = true := by
  rcases Nat.eq_zero_or_pos n with rfl | positive
  · rfl
  · rcases toDigits_head positive with ⟨char, rest, digits, solid⟩
    have every : ∀ other ∈ char :: rest, other.isDigit = true := by
      intro other member
      rw [← digits] at member
      exact Nat.isDigit_of_mem_toDigits (by omega) (by omega) member
    have first : char.isDigit = true := every char List.mem_cons_self
    have later : afterDigits isFraction rest = true :=
      afterDigits_of_digits fun other member => every other (.tail _ member)
    rw [digits, isNumeral, isMagnitude, digitsThen, first, later]
    · rfl
    · intro _ zero
      exact solid (List.cons.inj zero).1
    · intro same
      cases same
      cases first
    · intro same
      cases same
      cases first
    · intro same
      cases same
      cases first
    · intro _ same
      cases same
      cases first

theorem all_bare_toDigits (n : Nat) : (Nat.toDigits 10 n).all isBare = true := by
  apply List.all_eq_true.mpr
  intro char member
  have digit := Nat.isDigit_of_mem_toDigits (by omega) (by omega) member
  simp [isBare, Char.isAlphanum, digit]

/-- A natural number as it is spelt. -/
def Numeral.ofNat (n : Nat) : Numeral :=
  ⟨Nat.toDigits 10 n, all_bare_toDigits n, isNumeral_toDigits n⟩

end Json

/-- A JSON value. -/
inductive Json
  | null
  | bool (value : Bool)
  | number (value : Json.Numeral)
  | str (value : String)
  | arr (items : List Json)
  | obj (fields : List (String × Json))

namespace Json

/-- The value of a field; the last one of its name counts. -/
def get (fields : List (String × Json)) (name : String) : Option Json :=
  (fields.reverse.find? fun field => field.1 = name).map Prod.snd

/-- Whether the value is null. -/
def isNull : Json → Bool
  | null => true
  | _ => false

/-- Whether the value counts as true in a condition. -/
def truthy : Json → Bool
  | null => false
  | bool value => value
  | number value =>
      (value.chars.takeWhile fun char => char ≠ 'e' && char ≠ 'E').any fun char =>
        char ∈ ['1', '2', '3', '4', '5', '6', '7', '8', '9', 'I', 'N']
  | str value => value ≠ ""
  | arr items => !items.isEmpty
  | obj fields => !fields.isEmpty

/-! ## Writing -/

/-- The character of a hexadecimal digit. -/
def hexDigit (digit : Nat) : Char :=
  if digit < 10 then Char.ofNat ('0'.toNat + digit) else Char.ofNat ('a'.toNat + digit - 10)

/-- A character of a string. -/
def writeChar (char : Char) : List Char :=
  if char = '"' then ['\\', '"']
  else if char = '\\' then ['\\', '\\']
  else if char = '\n' then ['\\', 'n']
  else if char = '\r' then ['\\', 'r']
  else if char = '\t' then ['\\', 't']
  else if char = '\x0c' then ['\\', 'f']
  else if char = '\x08' then ['\\', 'b']
  else if char.toNat < 32 then
    ['\\', 'u', '0', '0', hexDigit (char.toNat / 16), hexDigit (char.toNat % 16)]
  else [char]

/-- A string with its quotes. -/
def writeString (text : String) : List Char :=
  '"' :: text.toList.flatMap writeChar ++ ['"']

mutual

/-- The text of a value. -/
def write : Json → List Char
  | null => ['n', 'u', 'l', 'l']
  | bool true => ['t', 'r', 'u', 'e']
  | bool false => ['f', 'a', 'l', 's', 'e']
  | number value => value.chars
  | str value => writeString value
  | arr [] => ['[', ']']
  | arr (item :: items) => '[' :: write item ++ writeItems items
  | obj [] => ['\x7b', '\x7d']
  | obj ((name, value) :: fields) =>
      '\x7b' :: writeString name ++ ':' :: ' ' :: write value ++ writeFields fields

/-- The rest of an array. -/
def writeItems : List Json → List Char
  | [] => [']']
  | item :: items => ',' :: ' ' :: write item ++ writeItems items

/-- The rest of an object. -/
def writeFields : List (String × Json) → List Char
  | [] => ['\x7d']
  | (name, value) :: fields =>
      ',' :: ' ' :: writeString name ++ ':' :: ' ' :: write value ++ writeFields fields

end

/-! ## Reading -/

/-- Whether the character is white space between values. -/
def isBlank (char : Char) : Bool :=
  char == ' ' || char == '\t' || char == '\n' || char == '\r'

/-- The value of a hexadecimal digit. -/
def hexValue (char : Char) : Option Nat :=
  if '0'.toNat ≤ char.toNat ∧ char.toNat ≤ '9'.toNat then some (char.toNat - '0'.toNat)
  else if 'a'.toNat ≤ char.toNat ∧ char.toNat ≤ 'f'.toNat then
    some (char.toNat - 'a'.toNat + 10)
  else if 'A'.toNat ≤ char.toNat ∧ char.toNat ≤ 'F'.toNat then
    some (char.toNat - 'A'.toNat + 10)
  else none

/-- The code that a character stands for after a backslash. -/
def escaped (char : Char) : Option Nat :=
  if char = '"' ∨ char = '\\' ∨ char = '/' then some char.toNat
  else if char = 'n' then some 10
  else if char = 'r' then some 13
  else if char = 't' then some 9
  else if char = 'f' then some 12
  else if char = 'b' then some 8
  else none

/-- The character of a code.  A surrogate that is not part of a pair has none and is
replaced. -/
def charOf (code : Nat) : Char :=
  if code.isValidChar then Char.ofNat code else '\ufffd'

/-- The characters of a sequence of codes, in which two surrogates may stand for one
character. -/
def charsOf : List Nat → List Char
  | [] => []
  | [code] => [charOf code]
  | high :: low :: rest =>
      if 0xd800 ≤ high ∧ high < 0xdc00 ∧ 0xdc00 ≤ low ∧ low < 0xe000 then
        charOf (0x10000 + (high - 0xd800) * 0x400 + (low - 0xdc00)) :: charsOf rest
      else charOf high :: charsOf (low :: rest)

/-- The value of a word or a number. -/
def scalar (chars : List Char) : Option Json :=
  if chars = ['n', 'u', 'l', 'l'] then some null
  else if chars = ['t', 'r', 'u', 'e'] then some (bool true)
  else if chars = ['f', 'a', 'l', 's', 'e'] then some (bool false)
  else if bare : chars.all isBare = true then
    if valid : isNumeral chars = true then some (number ⟨chars, bare, valid⟩) else none
  else none

/-- An array or object that is open, with what it holds so far in reverse order. -/
inductive Frame
  | items (held : List Json)
  | fields (held : List (String × Json)) (name : String)

/-- How far an escape sequence has come. -/
inductive Escape
  | none
  | mark
  | hex (left code : Nat)

/-- What the reader is in the middle of. -/
inductive Mode
  | value
  | item
  | name (first : Bool)
  | colon
  | text (naming : Bool) (codes : List Nat) (escape : Escape)
  | bare (chars : List Char)
  | after (value : Json)

/-- A reader: the open arrays and objects, and what it is in the middle of. -/
structure Reader where
  stack : List Frame
  mode : Mode

namespace Reader

/-- A reader that has read nothing. -/
def start : Reader :=
  ⟨[], .value⟩

/-- Read the first character of a value. -/
def readValue (stack : List Frame) (char : Char) : Option Reader :=
  if isBlank char then some ⟨stack, .value⟩
  else if char = '"' then some ⟨stack, .text false [] .none⟩
  else if char = '[' then some ⟨.items [] :: stack, .item⟩
  else if char = '\x7b' then some ⟨.fields [] "" :: stack, .name true⟩
  else if isBare char then some ⟨stack, .bare [char]⟩
  else none

/-- Read a character after a complete value. -/
def readAfter (stack : List Frame) (value : Json) (char : Char) : Option Reader :=
  if isBlank char then some ⟨stack, .after value⟩
  else
    match stack with
    | [] => none
    | .items held :: rest =>
        if char = ',' then some ⟨.items (value :: held) :: rest, .value⟩
        else if char = ']' then some ⟨rest, .after (arr (value :: held).reverse)⟩
        else none
    | .fields held name :: rest =>
        if char = ',' then some ⟨.fields ((name, value) :: held) "" :: rest, .name false⟩
        else if char = '\x7d' then some ⟨rest, .after (obj ((name, value) :: held).reverse)⟩
        else none

/-- The end of a string, which is a value or the name of a field. -/
def closeText (stack : List Frame) (naming : Bool) (codes : List Nat) : Option Reader :=
  let text := String.ofList (charsOf codes.reverse)
  match naming, stack with
  | false, _ => some ⟨stack, .after (str text)⟩
  | true, .fields held _ :: rest => some ⟨.fields held text :: rest, .colon⟩
  | true, _ => none

/-- Read a character of a string. -/
def readText (stack : List Frame) (naming : Bool) (codes : List Nat) (char : Char) :
    Escape → Option Reader
  | .none =>
      if char = '"' then closeText stack naming codes
      else if char = '\\' then some ⟨stack, .text naming codes .mark⟩
      else if char.toNat < 32 then none
      else some ⟨stack, .text naming (char.toNat :: codes) .none⟩
  | .mark =>
      if char = 'u' then some ⟨stack, .text naming codes (.hex 4 0)⟩
      else (escaped char).map fun code => ⟨stack, .text naming (code :: codes) .none⟩
  | .hex left code =>
      (hexValue char).map fun digit =>
        if left ≤ 1 then ⟨stack, .text naming ((code * 16 + digit) :: codes) .none⟩
        else ⟨stack, .text naming codes (.hex (left - 1) (code * 16 + digit))⟩

/-- Read one character. -/
def step (reader : Reader) (char : Char) : Option Reader :=
  match reader.mode with
  | .value => readValue reader.stack char
  | .item =>
      if isBlank char then some reader
      else if char = ']' then some ⟨reader.stack.tail, .after (arr [])⟩
      else readValue reader.stack char
  | .name first =>
      if isBlank char then some reader
      else if char = '"' then some ⟨reader.stack, .text true [] .none⟩
      else if first ∧ char = '\x7d' then some ⟨reader.stack.tail, .after (obj [])⟩
      else none
  | .colon =>
      if isBlank char then some reader
      else if char = ':' then some ⟨reader.stack, .value⟩
      else none
  | .text naming codes escape => readText reader.stack naming codes char escape
  | .bare chars =>
      if isBare char then some ⟨reader.stack, .bare (char :: chars)⟩
      else (scalar chars.reverse).bind fun value => readAfter reader.stack value char
  | .after value => readAfter reader.stack value char

/-- The value that has been read, when it is complete. -/
def result (reader : Reader) : Option Json :=
  match reader.stack, reader.mode with
  | [], .after value => some value
  | [], .bare chars => scalar chars.reverse
  | _, _ => none

/-- Read a sequence of characters. -/
def run (reader : Reader) : List Char → Option Reader
  | [] => some reader
  | char :: rest => (reader.step char).bind fun next => next.run rest

end Reader

/-- The value of a text. -/
def read (chars : List Char) : Option Json :=
  (Reader.start.run chars).bind Reader.result

/-! ## What has been written can be read -/

namespace Reader

@[simp]
theorem run_nil (reader : Reader) : reader.run [] = some reader := rfl

theorem run_cons (reader : Reader) (char : Char) (rest : List Char) :
    reader.run (char :: rest) = (reader.step char).bind fun next => next.run rest := rfl

theorem run_append (reader : Reader) (first second : List Char) :
    reader.run (first ++ second) = (reader.run first).bind fun next => next.run second := by
  induction first generalizing reader with
  | nil => rfl
  | cons char rest ih =>
      rw [List.cons_append, run_cons, run_cons, Option.bind_assoc]
      congr 1
      funext next
      exact ih next

/-- Reading `first` and then `second`, when the first one is known. -/
theorem run_of_run {reader next : Reader} {first : List Char} (second : List Char)
    (read : reader.run first = some next) : reader.run (first ++ second) = next.run second := by
  rw [run_append, read, Option.bind_some]

end Reader

theorem hexValue_hexDigit : ∀ digit < 16, hexValue (hexDigit digit) = some digit := by
  decide

/-- What a character was written as is read as its code. -/
theorem run_writeChar (stack : List Frame) (naming : Bool) (codes : List Nat) (char : Char) :
    Reader.run ⟨stack, .text naming codes .none⟩ (writeChar char) =
      some ⟨stack, .text naming (char.toNat :: codes) .none⟩ := by
  unfold writeChar
  split_ifs with quote backslash newline carriage tab feed back control
  · subst quote; rfl
  · subst backslash; rfl
  · subst newline; rfl
  · subst carriage; rfl
  · subst tab; rfl
  · subst feed; rfl
  · subst back; rfl
  · have high := hexValue_hexDigit (char.toNat / 16) (by omega)
    have low := hexValue_hexDigit (char.toNat % 16) (by omega)
    have whole : char.toNat / 16 * 16 + char.toNat % 16 = char.toNat := by omega
    have zero : hexValue '0' = some 0 := by decide
    simp [Reader.run_cons, Reader.step, Reader.readText, zero, high, low, whole]
  · simp [Reader.run_cons, Reader.step, Reader.readText, quote, backslash, control]

theorem run_flatMap_writeChar (stack : List Frame) (naming : Bool) (codes : List Nat)
    (chars : List Char) :
    Reader.run ⟨stack, .text naming codes .none⟩ (chars.flatMap writeChar) =
      some ⟨stack, .text naming ((chars.map Char.toNat).reverse ++ codes) .none⟩ := by
  induction chars generalizing codes with
  | nil => rfl
  | cons char rest ih =>
      rw [List.flatMap_cons, Reader.run_of_run _ (run_writeChar stack naming codes char), ih]
      simp

theorem charOf_toNat (char : Char) : charOf char.toNat = char := by
  have valid : char.toNat.isValidChar := char.valid
  rw [charOf, if_pos valid, Char.ofNat_toNat]

/-- A character is not one half of a pair. -/
theorem charsOf_map_toNat (chars : List Char) : charsOf (chars.map Char.toNat) = chars := by
  induction chars with
  | nil => rfl
  | cons char rest ih =>
      cases rest with
      | nil => simp [charsOf, charOf_toNat]
      | cons next rest =>
          have single : ¬(0xd800 ≤ char.toNat ∧ char.toNat < 0xdc00 ∧ 0xdc00 ≤ next.toNat ∧
              next.toNat < 0xe000) := by
            rintro ⟨low, high, -⟩
            rcases char.valid with small | ⟨large, -⟩
            · have := small
              unfold Char.toNat at low
              omega
            · unfold Char.toNat at high
              omega
          simp only [List.map_cons] at ih ⊢
          rw [charsOf, if_neg single, charOf_toNat, ih]

/-- What a string was written as ends in the state after the string. -/
theorem run_text (stack : List Frame) (naming : Bool) (text : String) :
    Reader.run ⟨stack, .text naming [] .none⟩ (text.toList.flatMap writeChar ++ ['"']) =
      Reader.closeText stack naming (text.toList.map Char.toNat).reverse := by
  rw [Reader.run_of_run _ (run_flatMap_writeChar stack naming [] text.toList)]
  simp only [List.append_nil, Reader.run_cons, Reader.run_nil, Option.bind_fun_some]
  rfl

/-- A string is read as a value. -/
theorem run_writeString (stack : List Frame) (text : String) :
    Reader.run ⟨stack, .value⟩ (writeString text) = some ⟨stack, .after (str text)⟩ := by
  rw [writeString, List.cons_append, Reader.run_cons]
  change Reader.run ⟨stack, .text false [] .none⟩ (text.toList.flatMap writeChar ++ ['"']) = _
  rw [run_text, Reader.closeText, List.reverse_reverse, charsOf_map_toNat, String.ofList_toList]

/-- A string is read as the name of a field. -/
theorem run_name (stack : List Frame) (held : List (String × Json)) (before text : String)
    (first : Bool) :
    Reader.run ⟨.fields held before :: stack, .name first⟩ (writeString text) =
      some ⟨.fields held text :: stack, .colon⟩ := by
  rw [writeString, List.cons_append, Reader.run_cons]
  change Reader.run ⟨.fields held before :: stack, .text true [] .none⟩
    (text.toList.flatMap writeChar ++ ['"']) = _
  rw [run_text, Reader.closeText, List.reverse_reverse, charsOf_map_toNat, String.ofList_toList]

/-- The reader has come to the end of a value. -/
def Holds (reader : Reader) (stack : List Frame) (value : Json) : Prop :=
  reader = ⟨stack, .after value⟩ ∨
    ∃ chars, reader = ⟨stack, .bare chars⟩ ∧ scalar chars.reverse = some value

namespace Holds

variable {reader : Reader} {stack : List Frame} {value : Json}

theorem step (holds : Holds reader stack value) {char : Char} (ends : isBare char = false) :
    reader.step char = Reader.readAfter stack value char := by
  rcases holds with rfl | ⟨chars, rfl, spelt⟩
  · rfl
  · simp [Reader.step, ends, spelt]

theorem result (holds : Holds reader [] value) : reader.result = some value := by
  rcases holds with rfl | ⟨chars, rfl, spelt⟩
  · rfl
  · exact spelt

end Holds

/-- The characters of a word or a number are read one after the other. -/
theorem run_bare (stack : List Frame) (seen chars : List Char)
    (bare : ∀ char ∈ chars, isBare char = true) :
    Reader.run ⟨stack, .bare seen⟩ chars = some ⟨stack, .bare (chars.reverse ++ seen)⟩ := by
  induction chars generalizing seen with
  | nil => rfl
  | cons char rest ih =>
      have now : isBare char = true := bare char List.mem_cons_self
      have onwards := ih (char :: seen) (fun other member => bare other (.tail _ member))
      simp only [Reader.run_cons, Reader.step, now, if_true, Option.bind_some, onwards]
      simp

theorem not_blank_of_bare {char : Char} (bare : isBare char = true) :
    isBlank char = false ∧ char ≠ '"' ∧ char ≠ '[' ∧ char ≠ ']' ∧ char ≠ '\x7b' := by
  refine ⟨?_, ?_, ?_, ?_, ?_⟩
  · by_contra blank
    simp only [isBlank, Bool.not_eq_false, Bool.or_eq_true, beq_iff_eq] at blank
    rcases blank with ((rfl | rfl) | rfl) | rfl <;> cases bare
  all_goals
    rintro rfl
    cases bare

/-- A word or a number is read as the value that it spells. -/
theorem run_scalar (stack : List Frame) {chars : List Char} {value : Json}
    (spelt : scalar chars = some value) (bare : ∀ char ∈ chars, isBare char = true) :
    ∃ reader, Reader.run ⟨stack, .value⟩ chars = some reader ∧ Holds reader stack value := by
  cases chars with
  | nil => simp [scalar, isNumeral, isMagnitude, digitsThen] at spelt
  | cons char rest =>
      have now : isBare char = true := bare char List.mem_cons_self
      rcases not_blank_of_bare now with ⟨blank, quote, bracket, -, brace⟩
      have begins : Reader.step ⟨stack, .value⟩ char = some ⟨stack, .bare [char]⟩ := by
        simp [Reader.step, Reader.readValue, now, blank, quote, bracket, brace]
      refine ⟨⟨stack, .bare (rest.reverse ++ [char])⟩, ?_, ?_⟩
      · rw [Reader.run_cons, begins, Option.bind_some]
        exact run_bare stack [char] rest (fun other member => bare other (.tail _ member))
      · exact .inr ⟨_, rfl, by simpa using spelt⟩

theorem scalar_numeral (value : Numeral) : scalar value.chars = some (number value) := by
  rcases value with ⟨chars, bare, valid⟩
  unfold scalar
  split_ifs with isNull isTrue isFalse
  · subst isNull; cases valid
  · subst isTrue; cases valid
  · subst isFalse; cases valid
  · rfl

/-- The text of a value begins neither with white space nor as the end of an array. -/
theorem write_head (value : Json) :
    ∃ char rest, write value = char :: rest ∧ isBlank char = false ∧ char ≠ ']' := by
  cases value with
  | null => exact ⟨'n', _, rfl, by decide, by decide⟩
  | bool value =>
      cases value with
      | true => exact ⟨'t', _, rfl, by decide, by decide⟩
      | false => exact ⟨'f', _, rfl, by decide, by decide⟩
  | number value =>
      rcases value with ⟨chars, bare, valid⟩
      cases chars with
      | nil => cases valid
      | cons char rest =>
          have now : isBare char = true := by
            simp only [List.all_cons, Bool.and_eq_true] at bare
            exact bare.1
          rcases not_blank_of_bare now with ⟨blank, -, -, bracket, -⟩
          exact ⟨char, rest, rfl, blank, bracket⟩
  | str value => exact ⟨'"', _, rfl, by decide, by decide⟩
  | arr items => cases items <;> exact ⟨'[', _, rfl, by decide, by decide⟩
  | obj fields =>
      cases fields with
      | nil => exact ⟨'\x7b', _, rfl, by decide, by decide⟩
      | cons field fields => exact ⟨'\x7b', _, rfl, by decide, by decide⟩

/-- The first item of an array is read like any other value. -/
theorem run_item (stack : List Frame) (value : Json) :
    Reader.run ⟨stack, .item⟩ (write value) = Reader.run ⟨stack, .value⟩ (write value) := by
  rcases write_head value with ⟨char, rest, written, blank, bracket⟩
  rw [written, Reader.run_cons, Reader.run_cons]
  simp [Reader.step, blank, bracket]

mutual

/-- The text of a value is read as the value. -/
theorem run_write (value : Json) (stack : List Frame) :
    ∃ reader, Reader.run ⟨stack, .value⟩ (write value) = some reader ∧
      Holds reader stack value := by
  match value with
  | .null => exact run_scalar stack rfl (by simp [write]; decide)
  | .bool true => exact run_scalar stack rfl (by simp [write]; decide)
  | .bool false => exact run_scalar stack rfl (by simp [write]; decide)
  | .number value =>
      exact run_scalar stack (scalar_numeral value) (List.all_eq_true.mp value.bare)
  | .str text => exact ⟨_, run_writeString stack text, .inl rfl⟩
  | .arr [] => exact ⟨⟨stack, .after (arr [])⟩, rfl, .inl rfl⟩
  | .arr (item :: items) =>
      rcases run_write item (.items [] :: stack) with ⟨reader, ran, holds⟩
      refine ⟨⟨stack, .after (arr (item :: items))⟩, ?_, .inl rfl⟩
      rw [write, List.cons_append, Reader.run_cons]
      change Reader.run ⟨.items [] :: stack, .item⟩ (write item ++ writeItems items) = _
      rw [← run_item] at ran
      rw [Reader.run_of_run _ ran]
      exact run_writeItems items stack [] holds
  | .obj [] => exact ⟨⟨stack, .after (obj [])⟩, rfl, .inl rfl⟩
  | .obj ((name, value) :: fields) =>
      rcases run_write value (.fields [] name :: stack) with ⟨reader, ran, holds⟩
      refine ⟨⟨stack, .after (obj ((name, value) :: fields))⟩, ?_, .inl rfl⟩
      rw [write, List.cons_append, List.cons_append, Reader.run_cons]
      change Reader.run ⟨.fields [] "" :: stack, .name true⟩
        (writeString name ++ ':' :: ' ' :: write value ++ writeFields fields) = _
      rw [List.append_assoc, Reader.run_of_run _ (run_name stack [] "" name true)]
      change Reader.run ⟨.fields [] name :: stack, .value⟩ (write value ++ writeFields fields) = _
      rw [Reader.run_of_run _ ran]
      exact run_writeFields fields stack [] name holds

theorem run_writeItems (items : List Json) (stack : List Frame) (held : List Json)
    {reader : Reader} {value : Json} (holds : Holds reader (.items held :: stack) value) :
    reader.run (writeItems items) =
      some ⟨stack, .after (arr ((value :: held).reverse ++ items))⟩ := by
  match items with
  | [] =>
      have closes := holds.step (show isBare ']' = false by decide)
      rw [writeItems, Reader.run_cons, closes]
      simp [Reader.readAfter, isBlank]
  | item :: items =>
      have goes := holds.step (show isBare ',' = false by decide)
      rcases run_write item (.items (value :: held) :: stack) with ⟨next, ran, holds⟩
      rw [writeItems, List.cons_append, List.cons_append, Reader.run_cons, goes]
      change Reader.run ⟨.items (value :: held) :: stack, .value⟩ (write item ++ writeItems items)
        = _
      rw [Reader.run_of_run _ ran, run_writeItems items stack (value :: held) holds]
      simp

theorem run_writeFields (fields : List (String × Json)) (stack : List Frame)
    (held : List (String × Json)) (name : String) {reader : Reader} {value : Json}
    (holds : Holds reader (.fields held name :: stack) value) :
    reader.run (writeFields fields) =
      some ⟨stack, .after (obj (((name, value) :: held).reverse ++ fields))⟩ := by
  match fields with
  | [] =>
      have closes := holds.step (show isBare '\x7d' = false by decide)
      rw [writeFields, Reader.run_cons, closes]
      simp [Reader.readAfter, isBlank]
  | (other, item) :: fields =>
      have goes := holds.step (show isBare ',' = false by decide)
      rcases run_write item (.fields ((name, value) :: held) other :: stack) with ⟨next, ran, holds⟩
      rw [writeFields, List.cons_append, List.cons_append, Reader.run_cons, goes]
      change Reader.run ⟨.fields ((name, value) :: held) "" :: stack, .name false⟩
        (writeString other ++ ':' :: ' ' :: write item ++ writeFields fields) = _
      rw [List.append_assoc,
        Reader.run_of_run _ (run_name stack ((name, value) :: held) "" other false)]
      change Reader.run ⟨.fields ((name, value) :: held) other :: stack, .value⟩
        (write item ++ writeFields fields) = _
      rw [Reader.run_of_run _ ran, run_writeFields fields stack ((name, value) :: held) other holds]
      simp

end

/-- What a value was written as is read as the value. -/
theorem read_write (value : Json) : read (write value) = some value := by
  rcases run_write value [] with ⟨reader, ran, holds⟩
  rw [read, Reader.start, ran, Option.bind_some, holds.result]

/-! ## The characters of a text -/

theorem printable_of_bare {char : Char} (bare : isBare char = true) : 32 ≤ char.toNat := by
  by_contra control
  simp only [isBare, Bool.or_eq_true, beq_iff_eq] at bare
  rcases bare with ((letter | rfl) | rfl) | rfl
  · delta Char.isAlphanum Char.isAlpha Char.isUpper Char.isLower Char.isDigit at letter
    simp only [Bool.or_eq_true, Bool.and_eq_true, decide_eq_true_eq, ge_iff_le,
      UInt32.le_iff_toNat_le] at letter
    simp at letter
    omega
  all_goals exact control (by decide)

theorem printable_pair {first second : Char} (left : 32 ≤ first.toNat)
    (right : 32 ≤ second.toNat) : ∀ part ∈ [first, second], 32 ≤ part.toNat := by
  simp [left, right]

theorem printable_writeChar (char : Char) : ∀ part ∈ writeChar char, 32 ≤ part.toNat := by
  have digits : ∀ digit < 16, 32 ≤ (hexDigit digit).toNat := by decide
  unfold writeChar
  split_ifs with quote backslash newline carriage tab feed back control
  · exact printable_pair (by decide) (by decide)
  · exact printable_pair (by decide) (by decide)
  · exact printable_pair (by decide) (by decide)
  · exact printable_pair (by decide) (by decide)
  · exact printable_pair (by decide) (by decide)
  · exact printable_pair (by decide) (by decide)
  · exact printable_pair (by decide) (by decide)
  · intro part member
    simp only [List.mem_cons, List.not_mem_nil, or_false] at member
    rcases member with rfl | rfl | rfl | rfl | rfl | rfl
    · decide
    · decide
    · decide
    · decide
    · exact digits _ (by omega)
    · exact digits _ (by omega)
  · intro part member
    obtain rfl := List.mem_singleton.mp member
    exact Nat.le_of_not_lt control

theorem printable_writeString (text : String) :
    ∀ part ∈ writeString text, 32 ≤ part.toNat := by
  intro part member
  simp only [writeString, List.mem_cons, List.mem_append, List.mem_flatMap, List.not_mem_nil,
    or_false] at member
  rcases member with (rfl | ⟨char, -, member⟩) | rfl
  · decide
  · exact printable_writeChar char part member
  · decide

mutual

/-- The text of a value has no control characters, so it is a single line. -/
theorem printable_write (value : Json) : ∀ part ∈ write value, 32 ≤ part.toNat := by
  match value with
  | .null => simp [write]
  | .bool true => simp [write]
  | .bool false => simp [write]
  | .number value =>
      intro part member
      exact printable_of_bare (List.all_eq_true.mp value.bare part member)
  | .str text => exact printable_writeString text
  | .arr [] => simp [write]
  | .arr (item :: items) =>
      rw [write, List.cons_append]
      refine List.forall_mem_cons.mpr ⟨by decide, List.forall_mem_append.mpr ?_⟩
      exact ⟨printable_write item, printable_writeItems items⟩
  | .obj [] => simp [write]
  | .obj ((name, value) :: fields) =>
      rw [write, List.cons_append, List.cons_append]
      refine List.forall_mem_cons.mpr ⟨by decide, List.forall_mem_append.mpr ⟨?_, ?_⟩⟩
      · refine List.forall_mem_append.mpr ⟨printable_writeString name, ?_⟩
        refine List.forall_mem_cons.mpr ⟨by decide, List.forall_mem_cons.mpr ⟨by decide, ?_⟩⟩
        exact printable_write value
      · exact printable_writeFields fields

theorem printable_writeItems (items : List Json) :
    ∀ part ∈ writeItems items, 32 ≤ part.toNat := by
  match items with
  | [] => simp [writeItems]
  | item :: items =>
      rw [writeItems, List.cons_append, List.cons_append]
      refine List.forall_mem_cons.mpr ⟨by decide, List.forall_mem_cons.mpr ⟨by decide, ?_⟩⟩
      exact List.forall_mem_append.mpr ⟨printable_write item, printable_writeItems items⟩

theorem printable_writeFields (fields : List (String × Json)) :
    ∀ part ∈ writeFields fields, 32 ≤ part.toNat := by
  match fields with
  | [] => simp [writeFields]
  | (name, value) :: fields =>
      rw [writeFields, List.cons_append, List.cons_append]
      refine List.forall_mem_cons.mpr ⟨by decide, List.forall_mem_cons.mpr ⟨by decide, ?_⟩⟩
      refine List.forall_mem_append.mpr ⟨?_, printable_writeFields fields⟩
      refine List.forall_mem_append.mpr ⟨printable_writeString name, ?_⟩
      refine List.forall_mem_cons.mpr ⟨by decide, List.forall_mem_cons.mpr ⟨by decide, ?_⟩⟩
      exact printable_write value

end

theorem writeFields_closes (fields : List (String × Json)) :
    ∃ inner, writeFields fields = inner ++ ['\x7d'] := by
  induction fields with
  | nil => exact ⟨[], rfl⟩
  | cons field fields ih =>
      rcases ih with ⟨inner, closes⟩
      rw [writeFields, closes, ← List.append_assoc]
      exact ⟨_, rfl⟩

/-- The text of an object stands between braces. -/
theorem write_obj_braces (fields : List (String × Json)) :
    ∃ inner, write (obj fields) = '\x7b' :: (inner ++ ['\x7d']) := by
  cases fields with
  | nil => exact ⟨[], rfl⟩
  | cons field fields =>
      rcases writeFields_closes fields with ⟨inner, closes⟩
      rw [write, closes, ← List.append_assoc, List.cons_append, List.cons_append]
      exact ⟨_, rfl⟩

/-! ## What has been read cannot go on -/

namespace Reader

/-- Something is still open, or a value is complete. -/
def Settled (reader : Reader) : Prop :=
  reader.stack ≠ [] ∨ ∃ value, reader.mode = .after value

theorem Settled.readValue {stack : List Frame} (opened : stack ≠ []) {char : Char}
    {next : Reader} (read : Reader.readValue stack char = some next) : next.Settled := by
  unfold Reader.readValue at read
  split_ifs at read <;> cases read <;> simp [Settled, opened]

theorem Settled.readAfter {stack : List Frame} {value : Json} {char : Char} {next : Reader}
    (read : Reader.readAfter stack value char = some next) : next.Settled := by
  cases stack with
  | nil =>
      simp only [Reader.readAfter] at read
      split_ifs at read
      cases read
      exact .inr ⟨value, rfl⟩
  | cons frame rest =>
      cases frame with
      | items held =>
          simp only [Reader.readAfter] at read
          split_ifs at read <;> cases read <;> simp [Settled]
      | fields held name =>
          simp only [Reader.readAfter] at read
          split_ifs at read <;> cases read <;> simp [Settled]

theorem Settled.readText {stack : List Frame} (opened : stack ≠ []) {naming : Bool}
    {codes : List Nat} {char : Char} {escape : Escape} {next : Reader}
    (read : Reader.readText stack naming codes char escape = some next) : next.Settled := by
  cases escape with
  | none =>
      simp only [Reader.readText] at read
      split_ifs at read
      · unfold Reader.closeText at read
        split at read <;> cases read <;> simp [Settled]
      all_goals cases read; exact .inl opened
  | mark =>
      simp only [Reader.readText] at read
      split_ifs at read
      · cases read; exact .inl opened
      · rcases Option.map_eq_some_iff.mp read with ⟨code, -, rfl⟩
        exact .inl opened
  | hex left code =>
      rcases Option.map_eq_some_iff.mp read with ⟨digit, -, rfl⟩
      split_ifs <;> exact .inl opened

theorem Settled.step {reader next : Reader} (settled : reader.Settled) {char : Char}
    (read : reader.step char = some next) : next.Settled := by
  rcases reader with ⟨stack, mode⟩
  cases mode with
  | after value => exact Settled.readAfter read
  | bare chars =>
      have opened : stack ≠ [] := by simpa [Settled] using settled
      simp only [Reader.step] at read
      split_ifs at read
      · cases read; exact .inl opened
      · rcases Option.bind_eq_some_iff.mp read with ⟨value, -, read⟩
        exact Settled.readAfter read
  | value =>
      have opened : stack ≠ [] := by simpa [Settled] using settled
      exact Settled.readValue opened read
  | item =>
      have opened : stack ≠ [] := by simpa [Settled] using settled
      simp only [Reader.step] at read
      split_ifs at read
      · cases read; exact .inl opened
      · cases read; exact .inr ⟨_, rfl⟩
      · exact Settled.readValue opened read
  | name first =>
      have opened : stack ≠ [] := by simpa [Settled] using settled
      simp only [Reader.step] at read
      split_ifs at read
      · cases read; exact .inl opened
      · cases read; exact .inl opened
      · cases read; exact .inr ⟨_, rfl⟩
  | colon =>
      have opened : stack ≠ [] := by simpa [Settled] using settled
      simp only [Reader.step] at read
      split_ifs at read <;> cases read <;> exact .inl opened
  | text naming codes escape =>
      have opened : stack ≠ [] := by simpa [Settled] using settled
      exact Settled.readText opened read

theorem Settled.run {reader next : Reader} (settled : reader.Settled) {chars : List Char}
    (read : reader.run chars = some next) : next.Settled := by
  induction chars generalizing reader with
  | nil => cases read; exact settled
  | cons char rest ih =>
      rcases Option.bind_eq_some_iff.mp read with ⟨middle, stepped, read⟩
      exact ih (settled.step stepped) read

/-- Nothing but white space follows a complete text. -/
theorem blank_of_run {value : Json} {chars : List Char} {next : Reader}
    (read : Reader.run ⟨[], .after value⟩ chars = some next) :
    ∀ char ∈ chars, isBlank char = true := by
  induction chars with
  | nil => simp
  | cons char rest ih =>
      rcases Option.bind_eq_some_iff.mp read with ⟨middle, stepped, read⟩
      cases blank : isBlank char with
      | false => simp [Reader.step, Reader.readAfter, blank] at stepped
      | true =>
          simp only [Reader.step, Reader.readAfter, blank, if_true] at stepped
          cases stepped
          exact List.forall_mem_cons.mpr ⟨blank, ih read⟩

end Reader

/-- A prefix of an object's text that leaves out more than white space cannot be read. -/
theorem read_prefix_eq_none {begun missing : List Char} {value : Json} {char : Char}
    (opens : ∃ rest, begun = '\x7b' :: rest)
    (whole : read (begun ++ missing) = some value) (lost : char ∈ missing)
    (solid : isBlank char = false) : read begun = none := by
  rcases opens with ⟨rest, rfl⟩
  rcases Option.bind_eq_some_iff.mp whole with ⟨last, ran, finished⟩
  rw [Reader.run_append] at ran
  rcases Option.bind_eq_some_iff.mp ran with ⟨middle, begins, onwards⟩
  have opened : Reader.Settled ⟨[.fields [] ""], .name true⟩ := .inl (by simp)
  have settled : middle.Settled := opened.run begins
  rw [read, begins, Option.bind_some]
  rcases middle with ⟨stack, mode⟩
  cases stack with
  | cons frame stack => rfl
  | nil =>
      rcases settled with opened | ⟨held, rfl⟩
      · exact absurd rfl opened
      · have blank := Reader.blank_of_run onwards char lost
        rw [solid] at blank
        cases blank

end Json

end EaBot.Foundation
