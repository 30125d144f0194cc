import EaBot.Foundation.Journal

/-!
# JSON texts in ASCII

A text in which every character from 127 on is escaped: as its code in four hexadecimal
digits, or as the two surrogates of a character whose code does not fit.  Such characters
stand only in strings, so that escaping them afterwards is the same as escaping them
while the strings are written.

The reader meets the escaped text in the same states as the text itself, except that the
codes it collects for a string may hold two surrogates where the string has one
character.
-/

namespace EaBot.Foundation

namespace Json

/-- The escape sequence of a code of four hexadecimal digits. -/
def writeUnit (code : Nat) : List Char :=
  ['\\', 'u', hexDigit (code / 4096), hexDigit (code / 256 % 16), hexDigit (code / 16 % 16),
    hexDigit (code % 16)]

/-- The first of the two surrogates of a code. -/
def highSurrogate (code : Nat) : Nat :=
  0xd800 + (code - 0x10000) / 0x400

/-- The second of the two surrogates of a code. -/
def lowSurrogate (code : Nat) : Nat :=
  0xdc00 + (code - 0x10000) % 0x400

/-- A character of an escaped text. -/
def asciiChar (char : Char) : List Char :=
  if char.toNat < 127 then [char]
  else if char.toNat < 0x10000 then writeUnit char.toNat
  else writeUnit (highSurrogate char.toNat) ++ writeUnit (lowSurrogate char.toNat)

/-- The text with every character from 127 on escaped. -/
def ascii (chars : List Char) : List Char :=
  chars.flatMap asciiChar

theorem toNat_lt (char : Char) : char.toNat < 0x110000 := by
  rcases char.valid with low | ⟨-, high⟩
  · unfold Char.toNat
    omega
  · exact high

theorem surrogates_lt {code : Nat} (small : code < 0x110000) :
    highSurrogate code < 0x10000 ∧ lowSurrogate code < 0x10000 := by
  unfold highSurrogate lowSurrogate
  omega

theorem ascii_append (first second : List Char) :
    ascii (first ++ second) = ascii first ++ ascii second :=
  List.flatMap_append

/-! ## Codes with surrogates -/

/-- The second sequence of codes has two surrogates in place of some codes of the first. -/
inductive Expands : List Nat → List Nat → Prop
  | nil : Expands [] []
  | keep (code : Nat) {first second : List Nat} :
      Expands first second → Expands (code :: first) (code :: second)
  | split (code : Nat) {first second : List Nat} :
      0x10000 ≤ code → code < 0x110000 → Expands first second →
        Expands (code :: first) (highSurrogate code :: lowSurrogate code :: second)

theorem Expands.append {first second third fourth : List Nat} (front : Expands first second)
    (back : Expands third fourth) : Expands (first ++ third) (second ++ fourth) := by
  induction front with
  | nil => exact back
  | keep code _ ih => exact ih.keep code
  | split code large small _ ih => exact ih.split code large small

theorem charsOf_cons {code : Nat} (single : ¬(0xd800 ≤ code ∧ code < 0xdc00))
    (rest : List Nat) : charsOf (code :: rest) = charOf code :: charsOf rest := by
  cases rest with
  | nil => rfl
  | cons next rest => exact if_neg fun pair => single ⟨pair.1, pair.2.1⟩

theorem charsOf_cons_of_not_low (code : Nat) {next : Nat}
    (single : ¬(0xdc00 ≤ next ∧ next < 0xe000)) (rest : List Nat) :
    charsOf (code :: next :: rest) = charOf code :: charsOf (next :: rest) :=
  if_neg fun pair => single pair.2.2

theorem charsOf_surrogates {code : Nat} (large : 0x10000 ≤ code) (small : code < 0x110000)
    (rest : List Nat) :
    charsOf (highSurrogate code :: lowSurrogate code :: rest) = charOf code :: charsOf rest := by
  have pair : 0xd800 ≤ highSurrogate code ∧ highSurrogate code < 0xdc00 ∧
      0xdc00 ≤ lowSurrogate code ∧ lowSurrogate code < 0xe000 := by
    unfold highSurrogate lowSurrogate
    omega
  have whole : 0x10000 + (highSurrogate code - 0xd800) * 0x400 +
      (lowSurrogate code - 0xdc00) = code := by
    unfold highSurrogate lowSurrogate
    omega
  rw [charsOf, if_pos pair, whole]

/-- Two surrogates stand for the character that they replace. -/
theorem Expands.charsOf_eq {first second : List Nat} (expands : Expands first second) :
    charsOf first = charsOf second := by
  induction length : first.length using Nat.strongRecOn generalizing first second with
  | _ size ih =>
      cases expands with
      | nil => rfl
      | split code large small later =>
          have same := ih _ (by simp [← length]) later rfl
          rw [charsOf_surrogates large small, charsOf_cons (by omega), same]
      | keep code later =>
          cases later with
          | nil => rfl
          | split next large small later =>
              have same := ih _ (by simp [← length]) (later.split next large small) rfl
              have high : ¬(0xdc00 ≤ highSurrogate next ∧ highSurrogate next < 0xe000) := by
                unfold highSurrogate
                omega
              rw [charsOf_cons_of_not_low _ (by omega), same]
              exact (charsOf_cons_of_not_low code high _).symm
          | keep next later =>
              have same := ih _ (by simp [← length]) (later.keep next) rfl
              have rest :=
                ih _ (by rw [← length, List.length_cons, List.length_cons]; omega) later rfl
              simp only [charsOf]
              rw [same, rest]

/-! ## Reading an escaped text -/

/-- The reader that has read the escaped text and the one that has read the text. -/
inductive Alike : Reader → Reader → Prop
  | same (reader : Reader) : Alike reader reader
  | text (stack : List Frame) (naming : Bool) (escape : Escape) {codes expanded : List Nat} :
      Expands codes.reverse expanded.reverse →
        Alike ⟨stack, .text naming codes escape⟩ ⟨stack, .text naming expanded escape⟩

theorem Expands.push {codes expanded : List Nat}
    (expands : Expands codes.reverse expanded.reverse) (code : Nat) :
    Expands (code :: codes).reverse (code :: expanded).reverse := by
  simp only [List.reverse_cons]
  exact expands.append (.keep code .nil)

theorem Expands.refl (codes : List Nat) : Expands codes codes := by
  induction codes with
  | nil => exact .nil
  | cons code rest ih => exact ih.keep code

theorem not_isBare {char : Char} (large : 127 ≤ char.toNat) : isBare char = false := by
  by_contra bare
  simp only [Bool.not_eq_false, isBare, Bool.or_eq_true, beq_iff_eq] at bare
  rcases bare with ((letter | rfl) | rfl) | rfl
  · delta Char.isAlphanum Char.isAlpha Char.isUpper Char.isLower Char.isDigit at letter
    simp only [Bool.or_eq_true, Bool.and_eq_true, decide_eq_true_eq, ge_iff_le,
      UInt32.le_iff_toNat_le] at letter
    simp at letter
    omega
  all_goals exact absurd large (by decide)

theorem ne_of_large {char other : Char} (large : 127 ≤ char.toNat)
    (small : other.toNat < 127) : char ≠ other := by
  rintro rfl
  omega

/-- A character from 127 on is read only as a part of a string. -/
theorem Reader.step_large {reader next : Reader} {char : Char} (large : 127 ≤ char.toNat)
    (stepped : reader.step char = some next) :
    ∃ stack naming codes, reader = ⟨stack, .text naming codes .none⟩ ∧
      next = ⟨stack, .text naming (char.toNat :: codes) .none⟩ := by
  have differs : ∀ other : Char, other.toNat < 127 → char ≠ other :=
    fun other small => ne_of_large large small
  have bare := not_isBare large
  have blank : isBlank char = false := by
    simp [isBlank, differs ' ', differs '\t', differs '\n', differs '\r']
  have noValue : ∀ stack, readValue stack char = none := by
    intro stack
    simp [readValue, blank, bare, differs '"', differs '[', differs '\x7b']
  have noAfter : ∀ stack value, readAfter stack value char = none := by
    intro stack value
    unfold readAfter
    rw [blank]
    cases stack with
    | nil => rfl
    | cons frame rest =>
        cases frame <;> simp [differs ',', differs ']', differs '\x7d']
  rcases reader with ⟨stack, mode⟩
  cases mode with
  | value => simp [step, noValue] at stepped
  | item => simp [step, noValue, blank, differs ']'] at stepped
  | name first => simp [step, blank, differs '"', differs '\x7d'] at stepped
  | colon => simp [step, blank, differs ':'] at stepped
  | bare chars => simp [step, bare, noAfter] at stepped
  | after value => simp [step, noAfter] at stepped
  | text naming codes escape =>
      cases escape with
      | none =>
          have solid : ¬ char.toNat < 32 := by omega
          simp [step, readText, solid, differs '"', differs '\\'] at stepped
          exact ⟨stack, naming, codes, rfl, stepped.symm⟩
      | mark =>
          have unknown : escaped char = none := by
            simp [escaped, differs '"', differs '\\', differs '/', differs 'n', differs 'r',
              differs 't', differs 'f', differs 'b']
          simp [step, readText, unknown, differs 'u'] at stepped
      | hex left code =>
          have unknown : hexValue char = none := by
            have zero : '9'.toNat = 57 := rfl
            have small : 'f'.toNat = 102 := rfl
            have upper : 'F'.toNat = 70 := rfl
            unfold hexValue
            rw [if_neg (by omega), if_neg (by omega), if_neg (by omega)]
          simp [step, readText, unknown] at stepped

theorem run_writeUnit (stack : List Frame) (naming : Bool) (codes : List Nat) {code : Nat}
    (small : code < 0x10000) :
    Reader.run ⟨stack, .text naming codes .none⟩ (writeUnit code) =
      some ⟨stack, .text naming (code :: codes) .none⟩ := by
  have first := hexValue_hexDigit (code / 4096) (by omega)
  have second := hexValue_hexDigit (code / 256 % 16) (by omega)
  have third := hexValue_hexDigit (code / 16 % 16) (by omega)
  have fourth := hexValue_hexDigit (code % 16) (by omega)
  have whole : ((code / 4096 * 16 + code / 256 % 16) * 16 + code / 16 % 16) * 16 + code % 16 =
      code := by
    omega
  simp [writeUnit, Reader.run_cons, Reader.step, Reader.readText, first, second, third, fourth,
    whole]

/-- The codes of a character that is escaped. -/
theorem run_asciiChar (stack : List Frame) (naming : Bool) {codes expanded : List Nat}
    (expands : Expands codes.reverse expanded.reverse) {char : Char}
    (large : 127 ≤ char.toNat) :
    ∃ after, Reader.run ⟨stack, .text naming expanded .none⟩ (asciiChar char) =
        some ⟨stack, .text naming after .none⟩ ∧
      Expands (char.toNat :: codes).reverse after.reverse := by
  unfold asciiChar
  rw [if_neg (by omega)]
  split
  · rename_i small
    exact ⟨_, run_writeUnit stack naming expanded small, expands.push _⟩
  · rename_i wide
    have valid := toNat_lt char
    rcases surrogates_lt valid with ⟨high, low⟩
    refine ⟨lowSurrogate char.toNat :: highSurrogate char.toNat :: expanded, ?_, ?_⟩
    · rw [Reader.run_of_run _ (run_writeUnit stack naming expanded high)]
      exact run_writeUnit stack naming _ low
    · simp only [List.reverse_cons, List.append_assoc]
      exact expands.append (.split _ (by omega) valid .nil)

/-- A character of a string is read alike in both texts. -/
theorem Reader.readText_alike {stack : List Frame} {naming : Bool} {codes expanded : List Nat}
    {escape : Escape} (expands : Expands codes.reverse expanded.reverse) {char : Char}
    {next : Reader} (read : readText stack naming codes char escape = some next) :
    ∃ other, readText stack naming expanded char escape = some other ∧ Alike next other := by
  cases escape with
  | none =>
      simp only [readText] at read ⊢
      split_ifs at read ⊢ with quote backslash control
      · refine ⟨next, ?_, .same next⟩
        rw [← read]
        unfold closeText
        rw [expands.charsOf_eq]
      · cases read
        exact ⟨_, rfl, .text _ _ _ expands⟩
      · cases read
        exact ⟨_, rfl, .text _ _ _ (expands.push _)⟩
  | mark =>
      simp only [readText] at read ⊢
      split_ifs at read ⊢ with unicode
      · cases read
        exact ⟨_, rfl, .text _ _ _ expands⟩
      · rcases Option.map_eq_some_iff.mp read with ⟨code, known, rfl⟩
        rw [known]
        exact ⟨_, rfl, .text _ _ _ (expands.push _)⟩
  | hex left code =>
      rcases Option.map_eq_some_iff.mp read with ⟨digit, known, rfl⟩
      rw [readText, known]
      split_ifs with last
      · exact ⟨_, rfl, .text _ _ _ (expands.push _)⟩
      · exact ⟨_, rfl, .text _ _ _ expands⟩

/-- Readers that are alike are alike after a character. -/
theorem Alike.step {reader other next : Reader} (alike : Alike reader other) {char : Char}
    (stepped : reader.step char = some next) :
    ∃ after, other.run (asciiChar char) = some after ∧ Alike next after := by
  by_cases small : char.toNat < 127
  · have single : ∀ after, other.step char = some after →
        other.run (asciiChar char) = some after := by
      intro after moves
      rw [asciiChar, if_pos small, Reader.run_cons, moves]
      rfl
    cases alike with
    | same => exact ⟨next, single next stepped, .same next⟩
    | text stack naming escape expands =>
        rcases Reader.readText_alike expands stepped with ⟨after, moves, alike⟩
        exact ⟨after, single after moves, alike⟩
  · have large : 127 ≤ char.toNat := by omega
    rcases Reader.step_large large stepped with ⟨stack, naming, codes, rfl, rfl⟩
    cases alike with
    | same =>
        rcases run_asciiChar stack naming (.refl codes.reverse) large with ⟨after, ran, expands⟩
        exact ⟨_, ran, .text _ _ _ expands⟩
    | text stack naming escape expands =>
        rcases run_asciiChar stack naming expands large with ⟨after, ran, expands⟩
        exact ⟨_, ran, .text _ _ _ expands⟩

/-- Readers that are alike are alike after a text. -/
theorem Alike.run {reader other next : Reader} (alike : Alike reader other)
    {chars : List Char} (ran : reader.run chars = some next) :
    ∃ after, other.run (ascii chars) = some after ∧ Alike next after := by
  induction chars generalizing reader other with
  | nil =>
      cases ran
      exact ⟨other, rfl, alike⟩
  | cons char rest ih =>
      rcases Option.bind_eq_some_iff.mp ran with ⟨middle, stepped, onwards⟩
      rcases alike.step stepped with ⟨reached, moves, alike⟩
      rcases ih alike onwards with ⟨after, ran, alike⟩
      refine ⟨after, ?_, alike⟩
      rw [ascii, List.flatMap_cons, Reader.run_of_run _ moves]
      exact ran

/-- A text and its escaped form have the same value. -/
theorem read_ascii {chars : List Char} {value : Json} (whole : read chars = some value) :
    read (ascii chars) = some value := by
  rcases Option.bind_eq_some_iff.mp whole with ⟨reader, ran, finished⟩
  rcases (Alike.same Reader.start).run ran with ⟨after, moves, alike⟩
  rw [read, moves, Option.bind_some]
  cases alike with
  | same => exact finished
  | text stack naming escape expands => cases stack <;> cases finished

/-- What a value was written as is read as the value after it was escaped. -/
theorem read_ascii_write (value : Json) : read (ascii (write value)) = some value :=
  read_ascii (read_write value)

/-- Strings that are escaped alike are the same. -/
theorem ascii_writeString_injective {first second : String}
    (same : ascii (writeString first) = ascii (writeString second)) : first = second := by
  have left := read_ascii_write (.str first)
  have right := read_ascii_write (.str second)
  simp only [write] at left right
  rw [same, right] at left
  cases left
  rfl

/-! ## Lines -/

theorem printable_writeUnit {code : Nat} (small : code < 0x10000) :
    ∀ part ∈ writeUnit code, 32 ≤ part.toNat := by
  have digits : ∀ digit < 16, 32 ≤ (hexDigit digit).toNat := by decide
  intro part member
  simp only [writeUnit, List.mem_cons, List.not_mem_nil, or_false] at member
  rcases member with rfl | rfl | rfl | rfl | rfl | rfl
  · decide
  · decide
  · exact digits _ (by omega)
  · exact digits _ (by omega)
  · exact digits _ (by omega)
  · exact digits _ (by omega)

/-- An escaped text is printable where the text is. -/
theorem printable_ascii {chars : List Char} (printable : ∀ char ∈ chars, 32 ≤ char.toNat) :
    ∀ part ∈ ascii chars, 32 ≤ part.toNat := by
  intro part member
  rcases List.mem_flatMap.mp member with ⟨char, within, member⟩
  unfold asciiChar at member
  split at member
  · rw [List.mem_singleton.mp member]
    exact printable char within
  · split at member
    · rename_i small
      exact printable_writeUnit small part member
    · rcases surrogates_lt (toNat_lt char) with ⟨high, low⟩
      rcases List.mem_append.mp member with first | second
      · exact printable_writeUnit high part first
      · exact printable_writeUnit low part second

/-- The object of a line that is read as it is. -/
def readRecord (line : List Char) : Option (List (String × Json)) :=
  match read line with
  | some (.obj fields) => some fields
  | _ => none

/-- JSON objects in ASCII, one on a line. -/
def asciiLines : LineCodec (List (String × Json)) where
  write fields := ascii (write (obj fields))
  read := readRecord
  read_write fields := by rw [readRecord, read_ascii_write]
  single := by
    intro fields char member
    have printable := printable_ascii (printable_write (obj fields)) char member
    constructor
    all_goals
      rintro rfl
      revert printable
      decide
  read_cut := by
    intro fields part rest written lost
    rcases write_obj_braces fields with ⟨inner, braces⟩
    have whole := read_ascii_write (obj fields)
    have escaped : ascii (write (obj fields)) = '\x7b' :: (ascii inner ++ ['\x7d']) := by
      rw [braces, ascii, List.flatMap_cons, List.flatMap_append]
      rfl
    have closing : '\x7d' ∈ rest := by
      rcases List.eq_nil_or_concat rest |>.resolve_left lost with ⟨before, last, rfl⟩
      rw [escaped, List.concat_eq_append, ← List.append_assoc, ← List.cons_append] at written
      simp [(List.append_inj_right' written rfl : ['\x7d'] = [last]).symm]
    cases part with
    | nil => rfl
    | cons first part =>
        rw [written] at whole
        rw [escaped] at written
        rcases List.cons.inj written with ⟨rfl, -⟩
        rw [readRecord, read_prefix_eq_none ⟨part, rfl⟩ whole closing (by decide)]

end Json

end EaBot.Foundation
