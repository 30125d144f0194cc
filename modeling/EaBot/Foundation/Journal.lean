import EaBot.Foundation.Json
import EaBot.Foundation.Text

/-!
# Line journals

A journal is a text file to which entries are appended, one on a line.  An append
may be cut short after any number of bytes, also inside a character, and a file that
ends inside a character cannot be decoded.  The last entry that can be read is what
a journal stands for.

A codec says how entries are written.  When no part of a line can be read as an
entry, an append that is cut short leaves the journal at the entry before or at the
new one.
-/

namespace EaBot.Foundation

universe u

/-- A text file: its characters, and whether the beginning of another one follows. -/
structure TextFile where
  chars : List Char
  torn : Bool
deriving DecidableEq

/-- How entries are written on a line and read from one. -/
structure LineCodec (α : Type u) where
  write : α → List Char
  read : List Char → Option α
  read_write : ∀ entry, read (write entry) = some entry
  single : ∀ entry, ∀ char ∈ write entry, char ≠ '\n' ∧ char ≠ '\r'
  read_cut : ∀ entry part rest, write entry = part ++ rest → rest ≠ [] → read part = none

namespace TextFile

/-- A file without any text. -/
def empty : TextFile :=
  ⟨[], false⟩

/-- Whether the character ends a line. -/
def isBreak (char : Char) : Bool :=
  char == '\n' || char == '\r'

/-- The lines of a text.  A line break of two characters gives an empty line. -/
def linesOf : List Char → List (List Char)
  | [] => []
  | char :: rest =>
      if isBreak char then [] :: linesOf rest
      else
        match linesOf rest with
        | [] => [[char]]
        | line :: more => (char :: line) :: more

/-- The characters that a number of bytes hold, and whether the bytes end inside a
character. -/
def takeBytes : Nat → List Char → List Char × Bool
  | _, [] => ([], false)
  | count, char :: rest =>
      if count = 0 then ([], false)
      else if count < char.utf8Size then ([], true)
      else
        let more := takeBytes (count - char.utf8Size) rest
        (char :: more.1, more.2)

/-- Append a text, of which a number of bytes reach the file, all when none is given.
Nothing that follows the beginning of a character is decoded. -/
def append (file : TextFile) (text : List Char) (bytes : Option Nat) : TextFile :=
  if file.torn then file
  else
    match bytes with
    | none => { file with chars := file.chars ++ text }
    | some count =>
        let part := takeBytes count text
        ⟨file.chars ++ part.1, part.2⟩

/-- The file is empty or its last line is ended. -/
def Ended (file : TextFile) : Prop :=
  file.torn = false ∧ (file.chars = [] ∨ ∃ before, file.chars = before ++ ['\n'])

/-- A number of bytes that ends inside a character of the text. -/
def Splits (text : List Char) (bytes : Nat) : Prop :=
  (takeBytes bytes text).2 = true

instance (text : List Char) (bytes : Nat) : Decidable (Splits text bytes) :=
  inferInstanceAs (Decidable (_ = true))

/-! ## Lines -/

theorem linesOf_ne_nil {chars : List Char} (some : chars ≠ []) : linesOf chars ≠ [] := by
  cases chars with
  | nil => exact absurd rfl some
  | cons char rest =>
      simp only [linesOf]
      split
      · simp
      · split <;> simp

/-- The lines after a line break are those of the rest. -/
theorem linesOf_append_break (before rest : List Char) :
    linesOf (before ++ '\n' :: rest) = linesOf (before ++ ['\n']) ++ linesOf rest := by
  induction before with
  | nil => simp [linesOf, isBreak]
  | cons char before ih =>
      simp only [List.cons_append, linesOf]
      split
      · rw [ih, List.cons_append]
      · cases lines : linesOf (before ++ ['\n']) with
        | nil => exact absurd lines (linesOf_ne_nil (by simp))
        | cons line more => rw [ih, lines]; rfl

/-- A text without line breaks is a single line. -/
theorem linesOf_single {line : List Char} (some : line ≠ [])
    (single : ∀ char ∈ line, isBreak char = false) : linesOf line = [line] := by
  induction line with
  | nil => exact absurd rfl some
  | cons char rest ih =>
      have now := single char List.mem_cons_self
      cases rest with
      | nil => simp [linesOf, now]
      | cons next rest =>
          rw [linesOf, ih (by simp) (fun other member => single other (.tail _ member))]
          simp [now]

/-- A line that is ended is read like one that is not. -/
theorem linesOf_ended {line : List Char} (single : ∀ char ∈ line, isBreak char = false) :
    linesOf (line ++ ['\n']) = [line] := by
  induction line with
  | nil => rfl
  | cons char rest ih =>
      have now := single char List.mem_cons_self
      rw [List.cons_append, linesOf, ih (fun other member => single other (.tail _ member))]
      simp [now]

/-- What is appended to an ended file is on lines of its own. -/
theorem linesOf_append {file : TextFile} (ended : file.Ended) (text : List Char) :
    linesOf (file.chars ++ text) = linesOf file.chars ++ linesOf text := by
  rcases ended.2 with none | ⟨before, last⟩
  · simp [none, linesOf]
  · rw [last, List.append_assoc]
    exact linesOf_append_break before text

/-! ## Cut texts -/

/-- The characters before a cut are the beginning of the text. -/
theorem takeBytes_prefix (count : Nat) (text : List Char) :
    ∃ rest, text = (takeBytes count text).1 ++ rest := by
  induction text generalizing count with
  | nil => exact ⟨[], rfl⟩
  | cons char text ih =>
      simp only [takeBytes]
      split_ifs
      · exact ⟨_, rfl⟩
      · exact ⟨_, rfl⟩
      · rcases ih (count - char.utf8Size) with ⟨rest, same⟩
        exact ⟨rest, congrArg (char :: ·) same⟩

/-- What is left out is not nothing unless the whole text is there. -/
theorem takeBytes_cases (count : Nat) (text : List Char) :
    takeBytes count text = (text, false) ∨
      ∃ rest, rest ≠ [] ∧ text = (takeBytes count text).1 ++ rest := by
  rcases takeBytes_prefix count text with ⟨rest, same⟩
  cases rest with
  | cons char rest => exact .inr ⟨char :: rest, by simp, same⟩
  | nil =>
      rw [List.append_nil] at same
      refine .inl (Prod.ext same.symm ?_)
      induction text generalizing count with
      | nil => rfl
      | cons char text ih =>
          simp only [takeBytes] at same ⊢
          split_ifs at same ⊢
          exact ih _ (List.cons.inj same).2

/-- An append that is complete keeps the file ended. -/
theorem Ended.append {file : TextFile} (ended : file.Ended) (line : List Char) :
    (file.append (line ++ ['\n']) none).Ended := by
  have whole : file.torn = false := ended.1
  simp only [TextFile.append, whole, Bool.false_eq_true, if_false]
  exact ⟨rfl, .inr ⟨file.chars ++ line, (List.append_assoc _ _ _).symm⟩⟩

end TextFile

namespace LineCodec

variable {α : Type u} (codec : LineCodec α)

/-- The last entry among some lines, or the one known before. -/
def last (known : Option α) (lines : List (List Char)) : Option α :=
  lines.foldl (fun latest line => (codec.read line).or latest) known

/-- The entry that a file stands for. -/
def latest (file : TextFile) : Option α :=
  codec.last none (TextFile.linesOf file.chars)

/-- The line of an entry. -/
def line (entry : α) : List Char :=
  codec.write entry ++ ['\n']

theorem write_not_break (entry : α) :
    ∀ char ∈ codec.write entry, TextFile.isBreak char = false := by
  intro char member
  rcases codec.single entry char member with ⟨feed, carriage⟩
  simp [TextFile.isBreak, feed, carriage]

variable {file : TextFile}

/-- A complete append adds a line. -/
theorem linesOf_append_line (ended : file.Ended) (entry : α) :
    TextFile.linesOf (file.append (codec.line entry) none).chars =
      TextFile.linesOf file.chars ++ [codec.write entry] := by
  have whole : file.torn = false := ended.1
  simp only [TextFile.append, whole, Bool.false_eq_true, if_false]
  rw [TextFile.linesOf_append ended, line, TextFile.linesOf_ended (codec.write_not_break entry)]

/-- A complete append is what the file stands for. -/
theorem latest_append (ended : file.Ended) (entry : α) :
    codec.latest (file.append (codec.line entry) none) = some entry := by
  rw [latest, codec.linesOf_append_line ended]
  simp [last, List.foldl_append, codec.read_write]

/-- Reading a file line by line reads the line of a complete append last. -/
theorem foldlM_append {σ : Type} (ended : file.Ended) (entry : α)
    (take : σ → List Char → Option σ) (state : σ) :
    (TextFile.linesOf (file.append (codec.line entry) none).chars).foldlM take state =
      ((TextFile.linesOf file.chars).foldlM take state).bind
        fun known => take known (codec.write entry) := by
  rw [codec.linesOf_append_line ended, List.foldlM_append]
  cases (TextFile.linesOf file.chars).foldlM take state with
  | none => rfl
  | some known => simp

/-- An append that is cut short adds the entry or nothing. -/
theorem latest_append_cut (ended : file.Ended) (entry : α) (bytes : Nat) :
    codec.latest (file.append (codec.line entry) (some bytes)) = some entry ∨
      codec.latest (file.append (codec.line entry) (some bytes)) = codec.latest file := by
  have whole : file.torn = false := ended.1
  simp only [latest, TextFile.append, whole, Bool.false_eq_true, if_false]
  rcases TextFile.takeBytes_cases bytes (codec.line entry) with all | ⟨rest, some, same⟩
  · left
    have complete := codec.latest_append ended entry
    simp only [latest, TextFile.append, whole, Bool.false_eq_true, if_false] at complete
    rw [all]
    exact complete
  · rw [TextFile.linesOf_append ended]
    generalize (TextFile.takeBytes bytes (codec.line entry)).1 = part at same
    obtain ⟨lost, written⟩ : ∃ lost, codec.write entry = part ++ lost := by
      rcases List.eq_nil_or_concat rest |>.resolve_left some with ⟨lost, ending, rfl⟩
      rw [List.concat_eq_append, ← List.append_assoc] at same
      exact ⟨lost, List.append_inj_left' same rfl⟩
    have single : ∀ char ∈ part, TextFile.isBreak char = false := by
      intro char member
      apply codec.write_not_break entry
      rw [written]
      exact List.mem_append_left lost member
    by_cases blank : part = []
    · exact .inr (by simp [blank, TextFile.linesOf])
    · rw [TextFile.linesOf_single blank single, last, List.foldl_append]
      by_cases all : lost = []
      · left
        rw [all, List.append_nil] at written
        simp [← written, codec.read_write]
      · right
        simp [codec.read_cut entry part lost written all, last]

end LineCodec

/-! ## Journals of JSON objects -/

namespace Json

/-- The object on a line. -/
def readObject (line : List Char) : Option (List (String × Json)) :=
  match read (Text.stripChars line) with
  | some (.obj fields) => some fields
  | _ => none

theorem stripChars_braces (inner : List Char) :
    Text.stripChars ('\x7b' :: (inner ++ ['\x7d'])) = '\x7b' :: (inner ++ ['\x7d']) := by
  have opening : Text.isSpace '\x7b' = false := by decide
  have closing : Text.isSpace '\x7d' = false := by decide
  rw [Text.stripChars, List.dropWhile_cons_of_neg (by simp [opening])]
  simp [closing]

/-- White space is dropped from the end of a text that begins with a brace. -/
theorem stripChars_prefix (rest : List Char) :
    ∃ kept dropped, Text.stripChars ('\x7b' :: rest) = '\x7b' :: kept ∧ rest = kept ++ dropped := by
  have opening : Text.isSpace '\x7b' = false := by decide
  obtain ⟨dropped, trailing⟩ :=
    (List.dropWhile_suffix Text.isSpace : rest.reverse.dropWhile _ <:+ _)
  refine ⟨(rest.reverse.dropWhile Text.isSpace).reverse, dropped.reverse, ?_, ?_⟩
  · rw [Text.stripChars, List.dropWhile_cons_of_neg (by simp [opening]), List.reverse_cons,
      List.dropWhile_append]
    split
    · rename_i blank
      rw [List.isEmpty_iff.mp blank]
      simp [opening]
    · simp
  · rw [← List.reverse_append, trailing, List.reverse_reverse]

/-- A line that holds less than the text of an object holds no object. -/
theorem readObject_cut (fields : List (String × Json)) {part rest : List Char}
    (written : write (obj fields) = part ++ rest) (lost : rest ≠ []) :
    readObject part = none := by
  rcases write_obj_braces fields with ⟨inner, braces⟩
  have whole := read_write (obj fields)
  have closing : '\x7d' ∈ rest := by
    rcases List.eq_nil_or_concat rest |>.resolve_left lost with ⟨before, last, rfl⟩
    rw [braces, List.concat_eq_append, ← List.append_assoc, ← List.cons_append] at written
    simp [(List.append_inj_right' written rfl : ['\x7d'] = [last]).symm]
  cases part with
  | nil => rfl
  | cons first part =>
      rw [braces] at written
      rcases List.cons.inj written with ⟨rfl, -⟩
      rcases stripChars_prefix part with ⟨kept, dropped, stripped, rfl⟩
      have unread : read ('\x7b' :: kept) = none := by
        rw [← braces] at written
        rw [written, ← List.cons_append, List.append_assoc] at whole
        exact read_prefix_eq_none ⟨kept, rfl⟩ whole (List.mem_append_right _ closing) (by decide)
      rw [readObject, stripped, unread]

/-- JSON objects, one on a line. -/
def objectLines : LineCodec (List (String × Json)) where
  write fields := write (obj fields)
  read := readObject
  read_write := by
    intro fields
    rcases write_obj_braces fields with ⟨inner, braces⟩
    have stripped := stripChars_braces inner
    rw [← braces] at stripped
    rw [readObject, stripped, read_write]
  single := by
    intro fields char member
    have printable := printable_write (obj fields) char member
    constructor
    all_goals
      rintro rfl
      revert printable
      decide
  read_cut := fun fields _ _ written lost => readObject_cut fields written lost

end Json

end EaBot.Foundation
