import Mathlib.Data.List.Infix
import Mathlib.Data.Rat.Floor

/-!
# Text and number rendering

The string operations that the modelled services rely on, written over lists of
characters so that they evaluate in the kernel.  Case conversion covers ASCII and
the two non-ASCII letters whose lower case contains an ASCII letter; all texts it
is compared with are ASCII words.  Stripping uses the full set of Unicode white
space, and the numeric grammars are those of the conversions from text to an
integer or a floating-point number.
-/

namespace EaBot.Foundation.Text

/-- The lower case of one character. -/
def lowerChar (char : Char) : List Char :=
  if char = '\u212a' then ['k']
  else if char = '\u0130' then ['i', '\u0307']
  else [char.toLower]

/-- The text in lower case. -/
def lower (text : String) : String :=
  String.ofList (text.toList.flatMap lowerChar)

/-- The text in upper case. -/
def upper (text : String) : String :=
  String.ofList (text.toList.map Char.toUpper)

/-- The upper case of one character of a word; the letters outside ASCII whose upper case
is ASCII are spelled out. -/
def upperWordChar (char : Char) : List Char :=
  match char with
  | '\u00df' => ['S', 'S']
  | '\u0131' => ['I']
  | '\u017f' => ['S']
  | '\ufb00' => ['F', 'F']
  | '\ufb01' => ['F', 'I']
  | '\ufb02' => ['F', 'L']
  | '\ufb03' => ['F', 'F', 'I']
  | '\ufb04' => ['F', 'F', 'L']
  | '\ufb05' => ['S', 'T']
  | '\ufb06' => ['S', 'T']
  | _ => [char.toUpper]

/-- The upper case of a word that is compared with ASCII words. -/
def upperWord (text : String) : String :=
  String.ofList (text.toList.flatMap upperWordChar)

/-- Whether the character counts as white space. -/
def isSpace (char : Char) : Bool :=
  let code := char.toNat
  (9 ≤ code && code ≤ 13) || (28 ≤ code && code ≤ 32) || code == 133 || code == 160 ||
    code == 5760 || (8192 ≤ code && code ≤ 8202) || code == 8232 || code == 8233 ||
    code == 8239 || code == 8287 || code == 12288

/-- The characters without leading and trailing white space. -/
def stripChars (chars : List Char) : List Char :=
  ((chars.dropWhile isSpace).reverse.dropWhile isSpace).reverse

/-- The text without leading and trailing white space. -/
def strip (text : String) : String :=
  String.ofList (stripChars text.toList)

/-- Whether `part` occurs in `text`. -/
def contains (text part : String) : Bool :=
  part.toList <:+: text.toList

/-- Drop one leading sign. -/
def dropSign : List Char → List Char
  | '+' :: rest => rest
  | '-' :: rest => rest
  | chars => chars

/-- Drop the rest of a run of digits, which may hold single underscores. -/
def digitTail : List Char → List Char
  | '_' :: char :: rest => if char.isDigit then digitTail rest else '_' :: char :: rest
  | char :: rest => if char.isDigit then digitTail rest else char :: rest
  | [] => []

/-- Drop a run of at least one digit. -/
def digits? : List Char → Option (List Char)
  | [] => none
  | char :: rest => if char.isDigit then some (digitTail rest) else none

/-- Whether the characters are nothing or an exponent. -/
def isExponent : List Char → Bool
  | [] => true
  | mark :: rest => (mark == 'e' || mark == 'E') && digits? (dropSign rest) == some []

/-- Whether the characters are an unsigned decimal number. -/
def isDecimal (chars : List Char) : Bool :=
  match digits? chars, chars with
  | some ('.' :: fraction), _ => isExponent ((digits? fraction).getD fraction)
  | some rest, _ => isExponent rest
  | none, '.' :: fraction => (digits? fraction).any isExponent
  | none, _ => false

/-- Whether the conversion of the text to a floating-point number succeeds. -/
def isFloat (text : String) : Bool :=
  let chars := dropSign (stripChars text.toList)
  isDecimal chars ||
    ["inf", "infinity", "nan"].contains (lower (String.ofList chars))

/-- The value of the digits among the characters. -/
def digitsValue (chars : List Char) : Nat :=
  chars.foldl (fun value char =>
    if char.isDigit then 10 * value + (char.toNat - '0'.toNat) else value) 0

/-- The value of a run of digits, if the characters are one. -/
def natValue (chars : List Char) : Option Nat :=
  if digits? chars = some [] then some (digitsValue chars) else none

/-- The conversion of a text to an integer. -/
def toInt? (text : String) : Option Int :=
  match stripChars text.toList with
  | '-' :: rest => (natValue rest).map fun value => -(value : Int)
  | '+' :: rest => (natValue rest).map Int.ofNat
  | chars => (natValue chars).map Int.ofNat

/-- The power of ten that an exponent stands for. -/
def exponentFactor : List Char → ℚ
  | _ :: '-' :: rest => 1 / 10 ^ digitsValue rest
  | _ :: rest => 10 ^ digitsValue rest
  | [] => 1

/-- The value of an unsigned decimal number. -/
def decimalValue (chars : List Char) : ℚ :=
  let mantissa := chars.takeWhile fun char => char ≠ 'e' ∧ char ≠ 'E'
  let exponent := chars.drop mantissa.length
  let whole := mantissa.takeWhile fun char => char ≠ '.'
  let fraction := (mantissa.drop whole.length).filter Char.isDigit
  (digitsValue (whole ++ fraction) : ℚ) / 10 ^ fraction.length * exponentFactor exponent

/-- The conversion of a text to a finite number. -/
def toRat? (text : String) : Option ℚ :=
  let chars := stripChars text.toList
  let unsigned := dropSign chars
  if isDecimal unsigned then
    some (if chars.head? = some '-' then -decimalValue unsigned else decimalValue unsigned)
  else none

/-- The nearest integer, and the even one of two nearest integers. -/
def roundHalfEven (value : ℚ) : Int :=
  let below := value.floor
  let rest := value - below
  if rest < 1 / 2 then below
  else if 1 / 2 < rest then below + 1
  else if below % 2 = 0 then below
  else below + 1

/-- The value rounded to a number of decimal places. -/
def roundTo (places : Nat) (value : ℚ) : ℚ :=
  roundHalfEven (value * (10 ^ places : Nat)) / (10 ^ places : Nat)

/-- A non-negative value with a fixed number of decimal places. -/
def fixed (places : Nat) (value : ℚ) : String :=
  let scaled := (roundHalfEven (value * (10 ^ places : Nat))).toNat
  let fraction := toString (scaled % 10 ^ places)
  toString (scaled / 10 ^ places) ++ "." ++
    String.ofList (List.replicate (places - fraction.length) '0') ++ fraction

/-- A value with a fixed number of decimal places and its sign. -/
def fixedSigned (places : Nat) (value : ℚ) : String :=
  if value < 0 then "-" ++ fixed places (-value) else fixed places value

example : fixed 5 (1 / 8) = "0.12500" := by decide +kernel

example : isFloat " -1_0.5e3 " = true := by decide

example : toInt? " -12" = some (-12) := by decide

example : toRat? "-1_2.5e-1" = some (-5 / 4) := by decide +kernel

end EaBot.Foundation.Text
