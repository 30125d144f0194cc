import EaBot.Foundation.Dict
import EaBot.Foundation.Text

/-!
# Dynamic values

Records that cross a module boundary (ledger entries, broker replies) hold
dynamically typed scalars.  A number is kept together with the text it prints as,
so that a value never has to be rendered again.  Conversions fail with the text
of the error that the source language raises.
-/

namespace EaBot.Foundation

/-- A number and the way it prints. -/
structure Number where
  value : ℚ
  shown : String
deriving DecidableEq

/-- A dynamically typed scalar. -/
inductive Val
  | none
  | bool (value : Bool)
  | int (value : Int)
  | num (value : Number)
  | str (value : String)
deriving DecidableEq

namespace Val

/-- Whether the value counts as true in a condition. -/
def truthy : Val → Bool
  | none => false
  | bool value => value
  | int value => value ≠ 0
  | num value => value.value ≠ 0
  | str value => value ≠ ""

/-- The first value when it counts as true, the second one otherwise. -/
def orElse (first second : Val) : Val :=
  if first.truthy then first else second

/-- The value as a text. -/
def text : Val → String
  | none => "None"
  | bool true => "True"
  | bool false => "False"
  | int value => toString value
  | num value => value.shown
  | str value => value

/-- The name of the value's type. -/
def typeName : Val → String
  | none => "NoneType"
  | bool _ => "bool"
  | int _ => "int"
  | num _ => "float"
  | str _ => "str"

/-- The value of a number, when the value is one. -/
def number? : Val → Option ℚ
  | bool true => some 1
  | bool false => some 0
  | int value => some value
  | num value => some value.value
  | none => Option.none
  | str _ => Option.none

/-- Conversion to an integer; a fraction is dropped. -/
def toInt : Val → Except String Int
  | bool true => .ok 1
  | bool false => .ok 0
  | int value => .ok value
  | num value => .ok (if 0 ≤ value.value then value.value.floor else value.value.ceil)
  | str value =>
      match Text.toInt? value with
      | some result => .ok result
      | Option.none => .error s!"invalid literal for int() with base 10: '{value}'"
  | none => .error
      "int() argument must be a string, a bytes-like object or a real number, not 'NoneType'"

/-- Whether the conversion to a floating-point number succeeds. -/
def checkFloat : Val → Except String Unit
  | str value =>
      if Text.isFloat value then .ok ()
      else .error s!"could not convert string to float: '{value}'"
  | none => .error "float() argument must be a string or a real number, not 'NoneType'"
  | _ => .ok ()

/-- The conversion to a finite floating-point number. -/
def toFloat : Val → Except String ℚ
  | str value =>
      match Text.toRat? value with
      | some result => .ok result
      | Option.none => .error s!"could not convert string to float: '{value}'"
  | none => .error "float() argument must be a string or a real number, not 'NoneType'"
  | bool true => .ok 1
  | bool false => .ok 0
  | int value => .ok value
  | num value => .ok value.value

/-- An optional integer. -/
def ofInt? : Option Int → Val
  | some value => int value
  | Option.none => none

end Val

/-- Two numbers that count as equal. -/
def Close (value other : ℚ) : Prop :=
  |value - other| ≤ 1 / 10 ^ 9

instance (value other : ℚ) : Decidable (Close value other) :=
  inferInstanceAs (Decidable (_ ≤ _))

theorem close_self (value : ℚ) : Close value value := by
  simp [Close]

/-- A sequence of two fallible steps that succeeds has taken both. -/
theorem of_bind_eq_ok {ε α β : Type} {first : Except ε α} {next : α → Except ε β} {result : β}
    (succeeded : (first >>= next) = .ok result) :
    ∃ value, first = .ok value ∧ next value = .ok result := by
  cases first with
  | error raised => cases succeeded
  | ok value => exact ⟨value, rfl, succeeded⟩

theorem ok_of_toOption {ε α : Type} {result : Except ε α} {value : α}
    (found : result.toOption = some value) : result = .ok value := by
  cases result with
  | error raised => cases found
  | ok other => exact congrArg Except.ok (Option.some.inj found)

@[simp]
theorem ok_bind {ε α β : Type} (value : α) (next : α → Except ε β) :
    ((Except.ok value : Except ε α) >>= next) = next value := rfl

/-- A record with named fields. -/
abbrev Record := Dict String Val

/-- The first of several fields that counts as true. -/
def firstOf (record : Record) : List String → Val
  | [] => .none
  | name :: rest => ((record.get name).getD .none).orElse (firstOf record rest)

/-- The number in the first of several fields that counts as true, zero when none
does. -/
def numberOf (record : Record) (names : List String) : Except String ℚ :=
  ((firstOf record names).orElse (.int 0)).toFloat

/-- The number in a field, or a default when the field is missing. -/
def floatOr (record : Record) (name : String) (default : ℚ) : Except String ℚ :=
  match record.get name with
  | some value => value.toFloat
  | none => .ok default

end EaBot.Foundation
