import EaBot.Foundation.Text
import Mathlib.Tactic.IntervalCases

/-!
# Integers as texts

An integer that was written as a text is read back from it.
-/

namespace EaBot.Foundation.Text

theorem digitTail_of_all {chars : List Char} (digits : ∀ char ∈ chars, char.isDigit = true) :
    digitTail chars = [] := by
  induction chars with
  | nil => rfl
  | cons char rest ih =>
      rcases List.forall_mem_cons.mp digits with ⟨first, others⟩
      have plain : char ≠ '_' := by
        rintro rfl
        exact absurd first (by decide)
      cases rest with
      | nil => simp [digitTail, first]
      | cons next rest =>
          rw [digitTail, if_pos first, ih others]
          exact fun _ _ same => absurd same plain

theorem digits?_of_all {chars : List Char} (nonempty : chars ≠ [])
    (digits : ∀ char ∈ chars, char.isDigit = true) : digits? chars = some [] := by
  cases chars with
  | nil => exact absurd rfl nonempty
  | cons char rest =>
      rcases List.forall_mem_cons.mp digits with ⟨first, others⟩
      rw [digits?, if_pos first, digitTail_of_all others]

theorem digitsValue_append_digit (chars : List Char) {digit : Nat} (small : digit < 10) :
    digitsValue (chars ++ [digit.digitChar]) = 10 * digitsValue chars + digit := by
  rw [digitsValue, List.foldl_append]
  simp only [List.foldl_cons, List.foldl_nil]
  interval_cases digit <;> rfl

theorem digitsValue_toDigits (n : Nat) : digitsValue (Nat.toDigits 10 n) = n := by
  induction n using Nat.strong_induction_on with
  | _ n ih =>
      by_cases small : n < 10
      · rw [Nat.toDigits_of_lt_base small]
        have digit := digitsValue_append_digit [] small
        simpa [digitsValue] using digit
      · rw [Nat.toDigits_of_base_le (by omega) (by omega),
          digitsValue_append_digit _ (Nat.mod_lt n (by omega)), ih (n / 10) (by omega)]
        omega

theorem isDigit_toDigits {n : Nat} {char : Char} (member : char ∈ Nat.toDigits 10 n) :
    char.isDigit = true :=
  Nat.isDigit_of_mem_toDigits (by omega) (by omega) member

theorem natValue_toDigits (n : Nat) : natValue (Nat.toDigits 10 n) = some n := by
  have nonempty : Nat.toDigits 10 n ≠ [] := by
    intro empty
    have positive := Nat.length_toDigits_pos (b := 10) (n := n)
    rw [empty] at positive
    exact absurd positive (by decide)
  rw [natValue, if_pos (digits?_of_all nonempty fun _ member => isDigit_toDigits member),
    digitsValue_toDigits]

theorem stripChars_of_all {chars : List Char} (solid : ∀ char ∈ chars, isSpace char = false) :
    stripChars chars = chars := by
  have kept : ∀ {chars : List Char}, (∀ char ∈ chars, isSpace char = false) →
      chars.dropWhile isSpace = chars := by
    intro chars solid
    cases chars with
    | nil => rfl
    | cons char rest => simp [solid char List.mem_cons_self]
  rw [stripChars, kept solid, kept, List.reverse_reverse]
  exact fun char member => solid char (List.mem_reverse.mp member)

theorem isSpace_of_isDigit {char : Char} (digit : char.isDigit = true) : isSpace char = false := by
  have code : 48 ≤ char.toNat ∧ char.toNat ≤ 57 := Char.isDigit_iff_toNat.mp digit
  unfold isSpace
  simp only [Bool.or_eq_false_iff, Bool.and_eq_false_iff, decide_eq_false_iff_not,
    beq_eq_false_iff_ne]
  omega

/-- A written integer is read back. -/
theorem toInt?_toString (k : Int) : toInt? (toString k) = some k := by
  have solid : ∀ n : Nat, ∀ char ∈ Nat.toDigits 10 n, isSpace char = false :=
    fun n char member => isSpace_of_isDigit (isDigit_toDigits member)
  cases k with
  | ofNat n =>
      have chars : (toString (Int.ofNat n)).toList = Nat.toDigits 10 n := Nat.toList_repr
      rw [toInt?, chars, stripChars_of_all (solid n)]
      split
      case h_1 rest signed =>
          have minus := isDigit_toDigits (signed ▸ List.mem_cons_self : '-' ∈ Nat.toDigits 10 n)
          exact absurd minus (by decide)
      case h_2 rest signed =>
          have plus := isDigit_toDigits (signed ▸ List.mem_cons_self : '+' ∈ Nat.toDigits 10 n)
          exact absurd plus (by decide)
      case h_3 =>
          rw [natValue_toDigits]
          rfl
  | negSucc n =>
      have chars : (toString (Int.negSucc n)).toList = '-' :: Nat.toDigits 10 (n + 1) := by
        rw [Int.toString_eq_repr, Int.repr_eq_if, if_neg (by omega), String.toList_append,
          Nat.toList_repr]
        rfl
      rw [toInt?, chars, stripChars_of_all]
      · simp only [natValue_toDigits]
        rfl
      · exact List.forall_mem_cons.mpr ⟨by decide, solid (n + 1)⟩

theorem toString_injective : Function.Injective fun k : Int => toString k := by
  intro first second same
  have read := congrArg toInt? same
  simpa only [toInt?_toString, Option.some.injEq] using read

end EaBot.Foundation.Text
