import Mathlib.Data.List.TakeWhile
import Mathlib.Tactic

/-!
# Decimal integers in text

`signedDecimal` reads a 64-bit integer from the front of a text: leading blanks
are skipped, an optional sign and a run of digits are read, anything after the
run is ignored, a text without digits reads as zero, and a number out of range
reads as the nearest bound. Texts written with `Nat.repr` are read back exactly
below the bound.
-/

namespace ZFBaseFramework

namespace DecimalText

/-- The largest 64-bit signed integer. -/
def upperBound : ℤ := 2 ^ 63 - 1

/-- The smallest 64-bit signed integer. -/
def lowerBound : ℤ := -2 ^ 63

/-- The number written by the digits at the front of a text. -/
def leadingNat (text : List Char) : ℕ :=
  Nat.ofDigitChars 10 (text.takeWhile Char.isDigit) 0

/-- The 64-bit integer at the front of a text. -/
def signedDecimal (text : List Char) : ℤ :=
  match text.dropWhile Char.isWhitespace with
  | '-' :: digits => max lowerBound (-(leadingNat digits : ℤ))
  | '+' :: digits => min upperBound (leadingNat digits : ℤ)
  | digits => min upperBound (leadingNat digits : ℤ)

theorem takeWhile_isDigit_toDigits (n : ℕ) :
    (Nat.toDigits 10 n).takeWhile Char.isDigit = Nat.toDigits 10 n := by
  rw [List.takeWhile_eq_self_iff]
  intro c present
  exact Nat.isDigit_of_mem_toDigits (by decide) (by decide) present

theorem leadingNat_toDigits (n : ℕ) : leadingNat (Nat.toDigits 10 n) = n := by
  rw [leadingNat, takeWhile_isDigit_toDigits, Nat.ofDigitChars_ten_toDigits]

/-- A numeral starts with a digit, so it carries neither blanks nor a sign. -/
theorem toDigits_eq_cons (n : ℕ) :
    ∃ c rest, Nat.toDigits 10 n = c :: rest ∧ c.isDigit = true := by
  cases written : Nat.toDigits 10 n with
  | nil => exact absurd written Nat.toDigits_ne_nil
  | cons c rest =>
      refine ⟨c, rest, rfl, ?_⟩
      apply Nat.isDigit_of_mem_toDigits (b := 10) (n := n) (by decide) (by decide)
      simp [written]

theorem signedDecimal_of_digit {c : Char} {rest : List Char} (digit : c.isDigit = true) :
    signedDecimal (c :: rest) = min upperBound (leadingNat (c :: rest) : ℤ) := by
  have notBlank : c.isWhitespace = false := by
    by_contra blank
    simp only [Char.isWhitespace, Bool.not_eq_false, Bool.or_eq_true, decide_eq_true_eq] at blank
    rcases blank with ((rfl | rfl) | rfl) | rfl <;> simp [Char.isDigit] at digit
  have notMinus : c ≠ '-' := by
    rintro rfl
    simp [Char.isDigit] at digit
  have notPlus : c ≠ '+' := by
    rintro rfl
    simp [Char.isDigit] at digit
  rw [signedDecimal, List.dropWhile_cons_of_neg (by simp [notBlank])]
  split
  case h_1 heq => exact absurd (List.cons.inj heq).1 notMinus
  case h_2 heq => exact absurd (List.cons.inj heq).1 notPlus
  case h_3 => rfl

/-- A numeral within the bound is read back. -/
theorem signedDecimal_toDigits {n : ℕ} (small : n < 2 ^ 63) :
    signedDecimal (Nat.toDigits 10 n) = n := by
  rcases toDigits_eq_cons n with ⟨c, rest, written, digit⟩
  rw [written, signedDecimal_of_digit digit, ← written, leadingNat_toDigits, upperBound]
  omega

/-- No text reads as more than the largest integer. -/
theorem signedDecimal_le (text : List Char) : signedDecimal text ≤ upperBound := by
  rw [signedDecimal]
  split
  · rw [max_le_iff]
    refine ⟨by decide, ?_⟩
    have nonneg : (0 : ℤ) ≤ upperBound := by decide
    omega
  · exact min_le_left _ _
  · exact min_le_left _ _

theorem slash_not_mem_toDigits (n : ℕ) : '/' ∉ Nat.toDigits 10 n := by
  intro present
  have digit := Nat.isDigit_of_mem_toDigits (by decide) (by decide) present
  simp [Char.isDigit] at digit

/-- The text after the last separator. -/
def lastComponent (separator : Char) (text : List Char) : List Char :=
  (text.splitOn separator).getLastD []

/-- What follows the last separator is the last component. -/
theorem lastComponent_append {separator : Char} (front : List Char) {back : List Char}
    (backFree : separator ∉ back) :
    lastComponent separator (front ++ separator :: back) = back := by
  rw [lastComponent, List.splitOn_append_cons_self, List.splitOn_eq_singleton backFree]
  simp

end DecimalText

end ZFBaseFramework
