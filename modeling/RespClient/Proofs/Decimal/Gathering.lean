import RespClient.Decimal.Word

/-!
# Digits gathered in 64 bits

Taken in one by one within the range, the digits of a text come to the number that they
come to without any bound, or to nothing if that number is out of range. A number moves
away from zero with each further digit, so what has left the range does not come back,
and before that no digit was lost. Leading zeros leave the value where it is.
-/

namespace RespClient.Decimal

variable {sign : Sign} {value : Int64} {size : Nat}

theorem Sign.apply_zero (sign : Sign) : sign.apply 0 = 0 := by
  cases sign <;> rfl

theorem Sign.apply_digit (sign : Sign) (size digit : Nat) :
    sign.apply (10 * size + digit) = sign.apply size * 10 + sign.apply digit := by
  cases sign with
  | plus => simp only [Sign.apply]; omega
  | minus => simp only [Sign.apply]; omega

theorem le_ofDigitChars (chars : List Char) (size : Nat) :
    size ≤ Nat.ofDigitChars 10 chars size := by
  induction chars generalizing size with
  | nil => exact Nat.le_refl size
  | cons char chars ih =>
      rw [Nat.ofDigitChars_cons]
      have later := ih (10 * size + (char.toNat - '0'.toNat))
      omega

/-- What is out of range is so with every greater magnitude. -/
theorem word?_eq_none_of_le {larger : Nat} (beyond : word? (sign.apply size) = none)
    (further : size ≤ larger) : word? (sign.apply larger) = none := by
  rw [Option.eq_none_iff_forall_ne_some]
  intro word within
  have low := word.minValue_le_toInt
  have high := word.toInt_le
  rw [word?_eq_some_iff.1 within] at low high
  -- The smaller magnitude lies between zero and a value in range.
  have inside : Int64.minValue.toInt ≤ sign.apply size ∧
      sign.apply size ≤ Int64.maxValue.toInt := by
    have least : Int64.minValue.toInt ≤ 0 := by decide
    have most : 0 ≤ Int64.maxValue.toInt := by decide
    cases sign with
    | plus => simp only [Sign.apply] at low high ⊢; omega
    | minus => simp only [Sign.apply] at low high ⊢; omega
  rw [word?, if_pos inside] at beyond
  cases beyond

/-- One digit more, with the range checked after the move and again behind the digit, is in range
exactly if the number with this digit is. -/
theorem place?_of_digit {char : Char} (worth : value.toInt = sign.apply size)
    (digit : char.isDigit = true) :
    place? sign value char = word? (sign.apply (10 * size + (char.toNat - '0'.toNat))) := by
  have shifted : value.toInt * 10 = sign.apply (10 * size) := by
    have moved := sign.apply_digit size 0
    rw [Sign.apply_zero, Int.add_zero] at moved
    rw [worth, ← moved, Nat.add_zero]
  unfold place?
  rw [if_pos digit]
  cases moved : word? (value.toInt * 10) with
  | none =>
      rw [shifted] at moved
      exact (word?_eq_none_of_le moved (Nat.le_add_right _ _)).symm
  | some middle =>
      have kept := word?_eq_some_iff.1 moved
      change word? (middle.toInt + _) = _
      rw [kept, worth, Sign.apply_digit]

/-- From a value that stands for the digits so far, the rest are taken in without loss. -/
theorem foldlM_place? {chars : List Char} (worth : value.toInt = sign.apply size) :
    chars.foldlM (place? sign) value =
      if chars.all Char.isDigit then word? (sign.apply (Nat.ofDigitChars 10 chars size))
      else none := by
  induction chars generalizing value size with
  | nil =>
      change some value = word? (sign.apply size)
      rw [← worth, word?_toInt]
  | cons char chars ih =>
      rw [List.foldlM_cons, List.all_cons, Nat.ofDigitChars_cons]
      cases digit : char.isDigit with
      | false =>
          have refused : place? sign value char = none := by
            rw [place?, digit]
            rfl
          rw [refused]
          rfl
      | true =>
          rw [place?_of_digit worth digit, Bool.true_and]
          cases next : word? (sign.apply (10 * size + (char.toNat - '0'.toNat))) with
          | none =>
              -- What is left can only add to the magnitude, unless it holds no digits anyway.
              rw [word?_eq_none_of_le next (le_ofDigitChars chars _), ite_self]
              rfl
          | some value => exact ih (word?_eq_some_iff.1 next)

theorem gather?_eq (sign : Sign) (chars : List Char) :
    gather? sign chars = (ofDigits? chars).bind fun size => word? (sign.apply size) := by
  have start : (0 : Int64).toInt = sign.apply 0 := sign.apply_zero.symm
  unfold gather? ofDigits?
  by_cases empty : chars = []
  · simp [empty]
  · rw [if_neg empty, foldlM_place? start]
    cases chars.all Char.isDigit <;> simp [empty]

/-- Within 64 bits a text is read as it is without a bound, if its number has no more bits. -/
theorem int64?_eq (chars : List Char) : int64? chars = (signed? chars).bind word? := by
  unfold int64?
  split
  · next chars =>
      rw [gather?_eq, signed?_minus]
      cases ofDigits? chars <;> rfl
  · next chars =>
      have plain : unsigned? ('+' :: chars) = ofDigits? chars := rfl
      rw [gather?_eq, signed?_cons (by decide), plain]
      cases ofDigits? chars <;> rfl
  · next minus plus =>
      cases chars with
      | nil => rfl
      | cons char chars =>
          have noMinus : char ≠ '-' := fun same => minus chars (same ▸ rfl)
          have noPlus : char ≠ '+' := fun same => plus chars (same ▸ rfl)
          rw [gather?_eq, signed?_cons noMinus, unsigned?_cons noPlus]
          cases ofDigits? (char :: chars) <;> rfl

end RespClient.Decimal
