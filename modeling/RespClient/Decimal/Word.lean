import RespClient.Decimal.Integer

/-!
# Decimal integers of 64 bits

The digits of a text are gathered from the left in a value of 64 bits. Each of them
moves the value by a place and goes in behind it, and neither may leave the range.
A minus sign takes the digits away instead of turning the sum around at the end, as
the least value has no counterpart above zero.
-/

namespace RespClient.Decimal

/-- An integer as a value of 64 bits, if it has no more than these. -/
def word? (value : Int) : Option Int64 :=
  if Int64.minValue.toInt ≤ value ∧ value ≤ Int64.maxValue.toInt then some (Int64.ofInt value)
  else none

inductive Sign where
  | plus
  | minus

def Sign.apply : Sign → Nat → Int
  | plus, magnitude => magnitude
  | minus, magnitude => -magnitude

def place? (sign : Sign) (value : Int64) (char : Char) : Option Int64 :=
  if char.isDigit then do
    let moved ← word? (value.toInt * 10)
    word? (moved.toInt + sign.apply (char.toNat - '0'.toNat))
  else none

/-- One or more digits of a number with this sign. -/
def gather? (sign : Sign) (chars : List Char) : Option Int64 :=
  if chars = [] then none else chars.foldlM (place? sign) 0

/-- Digits after an optional sign. -/
def int64? : List Char → Option Int64
  | '-' :: chars => gather? .minus chars
  | '+' :: chars => gather? .plus chars
  | chars => gather? .plus chars

theorem word?_eq_some_iff {value : Int} {word : Int64} :
    word? value = some word ↔ word.toInt = value := by
  unfold word?
  split
  · next range =>
      have kept : (Int64.ofInt value).toInt = value :=
        Int64.toInt_ofInt_of_le range.1 (Int.lt_of_le_of_lt range.2 (by decide))
      rw [Option.some.injEq, ← Int64.toInt_inj, kept]
      exact eq_comm
  · next beyond =>
      constructor
      · exact nofun
      · rintro rfl
        exact absurd ⟨word.minValue_le_toInt, word.toInt_le⟩ beyond

theorem word?_toInt (word : Int64) : word? word.toInt = some word :=
  word?_eq_some_iff.2 rfl

end RespClient.Decimal
