/-!
# Decimal integers

The decimal text of an integer, and the texts that are read back as one: an
optional sign followed by digits alone. Leading zeros are allowed and values are
unbounded; a caller that has a range checks it on the value.
-/

namespace RespClient.Decimal

def digits (value : Nat) : List Char :=
  Nat.toDigits 10 value

def signedDigits : Int → List Char
  | .ofNat value => digits value
  | .negSucc value => '-' :: digits (value + 1)

def showNat (value : Nat) : String :=
  String.ofList (digits value)

def showInt (value : Int) : String :=
  String.ofList (signedDigits value)

/-- One or more digits. -/
def ofDigits? (chars : List Char) : Option Nat :=
  if chars ≠ [] ∧ chars.all Char.isDigit then some (Nat.ofDigitChars 10 chars 0) else none

/-- Digits after an optional plus sign. -/
def unsigned? : List Char → Option Nat
  | '+' :: chars => ofDigits? chars
  | chars => ofDigits? chars

/-- Digits after an optional sign. -/
def signed? : List Char → Option Int
  | '-' :: chars => (ofDigits? chars).map fun value => -(value : Int)
  | chars => (unsigned? chars).map fun value => (value : Int)

theorem unsigned?_cons {char : Char} {chars : List Char} (plus : char ≠ '+') :
    unsigned? (char :: chars) = ofDigits? (char :: chars) := by
  unfold unsigned?
  split
  · next same => exact absurd (List.cons.inj same).1 plus
  · rfl

theorem signed?_minus (chars : List Char) :
    signed? ('-' :: chars) = (ofDigits? chars).map fun value : Nat => -(value : Int) := by
  cases found : ofDigits? chars <;> simp [signed?, found]

theorem signed?_cons {char : Char} {chars : List Char} (minus : char ≠ '-') :
    signed? (char :: chars) = (unsigned? (char :: chars)).map fun value : Nat => (value : Int) := by
  unfold signed?
  split
  · next same => exact absurd (List.cons.inj same).1 minus
  · cases found : unsigned? (char :: chars) <;> simp

/-- What is read as an integer are digits, after at most one sign. -/
theorem digits_of_signed? {chars : List Char} {value : Int} (read : signed? chars = some value) :
    ∃ digits size, ofDigits? digits = some size ∧
      (chars = digits ∧ value = size ∨ chars = '+' :: digits ∧ value = size ∨
        chars = '-' :: digits ∧ value = -(size : Int)) := by
  cases chars with
  | nil => cases read
  | cons first rest =>
      by_cases minus : first = '-'
      · subst minus
        rw [signed?_minus] at read
        obtain ⟨size, found, rfl⟩ := Option.map_eq_some_iff.1 read
        exact ⟨rest, size, found, .inr (.inr ⟨rfl, rfl⟩)⟩
      · rw [signed?_cons minus] at read
        obtain ⟨size, found, rfl⟩ := Option.map_eq_some_iff.1 read
        by_cases plus : first = '+'
        · subst plus
          exact ⟨rest, size, found, .inr (.inl ⟨rfl, rfl⟩)⟩
        · rw [unsigned?_cons plus] at found
          exact ⟨first :: rest, size, found, .inl ⟨rfl, rfl⟩⟩

theorem ofDigits?_ascii {chars : List Char} {size : Nat} (read : ofDigits? chars = some size) :
    ∀ char ∈ chars, char.toNat < 128 := by
  intro char member
  unfold ofDigits? at read
  split at read
  · next valid =>
      have digit := List.all_eq_true.1 valid.2 char member
      simp only [Char.isDigit, ge_iff_le, Bool.and_eq_true, decide_eq_true_eq,
        UInt32.le_iff_toNat_le] at digit
      exact Nat.lt_of_le_of_lt digit.2 (by decide)
  · cases read

theorem signed?_ascii {chars : List Char} {value : Int} (read : signed? chars = some value) :
    ∀ char ∈ chars, char.toNat < 128 := by
  obtain ⟨digits, size, found, ⟨rfl, -⟩ | ⟨rfl, -⟩ | ⟨rfl, -⟩⟩ := digits_of_signed? read
  · exact ofDigits?_ascii found
  · exact List.forall_mem_cons.2 ⟨by decide, ofDigits?_ascii found⟩
  · exact List.forall_mem_cons.2 ⟨by decide, ofDigits?_ascii found⟩

theorem all_isDigit_digits (value : Nat) : (digits value).all Char.isDigit = true := by
  rw [List.all_eq_true]
  intro char member
  exact Nat.isDigit_of_mem_toDigits (by decide) (by decide) member

theorem ofDigits?_digits (value : Nat) : ofDigits? (digits value) = some value := by
  have filled : digits value ≠ [] := Nat.toDigits_ne_nil
  simp only [ofDigits?, filled, all_isDigit_digits, ne_eq, not_false_eq_true, and_self, if_true]
  exact congrArg some Nat.ofDigitChars_ten_toDigits

theorem unsigned?_digits (value : Nat) : unsigned? (digits value) = some value := by
  have plain := all_isDigit_digits value
  have back := ofDigits?_digits value
  unfold unsigned?
  split
  · next rest same => simp [same] at plain
  · exact back

theorem signed?_signedDigits (value : Int) : signed? (signedDigits value) = some value := by
  cases value with
  | ofNat value =>
      have plain := all_isDigit_digits value
      have back := unsigned?_digits value
      unfold signed? signedDigits
      split
      · next rest same => simp [same] at plain
      · simp [back]
  | negSucc value =>
      simp [signed?, signedDigits, ofDigits?_digits, Int.negSucc_eq]

end RespClient.Decimal
