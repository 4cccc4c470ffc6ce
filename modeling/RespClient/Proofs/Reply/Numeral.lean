import RespClient.Proofs.Decimal.Gathering
import RespClient.Reply.Reader

/-!
# Numbers in header lines

A header line that holds a number is an optional sign followed by decimal digits,
and its value is computed without any bound. The reader, which decodes the line as text
and has no more than 64 bits for the number, takes it exactly if the value is one of these.
-/

namespace RespClient

def IsDigit (byte : UInt8) : Prop :=
  48 ≤ byte.toNat ∧ byte.toNat ≤ 57

instance (byte : UInt8) : Decidable (IsDigit byte) :=
  inferInstanceAs (Decidable (_ ∧ _))

-- Goes through the list; the range of a byte could be gone through as well.
instance (digits : Bytes) : Decidable (∀ digit ∈ digits, IsDigit digit) :=
  List.decidableBAll _ digits

def digitsValue (digits : Bytes) : Nat :=
  digits.foldl (fun value digit => 10 * value + (digit.toNat - 48)) 0

/-- The texts of a number: digits, after at most one sign. Zeros may lead. -/
inductive Numeral : Bytes → Int → Prop where
  | unsigned {digits : Bytes} (filled : digits ≠ []) (decimal : ∀ digit ∈ digits, IsDigit digit) :
      Numeral digits (digitsValue digits)
  | plus {digits : Bytes} (filled : digits ≠ []) (decimal : ∀ digit ∈ digits, IsDigit digit) :
      Numeral ('+'.toUInt8 :: digits) (digitsValue digits)
  | minus {digits : Bytes} (filled : digits ≠ []) (decimal : ∀ digit ∈ digits, IsDigit digit) :
      Numeral ('-'.toUInt8 :: digits) (-(digitsValue digits : Int))

theorem numeral_missing : Numeral (Bytes.ofText "-1") (-1) :=
  .minus (by decide) (by decide)

theorem toNat_charOfByte (byte : UInt8) : (Char.ofNat byte.toNat).toNat = byte.toNat := by
  have bound := byte.toNat_lt
  have valid : byte.toNat.isValidChar := Or.inl (by omega)
  unfold Char.ofNat
  rw [dif_pos valid]
  rfl

theorem charOfByte_inj {byte : UInt8} (other : UInt8)
    (same : Char.ofNat byte.toNat = Char.ofNat other.toNat) : byte = other := by
  have codes := congrArg Char.toNat same
  rw [toNat_charOfByte, toNat_charOfByte] at codes
  exact UInt8.toNat_inj.1 codes

theorem isDigit_charOfByte (byte : UInt8) :
    (Char.ofNat byte.toNat).isDigit = true ↔ IsDigit byte := by
  have code := toNat_charOfByte byte
  have bounds : (Char.ofNat byte.toNat).isDigit = true ↔
      48 ≤ (Char.ofNat byte.toNat).toNat ∧ (Char.ofNat byte.toNat).toNat ≤ 57 := by
    simp only [Char.isDigit, ge_iff_le, Bool.and_eq_true, decide_eq_true_eq,
      UInt32.le_iff_toNat_le]
    exact Iff.rfl
  rw [bounds, code, IsDigit]

theorem ofDigits?_eq_some_iff {digits : Bytes} {value : Nat} :
    Decimal.ofDigits? (digits.map fun byte => Char.ofNat byte.toNat) = some value ↔
      digits ≠ [] ∧ (∀ digit ∈ digits, IsDigit digit) ∧ digitsValue digits = value := by
  have decimal : (digits.map fun byte => Char.ofNat byte.toNat).all Char.isDigit = true ↔
      ∀ digit ∈ digits, IsDigit digit := by
    simp only [List.all_map, List.all_eq_true, Function.comp_apply, isDigit_charOfByte]
  have worth : Nat.ofDigitChars 10 (digits.map fun byte => Char.ofNat byte.toNat) 0 =
      digitsValue digits := by
    rw [Nat.ofDigitChars_eq_foldl, List.foldl_map]
    simp only [toNat_charOfByte]
    rfl
  have filled : digits.map (fun byte => Char.ofNat byte.toNat) ≠ [] ↔ digits ≠ [] := by
    rw [ne_eq, List.map_eq_nil_iff]
  unfold Decimal.ofDigits?
  rw [worth]
  split
  · next valid =>
      rw [Option.some.injEq]
      constructor
      · intro same
        exact ⟨filled.1 valid.1, decimal.1 valid.2, same⟩
      · rintro ⟨-, -, same⟩
        exact same
  · next invalid =>
      constructor
      · exact nofun
      · rintro ⟨some, all, -⟩
        exact absurd ⟨filled.2 some, decimal.2 all⟩ invalid

/-- A text of digits does not start with a sign. -/
theorem IsDigit.ne_sign {byte : UInt8} (decimal : IsDigit byte) :
    Char.ofNat byte.toNat ≠ '-' ∧ Char.ofNat byte.toNat ≠ '+' := by
  have code := toNat_charOfByte byte
  obtain ⟨low, high⟩ := decimal
  constructor
  · intro sign
    rw [sign] at code
    change 45 = byte.toNat at code
    omega
  · intro sign
    rw [sign] at code
    change 43 = byte.toNat at code
    omega

theorem signed?_eq_some_iff {line : Bytes} {value : Int} :
    Decimal.signed? (line.map fun byte => Char.ofNat byte.toNat) = some value ↔
      Numeral line value := by
  constructor
  · intro read
    obtain ⟨digits, size, found, ⟨same, rfl⟩ | ⟨same, rfl⟩ | ⟨same, rfl⟩⟩ :=
      Decimal.digits_of_signed? read
    · subst same
      obtain ⟨filled, decimal, rfl⟩ := ofDigits?_eq_some_iff.1 found
      exact .unsigned filled decimal
    · obtain ⟨first, rest, rfl, plus, rfl⟩ := List.map_eq_cons_iff.1 same
      obtain rfl := charOfByte_inj '+'.toUInt8 plus
      obtain ⟨filled, decimal, rfl⟩ := ofDigits?_eq_some_iff.1 found
      exact .plus filled decimal
    · obtain ⟨first, rest, rfl, minus, rfl⟩ := List.map_eq_cons_iff.1 same
      obtain rfl := charOfByte_inj '-'.toUInt8 minus
      obtain ⟨filled, decimal, rfl⟩ := ofDigits?_eq_some_iff.1 found
      exact .minus filled decimal
  · intro numeral
    cases numeral with
    | unsigned filled decimal =>
        have read := ofDigits?_eq_some_iff.2 ⟨filled, decimal, rfl⟩
        cases line with
        | nil => exact absurd rfl filled
        | cons first rest =>
            obtain ⟨minus, plus⟩ := (decimal first List.mem_cons_self).ne_sign
            rw [List.map_cons] at read ⊢
            rw [Decimal.signed?_cons minus, Decimal.unsigned?_cons plus, read]
            rfl
    | plus filled decimal =>
        have read := ofDigits?_eq_some_iff.2 ⟨filled, decimal, rfl⟩
        have sign : Char.ofNat ('+'.toUInt8).toNat = '+' := rfl
        rw [List.map_cons, sign, Decimal.signed?_cons (by decide), Decimal.unsigned?, read]
        rfl
    | minus filled decimal =>
        have read := ofDigits?_eq_some_iff.2 ⟨filled, decimal, rfl⟩
        have sign : Char.ofNat ('-'.toUInt8).toNat = '-' := rfl
        rw [List.map_cons, sign, Decimal.signed?_minus, read]
        rfl

theorem Numeral.unique {line : Bytes} {value other : Int} (numeral : Numeral line value)
    (again : Numeral line other) : value = other :=
  Option.some.inj ((signed?_eq_some_iff.2 numeral).symm.trans (signed?_eq_some_iff.2 again))

theorem Numeral.free {line : Bytes} {value : Int} (numeral : Numeral line value) :
    Bytes.lineFeed ∉ line := by
  have absent : ∀ {digits : Bytes}, (∀ digit ∈ digits, IsDigit digit) →
      Bytes.lineFeed ∉ digits := by
    intro digits decimal member
    exact absurd (decimal _ member).1 (by decide)
  cases numeral with
  | unsigned filled decimal => exact absent decimal
  | plus filled decimal =>
      exact List.not_mem_cons_of_ne_of_not_mem (by decide) (absent decimal)
  | minus filled decimal =>
      exact List.not_mem_cons_of_ne_of_not_mem (by decide) (absent decimal)

/-! ## Numbers in texts -/

theorem chars_ascii {chars : List Char} (ascii : ∀ char ∈ chars, char.toNat < 128) :
    (chars.map Char.toUInt8).map (fun byte => Char.ofNat byte.toNat) = chars := by
  have kept : ∀ char ∈ chars, Char.ofNat char.toUInt8.toNat = char := by
    intro char member
    have code : char.toUInt8.toNat = char.toNat := by
      have bound := ascii char member
      change char.toNat % 256 = char.toNat
      omega
    rw [code, Char.ofNat_toNat]
  rw [List.map_map]
  exact (List.map_congr_left kept).trans (List.map_id' _)

theorem bytes_chars (line : Bytes) :
    (line.map fun byte => Char.ofNat byte.toNat).map Char.toUInt8 = line := by
  have kept : ∀ byte ∈ line, (Char.ofNat byte.toNat).toUInt8 = byte := by
    intro byte _
    apply UInt8.toNat_inj.1
    change (Char.ofNat byte.toNat).toNat % 256 = byte.toNat
    rw [toNat_charOfByte]
    exact Nat.mod_eq_of_lt byte.toNat_lt
  rw [List.map_map]
  exact (List.map_congr_left kept).trans (List.map_id' _)

/-- Decoding a line as UTF-8 keeps the numbers, which are ASCII, and makes no others. -/
theorem signed?_toText?_eq_some_iff {line : Bytes} {value : Int} :
    ((Bytes.toText? line).bind fun text => Decimal.signed? text.toList) = some value ↔
      Numeral line value := by
  rw [← signed?_eq_some_iff, Option.bind_eq_some_iff]
  constructor
  · rintro ⟨text, decoded, read⟩
    have ascii := Decimal.signed?_ascii read
    have written := Bytes.ofText_ascii ascii
    rw [String.ofList_toList, Bytes.ofText_of_toText? decoded] at written
    rw [written, chars_ascii ascii]
    exact read
  · intro read
    have written := Bytes.ofText_ascii (Decimal.signed?_ascii read)
    rw [bytes_chars] at written
    refine ⟨_, Bytes.toText?_eq_some_iff.2 written.symm, ?_⟩
    rw [String.toList_ofList]
    exact read

theorem int64?_toText?_eq_some_iff {line : Bytes} {value : Int64} :
    ((Bytes.toText? line).bind fun text => Decimal.int64? text.toList) = some value ↔
      Numeral line value.toInt := by
  simp only [Decimal.int64?_eq]
  rw [← Option.bind_assoc, Option.bind_eq_some_iff]
  constructor
  · rintro ⟨unbounded, read, fits⟩
    rw [Decimal.word?_eq_some_iff.1 fits]
    exact signed?_toText?_eq_some_iff.1 read
  · intro numeral
    exact ⟨_, signed?_toText?_eq_some_iff.2 numeral, Decimal.word?_toInt value⟩

/-- A line is read as an integer exactly if it is the text of one that has 64 bits. -/
theorem parseInteger_eq_ok_iff {line : Bytes} {value : Int64} :
    parseInteger line = .ok value ↔ Numeral line value.toInt := by
  rw [← int64?_toText?_eq_some_iff, parseInteger]
  split
  · next read => rw [read, Except.ok.injEq, Option.some.injEq]
  · next read =>
      rw [read]
      exact ⟨nofun, nofun⟩

theorem parseInteger_eq_error {line : Bytes} {cause : ProtocolError}
    (failed : parseInteger line = .error cause) :
    cause = .notAnInteger line ∧ ∀ value : Int64, ¬Numeral line value.toInt := by
  constructor
  · unfold parseInteger at failed
    split at failed
    · cases failed
    · cases failed
      rfl
  · intro value numeral
    cases failed.symm.trans (parseInteger_eq_ok_iff.2 numeral)

/-! ## The decimal text of an integer -/

theorem numeral_signedDigits (value : Int) :
    Numeral ((Decimal.signedDigits value).map Char.toUInt8) value := by
  have read := Decimal.signed?_signedDigits value
  apply signed?_eq_some_iff.1
  rw [chars_ascii (Decimal.signed?_ascii read)]
  exact read

/-- The digits of a count are a text of it. -/
theorem numeral_digits (count : Nat) :
    Numeral ((Decimal.digits count).map Char.toUInt8) count :=
  numeral_signedDigits count

end RespClient
