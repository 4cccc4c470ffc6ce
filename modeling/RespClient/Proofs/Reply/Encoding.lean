import RespClient.Command
import RespClient.Proofs.Reply.Decoding

/-!
# Encoded values in the grammar

Headers with a decimal number and bulk strings are written by the client and by its
peers alike. They are frames of the grammar, and where a stream starts with one no
other frame can be read off it.
-/

namespace RespClient

/-- The number of a header as it is written. -/
def numberLine (count : Nat) : Bytes :=
  (Decimal.digits count).map Char.toUInt8

theorem header_eq (type : Char) (count : Nat) :
    header type count = Reply.headed type (numberLine count) :=
  rfl

theorem numberLine_short {count : Nat} (range : (count : Int) < 2 ^ 63) :
    Reply.Short (numberLine count) := by
  have size : (Nat.toDigits 10 count).length ≤ 20 := by
    rw [Nat.length_toDigits_le_iff (by decide) (by decide)]
    omega
  unfold Reply.Short numberLine Decimal.digits maxLineLength
  rw [List.length_map]
  omega

namespace Reply

variable {allowed : Bytes → Prop} {depth : Nat} {reply : Reply} {bytes rest more : Bytes}

theorem headed_inj {type other : Char} {line text : Bytes} (free : Bytes.lineFeed ∉ line)
    (absent : Bytes.lineFeed ∉ text) (same : headed type line ++ rest = headed other text ++ more) :
    line = text ∧ rest = more :=
  Bytes.crlf_inj free absent (List.cons.inj same).2

/-- A frame that starts with the type byte of integers is one. -/
theorem Frame.of_colon {tail : Bytes} (frame : Frame allowed depth reply (':'.toUInt8 :: tail)) :
    ∃ (line : Bytes) (value : Int64), Numeral line value.toInt ∧ reply = .integer value ∧
      ':'.toUInt8 :: tail = headed ':' line := by
  generalize whole : ':'.toUInt8 :: tail = bytes at frame
  cases frame with
  | integer numeral => exact ⟨_, _, numeral, rfl, rfl⟩
  | _ => exact absurd (List.cons.inj whole).1 (by decide)

/-- A frame that starts with the type byte of errors is one. -/
theorem Frame.of_minus {tail : Bytes} (frame : Frame allowed depth reply ('-'.toUInt8 :: tail)) :
    ∃ text : String, Bytes.lineFeed ∉ Bytes.ofText text ∧ reply = .error text ∧
      '-'.toUInt8 :: tail = headed '-' (Bytes.ofText text) := by
  generalize whole : '-'.toUInt8 :: tail = bytes at frame
  cases frame with
  | error free => exact ⟨_, free, rfl, rfl⟩
  | _ => exact absurd (List.cons.inj whole).1 (by decide)

theorem Frame.of_dollar {tail : Bytes} (frame : Frame allowed depth reply ('$'.toUInt8 :: tail)) :
    (∃ line : Bytes, Numeral line (-1) ∧ reply = .nil ∧ '$'.toUInt8 :: tail = headed '$' line) ∨
    ∃ line data : Bytes, Numeral line data.length ∧ data.length ≤ maxBulkLength ∧
      reply = .bulk data ∧ '$'.toUInt8 :: tail = headed '$' line ++ (data ++ Bytes.crlf) := by
  generalize whole : '$'.toUInt8 :: tail = bytes at frame
  cases frame with
  | noBulk numeral => exact .inl ⟨_, numeral, rfl, rfl⟩
  | bulk numeral short => exact .inr ⟨_, _, numeral, short, rfl, rfl⟩
  | _ => exact absurd (List.cons.inj whole).1 (by decide)

theorem Frame.of_star {tail : Bytes} (frame : Frame allowed depth reply ('*'.toUInt8 :: tail)) :
    (∃ line : Bytes, Numeral line (-1) ∧ reply = .nil ∧ '*'.toUInt8 :: tail = headed '*' line) ∨
    ∃ (line body : Bytes) (items : List Reply), Numeral line items.length ∧
      Frames allowed (depth + 1) items body ∧ reply = .array items ∧
      '*'.toUInt8 :: tail = headed '*' line ++ body := by
  generalize whole : '*'.toUInt8 :: tail = bytes at frame
  cases frame with
  | noArray numeral => exact .inl ⟨_, numeral, rfl, rfl⟩
  | array numeral _ _ _ contents => exact .inr ⟨_, _, _, numeral, contents, rfl, rfl⟩
  | _ => exact absurd (List.cons.inj whole).1 (by decide)

/-- The first byte of a stream is that of the frame it starts with. -/
theorem Frame.uncons {type : UInt8} (frame : Frame allowed depth reply bytes)
    (same : bytes ++ rest = type :: more) : ∃ tail, bytes = type :: tail ∧ tail ++ rest = more := by
  obtain ⟨first, tail, rfl⟩ := List.exists_cons_of_ne_nil frame.ne_nil
  obtain ⟨rfl, left⟩ := List.cons.inj same
  exact ⟨tail, rfl, left⟩

/-- Where a stream starts with an encoded number, that is what is read off it. -/
theorem Frame.integer_unique {count : Nat} (frame : Frame allowed depth reply bytes)
    (same : bytes ++ rest = header ':' count ++ more) :
    (count : Int) < 2 ^ 63 ∧ reply = .integer (Int64.ofInt count) ∧ rest = more := by
  obtain ⟨tail, rfl, -⟩ := frame.uncons same
  obtain ⟨line, value, numeral, rfl, whole⟩ := frame.of_colon
  rw [whole, header_eq] at same
  obtain ⟨rfl, rfl⟩ := headed_inj numeral.free (numeral_digits count).free same
  have worth := numeral.unique (numeral_digits count)
  refine ⟨worth ▸ value.toInt_lt, ?_, rfl⟩
  rw [← worth, Int64.ofInt_toInt]

theorem Frame.error_unique {text : String} (absent : Bytes.lineFeed ∉ Bytes.ofText text)
    (frame : Frame allowed depth reply bytes)
    (same : bytes ++ rest = headed '-' (Bytes.ofText text) ++ more) :
    reply = .error text ∧ rest = more := by
  obtain ⟨tail, rfl, -⟩ := frame.uncons same
  obtain ⟨line, free, rfl, whole⟩ := frame.of_minus
  rw [whole] at same
  obtain ⟨lines, rfl⟩ := headed_inj free absent same
  have decoded := Bytes.toText?_eq_some_iff.2 lines
  rw [Bytes.toText?_ofText] at decoded
  exact ⟨congrArg Reply.error (Option.some.inj decoded), rfl⟩

theorem Frame.bulk_unique {data : Bytes} (frame : Frame allowed depth reply bytes)
    (same : bytes ++ rest = encodeBulk data ++ more) :
    data.length ≤ maxBulkLength ∧ reply = .bulk data ∧ rest = more := by
  rw [encodeBulk, List.append_assoc, List.append_assoc, header_eq] at same
  obtain ⟨tail, rfl, -⟩ := frame.uncons same
  rcases frame.of_dollar with ⟨line, numeral, rfl, whole⟩ |
    ⟨line, found, numeral, short, rfl, whole⟩
  · rw [whole] at same
    obtain ⟨rfl, -⟩ := headed_inj numeral.free (numeral_digits data.length).free same
    have worth := numeral.unique (numeral_digits data.length)
    omega
  · rw [whole, List.append_assoc, List.append_assoc] at same
    obtain ⟨rfl, left⟩ := headed_inj numeral.free (numeral_digits data.length).free same
    have worth := numeral.unique (numeral_digits data.length)
    obtain ⟨rfl, tails⟩ := List.append_inj left (Int.ofNat.inj worth)
    exact ⟨short, rfl, List.append_cancel_left tails⟩

theorem Frame.nil_unique {line : Bytes} (missing : Numeral line (-1))
    (frame : Frame allowed depth reply bytes)
    (same : bytes ++ rest = headed '$' line ++ more) : reply = .nil ∧ rest = more := by
  obtain ⟨tail, rfl, -⟩ := frame.uncons same
  rcases frame.of_dollar with ⟨text, numeral, rfl, whole⟩ | ⟨text, found, numeral, -, rfl, whole⟩
  · rw [whole] at same
    exact ⟨rfl, (headed_inj numeral.free missing.free same).2⟩
  · rw [whole, List.append_assoc] at same
    obtain ⟨rfl, -⟩ := headed_inj numeral.free missing.free same
    have worth := numeral.unique missing
    omega

theorem Frame.array_unique {count : Nat} (frame : Frame allowed depth reply bytes)
    (same : bytes ++ rest = header '*' count ++ more) :
    ∃ items body, reply = .array items ∧ items.length = count ∧
      Frames allowed (depth + 1) items body ∧ body ++ rest = more := by
  rw [header_eq] at same
  obtain ⟨tail, rfl, -⟩ := frame.uncons same
  rcases frame.of_star with ⟨line, numeral, rfl, whole⟩ |
    ⟨line, body, items, numeral, contents, rfl, whole⟩
  · rw [whole] at same
    obtain ⟨rfl, -⟩ := headed_inj numeral.free (numeral_digits count).free same
    have worth := numeral.unique (numeral_digits count)
    omega
  · rw [whole, List.append_assoc] at same
    obtain ⟨rfl, left⟩ := headed_inj numeral.free (numeral_digits count).free same
    have worth := numeral.unique (numeral_digits count)
    exact ⟨items, body, rfl, Int.ofNat.inj worth, contents, left⟩

/-! ## Encoded values are frames -/

theorem Frame.encoded_integer {count : Nat} (range : (count : Int) < 2 ^ 63) :
    Frame Short depth (.integer (Int64.ofInt count)) (header ':' count) := by
  have numeral := numeral_digits count
  rw [← toInt_ofCount range] at numeral
  exact .integer numeral (numberLine_short range)

theorem Frame.encoded_bulk {data : Bytes} (short : data.length ≤ maxBulkLength) :
    Frame Short depth (.bulk data) (encodeBulk data) := by
  rw [encodeBulk, List.append_assoc]
  have range : (data.length : Int) < 2 ^ 63 := by
    unfold maxBulkLength at short
    omega
  exact .bulk (numeral_digits data.length) short (numberLine_short range)

theorem Frame.encoded_array {items : List Reply} {body : Bytes}
    (range : (items.length : Int) < 2 ^ 63) (shallow : depth < maxNesting)
    (contents : Frames Short (depth + 1) items body) :
    Frame Short depth (.array items) (header '*' items.length ++ body) :=
  .array (numeral_digits items.length) range shallow (numberLine_short range) contents

end Reply

end RespClient
