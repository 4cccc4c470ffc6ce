import RespClient.Proofs.Reply.Decoding

/-!
# The numbers of headers are exact

A line is taken for an integer of 64 bits exactly if it is a text of that integer; any other
line is refused, whether it is no number or one with more bits. So no number is ever turned
into another one, and the length or the count that a reply has is the one in its header.
-/

namespace RespClient

variable {line : Bytes} {value : Int}

/-- The integers that a value of 64 bits can be are those of a range with one more below zero. -/
theorem exists_toInt_eq_iff :
    (∃ word : Int64, word.toInt = value) ↔ -2 ^ 63 ≤ value ∧ value ≤ 2 ^ 63 - 1 := by
  constructor
  · rintro ⟨word, rfl⟩
    have low := word.le_toInt
    have high := word.toInt_lt
    exact ⟨low, by omega⟩
  · rintro ⟨low, high⟩
    exact ⟨Int64.ofInt value, Int64.toInt_ofInt_of_le low (by omega)⟩

theorem parseInteger_accepts_iff :
    (∃ word, parseInteger line = .ok word ∧ word.toInt = value) ↔
      Numeral line value ∧ -2 ^ 63 ≤ value ∧ value ≤ 2 ^ 63 - 1 := by
  rw [← exists_toInt_eq_iff]
  constructor
  · rintro ⟨word, read, rfl⟩
    exact ⟨parseInteger_eq_ok_iff.1 read, word, rfl⟩
  · rintro ⟨numeral, word, rfl⟩
    exact ⟨word, parseInteger_eq_ok_iff.2 numeral, rfl⟩

theorem parseInteger_refuses_iff {cause : ProtocolError} :
    parseInteger line = .error cause ↔ cause = .notAnInteger line ∧
      ∀ value : Int, Numeral line value → value < -2 ^ 63 ∨ 2 ^ 63 - 1 < value := by
  constructor
  · intro refused
    obtain ⟨told, other⟩ := parseInteger_eq_error refused
    refine ⟨told, fun value numeral => ?_⟩
    have absent : ¬∃ word : Int64, word.toInt = value := by
      rintro ⟨word, rfl⟩
      exact other word numeral
    rw [exists_toInt_eq_iff] at absent
    omega
  · rintro ⟨rfl, beyond⟩
    cases read : parseInteger line with
    | error cause => rw [(parseInteger_eq_error read).1]
    | ok word =>
        have within := exists_toInt_eq_iff.1 ⟨word, (rfl : word.toInt = word.toInt)⟩
        have outside := beyond _ (parseInteger_eq_ok_iff.1 read)
        omega

/-- The text of an integer, which may have any number of bits, is read as this integer or not
at all. -/
theorem parseInteger_showInt {word : Int64} :
    parseInteger (Bytes.ofText (Decimal.showInt value)) = .ok word ↔ word.toInt = value := by
  have read := Decimal.signed?_signedDigits value
  have written : Bytes.ofText (Decimal.showInt value) = _ :=
    Bytes.ofText_ascii (Decimal.signed?_ascii read)
  have numeral := numeral_signedDigits value
  rw [parseInteger_eq_ok_iff, written]
  constructor
  · intro other
    exact other.unique numeral
  · rintro rfl
    exact numeral

namespace Reply

/-- The number that stands in the header of a reply: itself, what it counts, or the mark of a
missing value. -/
def headerNumber? : Reply → Option Int
  | simple _ | error _ => none
  | integer value => some value.toInt
  | bulk data => some data.length
  | array items => some items.length
  | nil => some (-1)

theorem Frame.header_numeral {allowed : Bytes → Prop} {depth : Nat} {reply : Reply} {bytes : Bytes}
    (frame : Frame allowed depth reply bytes) (holds : reply.headerNumber? = some value) :
    ∃ type line rest, bytes = headed type line ++ rest ∧ Numeral line value := by
  cases frame with
  | simple | error => cases holds
  | integer numeral | noBulk numeral | noArray numeral =>
      cases holds
      exact ⟨_, _, [], (List.append_nil _).symm, numeral⟩
  | bulk numeral =>
      cases holds
      exact ⟨_, _, _, rfl, numeral⟩
  | array numeral =>
      cases holds
      exact ⟨_, _, _, rfl, numeral⟩

theorem readNested_header {σ : Type} [Socket σ] {levels : Nat} {transport after : Transport σ}
    {reply : Reply} (deep : levels ≤ maxNesting)
    (done : (readNested levels).runFrom transport = (.ok reply, after))
    (holds : reply.headerNumber? = some value) :
    ∃ type line rest, transport.stream = headed type line ++ rest ∧ Numeral line value := by
  obtain ⟨bytes, frame, split⟩ := readNested_ok (Nat.sub_add_cancel deep) done
  obtain ⟨type, line, rest, rfl, numeral⟩ := frame.header_numeral holds
  exact ⟨type, line, rest ++ after.stream, by rw [split, List.append_assoc], numeral⟩

end Reply

/-- A line is read as an integer exactly if it is a text of one within 64 bits, and else refused
with a protocol error that quotes it. The decimal text of an integer is never read as another one,
and in front of every reply, at whatever level of nesting, its own length or count is written. -/
theorem parseInteger_exact {σ : Type} [Socket σ] :
    (∀ (line : Bytes) (value : Int), (∃ word, parseInteger line = .ok word ∧ word.toInt = value) ↔
      Numeral line value ∧ -2 ^ 63 ≤ value ∧ value ≤ 2 ^ 63 - 1) ∧
    (∀ (line : Bytes) (cause : ProtocolError), parseInteger line = .error cause ↔
      cause = .notAnInteger line ∧
        ∀ value : Int, Numeral line value → value < -2 ^ 63 ∨ 2 ^ 63 - 1 < value) ∧
    (∀ (value : Int) (word : Int64),
      parseInteger (Bytes.ofText (Decimal.showInt value)) = .ok word ↔ word.toInt = value) ∧
    ∀ (levels : Nat) (transport after : Transport σ) (reply : Reply) (value : Int),
      levels ≤ maxNesting → (Reply.readNested levels).runFrom transport = (.ok reply, after) →
      reply.headerNumber? = some value → ∃ type line rest,
        transport.stream = Reply.headed type line ++ rest ∧ Numeral line value := by
  refine ⟨?_, ?_, ?_, ?_⟩
  · intro line value
    exact parseInteger_accepts_iff
  · intro line cause
    exact parseInteger_refuses_iff
  · intro value word
    exact parseInteger_showInt
  · intro levels transport after reply value deep done holds
    exact Reply.readNested_header deep done holds

/-- The least value behind leading zeros, the same magnitude above zero, which is one too many, the
text of a still longer number, and a length with a sign and leading zeros, delivered in pieces. -/
theorem parseInteger_exact_at_the_bounds :
    let transport := Transport.ofSocketWith 16
      ({ input := Bytes.ofText "$+004\r\nping\r\n", readChunk := 3 } : Scripted)
    (∃ word, parseInteger (Bytes.ofText "-0009223372036854775808") = .ok word ∧
      word.toInt = -2 ^ 63) ∧
    parseInteger (Bytes.ofText "9223372036854775808") =
      .error (.notAnInteger (Bytes.ofText "9223372036854775808")) ∧
    parseInteger (Bytes.ofText (Decimal.showInt (2 ^ 64))) ≠ .ok 0 ∧
    ∃ after, (Reply.readNested maxNesting).runFrom transport =
        (.ok (.bulk (Bytes.ofText "ping")), after) ∧
      ∃ type line rest, transport.stream = Reply.headed type line ++ rest ∧ Numeral line 4 := by
  intro transport
  obtain ⟨accepted, refused, text, header⟩ := @parseInteger_exact Scripted _
  have least : Numeral (Bytes.ofText "-0009223372036854775808") (-2 ^ 63) :=
    .minus (by decide) (by decide)
  have tooGreat : Numeral (Bytes.ofText "9223372036854775808") (2 ^ 63) :=
    .unsigned (by decide) (by decide)
  have calm : Scripted.Faultless transport.socket := by
    constructor <;> simp [transport, Transport.ofSocketWith, Scripted.Harmless]
  have frame : Reply.Frame Reply.Short 0 (.bulk (Bytes.ofText "ping"))
      (Reply.headed '$' (Bytes.ofText "+004") ++ (Bytes.ofText "ping" ++ Bytes.crlf)) :=
    .bulk (.plus (by decide) (by decide)) (by decide) (by decide)
  have found : transport.stream = Reply.headed '$' (Bytes.ofText "+004") ++
      (Bytes.ofText "ping" ++ Bytes.crlf) ++ [] := rfl
  obtain ⟨after, read, -⟩ := Reply.readFrame_yields Scripted.delivering calm frame found
  refine ⟨(accepted _ _).2 ⟨least, by decide, by decide⟩, (refused _ _).2 ⟨rfl, ?_⟩, ?_, after,
    read, header maxNesting transport after _ 4 (Nat.le_refl _) read rfl⟩
  · intro value numeral
    rw [numeral.unique tooGreat]
    exact .inr (by decide)
  · intro wrapped
    exact absurd ((text _ _).1 wrapped) (by decide)

end RespClient
