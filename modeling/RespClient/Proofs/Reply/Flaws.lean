import RespClient.Proofs.Reply.Composition
import RespClient.Proofs.Reply.Finality

/-!
# What is no reply

A stream that does not start with a frame has a first flaw: it ends too early, or there
is something in it that no frame has in that place. The flaws are told like the frames,
by the bytes alone. A reader that fails on a socket without faults has come to one, and
where the header lines are within their limit it fails for the flaw that the stream has.
-/

namespace RespClient.Reply

/-- What is wrong with a header line that is expected at the front of the stream. -/
inductive LineFlaw : Bytes → FatalError → Prop where
  | ended {stream : Bytes} (endless : Bytes.lineFeed ∉ stream)
      (short : stream.length ≤ maxLineLength) : LineFlaw stream (.connection .closedByPeer)
  | endless {stream : Bytes} (endless : Bytes.lineFeed ∉ stream)
      (long : maxLineLength < stream.length) : LineFlaw stream (.protocol .lineTooLong)
  | overlong {line rest : Bytes} (free : Bytes.lineFeed ∉ line)
      (long : maxLineLength < line.length) :
      LineFlaw (line ++ Bytes.lineFeed :: rest) (.protocol .lineTooLong)
  | bare {line rest : Bytes} (free : Bytes.lineFeed ∉ line)
      (bare : ∀ text, line ≠ text ++ [Bytes.carriageReturn]) :
      LineFlaw (line ++ Bytes.lineFeed :: rest) (.protocol .lineWithoutReturn)

/-- What is wrong with a frame that is expected at the front of the stream. Of two flaws, the one
that comes first counts. -/
inductive Flaw : Nat → Bytes → FatalError → Prop where
  | nothing {depth : Nat} : Flaw depth [] (.connection .closedByPeer)
  | type {depth : Nat} {type : UInt8} {rest : Bytes}
      (unknown : ∀ known ∈ ['+', '-', ':', '$', '*'], type ≠ known.toUInt8) :
      Flaw depth (type :: rest) (.protocol (.unknownType type))
  | line {depth : Nat} {type : Char} {rest : Bytes} {cause : FatalError}
      (typed : type ∈ ['+', '-', ':', '$', '*']) (flaw : LineFlaw rest cause) :
      Flaw depth (type.toUInt8 :: rest) cause
  | text {depth : Nat} {type : Char} {line rest : Bytes} (typed : type ∈ ['+', '-'])
      (free : Bytes.lineFeed ∉ line) (invalid : ∀ text, line ≠ Bytes.ofText text) :
      Flaw depth (headed type line ++ rest) (.protocol .lineNotUtf8)
  | number {depth : Nat} {type : Char} {line rest : Bytes} (typed : type ∈ [':', '$', '*'])
      (free : Bytes.lineFeed ∉ line) (other : ∀ value : Int64, ¬Numeral line value.toInt) :
      Flaw depth (headed type line ++ rest) (.protocol (.notAnInteger line))
  | negativeBulk {depth : Nat} {line rest : Bytes} {length : Int64}
      (numeral : Numeral line length.toInt) (negative : length < -1) :
      Flaw depth (headed '$' line ++ rest) (.protocol (.negativeBulkLength length))
  | longBulk {depth : Nat} {line rest : Bytes} {length : Int64}
      (numeral : Numeral line length.toInt) (long : (maxBulkLength : Int) < length.toInt) :
      Flaw depth (headed '$' line ++ rest) (.protocol (.bulkTooLong length))
  | cutBulk {depth size : Nat} {line rest : Bytes} (numeral : Numeral line size)
      (short : size ≤ maxBulkLength) (few : rest.length < size + 2) :
      Flaw depth (headed '$' line ++ rest) (.connection .closedByPeer)
  | openBulk {depth : Nat} {line data ending rest : Bytes} (numeral : Numeral line data.length)
      (short : data.length ≤ maxBulkLength) (two : ending.length = 2)
      (other : ending ≠ Bytes.crlf) :
      Flaw depth (headed '$' line ++ (data ++ (ending ++ rest))) (.protocol .bulkUnterminated)
  | negativeArray {depth : Nat} {line rest : Bytes} {count : Int64}
      (numeral : Numeral line count.toInt) (negative : count < -1) :
      Flaw depth (headed '*' line ++ rest) (.protocol (.negativeArrayLength count))
  | deepArray {depth count : Nat} {line rest : Bytes} (numeral : Numeral line count)
      (countable : (count : Int) < 2 ^ 63) (deep : maxNesting ≤ depth) :
      Flaw depth (headed '*' line ++ rest) (.protocol .nestedTooDeep)
  | item {depth count : Nat} {line body more : Bytes} {items : List Reply} {cause : FatalError}
      (numeral : Numeral line count) (countable : (count : Int) < 2 ^ 63)
      (shallow : depth < maxNesting) (contents : Frames (fun _ => True) (depth + 1) items body)
      (missing : items.length < count) (inside : Flaw (depth + 1) more cause) :
      Flaw depth (headed '*' line ++ (body ++ more)) cause

variable {σ : Type} [Socket σ] {calm : σ → Prop}

/-! ## A reader that fails has come to a flaw -/

/-- A stream that goes on with the rest of a header line after its type byte. -/
theorem headed_append (type : Char) (line rest : Bytes) :
    type.toUInt8 :: (line ++ Bytes.crlf ++ rest) = headed type line ++ rest :=
  rfl

section Failing

variable (works : Socket.Delivering calm) (ends : Socket.Ending calm)
  {transport after : Transport σ} {cause : FatalError} (quiet : calm transport.socket)

include works quiet ends

theorem readLine_flawed
    (failed : Transport.readLine.runFrom transport = (.error cause, after)) :
    LineFlaw transport.stream cause := by
  by_cases member : Bytes.lineFeed ∈ transport.stream
  · obtain ⟨line, rest, split, free⟩ := List.eq_append_cons_of_mem member
    rw [split]
    obtain ⟨last, ⟨again, -⟩ | ⟨refused, long⟩⟩ :=
      Transport.readLine_settles works quiet free split
    · obtain ⟨rfl, bare⟩ :=
        Transport.endLine_eq_error_iff.1 (congrArg Prod.fst (again.symm.trans failed))
      exact .bare free bare
    · cases failed.symm.trans refused
      exact .overlong free long
  · have endless := Transport.readLine_endless works ends quiet member
    rw [failed] at endless
    cases endless
    split
    · next long => exact .endless member long
    · next short => exact .ended member (Nat.le_of_not_lt short)

variable {depth : Nat}

theorem readText_flawed {type : Char} (typed : type ∈ ['+', '-'])
    (failed : readText.runFrom transport = (.error cause, after)) :
    Flaw depth (type.toUInt8 :: transport.stream) cause := by
  rcases Attempt.error_of_runFrom_bind failed with missing | ⟨line, middle, done, failed⟩
  · have known : type ∈ ['+', '-', ':', '$', '*'] := List.mem_append_left [':', '$', '*'] typed
    exact .line known (readLine_flawed works ends quiet missing)
  · obtain ⟨free, split⟩ := Transport.readLine_ok done
    rw [split, headed_append]
    cases decoded : Bytes.toText? line with
    | some text => rw [decoded] at failed; cases failed
    | none =>
        rw [decoded] at failed
        cases failed
        refine .text typed free ?_
        rintro text rfl
        cases decoded.symm.trans (Bytes.toText?_ofText text)

/-- The reader of a number fails, or what is read behind it does. -/
theorem readInteger_flawed (type : Char) (typed : type ∈ [':', '$', '*']) {α : Type}
    {next : Int64 → Reading σ α}
    (failed : (readInteger >>= next).runFrom transport = (.error cause, after)) :
    Flaw depth (type.toUInt8 :: transport.stream) cause ∨
      ∃ value line middle, Numeral line value.toInt ∧
        type.toUInt8 :: transport.stream = headed type line ++ middle.stream ∧
        calm middle.socket ∧ (next value).runFrom middle = (.error cause, after) := by
  rcases Attempt.error_of_runFrom_bind failed with missing | ⟨value, middle, done, failed⟩
  · left
    rcases Attempt.error_of_runFrom_bind missing with missing | ⟨line, middle, done, failed⟩
    · have known : type ∈ ['+', '-', ':', '$', '*'] := List.mem_append_right ['+', '-'] typed
      exact .line known (readLine_flawed works ends quiet missing)
    · obtain ⟨free, split⟩ := Transport.readLine_ok done
      rw [split, headed_append]
      cases parsed : parseInteger line with
      | ok value => rw [parsed] at failed; cases failed
      | error cause =>
          rw [parsed] at failed
          cases failed
          obtain ⟨rfl, other⟩ := parseInteger_eq_error parsed
          exact .number typed free other
  · right
    obtain ⟨line, numeral, split⟩ := readInteger_ok done
    have still := readInteger_composed.stays_calm works quiet done
    refine ⟨value, line, middle, numeral, ?_, still, failed⟩
    rw [split, headed_append]

theorem readBulk_flawed (failed : readBulk.runFrom transport = (.error cause, after)) :
    Flaw depth ('$'.toUInt8 :: transport.stream) cause := by
  rcases readInteger_flawed works ends quiet '$' (by simp) failed with
    flaw | ⟨length, line, middle, numeral, split, still, failed⟩
  · exact flaw
  rw [split]
  by_cases missing : length = -1
  · rw [if_pos missing] at failed
    cases failed
  rw [if_neg missing] at failed
  by_cases negative : length < -1
  · rw [if_pos negative] at failed
    cases failed
    exact .negativeBulk numeral negative
  rw [if_neg negative] at failed
  have size := length_nonneg missing negative
  by_cases long : maxBulkLength < length.toInt.toNat
  · rw [if_pos long] at failed
    cases failed
    exact .longBulk numeral (by omega)
  rw [if_neg long] at failed
  rw [← size] at numeral
  have short := Nat.le_of_not_lt long
  rcases Attempt.error_of_runFrom_bind failed with cut | ⟨data, next, taken, failed⟩
  · obtain rfl := Transport.read_error works ends still cut
    refine .cutBulk numeral short (Nat.lt_of_not_le fun enough => ?_)
    obtain ⟨bytes, last, done, -⟩ :=
      Transport.read_succeeds works length.toInt.toNat still (Nat.le_of_add_right_le enough)
    cases cut.symm.trans done
  obtain ⟨data_size, body⟩ := Transport.read_ok taken
  have calm_next := Transport.read_calm works still taken
  rw [body]
  rcases Attempt.error_of_runFrom_bind failed with cut | ⟨ending, last, closing, failed⟩
  · obtain rfl := Transport.read_error works ends calm_next cut
    refine .cutBulk numeral short (Nat.lt_of_not_le fun enough => ?_)
    rw [List.length_append, data_size] at enough
    obtain ⟨bytes, last, done, -⟩ :=
      Transport.read_succeeds works 2 calm_next (Nat.le_of_add_le_add_left enough)
    cases cut.symm.trans done
  · obtain ⟨two, tail⟩ := Transport.read_ok closing
    rw [tail]
    by_cases terminated : ending = Bytes.crlf
    · rw [if_pos terminated] at failed
      cases failed
    · rw [if_neg terminated] at failed
      cases failed
      rw [← data_size] at numeral short
      exact .openBulk numeral short two terminated

/-- Where the reader of the items of an array has failed, behind as many as it has read. -/
def ItemsFlaw (depth count : Nat) (stream : Bytes) (cause : FatalError) : Prop :=
  ∃ items body more, items.length < count ∧ Frames (fun _ => True) depth items body ∧
    stream = body ++ more ∧ Flaw depth more cause

omit ends in
theorem readItems_flawed {levels depth : Nat} (deep : depth + levels = maxNesting)
    (item_flawed : ∀ {transport after : Transport σ} {cause : FatalError},
      calm transport.socket → (readNested levels).runFrom transport = (.error cause, after) →
      Flaw depth transport.stream cause)
    {count : Nat} {taken : List Reply}
    (failed : (readItems (readNested levels) count taken).runFrom transport =
      (.error cause, after)) : ItemsFlaw depth count transport.stream cause := by
  induction count generalizing transport taken with
  | zero => cases failed
  | succ count ih =>
      rcases Attempt.error_of_runFrom_bind failed with inside | ⟨item, middle, done, failed⟩
      · exact ⟨[], [], _, Nat.succ_pos count, .nil, rfl, item_flawed quiet inside⟩
      · obtain ⟨bytes, frame, split⟩ := readNested_ok deep done
        have still := (readNested_composed levels).stays_calm works quiet done
        obtain ⟨items, body, more, few, frames, rest, flaw⟩ := ih still failed
        refine ⟨item :: items, bytes ++ body, more, Nat.succ_lt_succ few, .cons frame frames, ?_,
          flaw⟩
        rw [split, rest, List.append_assoc]

/-- Why the contents of an array at this depth cannot be read. -/
def ContentsFlawed (calm : σ → Prop) (depth : Nat) (contents : Nat → Reading σ (List Reply)) :
    Prop :=
  ∀ {count : Nat} {transport after : Transport σ} {cause : FatalError},
    calm transport.socket → (contents count).runFrom transport = (.error cause, after) →
    (maxNesting ≤ depth ∧ cause = .protocol .nestedTooDeep) ∨
      (depth < maxNesting ∧ ItemsFlaw (depth + 1) count transport.stream cause)

theorem readArray_flawed {contents : Nat → Reading σ (List Reply)}
    (contents_flawed : ContentsFlawed calm depth contents)
    (failed : (readArray contents).runFrom transport = (.error cause, after)) :
    Flaw depth ('*'.toUInt8 :: transport.stream) cause := by
  rcases readInteger_flawed works ends quiet '*' (by simp) failed with
    flaw | ⟨count, line, middle, numeral, split, still, failed⟩
  · exact flaw
  rw [split]
  by_cases missing : count = -1
  · rw [if_pos missing] at failed
    cases failed
  rw [if_neg missing] at failed
  by_cases negative : count < -1
  · rw [if_pos negative] at failed
    cases failed
    exact .negativeArray numeral negative
  rw [if_neg negative] at failed
  have range := count.toInt_lt
  rw [← length_nonneg missing negative] at numeral range
  rcases Attempt.error_of_runFrom_bind failed with inside | ⟨items, last, -, finish⟩
  · rcases contents_flawed still inside with
      ⟨deep, rfl⟩ | ⟨shallow, items, body, more, few, frames, rest, flaw⟩
    · exact .deepArray numeral range deep
    · rw [rest]
      exact .item numeral range shallow frames few flaw
  · cases finish

theorem readTyped_flawed {contents : Nat → Reading σ (List Reply)}
    (contents_flawed : ContentsFlawed calm depth contents)
    (failed : (readTyped contents).runFrom transport = (.error cause, after)) :
    Flaw depth transport.stream cause := by
  rcases Attempt.error_of_runFrom_bind failed with cut | ⟨type, middle, done, failed⟩
  · cases stream : transport.stream with
    | cons byte rest =>
        obtain ⟨last, read, -⟩ := Transport.readByte_yields works quiet stream
        cases cut.symm.trans read
    | nil =>
        have ended := Transport.readByte_ends works ends quiet stream
        rw [cut] at ended
        cases ended
        exact .nothing
  have still := Transport.readByte_calm works quiet done
  rw [Transport.readByte_ok done]
  unfold readAfter at failed
  by_cases plus : type = '+'.toUInt8
  · rw [if_pos plus] at failed
    subst plus
    rcases Attempt.error_of_runFrom_bind failed with failed | ⟨text, last, -, finish⟩
    · exact readText_flawed works ends still (by simp) failed
    · cases finish
  rw [if_neg plus] at failed
  by_cases minus : type = '-'.toUInt8
  · rw [if_pos minus] at failed
    subst minus
    rcases Attempt.error_of_runFrom_bind failed with failed | ⟨text, last, -, finish⟩
    · exact readText_flawed works ends still (by simp) failed
    · cases finish
  rw [if_neg minus] at failed
  by_cases colon : type = ':'.toUInt8
  · rw [if_pos colon] at failed
    subst colon
    rcases readInteger_flawed works ends still ':' (by simp) failed with
      flaw | ⟨value, line, last, -, -, -, finish⟩
    · exact flaw
    · cases finish
  rw [if_neg colon] at failed
  by_cases dollar : type = '$'.toUInt8
  · rw [if_pos dollar] at failed
    subst dollar
    exact readBulk_flawed works ends still failed
  rw [if_neg dollar] at failed
  by_cases star : type = '*'.toUInt8
  · rw [if_pos star] at failed
    subst star
    exact readArray_flawed works ends still contents_flawed failed
  rw [if_neg star] at failed
  cases failed
  refine .type ?_
  simp only [List.mem_cons, List.not_mem_nil, or_false]
  rintro known (rfl | rfl | rfl | rfl | rfl)
  · exact plus
  · exact minus
  · exact colon
  · exact dollar
  · exact star

theorem readNested_flawed {levels : Nat} (deep : depth + levels = maxNesting)
    (failed : (readNested levels).runFrom transport = (.error cause, after)) :
    Flaw depth transport.stream cause := by
  induction levels generalizing depth transport after cause with
  | zero =>
      apply readTyped_flawed works ends quiet _ failed
      intro count transport after cause _ refused
      cases refused
      exact .inl ⟨Nat.le_of_eq deep.symm, rfl⟩
  | succ levels ih =>
      apply readTyped_flawed works ends quiet _ failed
      intro count transport after cause quiet inside
      have below : depth + 1 + levels = maxNesting := by omega
      exact .inr ⟨by omega, readItems_flawed works quiet below
        (fun quiet failed => ih quiet below failed) inside⟩

theorem readFrame_flawed (failed : readFrame.runFrom transport = (.error cause, after)) :
    Flaw 0 transport.stream cause :=
  readNested_flawed works ends quiet (Nat.zero_add _) failed

end Failing

end RespClient.Reply
