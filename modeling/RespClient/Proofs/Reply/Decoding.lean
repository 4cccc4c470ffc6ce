import RespClient.Proofs.Reply.Grammar
import RespClient.Proofs.Transport.Delivery

/-!
# The reader accepts the grammar

What the reader returns is the reply of a frame that it has taken off the stream,
on any socket. Conversely it finds every frame whose header lines are within their
limit, on a socket without faults, and leaves what comes after the frame.
-/

namespace RespClient.Reply

open Transport (Yields)

variable {σ : Type} [Socket σ]

/-! ## What was read is a frame -/

theorem readText_ok {transport after : Transport σ} {text : String}
    (done : readText.runFrom transport = (.ok text, after)) :
    Bytes.lineFeed ∉ Bytes.ofText text ∧
      transport.stream = Bytes.ofText text ++ Bytes.crlf ++ after.stream := by
  obtain ⟨line, middle, given, finish⟩ := Attempt.ok_of_runFrom_bind done
  obtain ⟨free, split⟩ := Transport.readLine_ok given
  cases decoded : Bytes.toText? line with
  | none => rw [decoded] at finish; cases finish
  | some found =>
      rw [decoded] at finish
      cases finish
      rw [Bytes.ofText_of_toText? decoded]
      exact ⟨free, split⟩

theorem readInteger_ok {transport after : Transport σ} {value : Int64}
    (done : readInteger.runFrom transport = (.ok value, after)) :
    ∃ line, Numeral line value.toInt ∧
      transport.stream = line ++ Bytes.crlf ++ after.stream := by
  obtain ⟨line, middle, given, finish⟩ := Attempt.ok_of_runFrom_bind done
  obtain ⟨free, split⟩ := Transport.readLine_ok given
  cases parsed : parseInteger line with
  | error cause => rw [parsed] at finish; cases finish
  | ok found =>
      rw [parsed] at finish
      cases finish
      exact ⟨line, parseInteger_eq_ok_iff.1 parsed, split⟩

/-- A length that stands neither for a missing value nor below it. -/
theorem length_nonneg {length : Int64} (present : ¬length = -1) (valid : ¬length < -1) :
    ((length.toInt.toNat : Nat) : Int) = length.toInt := by
  have apart : length.toInt ≠ -1 := fun same => present (Int64.toInt_inj.1 same)
  have above : ¬length.toInt < -1 := fun less => valid (Int64.lt_iff_toInt_lt.2 less)
  omega

theorem readBulk_ok (depth : Nat) {transport after : Transport σ} {reply : Reply}
    (done : readBulk.runFrom transport = (.ok reply, after)) :
    ∃ bytes, Frame (fun _ => True) depth reply ('$'.toUInt8 :: bytes) ∧
      transport.stream = bytes ++ after.stream := by
  obtain ⟨length, middle, given, continued⟩ := Attempt.ok_of_runFrom_bind done
  obtain ⟨line, numeral, split⟩ := readInteger_ok given
  by_cases missing : length = -1
  · rw [if_pos missing] at continued
    cases continued
    rw [missing] at numeral
    exact ⟨line ++ Bytes.crlf, .noBulk numeral trivial, split⟩
  rw [if_neg missing] at continued
  by_cases negative : length < -1
  · rw [if_pos negative] at continued
    cases continued
  rw [if_neg negative] at continued
  by_cases long : maxBulkLength < length.toInt.toNat
  · rw [if_pos long] at continued
    cases continued
  rw [if_neg long] at continued
  obtain ⟨data, next, taken, closing⟩ := Attempt.ok_of_runFrom_bind continued
  obtain ⟨ending, last, ended, finish⟩ := Attempt.ok_of_runFrom_bind closing
  obtain ⟨size, body⟩ := Transport.read_ok taken
  obtain ⟨-, tail⟩ := Transport.read_ok ended
  by_cases terminated : ending = Bytes.crlf
  · rw [if_pos terminated] at finish
    cases finish
    rw [← length_nonneg missing negative, ← size] at numeral
    refine ⟨line ++ Bytes.crlf ++ (data ++ Bytes.crlf),
      .bulk numeral (size ▸ Nat.le_of_not_lt long) trivial, ?_⟩
    rw [split, body, tail, terminated]
    simp only [List.append_assoc]
  · rw [if_neg terminated] at finish
    cases finish

theorem readItems_ok {depth : Nat} {readItem : Reading σ Reply}
    (item_ok : ∀ {transport after : Transport σ} {reply : Reply},
      readItem.runFrom transport = (.ok reply, after) →
      ∃ bytes, Frame (fun _ => True) depth reply bytes ∧ transport.stream = bytes ++ after.stream)
    {count : Nat} {transport after : Transport σ} {taken items : List Reply}
    (done : (readItems readItem count taken).runFrom transport = (.ok items, after)) :
    ∃ found body, items = taken.reverse ++ found ∧ found.length = count ∧
      Frames (fun _ => True) depth found body ∧ transport.stream = body ++ after.stream := by
  induction count generalizing transport taken with
  | zero =>
      cases done
      exact ⟨[], [], by simp, rfl, .nil, rfl⟩
  | succ count ih =>
      obtain ⟨item, middle, given, continued⟩ := Attempt.ok_of_runFrom_bind done
      obtain ⟨bytes, frame, split⟩ := item_ok given
      obtain ⟨found, body, whole, size, frames, rest⟩ := ih continued
      refine ⟨item :: found, bytes ++ body, ?_, congrArg Nat.succ size, .cons frame frames, ?_⟩
      · rw [whole, List.reverse_cons, List.append_assoc]
        rfl
      · rw [split, rest, List.append_assoc]

/-- What the items of an array at this depth have to be read as. -/
def ContentsOk (depth : Nat) (contents : Nat → Reading σ (List Reply)) : Prop :=
  ∀ {count : Nat} {transport after : Transport σ} {items : List Reply},
    (contents count).runFrom transport = (.ok items, after) →
    depth < maxNesting ∧ items.length = count ∧ ∃ body,
      Frames (fun _ => True) (depth + 1) items body ∧ transport.stream = body ++ after.stream

theorem readArray_ok {depth : Nat} {contents : Nat → Reading σ (List Reply)}
    (contents_ok : ContentsOk depth contents) {transport after : Transport σ} {reply : Reply}
    (done : (readArray contents).runFrom transport = (.ok reply, after)) :
    ∃ bytes, Frame (fun _ => True) depth reply ('*'.toUInt8 :: bytes) ∧
      transport.stream = bytes ++ after.stream := by
  obtain ⟨count, middle, given, continued⟩ := Attempt.ok_of_runFrom_bind done
  obtain ⟨line, numeral, split⟩ := readInteger_ok given
  by_cases missing : count = -1
  · rw [if_pos missing] at continued
    cases continued
    rw [missing] at numeral
    exact ⟨line ++ Bytes.crlf, .noArray numeral trivial, split⟩
  rw [if_neg missing] at continued
  by_cases negative : count < -1
  · rw [if_pos negative] at continued
    cases continued
  rw [if_neg negative] at continued
  obtain ⟨items, last, taken, finish⟩ := Attempt.ok_of_runFrom_bind continued
  cases finish
  obtain ⟨shallow, size, body, frames, rest⟩ := contents_ok taken
  have range := count.toInt_lt
  rw [← length_nonneg missing negative, ← size] at numeral range
  refine ⟨line ++ Bytes.crlf ++ body, .array numeral range shallow trivial frames, ?_⟩
  rw [split, rest, List.append_assoc _ body]

theorem readTyped_ok {depth : Nat} {contents : Nat → Reading σ (List Reply)}
    (contents_ok : ContentsOk depth contents) {transport after : Transport σ} {reply : Reply}
    (done : (readTyped contents).runFrom transport = (.ok reply, after)) :
    ∃ bytes, Frame (fun _ => True) depth reply bytes ∧
      transport.stream = bytes ++ after.stream := by
  obtain ⟨type, middle, given, continued⟩ := Attempt.ok_of_runFrom_bind done
  have split := Transport.readByte_ok given
  unfold readAfter at continued
  by_cases plus : type = '+'.toUInt8
  · rw [if_pos plus] at continued
    obtain ⟨text, last, taken, finish⟩ := Attempt.ok_of_runFrom_bind continued
    cases finish
    obtain ⟨free, rest⟩ := readText_ok taken
    exact ⟨_, .simple free trivial, by rw [split, rest, plus]; rfl⟩
  rw [if_neg plus] at continued
  by_cases minus : type = '-'.toUInt8
  · rw [if_pos minus] at continued
    obtain ⟨text, last, taken, finish⟩ := Attempt.ok_of_runFrom_bind continued
    cases finish
    obtain ⟨free, rest⟩ := readText_ok taken
    exact ⟨_, .error free trivial, by rw [split, rest, minus]; rfl⟩
  rw [if_neg minus] at continued
  by_cases colon : type = ':'.toUInt8
  · rw [if_pos colon] at continued
    obtain ⟨value, last, taken, finish⟩ := Attempt.ok_of_runFrom_bind continued
    cases finish
    obtain ⟨line, numeral, rest⟩ := readInteger_ok taken
    exact ⟨_, .integer numeral trivial, by rw [split, rest, colon]; rfl⟩
  rw [if_neg colon] at continued
  by_cases dollar : type = '$'.toUInt8
  · rw [if_pos dollar] at continued
    obtain ⟨bytes, frame, rest⟩ := readBulk_ok depth continued
    exact ⟨_, frame, by rw [split, rest, dollar]; rfl⟩
  rw [if_neg dollar] at continued
  by_cases star : type = '*'.toUInt8
  · rw [if_pos star] at continued
    obtain ⟨bytes, frame, rest⟩ := readArray_ok contents_ok continued
    exact ⟨_, frame, by rw [split, rest, star]; rfl⟩
  rw [if_neg star] at continued
  cases continued

theorem readNested_ok {levels depth : Nat} (deep : depth + levels = maxNesting)
    {transport after : Transport σ} {reply : Reply}
    (done : (readNested levels).runFrom transport = (.ok reply, after)) :
    ∃ bytes, Frame (fun _ => True) depth reply bytes ∧
      transport.stream = bytes ++ after.stream := by
  induction levels generalizing depth transport after reply with
  | zero =>
      apply readTyped_ok _ done
      intro count transport after items refused
      cases refused
  | succ levels ih =>
      apply readTyped_ok _ done
      intro count transport after items taken
      obtain ⟨found, body, whole, size, frames, rest⟩ :=
        readItems_ok (fun given => ih (Nat.succ_add_eq_add_succ depth levels ▸ deep) given) taken
      rw [List.reverse_nil, List.nil_append] at whole
      subst whole
      exact ⟨by omega, size, body, frames, rest⟩

theorem readFrame_ok {transport after : Transport σ} {reply : Reply}
    (done : readFrame.runFrom transport = (.ok reply, after)) :
    ∃ bytes, Frame (fun _ => True) 0 reply bytes ∧ transport.stream = bytes ++ after.stream :=
  readNested_ok (Nat.zero_add _) done

/-! ## Every frame is read -/

/-- A line that is within the limit together with its return. -/
def Short (line : Bytes) : Prop :=
  line.length < maxLineLength

instance (line : Bytes) : Decidable (Short line) :=
  inferInstanceAs (Decidable (_ < _))

variable {calm : σ → Prop}

theorem readText_yields (works : Socket.Delivering calm) {transport : Transport σ} {text : String}
    {rest : Bytes} (quiet : calm transport.socket) (free : Bytes.lineFeed ∉ Bytes.ofText text)
    (short : Short (Bytes.ofText text))
    (found : transport.stream = Bytes.ofText text ++ Bytes.crlf ++ rest) :
    Yields calm readText transport text rest := by
  apply (Transport.readLine_yields works quiet free short found).bind
  intro middle left still
  rw [Bytes.toText?_ofText]
  exact .pure text still left

theorem readInteger_yields (works : Socket.Delivering calm) {transport : Transport σ}
    {line rest : Bytes} {value : Int64} (quiet : calm transport.socket)
    (numeral : Numeral line value.toInt) (short : Short line)
    (found : transport.stream = line ++ Bytes.crlf ++ rest) :
    Yields calm readInteger transport value rest := by
  apply (Transport.readLine_yields works quiet numeral.free short found).bind
  intro middle left still
  rw [parseInteger_eq_ok_iff.2 numeral]
  exact .pure value still left

/-- A count in the range of the header reads as itself. -/
theorem toInt_ofCount {count : Nat} (range : (count : Int) < 2 ^ 63) :
    (Int64.ofInt count).toInt = count :=
  Int64.toInt_ofInt_of_le (by omega) range

/-- A count is neither the mark of a missing value nor below it. -/
theorem ofCount_present {count : Nat} (range : (count : Int) < 2 ^ 63) :
    ¬Int64.ofInt count = -1 ∧ ¬Int64.ofInt count < -1 := by
  have value := toInt_ofCount range
  constructor
  · intro same
    rw [same] at value
    change (-1 : Int) = count at value
    omega
  · intro less
    have below := Int64.lt_iff_toInt_lt.1 less
    rw [value] at below
    change (count : Int) < -1 at below
    omega

theorem readNil_yields (works : Socket.Delivering calm) {transport : Transport σ}
    {line rest : Bytes} (quiet : calm transport.socket) (numeral : Numeral line (-1))
    (short : Short line) (found : transport.stream = line ++ Bytes.crlf ++ rest) :
    Yields calm readBulk transport nil rest ∧
      ∀ contents, Yields calm (readArray contents) transport nil rest := by
  have missing : Numeral line (-1 : Int64).toInt := numeral
  have length := readInteger_yields works quiet missing short found
  exact ⟨length.bind fun middle left still => .pure nil still left,
    fun contents => length.bind fun middle left still => .pure nil still left⟩

/-- A number that counts something is read as itself. -/
theorem readCount_yields (works : Socket.Delivering calm) {transport : Transport σ}
    {line rest : Bytes} {count : Nat} (quiet : calm transport.socket)
    (numeral : Numeral line count) (range : (count : Int) < 2 ^ 63) (short : Short line)
    (found : transport.stream = line ++ Bytes.crlf ++ rest) :
    Yields calm readInteger transport (Int64.ofInt count) rest := by
  rw [← toInt_ofCount range] at numeral
  exact readInteger_yields works quiet numeral short found

theorem readBulk_yields (works : Socket.Delivering calm) {transport : Transport σ}
    {line data rest : Bytes} (quiet : calm transport.socket) (numeral : Numeral line data.length)
    (bounded : data.length ≤ maxBulkLength) (short : Short line)
    (found : transport.stream = line ++ Bytes.crlf ++ (data ++ Bytes.crlf ++ rest)) :
    Yields calm readBulk transport (bulk data) rest := by
  have range : (data.length : Int) < 2 ^ 63 := by
    unfold maxBulkLength at bounded
    omega
  obtain ⟨present, valid⟩ := ofCount_present range
  apply (readCount_yields works quiet numeral range short found).bind
  intro middle left still
  rw [if_neg present, if_neg valid, toInt_ofCount range, Int.toNat_natCast,
    if_neg (Nat.not_lt_of_le bounded)]
  rw [List.append_assoc] at left
  apply (Transport.read_yields works still left).bind
  intro next left still
  apply (Transport.read_yields works still left).bind
  intro last left still
  rw [if_pos rfl]
  exact .pure (bulk data) still left

theorem readArray_yields (works : Socket.Delivering calm) {transport : Transport σ}
    {line body rest : Bytes} {items : List Reply} {contents : Nat → Reading σ (List Reply)}
    (quiet : calm transport.socket) (numeral : Numeral line items.length)
    (range : (items.length : Int) < 2 ^ 63) (short : Short line)
    (found : transport.stream = line ++ Bytes.crlf ++ (body ++ rest))
    (filled : ∀ middle : Transport σ, middle.stream = body ++ rest → calm middle.socket →
      Yields calm (contents items.length) middle items rest) :
    Yields calm (readArray contents) transport (array items) rest := by
  obtain ⟨present, valid⟩ := ofCount_present range
  apply (readCount_yields works quiet numeral range short found).bind
  intro middle left still
  rw [if_neg present, if_neg valid, toInt_ofCount range, Int.toNat_natCast]
  apply (filled middle left still).bind
  intro last left still
  exact .pure (array items) still left

/-- A type byte is followed by what it announces. -/
theorem readTyped_yields (works : Socket.Delivering calm) {transport : Transport σ} {type : UInt8}
    {contents : Nat → Reading σ (List Reply)} {reply : Reply} {bytes rest : Bytes}
    (quiet : calm transport.socket) (found : transport.stream = type :: bytes ++ rest)
    (announced : ∀ middle : Transport σ, middle.stream = bytes ++ rest → calm middle.socket →
      Yields calm (readAfter contents type) middle reply rest) :
    Yields calm (readTyped contents) transport reply rest :=
  (Transport.readByte_yields works quiet found).bind announced

/-- The items of an array in which arrays may stand to the given number of levels. -/
def readContents : (levels : Nat) → Nat → Reading σ (List Reply)
  | 0 => fun _ => protocolFailure .nestedTooDeep
  | levels + 1 => fun count => readItems (readNested levels) count []

theorem readNested_eq (levels : Nat) :
    readNested levels = readTyped (readContents (σ := σ) levels) := by
  cases levels <;> rfl

mutual

theorem readNested_yields (works : Socket.Delivering calm) {levels depth : Nat}
    (deep : depth + levels = maxNesting) {transport : Transport σ} {reply : Reply}
    {bytes rest : Bytes} (quiet : calm transport.socket) (frame : Frame Short depth reply bytes)
    (found : transport.stream = bytes ++ rest) :
    Yields calm (readNested levels) transport reply rest := by
  rw [readNested_eq]
  cases frame with
  | simple free fits =>
      apply readTyped_yields works quiet found
      intro middle left still
      exact (readText_yields works still free fits left).bind
        fun last left still => .pure _ still left
  | error free fits =>
      apply readTyped_yields works quiet found
      intro middle left still
      exact (readText_yields works still free fits left).bind
        fun last left still => .pure _ still left
  | integer numeral fits =>
      apply readTyped_yields works quiet found
      intro middle left still
      exact (readInteger_yields works still numeral fits left).bind
        fun last left still => .pure _ still left
  | noBulk numeral fits =>
      apply readTyped_yields works quiet found
      intro middle left still
      exact (readNil_yields works still numeral fits left).1
  | bulk numeral short fits =>
      apply readTyped_yields works quiet found
      intro middle left still
      exact readBulk_yields works still numeral short fits (left.trans (List.append_assoc _ _ _))
  | noArray numeral fits =>
      apply readTyped_yields works quiet found
      intro middle left still
      exact (readNil_yields works still numeral fits left).2 (readContents levels)
  | array numeral countable shallow fits frames =>
      apply readTyped_yields works quiet found
      intro middle left still
      apply readArray_yields works still numeral countable fits
        (left.trans (List.append_assoc _ _ _))
      intro next left still
      obtain ⟨below, rfl⟩ := Nat.exists_eq_succ_of_ne_zero (show levels ≠ 0 by omega)
      exact readItems_yields works (by omega) still frames left []

theorem readItems_yields (works : Socket.Delivering calm) {levels depth : Nat}
    (deep : depth + levels = maxNesting) {transport : Transport σ} {items : List Reply}
    {bytes rest : Bytes} (quiet : calm transport.socket) (frames : Frames Short depth items bytes)
    (found : transport.stream = bytes ++ rest) (taken : List Reply) :
    Yields calm (readItems (readNested levels) items.length taken) transport
      (taken.reverse ++ items) rest := by
  cases frames with
  | nil =>
      rw [List.append_nil]
      exact .pure _ quiet found
  | @cons _ item _ _ _ first others =>
      rw [List.append_assoc] at found
      apply (readNested_yields works deep quiet first found).bind
      intro middle left still
      have more := readItems_yields works deep still others left (item :: taken)
      rw [List.reverse_cons, List.append_assoc] at more
      exact more

end

theorem readFrame_yields (works : Socket.Delivering calm) {transport : Transport σ} {reply : Reply}
    {bytes rest : Bytes} (quiet : calm transport.socket) (frame : Frame Short 0 reply bytes)
    (found : transport.stream = bytes ++ rest) :
    Yields calm readFrame transport reply rest :=
  readNested_yields works (Nat.zero_add _) quiet frame found

/-- The reader accepts the grammar: what it returns on any socket is the reply of a frame that it
has taken off the stream, and on a socket without faults it finds every frame within the limit of
header lines, whatever comes after it, and takes nothing else. -/
theorem readFrame_accepts_grammar (transport : Transport σ) :
    (∀ reply after, readFrame.runFrom transport = (.ok reply, after) →
      ∃ bytes, Frame (fun _ => True) 0 reply bytes ∧
        transport.stream = bytes ++ (after.unread ++ Socket.pending after.socket)) ∧
    (∀ (calm : σ → Prop) (reply : Reply) (bytes rest : Bytes), Socket.Delivering calm →
      calm transport.socket → Frame Short 0 reply bytes → transport.stream = bytes ++ rest →
      ∃ after, readFrame.runFrom transport = (.ok reply, after) ∧
        after.unread ++ Socket.pending after.socket = rest) := by
  constructor
  · intro reply after done
    exact readFrame_ok done
  · intro calm reply bytes rest works quiet frame found
    obtain ⟨after, done, left, -⟩ := readFrame_yields works quiet frame found
    exact ⟨after, done, left⟩

/-- An array of a bulk string that holds a line end, an empty array and a missing array, delivered
in pieces and followed by the start of another frame. -/
theorem readFrame_accepts_grammar_in_pieces :
    let transport := Transport.ofSocketWith 16
      ({ input := Bytes.ofText "*3\r\n$+4\r\n\r\n$1\r\n*0\r\n*-1\r\n:7"
         readChunk := 5
         readFaults := [.pass, .interrupted] } : Scripted)
    ∃ after, readFrame.runFrom transport =
        (.ok (array [bulk (Bytes.ofText "\r\n$1"), array [], nil]), after) ∧
      after.unread ++ Socket.pending after.socket = Bytes.ofText ":7" := by
  intro transport
  have calm : Scripted.Faultless transport.socket := by
    constructor <;> simp [transport, Transport.ofSocketWith, Scripted.Harmless]
  have bulkFrame : Frame Short 1 (bulk (Bytes.ofText "\r\n$1"))
      (headed '$' (Bytes.ofText "+4") ++ (Bytes.ofText "\r\n$1" ++ Bytes.crlf)) :=
    .bulk (.plus (by decide) (by decide)) (by decide) (by decide)
  have emptyFrame : Frame Short 1 (array []) (headed '*' (Bytes.ofText "0") ++ []) :=
    .array (.unsigned (by decide) (by decide)) (by decide) (by decide) (by decide) .nil
  have nilFrame : Frame Short 1 nil (headed '*' (Bytes.ofText "-1")) :=
    .noArray numeral_missing (by decide)
  have frame : Frame Short 0 (array [bulk (Bytes.ofText "\r\n$1"), array [], nil])
      (headed '*' (Bytes.ofText "3") ++ _) :=
    .array (.unsigned (by decide) (by decide)) (by decide) (by decide) (by decide)
      (.cons bulkFrame (.cons emptyFrame (.cons nilFrame .nil)))
  exact (readFrame_accepts_grammar transport).2 _ _ _ _ Scripted.delivering calm frame rfl

end RespClient.Reply
