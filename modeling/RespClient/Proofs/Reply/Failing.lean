import RespClient.Proofs.Reply.Flaws

/-!
# Flaws make the reader fail

Where the header lines that a reader comes to are within their limit, it fails for the
flaw of its stream, and for no other cause. Together with the grammar of frames this
tells the outcome of every reading by the bytes of the stream.
-/

namespace RespClient.Reply

variable {σ : Type} [Socket σ] {calm : σ → Prop}

/-- The items in front of the one that is missing have short header lines. -/
theorem HeadersFit.contents_short {depth count : Nat} {line body more : Bytes}
    {items : List Reply} (fits : HeadersFit depth (headed '*' line ++ (body ++ more)))
    (numeral : Numeral line count) (countable : (count : Int) < 2 ^ 63)
    (shallow : depth < maxNesting) (contents : Frames (fun _ => True) (depth + 1) items body)
    (missing : items.length < count) : Frames Short (depth + 1) items body := by
  refine contents.short ?_
  rintro found taken rest frames few rfl header reached
  have within := fits (header ++ more)
  rw [List.append_assoc] at within
  exact (within (.item numeral countable shallow frames (Nat.lt_trans few missing)
    (reached.append more))).of_append

/-- The reading fails for this cause. -/
def Fails {α : Type} (reading : Reading σ α) (transport : Transport σ) (cause : FatalError) :
    Prop :=
  (reading.runFrom transport).1 = .error cause

section Fails

variable {α β : Type} {reading : Reading σ α} {transport : Transport σ} {cause : FatalError}

omit [Socket σ] in
theorem Fails.bind {next : α → Reading σ β} (fails : Fails reading transport cause) :
    Fails (reading >>= next) transport cause := by
  unfold Fails at fails ⊢
  rw [Attempt.runFrom_bind]
  rcases ran : reading.runFrom transport with ⟨outcome, after⟩
  rw [ran] at fails
  cases fails
  rfl

/-- What comes first succeeds and leaves the failure to what comes next. -/
theorem fails_after {next : α → Reading σ β} {value : α} {rest : Bytes}
    (first : Transport.Yields calm reading transport value rest)
    (others : ∀ middle : Transport σ, middle.stream = rest → calm middle.socket →
      Fails (next value) middle cause) : Fails (reading >>= next) transport cause := by
  obtain ⟨middle, done, left, still⟩ := first
  unfold Fails
  rw [Attempt.runFrom_bind_ok done]
  exact others middle left still

end Fails

section Flawed

variable {depth : Nat} {transport : Transport σ} {stream line rest : Bytes} {cause : FatalError}
  (works : Socket.Delivering calm) (ends : Socket.Ending calm) (quiet : calm transport.socket)

include works quiet

theorem readText_fails (free : Bytes.lineFeed ∉ line) (short : Short line)
    (invalid : ∀ text, line ≠ Bytes.ofText text)
    (found : transport.stream = line ++ Bytes.crlf ++ rest) :
    Fails readText transport (.protocol .lineNotUtf8) := by
  refine fails_after (Transport.readLine_yields works quiet free short found) ?_
  intro middle left still
  cases decoded : Bytes.toText? line with
  | none => rfl
  | some text => exact absurd (Bytes.toText?_eq_some_iff.1 decoded) (invalid text)

theorem readInteger_fails (free : Bytes.lineFeed ∉ line) (short : Short line)
    (other : ∀ value : Int64, ¬Numeral line value.toInt)
    (found : transport.stream = line ++ Bytes.crlf ++ rest) :
    Fails readInteger transport (.protocol (.notAnInteger line)) := by
  refine fails_after (Transport.readLine_yields works quiet free short found) ?_
  intro middle left still
  cases parsed : parseInteger line with
  | error cause =>
      obtain ⟨rfl, -⟩ := parseInteger_eq_error parsed
      rfl
  | ok value => exact absurd (parseInteger_eq_ok_iff.1 parsed) (other value)

theorem readItems_fails {levels : Nat} (deep : depth + levels = maxNesting)
    {items : List Reply} {body more : Bytes} (frames : Frames Short depth items body)
    (found : transport.stream = body ++ more)
    (inside : ∀ middle : Transport σ, middle.stream = more → calm middle.socket →
      Fails (readNested levels) middle cause) (missing : Nat) (taken : List Reply) :
    Fails (readItems (readNested levels) (items.length + (missing + 1)) taken) transport cause := by
  induction items generalizing transport body taken with
  | nil =>
      cases frames
      rw [List.length_nil, Nat.zero_add]
      exact (inside transport found quiet).bind
  | cons item items ih =>
      cases frames with
      | cons first others =>
          rw [List.append_assoc] at found
          rw [List.length_cons, Nat.add_right_comm items.length 1]
          refine fails_after (readNested_yields works deep quiet first found) ?_
          intro middle left still
          exact ih still others left (item :: taken)

include ends

theorem readLine_fails (flaw : LineFlaw stream cause) (fits : LineFits stream)
    (found : transport.stream = stream) : Fails Transport.readLine transport cause := by
  cases flaw with
  | ended endless short =>
      have failed := Transport.readLine_endless works ends quiet (found ▸ endless)
      rwa [found, if_neg (Nat.not_lt_of_le short)] at failed
  | endless endless long =>
      have failed := Transport.readLine_endless works ends quiet (found ▸ endless)
      rwa [found, if_pos long] at failed
  | overlong free long => exact absurd (fits _ _ free rfl) (Nat.not_le_of_lt long)
  | bare free bare =>
      apply (Transport.readLine_finds works quiet free (fits _ _ free rfl) found).2
      exact Transport.endLine_eq_error_iff.2 ⟨rfl, bare⟩

omit works ends quiet in
/-- Behind every type byte a line is read first. -/
theorem readAfter_fails_of_line {type : Char} (typed : type ∈ ['+', '-', ':', '$', '*'])
    (contents : Nat → Reading σ (List Reply)) (line : Fails Transport.readLine transport cause) :
    Fails (readAfter contents type.toUInt8) transport cause := by
  have text : Fails readText transport cause := line.bind
  have number : Fails readInteger transport cause := line.bind
  simp only [List.mem_cons, List.not_mem_nil, or_false] at typed
  rcases typed with rfl | rfl | rfl | rfl | rfl
  · exact text.bind
  · exact text.bind
  · exact number.bind
  · exact number.bind
  · exact number.bind

omit works ends quiet in
theorem readAfter_unknown {type : UInt8}
    (unknown : ∀ known ∈ ['+', '-', ':', '$', '*'], type ≠ known.toUInt8)
    (contents : Nat → Reading σ (List Reply)) :
    readAfter contents type = protocolFailure (.unknownType type) := by
  simp only [List.forall_mem_cons, List.not_mem_nil, false_imp_iff, implies_true,
    and_true] at unknown
  obtain ⟨plus, minus, colon, dollar, star⟩ := unknown
  rw [readAfter, if_neg plus, if_neg minus, if_neg colon, if_neg dollar, if_neg star]

omit ends in
/-- A bulk string is read as far as its bytes and its line end go. -/
theorem readBulk_fails {size : Nat} (numeral : Numeral line size) (small : size ≤ maxBulkLength)
    (short : Short line) (found : transport.stream = line ++ Bytes.crlf ++ rest)
    (inside : ∀ middle : Transport σ, middle.stream = rest → calm middle.socket →
      Fails (Transport.read size >>= fun data => Transport.read 2 >>= fun ending =>
        if ending = Bytes.crlf then pure (bulk data) else protocolFailure .bulkUnterminated)
        middle cause) : Fails readBulk transport cause := by
  have range : (size : Int) < 2 ^ 63 := by
    unfold maxBulkLength at small
    omega
  refine fails_after (readCount_yields works quiet numeral range short found) ?_
  intro middle left still
  obtain ⟨present, valid⟩ := ofCount_present range
  rw [if_neg present, if_neg valid, toInt_ofCount range, Int.toNat_natCast,
    if_neg (Nat.not_lt_of_le small)]
  exact inside middle left still

theorem readBulk_cut {size : Nat} (numeral : Numeral line size) (small : size ≤ maxBulkLength)
    (short : Short line) (few : rest.length < size + 2)
    (found : transport.stream = line ++ Bytes.crlf ++ rest) :
    Fails readBulk transport (.connection .closedByPeer) := by
  refine readBulk_fails works quiet numeral small short found fun middle left still => ?_
  by_cases enough : size ≤ rest.length
  · have data := Transport.read_yields works still
      (left.trans (List.take_append_drop size rest).symm)
    rw [List.length_take_of_le enough] at data
    refine fails_after data fun next left still => Fails.bind ?_
    exact Transport.read_ends works ends still (by rw [left, List.length_drop]; omega)
  · exact Fails.bind (Transport.read_ends works ends still (by rw [left]; omega))

omit ends in
theorem readBulk_open {data ending : Bytes} (numeral : Numeral line data.length)
    (small : data.length ≤ maxBulkLength) (short : Short line) (two : ending.length = 2)
    (other : ending ≠ Bytes.crlf)
    (found : transport.stream = line ++ Bytes.crlf ++ (data ++ (ending ++ rest))) :
    Fails readBulk transport (.protocol .bulkUnterminated) := by
  refine readBulk_fails works quiet numeral small short found fun middle left still => ?_
  refine fails_after (Transport.read_yields works still left) fun next left still => ?_
  have closing := Transport.read_yields works still left
  rw [two] at closing
  refine fails_after closing fun last left still => ?_
  rw [if_neg other]
  rfl

omit ends in
/-- A length that is below that of a missing value, or above the limit, is refused. -/
theorem readBulk_refused {length : Int64} (numeral : Numeral line length.toInt)
    (short : Short line) (found : transport.stream = line ++ Bytes.crlf ++ rest) :
    (length < -1 → Fails readBulk transport (.protocol (.negativeBulkLength length))) ∧
      ((maxBulkLength : Int) < length.toInt →
        Fails readBulk transport (.protocol (.bulkTooLong length))) := by
  have number := readInteger_yields works quiet numeral short found
  constructor
  · intro negative
    refine fails_after number fun middle left still => ?_
    rw [if_neg (Int64.ne_of_lt negative), if_pos negative]
    rfl
  · intro long
    have value : ((length.toInt.toNat : Nat) : Int) = length.toInt := by omega
    have present : ¬length = -1 := by
      rintro rfl
      cases value
    have valid : ¬length < -1 := fun negative => by
      have below := Int64.lt_iff_toInt_lt.1 negative
      change _ < (-1 : Int) at below
      omega
    refine fails_after number fun middle left still => ?_
    rw [if_neg present, if_neg valid, if_pos (by omega)]
    rfl

omit ends in
theorem readArray_refused {contents : Nat → Reading σ (List Reply)} {count : Int64}
    (numeral : Numeral line count.toInt) (short : Short line) (negative : count < -1)
    (found : transport.stream = line ++ Bytes.crlf ++ rest) :
    Fails (readArray contents) transport (.protocol (.negativeArrayLength count)) := by
  have number := readInteger_yields works quiet numeral short found
  refine fails_after number fun middle left still => ?_
  rw [if_neg (Int64.ne_of_lt negative), if_pos negative]
  rfl

omit ends in
theorem readArray_fails {contents : Nat → Reading σ (List Reply)} {count : Nat}
    (numeral : Numeral line count) (range : (count : Int) < 2 ^ 63) (short : Short line)
    (found : transport.stream = line ++ Bytes.crlf ++ rest)
    (inside : ∀ middle : Transport σ, middle.stream = rest → calm middle.socket →
      Fails (contents count) middle cause) : Fails (readArray contents) transport cause := by
  refine fails_after (readCount_yields works quiet numeral range short found) ?_
  intro middle left still
  obtain ⟨present, valid⟩ := ofCount_present range
  rw [if_neg present, if_neg valid, toInt_ofCount range, Int.toNat_natCast]
  exact (inside middle left still).bind

omit ends in
/-- What is read behind a type byte fails. -/
theorem readNested_fails_behind {levels : Nat} {type : UInt8}
    (found : transport.stream = type :: rest)
    (announced : ∀ middle : Transport σ, middle.stream = rest → calm middle.socket →
      Fails (readAfter (readContents levels) type) middle cause) :
    Fails (readNested levels) transport cause := by
  rw [readNested_eq]
  exact fails_after (Transport.readByte_yields works quiet found) announced

omit ends in
/-- The same with a header line, which is short if those of the stream are. -/
theorem readNested_fails_headed {levels : Nat} {type : Char}
    (typed : type ∈ ['+', '-', ':', '$', '*']) (free : Bytes.lineFeed ∉ line)
    (fits : HeadersFit depth (headed type line ++ rest))
    (found : transport.stream = headed type line ++ rest)
    (announced : ∀ middle : Transport σ, Short line →
      middle.stream = line ++ Bytes.crlf ++ rest → calm middle.socket →
      Fails (readAfter (readContents levels) type.toUInt8) middle cause) :
    Fails (readNested levels) transport cause :=
  readNested_fails_behind works quiet found fun middle =>
    announced middle (fits.of_append.short typed free)

/-- Where the header lines that a reader comes to are within their limit, it fails for the flaw of
its stream. -/
theorem readNested_fails {levels : Nat} (deep : depth + levels = maxNesting)
    (flaw : Flaw depth stream cause) (fits : HeadersFit depth stream)
    (found : transport.stream = stream) : Fails (readNested levels) transport cause := by
  -- The header line of the frame is read first, and then what the flaw is in.
  induction flaw generalizing levels transport with
  | nothing =>
      rw [readNested_eq]
      exact Fails.bind (Transport.readByte_ends works ends quiet found)
  | type unknown =>
      refine readNested_fails_behind works quiet found fun middle left still => ?_
      rw [readAfter_unknown unknown]
      rfl
  | line typed flaw =>
      refine readNested_fails_behind works quiet found fun middle left still => ?_
      exact readAfter_fails_of_line typed _
        (readLine_fails works ends still flaw (fits _ (.own typed _)) left)
  | @text depth type line rest typed free invalid =>
      have known : type ∈ ['+', '-', ':', '$', '*'] := List.mem_append_left [':', '$', '*'] typed
      refine readNested_fails_headed works quiet known free fits found
        fun middle short left still => ?_
      have failed := readText_fails works still free short invalid left
      simp only [List.mem_cons, List.not_mem_nil, or_false] at typed
      rcases typed with rfl | rfl
      · exact failed.bind
      · exact failed.bind
  | @number depth type line rest typed free other =>
      have known : type ∈ ['+', '-', ':', '$', '*'] := List.mem_append_right ['+', '-'] typed
      refine readNested_fails_headed works quiet known free fits found
        fun middle short left still => ?_
      have failed := readInteger_fails works still free short other left
      simp only [List.mem_cons, List.not_mem_nil, or_false] at typed
      rcases typed with rfl | rfl | rfl
      · exact failed.bind
      · exact failed.bind
      · exact failed.bind
  | negativeBulk numeral negative =>
      refine readNested_fails_headed works quiet (by simp) numeral.free fits found
        fun middle short left still => ?_
      exact (readBulk_refused works still numeral short left).1 negative
  | longBulk numeral long =>
      refine readNested_fails_headed works quiet (by simp) numeral.free fits found
        fun middle short left still => ?_
      exact (readBulk_refused works still numeral short left).2 long
  | cutBulk numeral small few =>
      refine readNested_fails_headed works quiet (by simp) numeral.free fits found
        fun middle short left still => ?_
      exact readBulk_cut works ends still numeral small short few left
  | openBulk numeral small two other =>
      refine readNested_fails_headed works quiet (by simp) numeral.free fits found
        fun middle short left still => ?_
      exact readBulk_open works still numeral small short two other left
  | negativeArray numeral negative =>
      refine readNested_fails_headed works quiet (by simp) numeral.free fits found
        fun middle short left still => ?_
      exact readArray_refused works still numeral short negative left
  | deepArray numeral countable deepest =>
      obtain rfl : levels = 0 := by omega
      refine readNested_fails_headed works quiet (by simp) numeral.free fits found
        fun middle short left still => ?_
      exact readArray_fails works still numeral countable short left fun _ _ _ => rfl
  | item numeral countable shallow contents missing inside ih =>
      obtain ⟨below, rfl⟩ := Nat.exists_eq_succ_of_ne_zero (show levels ≠ 0 by omega)
      obtain ⟨others, rfl⟩ := Nat.exists_eq_add_of_lt missing
      have frames := fits.contents_short numeral countable shallow contents missing
      refine readNested_fails_headed works quiet (by simp) numeral.free fits found
        fun middle short left still => ?_
      refine readArray_fails works still numeral countable short left fun next left still => ?_
      refine readItems_fails works still (by omega) frames left (fun last left still => ?_) _ []
      refine ih still (by omega) ?_ left
      exact fun rest reached => fits rest (.item numeral countable shallow contents missing reached)

theorem readFrame_fails (flaw : Flaw 0 stream cause) (fits : HeadersFit 0 stream)
    (found : transport.stream = stream) : Fails readFrame transport cause :=
  readNested_fails works ends quiet (Nat.zero_add _) flaw fits found

end Flawed

/-- Where the header lines that a reader comes to are within their limit, it finds a reply exactly
if the stream starts with a frame of it, and fails for a cause exactly if that is what is wrong with
the stream. -/
theorem readFrame_verdict (works : Socket.Delivering calm) (ends : Socket.Ending calm)
    {transport : Transport σ} (quiet : calm transport.socket)
    (fits : HeadersFit 0 transport.stream) :
    (∀ reply rest, (∃ bytes, Frame (fun _ => True) 0 reply bytes ∧
        transport.stream = bytes ++ rest) ↔
      ∃ after, readFrame.runFrom transport = (.ok reply, after) ∧ after.stream = rest) ∧
    ∀ cause, Flaw 0 transport.stream cause ↔ Fails readFrame transport cause := by
  constructor
  · intro reply rest
    constructor
    · rintro ⟨bytes, frame, split⟩
      rw [split] at fits
      obtain ⟨after, done, left, -⟩ :=
        readFrame_yields works quiet (frame.short fits.of_append) split
      exact ⟨after, done, left⟩
    · rintro ⟨after, done, rfl⟩
      exact readFrame_ok done
  · intro cause
    constructor
    · exact fun flaw => readFrame_fails works ends quiet flaw fits rfl
    · intro failed
      rcases ran : readFrame.runFrom transport with ⟨outcome, after⟩
      rw [Fails, ran] at failed
      cases failed
      exact readFrame_flawed works ends quiet ran

end RespClient.Reply
