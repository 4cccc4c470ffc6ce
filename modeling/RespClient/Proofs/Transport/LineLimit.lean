import RespClient.Proofs.Transport.Ending

/-!
# How long a line may be

The limit on lines is checked where a buffer ends ahead of the line feed. A line that
stays below the limit passes every such check, and is read on every socket that works.
From the limit on it depends on where the buffers end: a line that comes in one piece is
read, and the same line is refused if the piece breaks off in front of its line feed.
What is read exceeds the limit by less than a buffer.
-/

namespace RespClient.Transport

variable {σ : Type} [Socket σ]

/-- A line that stands in the buffer is read, however long it is. -/
theorem readLine_buffered {transport : Transport σ} {line more : Bytes}
    (free : Bytes.lineFeed ∉ line) (found : transport.unread = line ++ Bytes.crlf ++ more) :
    (readLine.runFrom transport).1 = .ok line := by
  have whole := found.trans (Bytes.append_crlf line more)
  have first : transport.unread.firstLine = line ++ [Bytes.carriageReturn] := by
    rw [whole, Bytes.firstLine_append more (Bytes.free_return free)]
  rw [readLine, Attempt.runFrom_ofStep, continueLine, first, whole, List.drop_left]
  simp [endLine, List.reverseAux_eq]

/-- A buffer with more than a line's worth of bytes and no line feed ends the line. -/
theorem readLine_overfull {transport : Transport σ} (free : Bytes.lineFeed ∉ transport.unread)
    (full : maxLineLength < transport.unread.length) :
    (readLine.runFrom transport).1 = .error (.protocol .lineTooLong) := by
  rw [readLine, Attempt.runFrom_ofStep, continueLine, Bytes.firstLine_of_free free,
    List.drop_length]
  simp [full]

/-- An empty buffer is filled before a line is looked for. -/
theorem readLine_unbuffered {transport : Transport σ} {first : UInt8} {rest : Bytes} {after : σ}
    (empty : transport.unread = [])
    (received : receive transport.socket transport.capacity = (.ok (first, rest), after)) :
    readLine.runFrom transport = readLine.runFrom (transport.refilled after (first :: rest)) := by
  rw [readLine, Attempt.runFrom_ofStep, Attempt.runFrom_ofStep]
  conv => lhs; rw [continueLine]
  simp [empty, received, Bytes.firstLine]

/-- What is read of a line lies in buffers without its line feed, within the limit, and one more. -/
theorem continueLine_bounded {transport after : Transport σ} {room : Nat} {taken line : Bytes}
    (held : transport.unread.length ≤ transport.capacity)
    (done : continueLine transport room taken = (.ok line, after)) :
    line.length + 1 < taken.length + room + transport.capacity := by
  fun_induction continueLine transport room taken with
  | case1 transport room taken before feed rest cut_off =>
      have ends : before.length < transport.unread.length := by
        have length := congrArg List.length cut_off
        rw [List.length_drop, List.length_cons] at length
        omega
      have whole := congrArg List.length (endLine_ok (Prod.mk.inj done).1)
      rw [List.length_reverse, List.reverseAux_eq, List.length_append, List.length_reverse,
        List.length_append, List.length_singleton] at whole
      omega
  | case2 => cases done
  | case3 => cases done
  | case4 transport room taken before ends fits first rest next delivered ih =>
      have within := ih (receive_ok delivered).1 done
      rw [List.reverseAux_eq, List.length_append, List.length_reverse] at within
      change _ < _ + transport.capacity at within
      omega

/-! ## A line in one piece, and the same line broken off -/

/-- How much a socket without faults delivers first, if there is as much. -/
def firstSize (capacity chunk : Nat) : Nat :=
  Scripted.limit chunk (max capacity minReadBuffer)

theorem firstSize_pos (capacity chunk : Nat) : 0 < firstSize capacity chunk :=
  Scripted.limit_pos chunk (Nat.lt_of_lt_of_le (by decide) (Nat.le_max_right _ _))

/-- A line is looked for in the first delivery. -/
theorem readLine_first_delivery (capacity chunk : Nat) {input : Bytes} (left : input ≠ []) :
    let transport := ofSocketWith capacity ({ input, readChunk := chunk } : Scripted)
    let size := firstSize capacity chunk
    readLine.runFrom transport = readLine.runFrom
      (transport.refilled { input := input.drop size, readChunk := chunk } (input.take size)) := by
  intro transport size
  have filled : input.take size ≠ [] := by
    rw [Ne, List.take_eq_nil_iff]
    exact fun none_left => none_left.elim (Nat.ne_of_gt (firstSize_pos capacity chunk)) left
  obtain ⟨first, rest, front⟩ := List.exists_cons_of_ne_nil filled
  have delivered : Socket.read transport.socket transport.capacity =
      (.received (first :: rest), { input := input.drop size, readChunk := chunk }) := by
    rw [← front]
    rfl
  rw [front]
  apply readLine_unbuffered rfl
  rw [receive_eq, delivered]

theorem readLine_in_one_piece (capacity chunk : Nat) {line : Bytes} (rest : Bytes)
    (free : Bytes.lineFeed ∉ line) (whole : line.length + 2 ≤ firstSize capacity chunk) :
    (readLine.runFrom (ofSocketWith capacity
      ({ input := line ++ Bytes.crlf ++ rest, readChunk := chunk } : Scripted))).1 = .ok line := by
  have size : (line ++ Bytes.crlf).length ≤ firstSize capacity chunk := by
    simpa [Bytes.crlf] using whole
  rw [readLine_first_delivery capacity chunk (by simp [Bytes.crlf]), List.take_append,
    List.take_of_length_le size]
  exact readLine_buffered free rfl

theorem readLine_broken_off (capacity chunk : Nat) {line : Bytes} (rest : Bytes)
    (free : Bytes.lineFeed ∉ line) (long : maxLineLength < firstSize capacity chunk)
    (short : firstSize capacity chunk ≤ line.length + 1) :
    (readLine.runFrom (ofSocketWith capacity
      ({ input := line ++ Bytes.crlf ++ rest, readChunk := chunk } : Scripted))).1 =
        .error (.protocol .lineTooLong) := by
  have inside : firstSize capacity chunk ≤ (line ++ [Bytes.carriageReturn]).length := by
    simpa using short
  rw [readLine_first_delivery capacity chunk (by simp [Bytes.crlf]), Bytes.append_crlf,
    List.take_append_of_le_length inside]
  apply readLine_overfull
  · exact fun member => Bytes.free_return free (List.mem_of_mem_take member)
  · change maxLineLength < (List.take _ _).length
    rwa [List.length_take_of_le inside]

/-- A line is read on every socket that works exactly if it is shorter than the limit. From the
limit on, a first delivery that reaches to the end of the line makes it accepted, and one that
exceeds the limit and breaks off ahead of the line feed makes it refused. On any socket, a line that
is read exceeds the limit by less than a buffer. -/
theorem readLine_limited_up_to_buffer (line rest : Bytes) (free : Bytes.lineFeed ∉ line) :
    ((∀ (σ : Type) [Socket σ] (calm : σ → Prop) (transport : Transport σ),
        Socket.Delivering calm → calm transport.socket →
        transport.stream = line ++ Bytes.crlf ++ rest →
        ∃ after, readLine.runFrom transport = (.ok line, after) ∧ after.stream = rest) ↔
      line.length < maxLineLength) ∧
    (∀ capacity chunk : Nat,
      let transport := ofSocketWith capacity
        ({ input := line ++ Bytes.crlf ++ rest, readChunk := chunk } : Scripted)
      (line.length + 2 ≤ firstSize capacity chunk →
        (readLine.runFrom transport).1 = .ok line) ∧
      (maxLineLength < firstSize capacity chunk → firstSize capacity chunk ≤ line.length + 1 →
        (readLine.runFrom transport).1 = .error (.protocol .lineTooLong))) ∧
    ∀ (σ : Type) [Socket σ] (transport after : Transport σ),
      transport.unread.length ≤ transport.capacity →
      readLine.runFrom transport = (.ok line, after) →
      line.length + 1 < maxLineLength + transport.capacity := by
  refine ⟨⟨?_, ?_⟩, ?_, ?_⟩
  · intro everywhere
    apply Nat.lt_of_not_le
    intro long
    have size : firstSize (line.length + 1) 0 = line.length + 1 :=
      Nat.max_eq_left (Nat.le_trans (by decide) (Nat.le_succ_of_le long))
    have refused := readLine_broken_off (line.length + 1) 0 rest free
      (by rw [size]; exact Nat.lt_succ_of_le long) (Nat.le_of_eq size)
    have calm : Scripted.Faultless
        { input := line ++ Bytes.crlf ++ rest, readChunk := 0 } := by
      constructor <;> simp [Scripted.Harmless]
    obtain ⟨after, done, -⟩ := everywhere Scripted Scripted.Faultless
      (ofSocketWith (line.length + 1) _) Scripted.delivering calm rfl
    rw [done] at refused
    cases refused
  · intro short σ _ calm transport works quiet found
    obtain ⟨after, done, left, -⟩ := readLine_yields works quiet free short found
    exact ⟨after, done, left⟩
  · intro capacity chunk
    exact ⟨readLine_in_one_piece capacity chunk rest free,
      readLine_broken_off capacity chunk rest free⟩
  · intro σ _ transport after held done
    have bounded := continueLine_bounded held done
    rwa [List.length_nil, Nat.zero_add] at bounded

/-- A short line that is delivered three bytes at a time. -/
theorem readLine_limited_up_to_buffer_in_pieces :
    let transport := ofSocketWith 16
      ({ input := Bytes.ofText "PONG\r\n:1", readChunk := 3 } : Scripted)
    ∃ after, readLine.runFrom transport = (.ok (Bytes.ofText "PONG"), after) ∧
      after.stream = Bytes.ofText ":1" := by
  intro transport
  have calm : Scripted.Faultless transport.socket := by
    constructor <;> simp [transport, ofSocketWith, Scripted.Harmless]
  have limited := readLine_limited_up_to_buffer (Bytes.ofText "PONG") (Bytes.ofText ":1")
    (by decide)
  exact limited.1.2 (by decide) Scripted Scripted.Faultless transport Scripted.delivering calm rfl

/-- A line of one byte more than the limit is read where the buffer holds it, and a line at the
limit is refused where the buffer ends between its return and its line feed. -/
theorem readLine_misses_limit :
    let line (size : Nat) : Bytes := List.replicate size 'a'.toUInt8
    let transport (capacity size : Nat) :=
      ofSocketWith capacity ({ input := line size ++ Bytes.crlf } : Scripted)
    (readLine.runFrom (transport 131072 65537)).1 = .ok (line 65537) ∧
      maxLineLength < (line 65537).length ∧
      (readLine.runFrom (transport 65537 65536)).1 = .error (.protocol .lineTooLong) ∧
      (line 65536).length = maxLineLength := by
  intro line transport
  have free (size : Nat) : Bytes.lineFeed ∉ line size := fun member =>
    absurd (List.eq_of_mem_replicate member) (by decide)
  have length (size : Nat) : (line size).length = size := List.length_replicate
  refine ⟨?_, ?_, ?_, ?_⟩
  · have read := readLine_in_one_piece 131072 0 [] (free 65537) (by rw [length]; decide)
    rwa [List.append_nil] at read
  · rw [length]
    decide
  · have refused := readLine_broken_off 65537 0 [] (free 65536) (by decide)
      (by rw [length]; decide)
    rwa [List.append_nil] at refused
  · exact length 65536

end RespClient.Transport
