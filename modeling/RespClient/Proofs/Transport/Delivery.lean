import RespClient.Proofs.Socket.Faultless
import RespClient.Transport.Stream

/-!
# Reads that succeed

On a socket without faults a read succeeds as soon as the stream holds what it
asks for, wherever the bytes are and however they arrive. Together with the
equations for reads that have succeeded this fixes the outcome: the stream decides
what comes back and what is left.
-/

namespace RespClient.Transport

variable {σ : Type} [Socket σ] {calm : σ → Prop}

theorem receive_eq (socket : σ) (room : Nat) :
    receive socket room =
      match Socket.read socket room with
      | (.received [], after) => (.error .closedByPeer, after)
      | (.received (first :: rest), after) => (.ok (first, rest), after)
      | (.interrupted, after) => receive after room
      | (.failed cause, after) => (.error cause, after) := by
  rw [receive]
  split <;> next delivery => rw [delivery]

theorem receive_delivers (works : Socket.Delivering calm) {socket : σ} {room : Nat}
    (quiet : calm socket) (roomy : 0 < room) (left : Socket.pending socket ≠ []) :
    ∃ first rest after, receive socket room = (.ok (first, rest), after) ∧ calm after := by
  obtain ⟨after, still, interrupted | ⟨first, rest, received⟩⟩ := works.read quiet roomy left
  · have same := (Socket.read_interrupted interrupted).1
    obtain ⟨first, rest, last, delivered, calm_last⟩ :=
      receive_delivers works still roomy (same ▸ left)
    refine ⟨first, rest, last, ?_, calm_last⟩
    rw [receive_eq, interrupted]
    exact delivered
  · refine ⟨first, rest, after, ?_, still⟩
    rw [receive_eq, received]
termination_by Socket.patience socket
decreasing_by exact (Socket.read_interrupted interrupted).2

/-- What is true of a read that has to deliver, told of the outcome that it had. -/
theorem receive_outcome (works : Socket.Delivering calm) {socket after : σ} {room : Nat}
    {outcome : Except IoError (UInt8 × Bytes)} (quiet : calm socket) (roomy : 0 < room)
    (left : Socket.pending socket ≠ []) (received : receive socket room = (outcome, after)) :
    calm after ∧ ∀ cause, outcome ≠ .error cause := by
  obtain ⟨first, rest, last, delivered, still⟩ := receive_delivers works quiet roomy left
  rw [received] at delivered
  cases delivered
  exact ⟨still, nofun⟩

theorem gather_succeeds (works : Socket.Delivering calm) {socket : σ} {room missing : Nat}
    (taken : Bytes) (quiet : calm socket) (fits : missing ≤ room)
    (enough : missing ≤ (Socket.pending socket).length) :
    (gather socket room missing taken).outcome = .ok () ∧
      calm (gather socket room missing taken).socket := by
  fun_induction gather socket room missing taken with
  | case1 => exact ⟨rfl, quiet⟩
  | case2 socket room missing taken lacking cause after failed =>
      have left : 0 < (Socket.pending socket).length := by omega
      have outcome := receive_outcome works quiet (by omega) (List.ne_nil_of_length_pos left) failed
      exact absurd rfl (outcome.2 cause)
  | case3 socket room missing taken lacking first rest after delivered size ih =>
      have left : 0 < (Socket.pending socket).length := by omega
      have outcome :=
        receive_outcome works quiet (by omega) (List.ne_nil_of_length_pos left) delivered
      obtain ⟨-, pending⟩ := receive_ok delivered
      rw [pending, List.length_append, List.length_cons] at enough
      exact ih outcome.1 (by omega) (by omega)

theorem skip_succeeds (works : Socket.Delivering calm) {socket : σ} {capacity remaining : Nat}
    (quiet : calm socket) (roomy : 0 < capacity)
    (enough : remaining ≤ (Socket.pending socket).length) :
    ∃ after, skip socket capacity remaining = (.ok (), after) ∧ calm after := by
  fun_induction skip socket capacity remaining with
  | case1 => exact ⟨_, rfl, quiet⟩
  | case2 socket remaining lacking cause after failed =>
      have left : 0 < (Socket.pending socket).length := by omega
      have outcome := receive_outcome works quiet (by omega) (List.ne_nil_of_length_pos left) failed
      exact absurd rfl (outcome.2 cause)
  | case3 socket remaining lacking first rest after delivered ih =>
      have left : 0 < (Socket.pending socket).length := by omega
      have outcome :=
        receive_outcome works quiet (by omega) (List.ne_nil_of_length_pos left) delivered
      obtain ⟨-, pending⟩ := receive_ok delivered
      rw [pending, List.length_append, List.length_cons] at enough
      exact ih outcome.1 (by omega)

theorem read_succeeds (works : Socket.Delivering calm) {transport : Transport σ} (count : Nat)
    (quiet : calm transport.socket) (enough : count ≤ transport.stream.length) :
    ∃ bytes after, (read count).runFrom transport = (.ok bytes, after) ∧ calm after.socket := by
  rw [stream, List.length_append] at enough
  simp only [read, Attempt.runFrom_ofStep]
  split
  · exact ⟨_, _, rfl, quiet⟩
  · next short =>
      have missing : count - (transport.unread.take count).length ≤
          (Socket.pending transport.socket).length := by
        rw [take_unread short]
        omega
      split
      · obtain ⟨complete, still⟩ := gather_succeeds works [] quiet (Nat.le_refl _) missing
        rw [complete]
        exact ⟨_, _, rfl, still⟩
      · next fits =>
          obtain ⟨complete, still⟩ :=
            gather_succeeds works [] quiet (Nat.le_of_not_lt fits) missing
          rw [complete]
          exact ⟨_, _, rfl, still⟩

theorem readByte_succeeds (works : Socket.Delivering calm) {transport : Transport σ}
    (quiet : calm transport.socket) (enough : transport.stream ≠ []) :
    ∃ byte after, readByte.runFrom transport = (.ok byte, after) ∧ calm after.socket := by
  simp only [readByte, Attempt.runFrom_ofStep]
  split
  · exact ⟨_, _, rfl, quiet⟩
  · next empty =>
      rw [stream, empty, List.nil_append] at enough
      obtain ⟨first, rest, after, delivered, still⟩ :=
        receive_delivers works quiet transport.capacity_pos enough
      rw [delivered]
      exact ⟨_, _, rfl, still⟩

/-- A line that ends is found as far as its line feed, unless it takes up more than the room there
is. -/
theorem continueLine_settles (works : Socket.Delivering calm) {transport : Transport σ}
    {rest : Bytes} (room : Nat) (taken : Bytes) (quiet : calm transport.socket) :
    ∀ {before : Bytes}, Bytes.lineFeed ∉ before →
      transport.stream = before ++ Bytes.lineFeed :: rest →
      ∃ after, (continueLine transport room taken = (endLine (before.reverseAux taken), after) ∧
          calm after.socket) ∨
        (continueLine transport room taken = (.error (.protocol .lineTooLong), after) ∧
          room < before.length) := by
  fun_induction continueLine transport room taken with
  | case1 transport room taken first feed others cut_off =>
      intro before free found
      have ends : first.length < transport.unread.length := by
        have length := congrArg List.length cut_off
        rw [List.length_drop, List.length_cons] at length
        omega
      have cut := congrArg (· ++ Socket.pending transport.socket) (Bytes.eq_firstLine_append ends)
      simp only [List.append_assoc, List.cons_append] at cut
      obtain ⟨same, -⟩ := Bytes.firstLine_inj (Bytes.lineFeed_not_mem_firstLine _) free
        (cut.symm.trans found)
      subst same
      exact ⟨_, .inl ⟨rfl, quiet⟩⟩
  | case2 transport room taken first ends short =>
      intro before free found
      obtain ⟨tail, rfl, -⟩ := Bytes.append_of_free (unread_free ends) found
      rw [List.length_append]
      exact ⟨_, .inr ⟨rfl, Nat.lt_add_right _ short⟩⟩
  | case3 transport room taken first ends fitting cause after failed =>
      intro before free found
      obtain ⟨tail, -, pending⟩ := Bytes.append_of_free (unread_free ends) found
      have left : Socket.pending transport.socket ≠ [] := by simp [pending]
      have outcome := receive_outcome works quiet transport.capacity_pos left failed
      exact absurd rfl (outcome.2 cause)
  | case4 transport room taken first ends fitting head more after delivered ih =>
      intro before free found
      obtain ⟨tail, rfl, pending⟩ := Bytes.append_of_free (unread_free ends) found
      have left : Socket.pending transport.socket ≠ [] := by simp [pending]
      have outcome := receive_outcome works quiet transport.capacity_pos left delivered
      have whole : (transport.refilled after (head :: more)).stream =
          tail ++ Bytes.lineFeed :: rest := by
        rw [stream_refilled, ← (receive_ok delivered).2, pending]
      have shape : (transport.unread ++ tail).reverseAux taken =
          tail.reverseAux (transport.unread.reverseAux taken) := by
        simp [List.reverseAux_eq]
      rw [shape, List.length_append]
      obtain ⟨last, done | ⟨refused, long⟩⟩ := ih outcome.1
        (fun member => free (List.mem_append_right _ member)) whole
      · exact ⟨last, .inl done⟩
      · exact ⟨last, .inr ⟨refused, by omega⟩⟩

/-- A line is found as far as its line feed if that stands within the room there is. -/
theorem continueLine_finds (works : Socket.Delivering calm) {transport : Transport σ} {room : Nat}
    {before rest : Bytes} (taken : Bytes) (quiet : calm transport.socket)
    (free : Bytes.lineFeed ∉ before) (fits : before.length ≤ room)
    (found : transport.stream = before ++ Bytes.lineFeed :: rest) :
    ∃ after, continueLine transport room taken = (endLine (before.reverseAux taken), after) ∧
      calm after.socket := by
  obtain ⟨after, done | ⟨-, long⟩⟩ := continueLine_settles works room taken quiet free found
  · exact ⟨after, done⟩
  · exact absurd long (Nat.not_lt_of_le fits)

/-- The same for a line that is read from its start. -/
theorem readLine_settles (works : Socket.Delivering calm) {transport : Transport σ}
    {before rest : Bytes} (quiet : calm transport.socket) (free : Bytes.lineFeed ∉ before)
    (found : transport.stream = before ++ Bytes.lineFeed :: rest) :
    ∃ after, (readLine.runFrom transport = (endLine before.reverse, after) ∧ calm after.socket) ∨
      (readLine.runFrom transport = (.error (.protocol .lineTooLong), after) ∧
        maxLineLength < before.length) := by
  have settled := continueLine_settles works maxLineLength [] quiet free found
  rwa [List.reverseAux_eq, List.append_nil] at settled

theorem readLine_succeeds (works : Socket.Delivering calm) {transport : Transport σ}
    {line rest : Bytes} (quiet : calm transport.socket) (free : Bytes.lineFeed ∉ line)
    (fits : line.length < maxLineLength)
    (found : transport.stream = line ++ Bytes.crlf ++ rest) :
    ∃ after, readLine.runFrom transport = (.ok line, after) ∧ calm after.socket := by
  have whole := found.trans (Bytes.append_crlf line rest)
  have absent := Bytes.free_return free
  obtain ⟨after, done, still⟩ :=
    continueLine_finds works [] quiet absent (by simpa using Nat.succ_le_of_lt fits) whole
  refine ⟨after, ?_, still⟩
  rw [readLine, Attempt.runFrom_ofStep, done]
  simp [endLine, List.reverseAux_eq]

theorem discard_succeeds (works : Socket.Delivering calm) {transport : Transport σ} (count : Nat)
    (quiet : calm transport.socket) (enough : count ≤ transport.stream.length) :
    ∃ after, (discard count).runFrom transport = (.ok (), after) ∧ calm after.socket := by
  rw [stream, List.length_append] at enough
  simp only [discard, Attempt.runFrom_ofStep]
  split
  · exact ⟨_, rfl, quiet⟩
  · next short =>
      have missing : count - (transport.unread.take count).length ≤
          (Socket.pending transport.socket).length := by
        rw [take_unread short]
        omega
      obtain ⟨after, skipped, still⟩ := skip_succeeds works quiet transport.capacity_pos missing
      rw [skipped]
      exact ⟨_, rfl, still⟩

theorem wait_succeeds (works : Socket.Delivering calm) {transport : Transport σ}
    (timeout : Option Nat) (quiet : calm transport.socket) :
    ∃ ready after, (wait timeout).runFrom transport = (.ok ready, after) ∧ calm after.socket := by
  simp only [wait, Attempt.runFrom_ofStep]
  split
  · exact ⟨_, _, rfl, quiet⟩
  · obtain ⟨ready, after, still, waited⟩ := works.wait timeout quiet
    rw [waited]
    exact ⟨_, _, rfl, still⟩

theorem wait_finds (prompt : Socket.Prompt calm) {transport : Transport σ}
    (timeout : Option Nat) (quiet : calm transport.socket) (left : transport.stream ≠ []) :
    ∃ after, (wait timeout).runFrom transport = (.ok true, after) ∧ calm after.socket := by
  simp only [wait, Attempt.runFrom_ofStep]
  split
  · exact ⟨_, rfl, quiet⟩
  · next unbuffered =>
      have empty : transport.unread = [] := by simpa [hasBuffered] using unbuffered
      rw [stream, empty, List.nil_append] at left
      obtain ⟨after, still, waited⟩ := prompt timeout quiet left
      rw [waited]
      exact ⟨_, rfl, still⟩

theorem wait_exhausted (honest : Socket.Honest calm) {transport : Transport σ}
    (timeout : Option Nat) (quiet : calm transport.socket) (exhausted : transport.stream = []) :
    ∃ after, (wait timeout).runFrom transport = (.ok false, after) ∧
      after.stream = [] ∧ calm after.socket := by
  obtain ⟨unread, nothing⟩ := List.append_eq_nil_iff.1 exhausted
  have kept := wait_stream transport timeout
  obtain ⟨socket, still, waited⟩ := honest timeout quiet
  rw [nothing] at waited
  have done : (wait timeout).runFrom transport = (.ok false, { transport with socket }) := by
    simp [wait, hasBuffered, unread, waited]
  rw [done] at kept
  exact ⟨_, done, kept.trans exhausted, still⟩

variable {α β : Type}

/-- The attempt succeeds with this value and leaves this much of the stream. -/
def Yields (calm : σ → Prop) (attempt : Attempt FatalError (Transport σ) α)
    (transport : Transport σ) (value : α) (rest : Bytes) : Prop :=
  ∃ after, attempt.runFrom transport = (.ok value, after) ∧ after.stream = rest ∧ calm after.socket

theorem Yields.pure {transport : Transport σ} {rest : Bytes} (value : α)
    (quiet : calm transport.socket) (left : transport.stream = rest) :
    Yields calm (pure value) transport value rest :=
  ⟨transport, rfl, left, quiet⟩

theorem Yields.bind {attempt : Attempt FatalError (Transport σ) α}
    {next : α → Attempt FatalError (Transport σ) β} {transport : Transport σ} {value : α}
    {result : β} {middle rest : Bytes} (first : Yields calm attempt transport value middle)
    (others : ∀ between : Transport σ, between.stream = middle → calm between.socket →
      Yields calm (next value) between result rest) :
    Yields calm (attempt >>= next) transport result rest := by
  obtain ⟨between, done, left, quiet⟩ := first
  obtain ⟨after, finished, stands⟩ := others between left quiet
  exact ⟨after, (Attempt.runFrom_bind_ok done).trans finished, stands⟩

theorem read_yields (works : Socket.Delivering calm) {transport : Transport σ} {data rest : Bytes}
    (quiet : calm transport.socket) (found : transport.stream = data ++ rest) :
    Yields calm (read data.length) transport data rest := by
  obtain ⟨bytes, after, done, still⟩ := read_succeeds works data.length quiet
    (by rw [found, List.length_append]; omega)
  obtain ⟨size, split⟩ := read_ok done
  obtain ⟨rfl, left⟩ := List.append_inj (split.symm.trans found) size
  exact ⟨after, done, left, still⟩

theorem readByte_yields (works : Socket.Delivering calm) {transport : Transport σ} {byte : UInt8}
    {rest : Bytes} (quiet : calm transport.socket) (found : transport.stream = byte :: rest) :
    Yields calm readByte transport byte rest := by
  obtain ⟨first, after, done, still⟩ := readByte_succeeds works quiet (by rw [found]; nofun)
  obtain ⟨rfl, left⟩ := List.cons.inj ((readByte_ok done).symm.trans found)
  exact ⟨after, done, left, still⟩

theorem readLine_yields (works : Socket.Delivering calm) {transport : Transport σ}
    {line rest : Bytes} (quiet : calm transport.socket) (free : Bytes.lineFeed ∉ line)
    (fits : line.length < maxLineLength) (found : transport.stream = line ++ Bytes.crlf ++ rest) :
    Yields calm readLine transport line rest := by
  obtain ⟨after, done, still⟩ := readLine_succeeds works quiet free fits found
  obtain ⟨-, split⟩ := readLine_ok done
  exact ⟨after, done, List.append_cancel_left (split.symm.trans found), still⟩

/-! ## A read that has succeeded leaves a socket without faults -/

section Calm

variable (works : Socket.Delivering calm) {transport after : Transport σ}
  (quiet : calm transport.socket)

include works quiet

theorem readByte_calm {byte : UInt8}
    (done : readByte.runFrom transport = (.ok byte, after)) : calm after.socket := by
  obtain ⟨last, again, -, still⟩ := readByte_yields works quiet (readByte_ok done)
  cases done.symm.trans again
  exact still

theorem read_calm {count : Nat} {bytes : Bytes}
    (done : (read count).runFrom transport = (.ok bytes, after)) : calm after.socket := by
  obtain ⟨size, split⟩ := read_ok done
  obtain ⟨last, again, -, still⟩ := read_yields works quiet split
  rw [size] at again
  cases done.symm.trans again
  exact still

theorem readLine_calm {line : Bytes}
    (done : readLine.runFrom transport = (.ok line, after)) : calm after.socket := by
  obtain ⟨free, split⟩ := readLine_ok done
  rw [Bytes.append_crlf] at split
  obtain ⟨last, ⟨again, still⟩ | ⟨refused, -⟩⟩ :=
    readLine_settles works quiet (Bytes.free_return free) split
  · obtain ⟨-, rfl⟩ := Prod.mk.inj (done.symm.trans again)
    exact still
  · cases done.symm.trans refused

end Calm

end RespClient.Transport
