import RespClient.Proofs.Transport.Delivery

/-!
# Reads that run out of bytes

A socket without faults can still come to the end of what its peer has sent. Then a
read fails because the peer has closed, and for no other reason, with one exception:
a line that is too long for a header fails for its length as soon as that can be
told. In either case the stream decides the failure, as it decides what a read
returns.
-/

namespace RespClient

namespace Socket

variable {σ : Type} [Socket σ]

/-- A read with nothing left to deliver reports the end of the stream. -/
def Ending (calm : σ → Prop) : Prop :=
  ∀ {socket : σ} (room : Nat), calm socket → Socket.pending socket = [] →
    ∃ after, calm after ∧ (Socket.read socket room = (.interrupted, after) ∨
      Socket.read socket room = (.received [], after))

end Socket

theorem Scripted.ending : Socket.Ending Scripted.Faultless := by
  intro socket room faultless nothing
  change socket.input = [] at nothing
  change ∃ after, _ ∧ (read socket room = _ ∨ read socket room = _)
  have closed : ∀ script : Scripted, script.input = [] →
      (script.deliver room).1 = .received [] := by
    intro script empty
    rw [deliver, empty, List.take_nil]
  unfold read
  split
  · exact ⟨_, faultless.deliver room, .inr (Prod.ext (closed socket nothing) rfl)⟩
  · next fault rest queue =>
    obtain ⟨rfl | rfl, after⟩ := faultless.next_read queue
    · exact ⟨_, after.deliver room, .inr (Prod.ext (closed _ nothing) rfl)⟩
    · exact ⟨_, after, .inl rfl⟩

theorem Recorded.ending {σ : Type} [Socket σ] {calm : σ → Prop} (ends : Socket.Ending calm) :
    Socket.Ending fun recorded : Recorded σ => calm recorded.socket := by
  intro recorded room quiet nothing
  obtain ⟨after, still, outcome⟩ := ends room quiet nothing
  change ∃ next : Recorded σ, _ ∧ (recorded.read room = _ ∨ recorded.read room = _)
  unfold read
  rcases outcome with outcome | outcome
  · rw [outcome]
    exact ⟨_, still, .inl rfl⟩
  · rw [outcome]
    exact ⟨_, still, .inr rfl⟩

namespace Transport

variable {σ : Type} [Socket σ] {calm : σ → Prop}

theorem receive_ends (ends : Socket.Ending calm) {socket : σ} (room : Nat) (quiet : calm socket)
    (nothing : Socket.pending socket = []) :
    ∃ after, receive socket room = (.error .closedByPeer, after) := by
  obtain ⟨after, still, interrupted | received⟩ := ends room quiet nothing
  · have same := (Socket.read_interrupted interrupted).1
    obtain ⟨last, ended⟩ := receive_ends ends room still (same.trans nothing)
    refine ⟨last, ?_⟩
    rw [receive_eq, interrupted]
    exact ended
  · refine ⟨after, ?_⟩
    rw [receive_eq, received]
termination_by Socket.patience socket
decreasing_by exact (Socket.read_interrupted interrupted).2

/-- A read that fails has found the end of the stream. -/
theorem receive_error (works : Socket.Delivering calm) (ends : Socket.Ending calm)
    {socket after : σ} {room : Nat} {cause : IoError} (quiet : calm socket) (roomy : 0 < room)
    (failed : receive socket room = (.error cause, after)) :
    cause = .closedByPeer ∧ Socket.pending socket = [] := by
  by_cases nothing : Socket.pending socket = []
  · obtain ⟨last, ended⟩ := receive_ends ends room quiet nothing
    cases failed.symm.trans ended
    exact ⟨rfl, nothing⟩
  · exact absurd rfl ((receive_outcome works quiet roomy nothing failed).2 cause)

theorem gather_error (works : Socket.Delivering calm) (ends : Socket.Ending calm) {socket : σ}
    {room missing : Nat} (taken : Bytes) (quiet : calm socket) (fits : missing ≤ room)
    {cause : IoError} (failed : (gather socket room missing taken).outcome = .error cause) :
    cause = .closedByPeer := by
  fun_induction gather socket room missing taken with
  | case1 => cases failed
  | case2 socket room missing taken lacking found after refused =>
      cases failed
      exact (receive_error works ends quiet (by omega) refused).1
  | case3 socket room missing taken lacking first rest after delivered size ih =>
      obtain ⟨bound, pending⟩ := receive_ok delivered
      have left : Socket.pending socket ≠ [] := by simp [pending]
      have still := (receive_outcome works quiet (by omega) left delivered).1
      exact ih still (by omega) failed

theorem read_error (works : Socket.Delivering calm) (ends : Socket.Ending calm)
    {transport after : Transport σ} {count : Nat} {cause : FatalError}
    (quiet : calm transport.socket)
    (failed : (read count).runFrom transport = (.error cause, after)) :
    cause = .connection .closedByPeer := by
  simp only [read, Attempt.runFrom_ofStep] at failed
  split at failed
  · cases failed
  · split at failed
    · split at failed
      · next stopped =>
          cases failed
          rw [gather_error works ends [] quiet (Nat.le_refl _) stopped]
      · cases failed
    · next fits =>
        split at failed
        · next stopped =>
            cases failed
            rw [gather_error works ends [] quiet (Nat.le_of_not_lt fits) stopped]
        · cases failed

theorem read_ends (works : Socket.Delivering calm) (ends : Socket.Ending calm)
    {transport : Transport σ} {count : Nat} (quiet : calm transport.socket)
    (few : transport.stream.length < count) :
    ((read count).runFrom transport).1 = .error (.connection .closedByPeer) := by
  rcases ran : (read count).runFrom transport with ⟨cause | bytes, after⟩
  · rw [read_error works ends quiet ran]
  · obtain ⟨size, split⟩ := read_ok ran
    rw [split, List.length_append] at few
    omega

theorem readByte_ends (works : Socket.Delivering calm) (ends : Socket.Ending calm)
    {transport : Transport σ} (quiet : calm transport.socket) (nothing : transport.stream = []) :
    (readByte.runFrom transport).1 = .error (.connection .closedByPeer) := by
  rcases ran : readByte.runFrom transport with ⟨cause | byte, after⟩
  · simp only [readByte, Attempt.runFrom_ofStep] at ran
    split at ran
    · cases ran
    · split at ran
      · next refused =>
          cases ran
          rw [(receive_error works ends quiet transport.capacity_pos refused).1]
      · cases ran
  · cases nothing.symm.trans (readByte_ok ran)

theorem endLine_error {taken : Bytes} {cause : FatalError} (failed : endLine taken = .error cause) :
    cause = .protocol .lineWithoutReturn := by
  cases taken with
  | nil => cases failed; rfl
  | cons last taken =>
      simp only [endLine] at failed
      split at failed
      · cases failed
      · cases failed; rfl

theorem endLine_eq_error_iff {line : Bytes} {cause : FatalError} :
    endLine line.reverse = .error cause ↔
      cause = .protocol .lineWithoutReturn ∧ ∀ text, line ≠ text ++ [Bytes.carriageReturn] := by
  constructor
  · intro failed
    refine ⟨endLine_error failed, ?_⟩
    rintro text rfl
    simp [endLine] at failed
  · rintro ⟨rfl, bare⟩
    rcases List.eq_nil_or_concat line with rfl | ⟨text, last, rfl⟩
    · rfl
    · have other : last ≠ Bytes.carriageReturn := fun same => bare text (by simp [same])
      simp [endLine, other]

/-- What is read of a line that ends is told by the bytes in front of its line feed. -/
theorem readLine_finds (works : Socket.Delivering calm) {transport : Transport σ}
    {before rest : Bytes} (quiet : calm transport.socket) (free : Bytes.lineFeed ∉ before)
    (fits : before.length ≤ maxLineLength)
    (found : transport.stream = before ++ Bytes.lineFeed :: rest) :
    (∀ line, endLine before.reverse = .ok line → Yields calm readLine transport line rest) ∧
    (∀ cause, endLine before.reverse = .error cause →
      (readLine.runFrom transport).1 = .error cause) := by
  obtain ⟨after, done, still⟩ := continueLine_finds works [] quiet free fits found
  rw [List.reverseAux_eq, List.append_nil] at done
  constructor
  · intro line closed
    rw [closed] at done
    have read : readLine.runFrom transport = (.ok line, after) := done
    obtain ⟨-, split⟩ := readLine_ok read
    have whole := endLine_ok closed
    rw [List.reverse_reverse] at whole
    refine ⟨after, read, ?_, still⟩
    rw [found, whole] at split
    simpa [Bytes.crlf] using split.symm
  · intro cause failed
    rw [failed] at done
    exact congrArg Prod.fst done

/-- A line that never ends is too long, or the stream ends before it is. -/
theorem continueLine_endless (works : Socket.Delivering calm) (ends : Socket.Ending calm)
    {transport : Transport σ} {room : Nat} (taken : Bytes) (quiet : calm transport.socket)
    (free : Bytes.lineFeed ∉ transport.stream) :
    (continueLine transport room taken).1 = .error
      (if room < transport.stream.length then .protocol .lineTooLong
        else .connection .closedByPeer) := by
  fun_induction continueLine transport room taken with
  | case1 transport room taken first feed others cut_off =>
      have ends : first.length < transport.unread.length := by
        have length := congrArg List.length cut_off
        rw [List.length_drop, List.length_cons] at length
        omega
      have found : Bytes.lineFeed ∈ transport.unread := by
        rw [Bytes.eq_firstLine_append ends]
        exact List.mem_append_right _ List.mem_cons_self
      exact absurd (List.mem_append_left _ found) free
  | case2 transport room taken first cut_off long =>
      have longer : room < transport.stream.length := by
        rw [stream, List.length_append]
        omega
      rw [if_pos longer]
  | case3 transport room taken first cut_off fitting cause after refused =>
      obtain ⟨rfl, nothing⟩ := receive_error works ends quiet transport.capacity_pos refused
      have short : ¬room < transport.stream.length := by
        rwa [stream, nothing, List.append_nil]
      rw [if_neg short]
  | case4 transport room taken first cut_off fitting head more after delivered ih =>
      obtain ⟨-, pending⟩ := receive_ok delivered
      have left : Socket.pending transport.socket ≠ [] := by simp [pending]
      have still := (receive_outcome works quiet transport.capacity_pos left delivered).1
      have rest : (transport.refilled after (head :: more)).stream =
          Socket.pending transport.socket := by
        rw [stream_refilled, pending]
      rw [rest] at ih
      rw [ih still fun member => free (List.mem_append_right _ member)]
      congr 1
      have same : room - transport.unread.length < (Socket.pending transport.socket).length ↔
          room < transport.stream.length := by
        rw [stream, List.length_append]
        omega
      simp only [same]

theorem readLine_endless (works : Socket.Delivering calm) (ends : Socket.Ending calm)
    {transport : Transport σ} (quiet : calm transport.socket)
    (free : Bytes.lineFeed ∉ transport.stream) :
    (readLine.runFrom transport).1 = .error
      (if maxLineLength < transport.stream.length then .protocol .lineTooLong
        else .connection .closedByPeer) :=
  continueLine_endless works ends [] quiet free

end Transport

end RespClient
