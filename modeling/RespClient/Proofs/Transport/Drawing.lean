import RespClient.Proofs.Transport.Delivery

/-!
# What reads take, also when they fail

A read takes bytes off the front of the stream whether it succeeds or not; one that fails
may have taken some for nothing. It never puts a byte back, and what it leaves in the
buffer is the end of what the socket has delivered so far.
-/

namespace RespClient.Transport

variable {σ : Type} [Socket σ]

/-- From one transport to a later one the socket has delivered more bytes, which came behind those
in the buffer, and some of all these have been taken off the front. -/
def Draws (before after : Transport σ) : Prop :=
  ∃ fresh taken, Socket.pending before.socket = fresh ++ Socket.pending after.socket ∧
    before.unread ++ fresh = taken ++ after.unread

namespace Draws

theorem refl (transport : Transport σ) : Draws transport transport :=
  ⟨[], [], rfl, List.append_nil _⟩

theorem trans {before middle after : Transport σ} (first : Draws before middle)
    (second : Draws middle after) : Draws before after := by
  obtain ⟨fresh, taken, pending, cut⟩ := first
  obtain ⟨more, also, left, again⟩ := second
  refine ⟨fresh ++ more, taken ++ also, ?_, ?_⟩
  · rw [pending, left, List.append_assoc]
  · rw [← List.append_assoc, cut, List.append_assoc, again, List.append_assoc]

theorem advance (transport : Transport σ) (count : Nat) :
    Draws transport (transport.advance count) :=
  ⟨[], transport.unread.take count, rfl, by
    rw [List.append_nil]; exact (List.take_append_drop count _).symm⟩

/-- The buffer is emptied and then filled with what has come. -/
theorem refilled (transport : Transport σ) {socket : σ} {bytes : Bytes}
    (pending : Socket.pending transport.socket = bytes ++ Socket.pending socket) :
    Draws transport (transport.refilled socket bytes) :=
  ⟨bytes, transport.unread, pending, rfl⟩

/-- What has come does not go through the buffer. -/
theorem emptied (transport : Transport σ) {socket : σ} {bytes : Bytes}
    (pending : Socket.pending transport.socket = bytes ++ Socket.pending socket) :
    Draws transport (transport.refilled socket []) :=
  ⟨bytes, transport.unread ++ bytes, pending, (List.append_nil _).symm⟩

theorem stream_suffix {before after : Transport σ} (draws : Draws before after) :
    after.stream <:+ before.stream := by
  obtain ⟨fresh, taken, pending, cut⟩ := draws
  refine ⟨taken, ?_⟩
  rw [stream, stream, pending, ← List.append_assoc, ← List.append_assoc, cut]

end Draws

theorem read_draws (count : Nat) (transport : Transport σ) :
    Draws transport ((read count).runFrom transport).2 := by
  simp only [read, Attempt.runFrom_ofStep]
  split
  · exact .advance transport count
  · next short =>
      rw [take_unread short]
      split
      · obtain ⟨more, -, pending, -⟩ :=
          gather_bytes transport.socket (count - transport.unread.length)
            (count - transport.unread.length) [] (Nat.le_refl _)
        split <;> exact .emptied transport pending
      · next fits =>
          obtain ⟨more, bytes, pending, -⟩ :=
            gather_bytes transport.socket transport.capacity
              (count - transport.unread.length) [] (Nat.le_of_not_lt fits)
          rw [List.reverse_nil, List.nil_append] at bytes
          rw [bytes]
          have full := Draws.refilled transport pending
          split
          · exact full
          · exact full.trans (.advance _ _)

theorem readByte_draws (transport : Transport σ) :
    Draws transport (readByte.runFrom transport).2 := by
  simp only [readByte, Attempt.runFrom_ofStep]
  split
  · exact .advance transport 1
  · split
    · next failed =>
        exact .refilled transport (pending_receive_error failed).symm
    · next delivered =>
        have full := Draws.refilled transport (receive_ok delivered).2
        exact full.trans (.advance _ 1)

theorem continueLine_draws (transport : Transport σ) (room : Nat) (taken : Bytes) :
    Draws transport (continueLine transport room taken).2 := by
  fun_induction continueLine transport room taken with
  | case1 transport room taken before feed rest cut_off => exact .advance _ _
  | case2 transport room taken before ends long => exact .advance _ _
  | case3 transport room taken before ends fits cause after failed =>
      exact .refilled transport (pending_receive_error failed).symm
  | case4 transport room taken before ends fits first rest after delivered ih =>
      have full := Draws.refilled transport (receive_ok delivered).2
      exact full.trans ih

theorem readLine_draws (transport : Transport σ) :
    Draws transport (readLine.runFrom transport).2 :=
  continueLine_draws transport maxLineLength []

theorem skip_drops (socket : σ) (capacity remaining : Nat) :
    ∃ lost, Socket.pending socket = lost ++ Socket.pending (skip socket capacity remaining).2 := by
  fun_induction skip socket capacity remaining with
  | case1 => exact ⟨[], rfl⟩
  | case2 socket remaining lacking cause after failed =>
      exact ⟨[], (pending_receive_error failed).symm⟩
  | case3 socket remaining lacking first rest after delivered ih =>
      obtain ⟨lost, left⟩ := ih
      exact ⟨first :: rest ++ lost, by rw [(receive_ok delivered).2, left, List.append_assoc]⟩

theorem discard_draws (count : Nat) (transport : Transport σ) :
    Draws transport ((discard count).runFrom transport).2 := by
  simp only [discard, Attempt.runFrom_ofStep]
  split
  · exact .advance transport count
  · obtain ⟨lost, pending⟩ := skip_drops transport.socket transport.capacity
      (count - (transport.unread.take count).length)
    split
    all_goals
      next skipped =>
        rw [skipped] at pending
        exact .emptied transport pending

theorem wait_draws (timeout : Option Nat) (transport : Transport σ) :
    Draws transport ((wait timeout).runFrom transport).2 := by
  have kept := Socket.pending_wait transport.socket timeout
  simp only [wait, Attempt.runFrom_ofStep]
  split
  · exact .refl transport
  · split
    all_goals
      next waited =>
        rw [waited] at kept
        exact ⟨[], [], kept.symm, List.append_nil _⟩

end RespClient.Transport
