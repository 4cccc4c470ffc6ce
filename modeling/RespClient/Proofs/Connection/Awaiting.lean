import RespClient.Proofs.Connection.Exchange

/-!
# Replies in front of anything

Responses can be read one by one whatever stands behind them in the stream. A usable
connection on a faultless socket that awaits some replies takes exactly their bytes off
the stream, and then it is idle in front of the rest.
-/

namespace RespClient.Connection

variable {σ : Type} [Socket σ]

/-- A usable connection on a faultless socket, in front of this stream and with so many replies
outstanding. -/
structure Awaits (calm : σ → Prop) (stream : Bytes) (unread : Nat) (connection : Connection σ) :
    Prop where
  usable : connection.broken = none
  quiet : calm connection.transport.socket
  stream_eq : connection.transport.stream = stream
  awaited : connection.inFlight = unread
  backed : connection.pending.size ≤ unread
  unsubscribed : connection.subscribed = false

variable {calm : σ → Prop} {stream rest : Bytes} {unread : Nat} {connection : Connection σ}

namespace Awaits

theorem nothing_pending (awaits : Awaits calm stream 0 connection) : connection.pending = #[] :=
  Array.eq_empty_of_size_eq_zero (Nat.le_zero.1 awaits.backed)

theorem checkIdle (awaits : Awaits calm stream 0 connection) (activity : Activity) :
    connection.checkIdle activity = .ok () :=
  checkIdle_ok activity awaits.usable awaits.awaited awaits.unsubscribed

theorem queue (awaits : Awaits calm stream unread connection) (frame : Bytes) :
    Awaits calm stream (unread + 1) (connection.queue frame) where
  usable := awaits.usable
  quiet := awaits.quiet
  stream_eq := awaits.stream_eq
  awaited := congrArg Nat.succ awaits.awaited
  backed := by simpa [Connection.queue] using awaits.backed
  unsubscribed := awaits.unsubscribed

theorem queueAll (awaits : Awaits calm stream unread connection) (frames : List Bytes) :
    Awaits calm stream (unread + frames.length) (frames.foldl Connection.queue connection) := by
  induction frames generalizing unread connection with
  | nil => exact awaits
  | cons frame frames ih =>
      have others := ih (awaits.queue frame)
      rw [Nat.add_right_comm] at others
      exact others

variable [Socket.Quiet σ]

theorem flush (writes : Socket.Accepting calm) (awaits : Awaits calm stream unread connection) :
    ∃ after, flush.runFrom connection = (.ok (), after) ∧ after.pending = #[] ∧
      Awaits calm stream unread after := by
  rw [Connection.flush, Attempt.runFrom_bind_ok (Attempt.runFrom_get connection)]
  by_cases empty : connection.pending.isEmpty
  · rw [if_pos empty]
    exact ⟨connection, rfl, Array.isEmpty_iff.1 empty, awaits⟩
  · rw [if_neg empty]
    obtain ⟨transport, sent, still⟩ :=
      Transport.writeMany_succeeds writes connection.pending.toList awaits.quiet
    have kept := Transport.writeMany_stream connection.transport connection.pending.toList
    rw [sent] at kept
    refine ⟨{ connection with transport, pending := #[] }, ?_, rfl, ?_⟩
    · rw [Attempt.runFrom_bind_ok (Attempt.runFrom_modify _ connection)]
      exact Attempt.runFrom_bind_ok (perform_ok sent)
    · exact { awaits with
        quiet := still
        stream_eq := kept.trans awaits.stream_eq
        backed := Nat.zero_le _ }

theorem getReply (reads : Socket.Delivering calm) (writes : Socket.Accepting calm)
    {response : Response} (awaits : Awaits calm (response.bytes ++ rest) (unread + 1) connection) :
    ∃ after, getReply.runFrom connection = (.ok response.reply, after) ∧
      Awaits calm rest unread after := by
  obtain ⟨middle, flushed, empty, still⟩ := awaits.flush writes
  obtain ⟨transport, done, left, quiet⟩ :=
    Reply.readFrame_yields reads still.quiet response.frame still.stream_eq
  have some : ¬connection.inFlight = 0 := by
    rw [awaits.awaited]
    exact Nat.succ_ne_zero unread
  refine ⟨{ middle with transport, inFlight := middle.inFlight - 1 }, ?_, ?_⟩
  · rw [Connection.getReply, Attempt.runFrom_bind_ok (ensure_ok (checkUsable_ok awaits.usable)),
      Attempt.runFrom_bind_ok (Attempt.runFrom_get connection), if_neg some,
      Attempt.runFrom_bind_ok flushed, Attempt.runFrom_bind_ok (Attempt.runFrom_modify _ middle)]
    exact perform_ok done
  · exact {
      usable := still.usable
      quiet
      stream_eq := left
      awaited := congrArg Nat.pred still.awaited
      backed := by simp [empty]
      unsubscribed := still.unsubscribed }

theorem getReplies (reads : Socket.Delivering calm) (writes : Socket.Accepting calm)
    {taken : List Response}
    (awaits : Awaits calm (wire taken ++ rest) (taken.length + unread) connection) :
    ∃ after, (getReplies taken.length).runFrom connection =
        (.ok (taken.map Response.reply), after) ∧ Awaits calm rest unread after := by
  induction taken generalizing connection with
  | nil => exact ⟨connection, rfl, Nat.zero_add unread ▸ awaits⟩
  | cons response taken ih =>
      rw [wire, List.flatMap_cons, List.append_assoc, List.length_cons,
        Nat.add_right_comm] at awaits
      obtain ⟨middle, first, between⟩ := awaits.getReply reads writes
      obtain ⟨after, others, still⟩ := ih between
      refine ⟨after, ?_, still⟩
      rw [List.length_cons, Connection.getReplies, Attempt.runFrom_bind_ok first,
        Attempt.runFrom_bind_ok others]
      rfl

theorem discardReplies (reads : Socket.Delivering calm) (writes : Socket.Accepting calm)
    {dropped : List Response}
    (awaits : Awaits calm (wire dropped ++ rest) (dropped.length + unread) connection) :
    ∃ after, (discardReplies dropped.length).runFrom connection = (.ok (), after) ∧
      Awaits calm rest unread after := by
  obtain ⟨after, done, still⟩ := awaits.getReplies reads writes
  refine ⟨after, ?_, still⟩
  rw [discardReplies_eq (awaits.awaited ▸ Nat.le_add_right _ _), Attempt.runFrom_bind_ok done]
  rfl

theorem discardAll (reads : Socket.Delivering calm) (writes : Socket.Accepting calm)
    {dropped : List Response}
    (awaits : Awaits calm (wire dropped ++ rest) dropped.length connection) :
    ∃ after, discardAll.runFrom connection = (.ok (), after) ∧ Awaits calm rest 0 after := by
  rw [Connection.discardAll, Attempt.runFrom_bind_ok (Attempt.runFrom_get connection),
    awaits.awaited]
  exact discardReplies reads writes awaits

theorem execute (reads : Socket.Delivering calm) (writes : Socket.Accepting calm)
    {response : Response} (awaits : Awaits calm (response.bytes ++ rest) 0 connection)
    (frame : Bytes) :
    ∃ after, (execute frame).runFrom connection = (response.reply.check, after) ∧
      Awaits calm rest 0 after := by
  obtain ⟨after, done, still⟩ := (awaits.queue frame).getReply reads writes
  refine ⟨after, ?_, still⟩
  rw [Connection.execute, Attempt.runFrom_bind_ok (ensure_ok (awaits.checkIdle .execute)),
    Attempt.runFrom_bind_ok (runFrom_append _ _), Attempt.runFrom_bind_ok done,
    Attempt.runFrom_liftM]

end Awaits

end RespClient.Connection
