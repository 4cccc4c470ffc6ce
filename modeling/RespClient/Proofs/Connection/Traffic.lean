import RespClient.Proofs.Batch.Pipelining
import RespClient.Proofs.Connection.Counting
import RespClient.Proofs.Transport.Calls

/-!
# Requests on their way

Requests that have been queued are sent before the first reply to them is read, and
either all of them are sent or no reply is read. Whichever replies an action asks for, it
finds its requests at one of three stages and leaves them at one: still queued, lost in a
write that failed, or sent, with nothing but reads since.
-/

namespace RespClient

variable {σ α β : Type}

/-- The calls between two transports: the requests are sent, and then replies are read. -/
structure Exchange (requests : List Bytes) (before after : Transport (Recorded σ))
    (sends reads : List SocketCall) : Prop where
  history : after.socket.history = before.socket.history ++ sends ++ reads
  sends_only : ∀ call ∈ sends, call.isSend = true
  reads_only : ∀ call ∈ reads, call.isRead = true
  /-- At no moment has anything been accepted but the beginning of the requests. -/
  accepted_part : ∀ part, part <+: sends →
    part.flatMap SocketCall.accepted <+: requests.flatten
  accepted_all : sends.filterMap SocketCall.fault = [] →
    sends.flatMap SocketCall.accepted = requests.flatten
  /-- Nothing is read before everything has been accepted and flushed. -/
  read_after : reads ≠ [] → Sent requests sends
  /-- After a fault no reply is taken, not even of what had been read ahead. -/
  unanswered : sends.filterMap SocketCall.fault ≠ [] →
    reads = [] ∧ after = { before with socket := after.socket }
  silent : requests = [] → sends = [] ∧ reads = [] ∧ after = before

namespace Connection

/-- Between two states of a connection the requests have been exchanged, and none is left over. -/
def Exchanged (requests : List Bytes) (before after : Connection (Recorded σ)) : Prop :=
  after.pending = #[] ∧
    ∃ sends reads, Exchange requests before.transport after.transport sends reads

section Steps

variable [Socket σ] {connection : Connection σ}

theorem getReply_idle (usable : connection.broken = none) (idle : connection.inFlight = 0) :
    getReply.runFrom connection = (.error (.usage .nothingInFlight), connection) := by
  rw [getReply, Attempt.runFrom_bind_ok (ensure_ok (checkUsable_ok usable)),
    Attempt.runFrom_bind_ok (Attempt.runFrom_get connection), if_pos idle]
  rfl

end Steps

/-- How far requests have got that were queued on a transport. -/
inductive Underway (start : Transport (Recorded σ)) (requests : List Bytes)
    (connection : Connection (Recorded σ)) : Prop where
  -- Without requests the queue looks as it does after a send; it is the count that then keeps a
  -- reply from being read.
  | queued (pending : connection.pending = requests.toArray)
      (awaited : requests = [] → connection.inFlight = 0)
      (untouched : connection.transport = start)
  | lost (unqueued : connection.pending = #[]) (broken : connection.broken ≠ none)
      (some : requests ≠ []) {calls : List SocketCall} {socket : Recorded σ}
      (sending : Sending requests calls) (fault : calls.filterMap SocketCall.fault ≠ [])
      (history : socket.history = start.socket.history ++ calls)
      (unread : connection.transport = { start with socket })
  | sent (unqueued : connection.pending = #[]) (some : requests ≠ [])
      {calls : List SocketCall} (sending : Sending requests calls) (complete : Sent requests calls)
      (since : connection.transport.socket.ReadSince (start.socket.history ++ calls))

namespace Underway

variable {start : Transport (Recorded σ)} {requests : List Bytes}
  {connection : Connection (Recorded σ)}

theorem of_ready (ready : connection.Ready) (requests : List Bytes) :
    Underway connection.transport requests (requests.foldl queue connection) := by
  rw [foldl_queue, ready.nothing_pending, ready.nothing_in_flight, Array.empty_append,
    Nat.zero_add]
  exact .queued rfl (congrArg List.length) rfl

/-- The calls that have been made once nothing is queued. -/
theorem exchange (underway : Underway start requests connection)
    (unqueued : connection.pending = #[]) :
    ∃ sends reads, Exchange requests start connection.transport sends reads := by
  cases underway with
  | queued pending awaited untouched =>
      obtain rfl : requests = [] := by simpa [unqueued] using pending.symm
      exact ⟨[], [], {
        history := by rw [untouched, List.append_nil, List.append_nil]
        sends_only := nofun
        reads_only := nofun
        accepted_part := fun part first => List.prefix_nil.1 first ▸ List.nil_prefix
        accepted_all := fun _ => rfl
        read_after := fun some => absurd rfl some
        unanswered := fun some => absurd rfl some
        silent := fun _ => ⟨rfl, rfl, untouched⟩ }⟩
  | @lost _ _ some calls socket sending fault history unread =>
      exact ⟨calls, [], {
        history := by rw [unread, List.append_nil, history]
        sends_only := sending.sends
        reads_only := nofun
        accepted_part := fun part first => (sending.of_prefix first).accepted
        accepted_all := fun clean => absurd clean fault
        read_after := fun some => absurd rfl some
        unanswered := fun _ => ⟨rfl, by rw [unread]⟩
        silent := fun nothing => absurd nothing some }⟩
  | @sent _ some calls sending complete since =>
      obtain ⟨reads, history, only⟩ := since
      exact ⟨calls, reads, {
        history
        sends_only := sending.sends
        reads_only := only
        accepted_part := fun part first => (sending.of_prefix first).accepted
        accepted_all := fun _ => complete.accepted
        read_after := fun _ => complete
        unanswered := fun fault => absurd complete.faultless fault
        silent := fun nothing => absurd nothing some }⟩

variable [Socket σ]

theorem readFrame (unqueued : connection.pending = #[]) (some : requests ≠ [])
    {calls : List SocketCall} (sending : Sending requests calls) (complete : Sent requests calls)
    (since : connection.transport.socket.ReadSince (start.socket.history ++ calls)) :
    Underway start requests ((perform Reply.readFrame).runFrom connection).2 := by
  have read := Reply.readFrame_since since
  rcases ran : Reply.readFrame.runFrom connection.transport with ⟨cause | reply, transport⟩
  · rw [ran] at read
    rw [perform_error ran]
    exact .sent unqueued some sending complete read
  · rw [ran] at read
    rw [perform_ok ran]
    exact .sent unqueued some sending complete read

/-- Getting one reply sends the requests if that is still to be done. -/
theorem getReply (underway : Underway start requests connection) :
    Underway start requests (Connection.getReply.runFrom connection).2 := by
  cases usable : connection.broken with
  | some reason =>
      rw [Connection.getReply,
        Attempt.runFrom_bind_error (ensure_error (checkUsable_broken usable))]
      exact underway
  | none =>
      by_cases idle : connection.inFlight = 0
      · rw [getReply_idle usable idle]
        exact underway
      · cases underway with
        | queued pending awaited untouched =>
            subst untouched
            have some : requests ≠ [] := fun nothing => idle (awaited nothing)
            obtain ⟨calls, socket, history, sending,
              ⟨count, written, complete⟩ | ⟨cause, unwritten, fault⟩⟩ :=
              Transport.writeMany_calls requests connection.transport
            · have flushed := (flush_queued pending some).trans
                (Attempt.runFrom_bind_ok (perform_ok written))
              rw [getReply_flushed flushed usable idle]
              refine readFrame rfl some sending complete ⟨[], ?_, List.forall_mem_nil _⟩
              rw [List.append_nil, history]
            · have stuck := (flush_queued pending some).trans
                (Attempt.runFrom_bind_error (perform_error unwritten))
              rw [getReply_unwritten usable idle stuck]
              exact .lost rfl (marked_ne_none _ _) some sending fault history rfl
        -- A usable connection has not lost anything.
        | lost unqueued broken => exact absurd usable broken
        | sent unqueued some sending complete since =>
            rw [getReply_flushed (flush_nothing unqueued) usable idle]
            exact readFrame unqueued some sending complete since

end Underway

/-! ## Through an action -/

/-- An action that leaves requests underway which it finds underway. -/
def Advances (action : Action (Recorded σ) α) : Prop :=
  ∀ ⦃start requests connection⦄, Underway start requests connection →
    Underway start requests (action.runFrom connection).2

namespace Advances

theorem pure (value : α) : Advances (pure value : Action (Recorded σ) α) :=
  fun _ _ _ underway => underway

theorem fail (cause : ClientError) : Advances (throw cause : Action (Recorded σ) α) :=
  fun _ _ _ underway => underway

theorem abandon (cause : FatalError) :
    Advances (Connection.abandon cause : Action (Recorded σ) α) := by
  intro start requests connection underway
  cases underway with
  | queued pending awaited untouched => exact .queued pending awaited untouched
  | lost unqueued broken some sending fault history unread =>
      exact .lost unqueued (marked_ne_none _ _) some sending fault history unread
  | sent unqueued some sending complete since => exact .sent unqueued some sending complete since

theorem bind {action : Action (Recorded σ) α} {next : α → Action (Recorded σ) β}
    (first : Advances action) (rest : ∀ value, Advances (next value)) :
    Advances (action >>= next) := by
  intro start requests connection underway
  have between := first underway
  rcases begun : action.runFrom connection with ⟨cause | value, middle⟩
  · rw [begun] at between
    rw [Attempt.runFrom_bind_error begun]
    exact between
  · rw [begun] at between
    rw [Attempt.runFrom_bind_ok begun]
    exact rest value between

variable [Socket σ]

theorem getReply : Advances (Connection.getReply : Action (Recorded σ) Reply) :=
  fun _ _ _ underway => underway.getReply

theorem getReplies (count : Nat) :
    Advances (Connection.getReplies count : Action (Recorded σ) (List Reply)) := by
  induction count with
  | zero => exact .pure []
  | succ count ih => exact getReply.bind fun reply => ih.bind fun rest => .pure (reply :: rest)

theorem discardReplies (count : Nat) :
    Advances (Connection.discardReplies count : Action (Recorded σ) Unit) := by
  intro start requests connection underway
  rw [Connection.discardReplies, Attempt.runFrom_bind_ok (Attempt.runFrom_get connection)]
  split
  · exact underway
  · rw [dropReplies_eq]
    exact (getReplies count).bind (fun _ => .pure ()) underway

theorem discardAll : Advances (Connection.discardAll : Action (Recorded σ) Unit) := by
  intro start requests connection underway
  rw [Connection.discardAll, Attempt.runFrom_bind_ok (Attempt.runFrom_get connection)]
  exact discardReplies _ underway

end Advances

end Connection

end RespClient
