import RespClient.Connection
import RespClient.Proofs.Reply.Decoding
import RespClient.Proofs.Transport.Sending

/-!
# Connections in step with their peer

A connection is in step if what its stream still holds are the responses to the
requests that it counts as unread, in their order. Reading replies keeps it in step
for as long as there are responses, and where they run out the connection is broken.
-/

namespace RespClient

/-- A reply, and the bytes that a server sends for it. -/
structure Response where
  reply : Reply
  bytes : Bytes
  frame : Reply.Frame Reply.Short 0 reply bytes

def wire (responses : List Response) : Bytes :=
  responses.flatMap Response.bytes

variable {σ : Type}

namespace Connection

/-- A usable connection on a faultless socket: these responses are left in its stream, these
requests have been made on it, and as many of them have not been answered yet. -/
structure InStep [Socket σ] (calm : σ → Prop) (responses : List Response) (requests : List Bytes)
    (unread : Nat) (connection : Connection (Recorded σ)) : Prop where
  usable : connection.broken = none
  quiet : calm connection.transport.socket.socket
  stream : connection.transport.stream = wire responses
  written : connection.transport.socket.written ++ connection.pending.toList.flatten =
    requests.flatten
  awaited : connection.inFlight = unread
  backed : connection.pending.size ≤ unread
  unsubscribed : connection.subscribed = false

theorem perform_ok {α : Type} {action : Attempt FatalError (Transport σ) α}
    {connection : Connection σ} {transport : Transport σ} {value : α}
    (done : action.runFrom connection.transport = (.ok value, transport)) :
    (perform action).runFrom connection = (.ok value, { connection with transport }) := by
  simp only [perform, Attempt.runFrom_ofStep, done]

theorem perform_error {α : Type} {action : Attempt FatalError (Transport σ) α}
    {connection : Connection σ} {transport : Transport σ} {cause : FatalError}
    (failed : action.runFrom connection.transport = (.error cause, transport)) :
    (perform action).runFrom connection = (.error (.fatal cause),
      { connection with transport, broken := connection.broken <|> some cause }) := by
  simp only [perform, Attempt.runFrom_ofStep, failed]

theorem perform_transport {α : Type} (action : Attempt FatalError (Transport σ) α)
    (connection : Connection σ) :
    ((perform action).runFrom connection).2.transport =
      (action.runFrom connection.transport).2 := by
  rcases done : action.runFrom connection.transport with ⟨cause | value, transport⟩
  · rw [perform_error done]
  · rw [perform_ok done]

theorem marked_ne_none (before : Option FatalError) (cause : FatalError) :
    (before <|> some cause) ≠ none := by
  cases before <;> exact nofun

/-! ### Checks -/

theorem ensure_ok {check : Connection σ → Except ClientError Unit} {connection : Connection σ}
    (passed : check connection = .ok ()) :
    (ensure check).runFrom connection = (.ok (), connection) :=
  Prod.ext passed rfl

theorem ensure_error {check : Connection σ → Except ClientError Unit} {connection : Connection σ}
    {cause : ClientError} (refused : check connection = .error cause) :
    (ensure check).runFrom connection = (.error cause, connection) :=
  Prod.ext refused rfl

theorem checkUsable_ok {connection : Connection σ} (usable : connection.broken = none) :
    connection.checkUsable = .ok () := by
  rw [checkUsable, usable]

theorem checkNothingPending_ok {connection : Connection σ} (activity : Activity)
    (usable : connection.broken = none) (idle : connection.inFlight = 0) :
    connection.checkNothingPending activity = .ok () := by
  rw [checkNothingPending, checkUsable_ok usable, idle]
  rfl

theorem checkIdle_ok {connection : Connection σ} (activity : Activity)
    (usable : connection.broken = none) (idle : connection.inFlight = 0)
    (unsubscribed : connection.subscribed = false) :
    connection.checkIdle activity = .ok () := by
  rw [checkIdle, checkNothingPending_ok activity usable idle, unsubscribed]
  rfl

theorem checkUsable_broken {connection : Connection σ} {reason : FatalError}
    (broken : connection.broken = some reason) :
    connection.checkUsable = .error (.usage (.broken reason)) := by
  rw [checkUsable, broken]

theorem checkNothingPending_broken {connection : Connection σ} (activity : Activity)
    {reason : FatalError} (broken : connection.broken = some reason) :
    connection.checkNothingPending activity = .error (.usage (.broken reason)) := by
  rw [checkNothingPending, checkUsable_broken broken]
  rfl

theorem checkIdle_broken {connection : Connection σ} (activity : Activity) {reason : FatalError}
    (broken : connection.broken = some reason) :
    connection.checkIdle activity = .error (.usage (.broken reason)) := by
  rw [checkIdle, checkNothingPending_broken activity broken]
  rfl

/-- A check is passed, or it is failed for a reason that lies with the caller. -/
theorem checkUsable_cases (connection : Connection σ) :
    connection.checkUsable = .ok () ∨
      ∃ cause, connection.checkUsable = .error (.usage cause) := by
  cases usable : connection.broken with
  | some reason => exact .inr ⟨_, checkUsable_broken usable⟩
  | none => exact .inl (checkUsable_ok usable)

theorem checkNothingPending_cases (activity : Activity) (connection : Connection σ) :
    connection.checkNothingPending activity = .ok () ∨
      ∃ cause, connection.checkNothingPending activity = .error (.usage cause) := by
  cases usable : connection.broken with
  | some reason => exact .inr ⟨_, checkNothingPending_broken activity usable⟩
  | none =>
      rw [checkNothingPending, checkUsable_ok usable]
      by_cases awaited : 0 < connection.inFlight
      · exact .inr ⟨_, if_pos awaited⟩
      · exact .inl (if_neg awaited)

theorem checkIdle_cases (activity : Activity) (connection : Connection σ) :
    connection.checkIdle activity = .ok () ∨
      ∃ cause, connection.checkIdle activity = .error (.usage cause) := by
  rcases checkNothingPending_cases activity connection with clear | ⟨cause, refused⟩
  · rw [checkIdle, clear]
    by_cases subscribed : connection.subscribed = true
    · exact .inr ⟨_, if_pos subscribed⟩
    · exact .inl (if_neg subscribed)
  · rw [checkIdle, refused]
    exact .inr ⟨cause, rfl⟩

/-- What is found out by a check that is passed. -/
theorem clear_of_checkNothingPending {connection : Connection σ} {activity : Activity}
    (clear : connection.checkNothingPending activity = .ok ()) :
    connection.broken = none ∧ connection.inFlight = 0 := by
  cases usable : connection.broken with
  | some reason => cases clear.symm.trans (checkNothingPending_broken activity usable)
  | none =>
      refine ⟨rfl, Nat.eq_zero_of_not_pos fun awaited => ?_⟩
      rw [checkNothingPending, checkUsable_ok usable] at clear
      cases clear.symm.trans (if_pos awaited)

theorem clear_of_checkIdle {connection : Connection σ} {activity : Activity}
    (idle : connection.checkIdle activity = .ok ()) :
    connection.broken = none ∧ connection.inFlight = 0 := by
  rcases checkNothingPending_cases activity connection with clear | ⟨cause, refused⟩
  · exact clear_of_checkNothingPending clear
  · rw [checkIdle, refused] at idle
    cases idle

theorem runFrom_append (connection : Connection σ) (frame : Bytes) :
    (append frame).runFrom connection = (.ok (), connection.queue frame) := rfl

variable [Socket σ]

/-- What a query or a typed request adds to an execution happens off the connection. -/
theorem query_state (type : ResultType) (command : Command) (connection : Connection σ) :
    ((query type command).runFrom connection).2 =
      ((execute command.frame).runFrom connection).2 := by
  rw [query, Attempt.runFrom_bind]
  rcases (execute command.frame).runFrom connection with ⟨_ | _, _⟩ <;> rfl

theorem executeInto_state (type : ResultType) (frame : Bytes) (current : type.Value)
    (connection : Connection σ) :
    ((executeInto type frame current).runFrom connection).2 =
      ((execute frame).runFrom connection).2 := by
  rw [executeInto, Attempt.runFrom_bind]
  rcases (execute frame).runFrom connection with ⟨_ | reply, after⟩
  · rfl
  · dsimp only
    split
    · rfl
    · rw [Attempt.runFrom_bind, Attempt.runFrom_liftM]
      cases type.decode reply <;> rfl

theorem execute_broken {connection : Connection σ} {reason : FatalError}
    (broken : connection.broken = some reason) (frame : Bytes) :
    (execute frame).runFrom connection = (.error (.usage (.broken reason)), connection) :=
  Attempt.runFrom_bind_error (ensure_error (checkIdle_broken .execute broken))

variable {calm : σ → Prop} {responses : List Response} {requests : List Bytes}
  {unread : Nat} {connection : Connection (Recorded σ)}

namespace InStep

theorem queue (sync : InStep calm responses requests unread connection) (frame : Bytes) :
    InStep calm responses (requests ++ [frame]) (unread + 1) (connection.queue frame) where
  usable := sync.usable
  quiet := sync.quiet
  stream := sync.stream
  written := by
    have written := sync.written
    simp only [Connection.queue, Array.toList_push, List.flatten_append, ← List.append_assoc]
    rw [written]
  awaited := congrArg Nat.succ sync.awaited
  backed := by
    simpa [Connection.queue] using sync.backed
  unsubscribed := sync.unsubscribed

theorem queueAll (sync : InStep calm responses requests unread connection)
    (frames : List Bytes) :
    InStep calm responses (requests ++ frames) (unread + frames.length)
      (frames.foldl Connection.queue connection) := by
  induction frames generalizing requests unread connection with
  | nil =>
      rw [List.append_nil]
      exact sync
  | cons frame frames ih =>
      have rest := ih (sync.queue frame)
      rw [List.append_assoc, Nat.add_right_comm] at rest
      exact rest

theorem nothing_pending (sync : InStep calm responses requests 0 connection) :
    connection.pending = #[] :=
  Array.eq_empty_of_size_eq_zero (Nat.le_zero.1 sync.backed)

end InStep

/-- The connection has come out behind `used` responses with nothing unread, provided that there
were as many and that they made sense. Otherwise it is broken. -/
def Settles (calm : σ → Prop) (responses : List Response) (requests : List Bytes) (used : Nat)
    (sensible : Prop) (connection : Connection (Recorded σ)) : Prop :=
  (used ≤ responses.length ∧ sensible →
    InStep calm (responses.drop used) requests 0 connection) ∧
  (¬(used ≤ responses.length ∧ sensible) → connection.broken ≠ none)

theorem Settles.broken_or_idle {used : Nat} {sensible : Prop}
    (settles : Settles calm responses requests used sensible connection) :
    connection.broken ≠ none ∨ connection.inFlight = 0 := by
  by_cases fine : used ≤ responses.length ∧ sensible
  · exact .inr (settles.1 fine).awaited
  · exact .inl (settles.2 fine)

variable [Socket.Quiet σ]

theorem flush_inStep (writes : Socket.Accepting calm)
    (sync : InStep calm responses requests unread connection) :
    ∃ after, flush.runFrom connection = (.ok (), after) ∧ after.pending = #[] ∧
      InStep calm responses requests unread after := by
  rw [flush, Attempt.runFrom_bind_ok (Attempt.runFrom_get connection)]
  by_cases empty : connection.pending.isEmpty
  · rw [if_pos empty]
    exact ⟨connection, rfl, Array.isEmpty_iff.1 empty, sync⟩
  · rw [if_neg empty]
    obtain ⟨transport, sent, still⟩ :=
      Transport.writeMany_succeeds (Recorded.accepting writes) connection.pending.toList sync.quiet
    have stream := Transport.writeMany_stream connection.transport connection.pending.toList
    rw [sent] at stream
    refine ⟨{ connection with transport, pending := #[] }, ?_, rfl, ?_⟩
    · rw [Attempt.runFrom_bind_ok (Attempt.runFrom_modify _ connection)]
      exact Attempt.runFrom_bind_ok (perform_ok sent)
    · exact {
        usable := sync.usable
        quiet := still
        stream := stream.trans sync.stream
        written := by simpa [Transport.writeMany_written sent] using sync.written
        awaited := sync.awaited
        backed := Nat.zero_le _
        unsubscribed := sync.unsubscribed }

/-- Reading a reply up to the point where the reader is called. -/
theorem getReply_reads (writes : Socket.Accepting calm)
    (sync : InStep calm responses requests (unread + 1) connection) :
    ∃ middle, InStep calm responses requests (unread + 1) middle ∧ middle.pending = #[] ∧
      getReply.runFrom connection =
        (perform Reply.readFrame).runFrom { middle with inFlight := middle.inFlight - 1 } := by
  obtain ⟨middle, flushed, empty, still⟩ := flush_inStep writes sync
  refine ⟨middle, still, empty, ?_⟩
  have some : ¬connection.inFlight = 0 := by
    rw [sync.awaited]
    exact Nat.succ_ne_zero unread
  rw [getReply, Attempt.runFrom_bind_ok (ensure_ok (checkUsable_ok sync.usable)),
    Attempt.runFrom_bind_ok (Attempt.runFrom_get connection), if_neg some,
    Attempt.runFrom_bind_ok flushed]
  exact Attempt.runFrom_bind_ok (Attempt.runFrom_modify _ middle)

theorem getReply_inStep (reads : Socket.Delivering calm) (writes : Socket.Accepting calm)
    {response : Response}
    (sync : InStep calm (response :: responses) requests (unread + 1) connection) :
    ∃ after, getReply.runFrom connection = (.ok response.reply, after) ∧
      InStep calm responses requests unread after := by
  obtain ⟨middle, still, empty, run⟩ := getReply_reads writes sync
  have written := still.written
  rw [empty] at written
  have quiet := And.intro still.quiet ((List.append_nil _).symm.trans written)
  obtain ⟨transport, done, left, calm_after, kept⟩ := Reply.readFrame_yields
    (Recorded.delivering_written reads _) quiet response.frame still.stream
  refine ⟨_, run.trans (perform_ok done), ?_⟩
  exact {
    usable := still.usable
    quiet := calm_after
    stream := left
    written := by
      change transport.socket.written ++ middle.pending.toList.flatten = requests.flatten
      rw [empty, kept]
      exact List.append_nil _
    awaited := congrArg Nat.pred still.awaited
    backed := by
      change middle.pending.size ≤ unread
      rw [empty]
      exact Nat.zero_le _
    unsubscribed := still.unsubscribed }

/-- Where no response is left the connection breaks. -/
theorem getReply_exhausted (writes : Socket.Accepting calm)
    (sync : InStep calm [] requests (unread + 1) connection) :
    ∃ cause after, getReply.runFrom connection = (.error cause, after) ∧
      after.broken ≠ none := by
  obtain ⟨middle, still, -, run⟩ := getReply_reads writes sync
  cases outcome : Reply.readFrame.runFrom middle.transport with
  | mk result transport =>
      cases result with
      | ok reply =>
          obtain ⟨bytes, frame, split⟩ := Reply.readFrame_ok outcome
          have nothing := still.stream.symm.trans split
          exact absurd (List.append_eq_nil_iff.1 nothing.symm).1 frame.ne_nil
      | error cause =>
          refine ⟨_, _, run.trans (perform_error outcome), ?_⟩
          exact marked_ne_none _ _

theorem getReplies_inStep (reads : Socket.Delivering calm) (writes : Socket.Accepting calm)
    {taken : List Response}
    (sync : InStep calm (taken ++ responses) requests (taken.length + unread) connection) :
    ∃ after, (getReplies taken.length).runFrom connection =
        (.ok (taken.map Response.reply), after) ∧
      InStep calm responses requests unread after := by
  induction taken generalizing connection with
  | nil => exact ⟨connection, rfl, Nat.zero_add unread ▸ sync⟩
  | cons response taken ih =>
      rw [List.length_cons, Nat.add_right_comm] at sync
      obtain ⟨middle, first, between⟩ := getReply_inStep reads writes sync
      obtain ⟨after, others, still⟩ := ih between
      refine ⟨after, ?_, still⟩
      rw [List.length_cons, getReplies, Attempt.runFrom_bind_ok first,
        Attempt.runFrom_bind_ok others]
      rfl

theorem getReplies_exhausted (reads : Socket.Delivering calm) (writes : Socket.Accepting calm)
    {count : Nat} (few : responses.length < count)
    (sync : InStep calm responses requests (count + unread) connection) :
    ∃ cause after, (getReplies count).runFrom connection = (.error cause, after) ∧
      after.broken ≠ none := by
  induction count generalizing connection responses with
  | zero => exact absurd few (Nat.not_lt_zero _)
  | succ count ih =>
      rw [Nat.add_right_comm] at sync
      cases responses with
      | nil =>
          obtain ⟨cause, after, failed, broken⟩ := getReply_exhausted writes sync
          exact ⟨cause, after, Attempt.runFrom_bind_error failed, broken⟩
      | cons response responses =>
          obtain ⟨middle, first, between⟩ := getReply_inStep reads writes sync
          obtain ⟨cause, after, failed, broken⟩ := ih (Nat.lt_of_succ_lt_succ few) between
          refine ⟨cause, after, ?_, broken⟩
          rw [getReplies, Attempt.runFrom_bind_ok first]
          exact Attempt.runFrom_bind_error failed

omit [Socket.Quiet σ] in
/-- Dropping replies is reading them. -/
theorem dropReplies_eq (count : Nat) :
    (dropReplies count : Action σ Unit) = getReplies count >>= fun _ => pure () := by
  induction count with
  | zero => rfl
  | succ count ih => simp [dropReplies, getReplies, ih]

omit [Socket.Quiet σ] in
theorem discardReplies_eq {connection : Connection σ} {count : Nat}
    (enough : count ≤ connection.inFlight) :
    (discardReplies count).runFrom connection =
      (getReplies count >>= fun _ => pure ()).runFrom connection := by
  rw [discardReplies, Attempt.runFrom_bind_ok (Attempt.runFrom_get connection),
    if_neg (Nat.not_lt_of_le enough), dropReplies_eq]

theorem discardReplies_inStep (reads : Socket.Delivering calm) (writes : Socket.Accepting calm)
    {dropped : List Response}
    (sync : InStep calm (dropped ++ responses) requests (dropped.length + unread) connection) :
    ∃ after, (discardReplies dropped.length).runFrom connection = (.ok (), after) ∧
      InStep calm responses requests unread after := by
  have enough : dropped.length ≤ connection.inFlight := by
    rw [sync.awaited]
    exact Nat.le_add_right _ _
  obtain ⟨after, done, still⟩ := getReplies_inStep reads writes sync
  refine ⟨after, ?_, still⟩
  rw [discardReplies_eq enough, Attempt.runFrom_bind_ok done]
  rfl

theorem discardReplies_exhausted (reads : Socket.Delivering calm)
    (writes : Socket.Accepting calm) {count : Nat} (few : responses.length < count)
    (sync : InStep calm responses requests (count + unread) connection) :
    ∃ cause after, (discardReplies count).runFrom connection = (.error cause, after) ∧
      after.broken ≠ none := by
  have enough : count ≤ connection.inFlight := by
    rw [sync.awaited]
    exact Nat.le_add_right _ _
  obtain ⟨cause, after, failed, broken⟩ := getReplies_exhausted reads writes few sync
  refine ⟨cause, after, ?_, broken⟩
  rw [discardReplies_eq enough]
  exact Attempt.runFrom_bind_error failed

theorem discardAll_settles (reads : Socket.Delivering calm) (writes : Socket.Accepting calm)
    (sync : InStep calm responses requests unread connection) :
    ∃ outcome last, discardAll.runFrom connection = (outcome, last) ∧
      Settles calm responses requests unread True last := by
  rw [discardAll, Attempt.runFrom_bind_ok (Attempt.runFrom_get connection), sync.awaited]
  by_cases enough : unread ≤ responses.length
  · have size := List.length_take_of_le enough
    have whole : InStep calm (responses.take unread ++ responses.drop unread) requests
        ((responses.take unread).length + 0) connection := by
      rw [List.take_append_drop, size]
      exact sync
    obtain ⟨last, done, still⟩ := discardReplies_inStep reads writes whole
    rw [size] at done
    exact ⟨_, last, done, fun _ => still, fun wrong => absurd ⟨enough, trivial⟩ wrong⟩
  · have whole : InStep calm responses requests (unread + 0) connection := sync
    obtain ⟨cause, last, failed, broken⟩ :=
      discardReplies_exhausted reads writes (Nat.lt_of_not_le enough) whole
    exact ⟨_, last, failed, fun fine => absurd fine.1 enough, fun _ => broken⟩

theorem execute_inStep (reads : Socket.Delivering calm) (writes : Socket.Accepting calm)
    {response : Response} (sync : InStep calm (response :: responses) requests 0 connection)
    (frame : Bytes) :
    ∃ after, (execute frame).runFrom connection = (response.reply.check, after) ∧
      InStep calm responses (requests ++ [frame]) 0 after := by
  have idle := checkIdle_ok .execute sync.usable sync.awaited sync.unsubscribed
  obtain ⟨after, done, still⟩ := getReply_inStep reads writes (sync.queue frame)
  refine ⟨after, ?_, still⟩
  rw [execute, Attempt.runFrom_bind_ok (ensure_ok idle),
    Attempt.runFrom_bind_ok (runFrom_append _ _), Attempt.runFrom_bind_ok done,
    Attempt.runFrom_liftM]

theorem execute_settles (reads : Socket.Delivering calm) (writes : Socket.Accepting calm)
    (sync : InStep calm responses requests 0 connection) (frame : Bytes) :
    Settles calm responses (requests ++ [frame]) 1 True
      ((execute frame).runFrom connection).2 := by
  cases responses with
  | cons response responses =>
      obtain ⟨after, done, still⟩ := execute_inStep reads writes sync frame
      rw [done]
      constructor
      · exact fun _ => still
      · exact fun wrong => absurd ⟨Nat.succ_pos _, trivial⟩ wrong
  | nil =>
      have idle := checkIdle_ok .execute sync.usable sync.awaited sync.unsubscribed
      obtain ⟨cause, after, failed, broken⟩ := getReply_exhausted writes (sync.queue frame)
      rw [execute, Attempt.runFrom_bind_ok (ensure_ok idle),
        Attempt.runFrom_bind_ok (runFrom_append _ _), Attempt.runFrom_bind_error failed]
      constructor
      · rintro ⟨some, -⟩
        exact absurd some (Nat.not_succ_le_zero 0)
      · exact fun _ => broken

end Connection

end RespClient
