import RespClient.Batch
import RespClient.Proofs.Connection.Exchange

/-!
# Batches settle their connection

However a batch is ended, the connection behind it has read one response for each
request that the batch has sent, or it is broken. Resolving and discarding close a
batch, and a closed batch refuses every further call. Dropping an open batch
discards it.
-/

namespace RespClient

namespace Batch

variable {σ : Type}

/-- What the answer to `EXEC` is worth to a transaction of `count` commands. -/
def execOutcome (count : Nat) : Reply → Except ClientError (List Reply)
  | .array results =>
      if results.length = count then .ok results
      else .error (.fatal (.protocol (.resultCount count results.length)))
  | .nil => .error (.server "transaction aborted: a watched key was modified")
  | .error message => .error (.server message)
  | other => .error (.fatal (.protocol (.execWithoutArray other.kind)))

/-- The answer to `EXEC` can belong to a transaction of `count` commands. -/
def Fits (count : Nat) : Reply → Prop
  | .array results => results.length = count
  | .nil => True
  | .error _ => True
  | _ => False

/-- An answer that cannot belong to so many commands breaks the connection for the reason that is
reported; any other leaves it as it is. -/
theorem execResults_cases (count : Nat) (answer : Reply) (connection : Connection σ) :
    (Fits count answer ∧
      (execResults count answer).runFrom connection = (execOutcome count answer, connection)) ∨
    (¬Fits count answer ∧ ∃ cause, execOutcome count answer = .error (.fatal (.protocol cause)) ∧
      (execResults count answer).runFrom connection = (.error (.fatal (.protocol cause)),
        { connection with broken := connection.broken <|> some (.protocol cause) })) := by
  cases answer with
  | array items =>
      by_cases size : items.length = count
      · rw [execResults, execOutcome, if_pos size, if_pos size]
        exact .inl ⟨size, rfl⟩
      · rw [execResults, execOutcome, if_neg size, if_neg size]
        exact .inr ⟨size, _, rfl, rfl⟩
  | nil => exact .inl ⟨trivial, rfl⟩
  | error message => exact .inl ⟨trivial, rfl⟩
  | integer value => exact .inr ⟨id, _, rfl, rfl⟩
  | simple text => exact .inr ⟨id, _, rfl, rfl⟩
  | bulk bytes => exact .inr ⟨id, _, rfl, rfl⟩

theorem execResults_run (count : Nat) (reply : Reply) (connection : Connection σ) :
    ∃ after, (execResults count reply).runFrom connection = (execOutcome count reply, after) ∧
      (Fits count reply → after = connection) ∧ (¬Fits count reply → after.broken ≠ none) := by
  rcases execResults_cases count reply connection with ⟨fits, kept⟩ | ⟨unfit, cause, wrong, broke⟩
  · exact ⟨connection, kept, fun _ => rfl, fun unfit => absurd fits unfit⟩
  · rw [← wrong] at broke
    exact ⟨_, broke, fun fits => absurd fits unfit, fun _ => Connection.marked_ne_none _ _⟩

end Batch

/-- What can be done with a batch before it is dropped. -/
inductive BatchCall (α : Type) where
  | append (frame : Bytes) (decoder : Decoder α)
  | resolve
  | discard

namespace BatchKind

/-- What is sent behind the commands to have them run. -/
def committing : BatchKind → List Bytes
  | pipeline => []
  | transaction => [Command.exec.frame]

/-- What is sent behind the commands to give them up. -/
def abandoning : BatchKind → List Bytes
  | pipeline => []
  | transaction => [Command.discard.frame]

/-- The results of `count` commands in the responses to everything that a batch has sent. -/
def results (kind : BatchKind) (count : Nat) (responses : List Response) :
    Except ClientError (List Reply) :=
  match kind with
  | pipeline => .ok (responses.map Response.reply)
  | transaction =>
      match responses[count + 1]? with
      | some answer => Batch.execOutcome count answer.reply
      | none => .ok []

/-- Whether those responses make sense for `count` commands. -/
def Accepts (kind : BatchKind) (count : Nat) (responses : List Response) : Prop :=
  kind = .transaction → ∀ answer, responses[count + 1]? = some answer →
    Batch.Fits count answer.reply

end BatchKind

namespace Batch

variable {σ α : Type} [Socket σ]

/-- The batch that a call leaves behind, whatever the call came to. -/
def after (batch : Batch σ α) : BatchCall α → Batch σ α
  | .append frame decoder => ((append frame decoder).runFrom batch).2
  | .resolve => (resolve.runFrom batch).2
  | .discard => (discard.runFrom batch).2

/-- The frames that a series of calls adds to an open batch, the closing one included. -/
def requests (kind : BatchKind) : List (BatchCall α) → List Bytes
  | .append frame _ :: calls => frame :: requests kind calls
  | .resolve :: _ => kind.committing
  | _ => kind.abandoning

/-- Whether the responses make sense for an open batch of `count` commands and further calls. -/
def Accepts (kind : BatchKind) (responses : List Response) :
    (count : Nat) → List (BatchCall α) → Prop
  | count, .append _ _ :: calls => Accepts kind responses (count + 1) calls
  | count, .resolve :: _ => kind.Accepts count responses
  | _, _ => True

omit [Socket σ] in
/-- The batch once its decoders have been taken. -/
def closed (batch : Batch σ α) : Batch σ α :=
  { batch with decoders := #[], resolved := true }

omit [Socket σ] in
theorem takeDecoders_resolved {batch : Batch σ α} (resolved : batch.resolved = true) :
    takeDecoders.runFrom batch = (.error (.usage .alreadyResolved), batch) := by
  rw [takeDecoders, Attempt.runFrom_bind_ok (Attempt.runFrom_get batch), if_pos resolved]
  rfl

omit [Socket σ] in
theorem takeDecoders_open {batch : Batch σ α} (unresolved : batch.resolved = false) :
    takeDecoders.runFrom batch = (.ok batch.decoders.toList, batch.closed) := by
  rw [takeDecoders, Attempt.runFrom_bind_ok (Attempt.runFrom_get batch), unresolved]
  rfl

omit [Socket σ] in
theorem perform_run {β : Type} {action : Connection.Action σ β} (batch : Batch σ α)
    {outcome : Except ClientError β} {connection : Connection σ}
    (done : action.runFrom batch.connection = (outcome, connection)) :
    (perform action).runFrom batch = (outcome, { batch with connection }) := by
  simp only [perform, Attempt.runFrom_ofStep, done]

/-- A batch that has been resolved or discarded refuses everything. -/
theorem after_resolved {batch : Batch σ α} (resolved : batch.resolved = true)
    (call : BatchCall α) : batch.after call = batch := by
  cases call with
  | append frame decoder =>
      rw [after, append, Attempt.runFrom_bind_ok (Attempt.runFrom_get batch), if_pos resolved]
      rfl
  | resolve =>
      rw [after, resolve, Attempt.runFrom_bind_error (takeDecoders_resolved resolved)]
  | discard =>
      rw [after, discard, Attempt.runFrom_bind_error (takeDecoders_resolved resolved)]

theorem foldl_after_resolved {batch : Batch σ α} (resolved : batch.resolved = true)
    (calls : List (BatchCall α)) : calls.foldl after batch = batch := by
  induction calls with
  | nil => rfl
  | cons call calls ih => rw [List.foldl_cons, after_resolved resolved, ih]

theorem after_append {batch : Batch σ α} (unresolved : batch.resolved = false) (frame : Bytes)
    (decoder : Decoder α) :
    batch.after (.append frame decoder) =
      { batch with
        connection := batch.connection.queue frame
        decoders := batch.decoders.push decoder } := by
  have opened : ¬batch.resolved = true := by
    rw [unresolved]
    exact nofun
  rw [after, append, Attempt.runFrom_bind_ok (Attempt.runFrom_get batch), if_neg opened]
  rfl

/-- What resolving a batch comes to before any decoder runs. -/
def collect : Action σ α (List Reply) := do
  let decoders ← takeDecoders
  perform (replies (← get).kind decoders.length)

/-- Resolving a batch adds the decoders to what has been collected, and these work off the
connection. -/
theorem resolve_eq (batch : Batch σ α) :
    resolve.runFrom batch =
      ((collect.runFrom batch).1 >>= decodeReplies batch.decoders.toList,
        (collect.runFrom batch).2) := by
  cases state : batch.resolved with
  | true =>
      have refused := takeDecoders_resolved state
      rw [resolve, collect, Attempt.runFrom_bind_error refused, Attempt.runFrom_bind_error refused]
      rfl
  | false =>
      have taken := takeDecoders_open state
      rw [resolve, collect, Attempt.runFrom_bind_ok taken, Attempt.runFrom_bind_ok taken,
        Attempt.runFrom_bind_ok (Attempt.runFrom_get _),
        Attempt.runFrom_bind_ok (Attempt.runFrom_get _), Attempt.runFrom_bind]
      rcases (perform _).runFrom batch.closed with ⟨_ | _, _⟩ <;> rfl

/-- What is collected is what the connection comes by. -/
theorem collect_run {batch : Batch σ α} (unresolved : batch.resolved = false)
    {outcome : Except ClientError (List Reply)} {last : Connection σ}
    (done : (replies batch.kind batch.decoders.size).runFrom batch.connection = (outcome, last)) :
    collect.runFrom batch = (outcome, { batch.closed with connection := last }) := by
  rw [collect, Attempt.runFrom_bind_ok (takeDecoders_open unresolved),
    Attempt.runFrom_bind_ok (Attempt.runFrom_get _)]
  exact perform_run batch.closed done

theorem resolve_run {batch : Batch σ α} (unresolved : batch.resolved = false)
    {outcome : Except ClientError (List Reply)} {last : Connection σ}
    (done : (replies batch.kind batch.decoders.size).runFrom batch.connection = (outcome, last)) :
    resolve.runFrom batch = (outcome >>= decodeReplies batch.decoders.toList,
      { batch.closed with connection := last }) := by
  rw [resolve_eq, collect_run unresolved done]

theorem discard_run {batch : Batch σ α} (unresolved : batch.resolved = false)
    {outcome : Except ClientError Unit} {last : Connection σ}
    (done : Connection.discardAll.runFrom
      (batch.kind.abandoning.foldl Connection.queue batch.connection) = (outcome, last)) :
    discard.runFrom batch = (outcome, { batch.closed with connection := last }) := by
  rw [discard, Attempt.runFrom_bind_ok (takeDecoders_open unresolved),
    Attempt.runFrom_bind_ok (Attempt.runFrom_get _)]
  obtain ⟨connection, kind, decoders, resolved⟩ := batch
  cases kind with
  | pipeline => exact perform_run ⟨connection, .pipeline, #[], true⟩ done
  | transaction =>
      exact perform_run ⟨connection.queue Command.discard.frame, .transaction, #[], true⟩ done

/-- Dropping an open batch discards it. -/
theorem release_open {batch : Batch σ α} (unresolved : batch.resolved = false) :
    batch.release = (batch.after .discard).release := by
  cases run : Connection.discardAll.runFrom
      (batch.kind.abandoning.foldl Connection.queue batch.connection) with
  | mk outcome last =>
      have discarded := discard_run unresolved run
      rw [release, release, after, discarded, unresolved]
      rfl

theorem release_settled {batch : Batch σ α} (resolved : batch.resolved = true)
    (settled : batch.connection.broken ≠ none ∨ batch.connection.inFlight = 0) :
    batch.release = batch.connection := by
  have done : (batch.connection.isBroken || batch.connection.inFlight = 0) = true := by
    rcases settled with broken | idle
    · simp [Connection.isBroken, Option.isSome_iff_ne_none.2 broken]
    · simp [idle]
  rw [release, if_pos resolved]
  exact if_pos done

omit [Socket σ] in
theorem start_idle {connection : Connection σ} (kind : BatchKind)
    (idle : connection.checkIdle .startBatch = .ok ()) :
    start kind connection =
      .ok ({ connection := kind.opening.foldl Connection.queue connection, kind } :
        Batch σ α) := by
  rw [start, idle]
  rfl

omit [Socket σ] in
theorem start_refused {connection : Connection σ} (kind : BatchKind) {cause : ClientError}
    (refused : connection.checkIdle .startBatch = .error cause) :
    (start kind connection : Except ClientError (Batch σ α)) = .error cause := by
  rw [start, refused]
  rfl

section InStep

open Connection (InStep Settles)

variable [Socket.Quiet σ] {calm : σ → Prop} {responses : List Response} {requests : List Bytes}

/-- The results of a transaction whose commands have been queued behind `MULTI`. -/
theorem transactionReplies_inStep (reads : Socket.Delivering calm)
    (writes : Socket.Accepting calm) {count : Nat} {acks : List Response} {answer : Response}
    {connection : Connection (Recorded σ)} (acknowledged : acks.length = count + 1)
    (sync : InStep calm (acks ++ answer :: responses) requests (count + 1) connection) :
    ∃ after, (transactionReplies count).runFrom connection =
        (execOutcome count answer.reply, after) ∧
      (Fits count answer.reply →
        InStep calm responses (requests ++ [Command.exec.frame]) 0 after) ∧
      (¬Fits count answer.reply → after.broken ≠ none) := by
  have queued := sync.queue Command.exec.frame
  rw [← acknowledged] at queued
  obtain ⟨middle, discarded, between⟩ := Connection.discardReplies_inStep reads writes queued
  rw [acknowledged] at discarded
  obtain ⟨after, done, still⟩ := Connection.getReply_inStep reads writes between
  obtain ⟨last, settled, kept, broke⟩ := execResults_run count answer.reply after
  refine ⟨last, ?_, fun fits => kept fits ▸ still, broke⟩
  rw [transactionReplies, Attempt.runFrom_bind_ok (Connection.runFrom_append _ _),
    Attempt.runFrom_bind_ok discarded, Attempt.runFrom_bind_ok done, settled]

theorem transactionReplies_exhausted (reads : Socket.Delivering calm)
    (writes : Socket.Accepting calm) {count : Nat} {connection : Connection (Recorded σ)}
    (few : responses.length < count + 2)
    (sync : InStep calm responses requests (count + 1) connection) :
    ∃ cause after, (transactionReplies count).runFrom connection = (.error cause, after) ∧
      after.broken ≠ none := by
  have queued := sync.queue Command.exec.frame
  rw [transactionReplies, Attempt.runFrom_bind_ok (Connection.runFrom_append _ _)]
  by_cases short : responses.length < count + 1
  · obtain ⟨cause, after, failed, broken⟩ :=
      Connection.discardReplies_exhausted reads writes short queued
    exact ⟨cause, after, Attempt.runFrom_bind_error failed, broken⟩
  · have acknowledged : responses.length = count + 1 := by omega
    have whole : InStep calm (responses ++ []) (requests ++ [Command.exec.frame])
        (responses.length + 1) (connection.queue Command.exec.frame) := by
      rw [List.append_nil, acknowledged]
      exact queued
    obtain ⟨middle, discarded, between⟩ := Connection.discardReplies_inStep reads writes whole
    rw [acknowledged] at discarded
    obtain ⟨cause, after, failed, broken⟩ := Connection.getReply_exhausted writes between
    refine ⟨cause, after, ?_, broken⟩
    rw [Attempt.runFrom_bind_ok discarded]
    exact Attempt.runFrom_bind_error failed

theorem replies_inStep (reads : Socket.Delivering calm) (writes : Socket.Accepting calm)
    {kind : BatchKind} {count : Nat} {taken : List Response} {connection : Connection (Recorded σ)}
    (complete : taken.length = kind.opening.length + count + kind.committing.length)
    (sync : InStep calm (taken ++ responses) requests (kind.opening.length + count) connection) :
    ∃ last, (replies kind count).runFrom connection = (kind.results count taken, last) ∧
      (kind.Accepts count taken → InStep calm responses (requests ++ kind.committing) 0 last) ∧
      (¬kind.Accepts count taken → last.broken ≠ none) := by
  cases kind with
  | pipeline =>
      have size : taken.length = count := by
        simpa [BatchKind.opening, BatchKind.committing] using complete
      have whole : InStep calm (taken ++ responses) requests (taken.length + 0) connection := by
        simpa [size, BatchKind.opening] using sync
      obtain ⟨last, done, still⟩ := Connection.getReplies_inStep reads writes whole
      refine ⟨last, size ▸ done, fun _ => ?_, fun wrong => ?_⟩
      · rw [BatchKind.committing, List.append_nil]
        exact still
      · refine absurd ?_ wrong
        intro impossible
        cases impossible
  | transaction =>
      have size : taken.length = count + 2 := by
        simp only [BatchKind.opening, BatchKind.committing, List.length_singleton] at complete
        omega
      have filled : taken ≠ [] := List.ne_nil_of_length_pos (by omega)
      obtain ⟨acks, answer, rfl⟩ : ∃ acks answer, taken = acks ++ [answer] :=
        ⟨_, _, (List.dropLast_concat_getLast filled).symm⟩
      rw [List.length_append, List.length_singleton] at size
      have acknowledged : acks.length = count + 1 := Nat.succ.inj size
      have last_answer : (acks ++ [answer])[count + 1]? = some answer := by
        rw [← acknowledged]
        exact List.getElem?_concat_length
      have whole : InStep calm (acks ++ answer :: responses) requests (count + 1) connection := by
        simpa [BatchKind.opening, Nat.add_comm] using sync
      obtain ⟨last, done, kept, broke⟩ :=
        transactionReplies_inStep reads writes acknowledged whole
      refine ⟨last, ?_, fun accepts => kept (accepts rfl answer last_answer), fun wrong => ?_⟩
      · rw [replies, done, BatchKind.results, last_answer]
      · apply broke
        intro fits
        apply wrong
        rintro - other same
        rw [last_answer] at same
        cases same
        exact fits

theorem replies_exhausted (reads : Socket.Delivering calm) (writes : Socket.Accepting calm)
    {kind : BatchKind} {count : Nat} {connection : Connection (Recorded σ)}
    (few : responses.length < kind.opening.length + count + kind.committing.length)
    (sync : InStep calm responses requests (kind.opening.length + count) connection) :
    ∃ cause last, (replies kind count).runFrom connection = (.error cause, last) ∧
      last.broken ≠ none := by
  cases kind with
  | pipeline =>
      simp only [BatchKind.opening, BatchKind.committing, List.length_nil, Nat.zero_add,
        Nat.add_zero] at few sync
      exact Connection.getReplies_exhausted reads writes few (Nat.add_zero count ▸ sync)
  | transaction =>
      simp only [BatchKind.opening, BatchKind.committing, List.length_singleton] at few sync
      exact transactionReplies_exhausted reads writes (by omega) (Nat.add_comm 1 count ▸ sync)

theorem accepts_take {kind : BatchKind} {count : Nat} :
    kind.Accepts count
      (responses.take (kind.opening.length + count + kind.committing.length)) ↔
    kind.Accepts count responses := by
  cases kind with
  | pipeline => exact ⟨nofun, nofun⟩
  | transaction =>
      have inside : count + 1 < 1 + count + 1 := by omega
      simp only [BatchKind.Accepts, BatchKind.opening, BatchKind.committing,
        List.length_singleton, List.getElem?_take_of_lt inside]

theorem replies_settles (reads : Socket.Delivering calm) (writes : Socket.Accepting calm)
    {kind : BatchKind} {count : Nat} {connection : Connection (Recorded σ)}
    (sync : InStep calm responses requests (kind.opening.length + count) connection) :
    ∃ outcome last, (replies kind count).runFrom connection = (outcome, last) ∧
      Settles calm responses (requests ++ kind.committing)
        (kind.opening.length + count + kind.committing.length) (kind.Accepts count responses)
        last := by
  by_cases enough : kind.opening.length + count + kind.committing.length ≤ responses.length
  · rw [← List.take_append_drop (kind.opening.length + count + kind.committing.length) responses]
      at sync
    obtain ⟨last, done, kept, broke⟩ :=
      replies_inStep reads writes (List.length_take_of_le enough) sync
    rw [accepts_take] at kept broke
    exact ⟨_, last, done, fun fine => kept fine.2, fun wrong =>
      broke fun accepts => wrong ⟨enough, accepts⟩⟩
  · obtain ⟨cause, last, failed, broken⟩ :=
      replies_exhausted reads writes (Nat.lt_of_not_le enough) sync
    exact ⟨_, last, failed, fun fine => absurd fine.1 enough, fun _ => broken⟩

/-- An open batch of `count` commands. -/
structure Open (calm : σ → Prop) (responses : List Response) (requests : List Bytes)
    (kind : BatchKind) (count : Nat) (batch : Batch (Recorded σ) α) : Prop where
  unresolved : batch.resolved = false
  kind_eq : batch.kind = kind
  size : batch.decoders.size = count
  inStep : InStep calm responses requests (kind.opening.length + count) batch.connection

variable {kind : BatchKind} {count : Nat} {batch : Batch (Recorded σ) α}

omit [Socket.Quiet σ] in
theorem Open.append (opened : Open calm responses requests kind count batch) (frame : Bytes)
    (decoder : Decoder α) :
    Open calm responses (requests ++ [frame]) kind (count + 1)
      (batch.after (.append frame decoder)) := by
  rw [after_append opened.unresolved]
  exact {
    unresolved := opened.unresolved
    kind_eq := opened.kind_eq
    size := by simp [opened.size]
    inStep := opened.inStep.queue frame }

theorem Open.resolve (reads : Socket.Delivering calm) (writes : Socket.Accepting calm)
    (opened : Open calm responses requests kind count batch) :
    (batch.after .resolve).resolved = true ∧
      Settles calm responses (requests ++ kind.committing)
        (kind.opening.length + count + kind.committing.length) (kind.Accepts count responses)
        (batch.after .resolve).connection := by
  obtain ⟨outcome, last, done, settles⟩ := replies_settles reads writes opened.inStep
  rw [← opened.kind_eq, ← opened.size] at done
  rw [after, resolve_run opened.unresolved done]
  exact ⟨rfl, settles⟩

theorem Open.discard (reads : Socket.Delivering calm) (writes : Socket.Accepting calm)
    (opened : Open calm responses requests kind count batch) :
    (batch.after .discard).resolved = true ∧
      Settles calm responses (requests ++ kind.abandoning)
        (kind.opening.length + count + kind.abandoning.length) True
        (batch.after .discard).connection := by
  obtain ⟨outcome, last, done, settles⟩ :=
    Connection.discardAll_settles reads writes (opened.inStep.queueAll kind.abandoning)
  rw [← opened.kind_eq] at done
  rw [after, discard_run opened.unresolved done]
  exact ⟨rfl, settles⟩

/-- A batch that is open settles the connection by the time it has been dropped. -/
theorem Open.release (reads : Socket.Delivering calm) (writes : Socket.Accepting calm)
    (opened : Open calm responses requests kind count batch) (calls : List (BatchCall α)) :
    Settles calm responses (requests ++ Batch.requests kind calls)
      (kind.opening.length + count + (Batch.requests kind calls).length)
      (Batch.Accepts kind responses count calls) (calls.foldl after batch).release := by
  induction calls generalizing requests count batch with
  | nil =>
      obtain ⟨resolved, settles⟩ := opened.discard reads writes
      rw [List.foldl_nil, release_open opened.unresolved,
        release_settled resolved settles.broken_or_idle]
      exact settles
  | cons call calls ih =>
      rw [List.foldl_cons]
      cases call with
      | append frame decoder =>
          have rest := ih (opened.append frame decoder)
          have used : kind.opening.length + (count + 1) + (Batch.requests kind calls).length =
              kind.opening.length + count + ((Batch.requests kind calls).length + 1) := by omega
          rw [List.append_assoc, used] at rest
          exact rest
      | resolve =>
          obtain ⟨resolved, settles⟩ := opened.resolve reads writes
          rw [foldl_after_resolved resolved, release_settled resolved settles.broken_or_idle]
          exact settles
      | discard =>
          obtain ⟨resolved, settles⟩ := opened.discard reads writes
          rw [foldl_after_resolved resolved, release_settled resolved settles.broken_or_idle]
          exact settles

/-- The batch once it holds some more commands. -/
def appendAll (batch : Batch σ α) (commands : List (Bytes × Decoder α)) : Batch σ α :=
  commands.foldl (fun batch command => batch.after (.append command.1 command.2)) batch

omit [Socket.Quiet σ] in
theorem Open.appendAll (opened : Open calm responses requests kind count batch)
    (commands : List (Bytes × Decoder α)) :
    Open calm responses (requests ++ commands.map Prod.fst) kind (count + commands.length)
        (batch.appendAll commands) ∧
      (batch.appendAll commands).decoders.toList =
        batch.decoders.toList ++ commands.map Prod.snd := by
  induction commands generalizing requests count batch with
  | nil => simpa [Batch.appendAll] using opened
  | cons command commands ih =>
      obtain ⟨still, held⟩ := ih (opened.append command.1 command.2)
      rw [List.append_assoc, Nat.add_right_comm] at still
      refine ⟨still, held.trans ?_⟩
      rw [after_append opened.unresolved]
      simp

/-- A batch is resolved into what its decoders make of the responses to its own requests. -/
theorem Open.resolve_outcome (reads : Socket.Delivering calm) (writes : Socket.Accepting calm)
    {taken : List Response} (opened : Open calm (taken ++ responses) requests kind count batch)
    (complete : taken.length = kind.opening.length + count + kind.committing.length) :
    (Batch.resolve.runFrom batch).1 =
      kind.results count taken >>= decodeReplies batch.decoders.toList := by
  obtain ⟨last, done, -⟩ := replies_inStep reads writes complete opened.inStep
  rw [← opened.kind_eq, ← opened.size] at done ⊢
  rw [resolve_run opened.unresolved done]

omit [Socket.Quiet σ] in
theorem start_open {connection : Connection (Recorded σ)} (kind : BatchKind)
    (sync : InStep calm responses requests 0 connection) :
    ∃ batch : Batch (Recorded σ) α, start kind connection = .ok batch ∧
      Open calm responses (requests ++ kind.opening) kind 0 batch := by
  have idle := Connection.checkIdle_ok .startBatch sync.usable sync.awaited sync.unsubscribed
  refine ⟨_, start_idle kind idle, rfl, rfl, rfl, ?_⟩
  have queued := sync.queueAll kind.opening
  rw [Nat.zero_add] at queued
  exact queued

end InStep

end Batch

end RespClient
