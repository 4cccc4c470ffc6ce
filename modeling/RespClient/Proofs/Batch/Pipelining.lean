import RespClient.Proofs.Batch.Transaction
import RespClient.Proofs.Reply.Composition

/-!
# Pipelines are transparent

A pipeline writes all its requests before it reads a reply; single requests alternate
between the two. On a duplex socket the difference cannot be seen afterwards. A run of
single requests and the pipeline of the same requests read the same replies, and
while they do, the pipeline is ahead by the requests that the other has yet to write.
-/

namespace RespClient

variable {σ ρ : Type} [Socket σ] {half : σ → ρ}

/-- The two sockets are to read the same, and `ahead` has been written on the second only. -/
structure Abreast (half : σ → ρ) (ahead : Bytes) (first second : Recorded σ) : Prop where
  incoming : half first.socket = half second.socket
  written : second.written = first.written ++ ahead

theorem abreast_lockstep (works : Socket.Duplex half) (ahead : Bytes) :
    Socket.Lockstep (Abreast half ahead) := by
  intro first second room abreast
  obtain ⟨outcome, after, last, here, there, left⟩ :=
    (Recorded.duplex works).read room abreast.incoming
  refine ⟨outcome, after, last, here, there, left, ?_⟩
  have first_kept := Recorded.written_read first room
  have second_kept := Recorded.written_read second room
  rw [here] at first_kept
  rw [there] at second_kept
  rw [first_kept, second_kept, abreast.written]

open Transport (Alike)

/-- A request that is written on the first transport makes up for some of what it is behind. -/
theorem alike_caught_up (works : Socket.Duplex half) {first second sent : Transport (Recorded σ)}
    {frame ahead : Bytes} {count : Nat} (alike : Alike (Abreast half (frame ++ ahead)) first second)
    (written : (Transport.writeMany [frame]).runFrom first = (.ok count, sent)) :
    Alike (Abreast half ahead) sent second := by
  have grown := Transport.writeMany_written written
  obtain ⟨_, socket, ran, kept⟩ :=
    Transport.writeMany_half (Recorded.duplex works) first [frame]
  cases written.symm.trans ran
  refine ⟨alike.capacity, alike.position, alike.unread, kept.trans alike.sockets.incoming, ?_⟩
  rw [grown, alike.sockets.written]
  simp

/-- The transport on which everything has been written is ahead by it. -/
theorem alike_ahead (works : Socket.Duplex half) {transport sent : Transport (Recorded σ)}
    {frames : List Bytes} {count : Nat}
    (written : (Transport.writeMany frames).runFrom transport = (.ok count, sent)) :
    Alike (Abreast half frames.flatten) transport sent := by
  have grown := Transport.writeMany_written written
  obtain ⟨_, socket, ran, kept⟩ :=
    Transport.writeMany_half (Recorded.duplex works) transport frames
  cases written.symm.trans ran
  exact ⟨rfl, rfl, rfl, kept.symm, grown⟩

namespace Connection

/-- Usable for a request, with nothing queued or in flight. -/
structure Ready (connection : Connection σ) : Prop where
  usable : connection.broken = none
  idle : connection.isIdle = true
  unsubscribed : connection.subscribed = false

namespace Ready

variable {connection : Connection σ}

omit [Socket σ] in
theorem nothing_in_flight (ready : connection.Ready) : connection.inFlight = 0 := by
  have idle := ready.idle
  simp only [isIdle, Bool.and_eq_true, decide_eq_true_eq] at idle
  exact idle.1

omit [Socket σ] in
theorem nothing_pending (ready : connection.Ready) : connection.pending = #[] := by
  have idle := ready.idle
  simp only [isIdle, Bool.and_eq_true, decide_eq_true_eq] at idle
  exact Array.isEmpty_iff.1 idle.2

omit [Socket σ] in
theorem checkIdle (ready : connection.Ready) (activity : Activity) :
    connection.checkIdle activity = .ok () :=
  checkIdle_ok activity ready.usable ready.nothing_in_flight ready.unsubscribed

omit [Socket σ] in
/-- The transport plays no part in it. -/
theorem withTransport (ready : connection.Ready) (transport : Transport σ) :
    { connection with transport }.Ready :=
  ⟨ready.usable, ready.idle, ready.unsubscribed⟩

end Ready

/-- Requests made one after the other, whatever each of them comes to. -/
def executeAll : (frames : List Bytes) → Connection σ →
    List (Except ClientError Reply) × Connection σ
  | [], connection => ([], connection)
  | frame :: frames, connection =>
      let (outcome, after) := (execute frame).runFrom connection
      let (outcomes, last) := executeAll frames after
      (outcome :: outcomes, last)

theorem executeAll_cons {connection after : Connection σ} {frame : Bytes}
    {outcome : Except ClientError Reply}
    (done : (execute frame).runFrom connection = (outcome, after)) (frames : List Bytes) :
    executeAll (frame :: frames) connection =
      (outcome :: (executeAll frames after).1, (executeAll frames after).2) := by
  simp only [executeAll, done]

theorem length_executeAll (frames : List Bytes) (connection : Connection σ) :
    (executeAll frames connection).1.length = frames.length := by
  induction frames generalizing connection with
  | nil => rfl
  | cons frame frames ih => exact congrArg Nat.succ (ih _)

theorem executeAll_broken {connection : Connection σ} (broken : connection.broken ≠ none)
    (frames : List Bytes) : (executeAll frames connection).2 = connection := by
  induction frames with
  | nil => rfl
  | cons frame frames ih =>
      obtain ⟨reason, marked⟩ := Option.ne_none_iff_exists'.1 broken
      rw [executeAll_cons (execute_broken marked frame)]
      exact ih

theorem executeAll_cons_broken {connection : Connection σ} {frame : Bytes}
    (broken : ((execute frame).runFrom connection).2.broken ≠ none) (frames : List Bytes) :
    (executeAll (frame :: frames) connection).2.broken ≠ none := by
  rcases done : (execute frame).runFrom connection with ⟨outcome, after⟩
  rw [done] at broken
  rw [executeAll_cons done, executeAll_broken broken]
  exact broken

omit [Socket σ] in
theorem foldl_queue (frames : List Bytes) (connection : Connection σ) :
    frames.foldl queue connection =
      { connection with
        pending := connection.pending ++ frames.toArray
        inFlight := connection.inFlight + frames.length } := by
  induction frames generalizing connection with
  | nil => simp
  | cons frame frames ih =>
      rw [List.foldl_cons, ih]
      simp [queue, Nat.add_assoc, Nat.add_comm 1]

/-! ## Writing what is queued and reading one reply -/

section Steps

variable {connection flushed : Connection σ}

theorem flush_nothing (nothing : connection.pending = #[]) :
    flush.runFrom connection = (.ok (), connection) := by
  rw [flush, Attempt.runFrom_bind_ok (Attempt.runFrom_get connection), nothing]
  rfl

theorem flush_queued {frames : List Bytes} (queued : connection.pending = frames.toArray)
    (some : frames ≠ []) :
    flush.runFrom connection =
      Attempt.runFrom (do let _ ← perform (Transport.writeMany frames))
        { connection with pending := #[] } := by
  have filled : ¬connection.pending.isEmpty = true := by simpa [queued] using some
  rw [flush, Attempt.runFrom_bind_ok (Attempt.runFrom_get connection), if_neg filled, queued]
  exact Attempt.runFrom_bind_ok (Attempt.runFrom_modify _ connection)

theorem flush_cases {frames : List Bytes} (queued : connection.pending = frames.toArray)
    (some : frames ≠ []) :
    (∃ count sent, (Transport.writeMany frames).runFrom connection.transport = (.ok count, sent) ∧
      flush.runFrom connection = (.ok (), { connection with transport := sent, pending := #[] })) ∨
    (∃ cause stuck, (Transport.writeMany frames).runFrom connection.transport =
        (.error cause, stuck) ∧
      ∃ after, flush.runFrom connection = (.error (.fatal cause), after) ∧
        after.broken ≠ none) := by
  rw [flush_queued queued some]
  rcases written : (Transport.writeMany frames).runFrom connection.transport with
    ⟨cause | count, sent⟩
  · exact .inr ⟨cause, sent, rfl, _, Attempt.runFrom_bind_error (perform_error written),
      marked_ne_none _ _⟩
  · exact .inl ⟨count, sent, rfl, Attempt.runFrom_bind_ok (perform_ok written)⟩

theorem getReply_flushed (written : flush.runFrom connection = (.ok (), flushed))
    (usable : connection.broken = none) (awaited : connection.inFlight ≠ 0) :
    getReply.runFrom connection = (perform Reply.readFrame).runFrom
      { flushed with inFlight := flushed.inFlight - 1 } := by
  rw [getReply, Attempt.runFrom_bind_ok (ensure_ok (checkUsable_ok usable)),
    Attempt.runFrom_bind_ok (Attempt.runFrom_get connection), if_neg awaited,
    Attempt.runFrom_bind_ok written]
  exact Attempt.runFrom_bind_ok (Attempt.runFrom_modify _ flushed)

theorem getReply_unwritten {cause : ClientError} (usable : connection.broken = none)
    (awaited : connection.inFlight ≠ 0)
    (failed : flush.runFrom connection = (.error cause, flushed)) :
    getReply.runFrom connection = (.error cause, flushed) := by
  rw [getReply, Attempt.runFrom_bind_ok (ensure_ok (checkUsable_ok usable)),
    Attempt.runFrom_bind_ok (Attempt.runFrom_get connection), if_neg awaited]
  exact Attempt.runFrom_bind_error failed

theorem getReply_unqueued (ready : connection.Ready) (unread : Nat) :
    getReply.runFrom { connection with inFlight := unread + 1 } =
      (perform Reply.readFrame).runFrom { connection with inFlight := unread } := by
  have nothing : ({ connection with inFlight := unread + 1 } : Connection σ).pending = #[] :=
    ready.nothing_pending
  have usable : ({ connection with inFlight := unread + 1 } : Connection σ).broken = none :=
    ready.usable
  exact getReply_flushed (flush_nothing nothing) usable (Nat.succ_ne_zero unread)

theorem execute_ready (ready : connection.Ready) (frame : Bytes) :
    (execute frame).runFrom connection =
      (getReply >>= fun reply => liftM reply.check).runFrom (connection.queue frame) := by
  rw [execute, Attempt.runFrom_bind_ok (ensure_ok (ready.checkIdle .execute))]
  exact Attempt.runFrom_bind_ok (runFrom_append connection frame)

/-- Once a request has been written, what is left of it is to read its reply. -/
theorem execute_sent (ready : connection.Ready) {frame : Bytes} {count : Nat}
    {sent : Transport σ}
    (written : (Transport.writeMany [frame]).runFrom connection.transport = (.ok count, sent)) :
    (execute frame).runFrom connection =
      (perform Reply.readFrame >>= fun reply => liftM reply.check).runFrom
        { connection with transport := sent } := by
  have queued : (connection.queue frame).pending = [frame].toArray :=
    congrArg (·.push frame) ready.nothing_pending
  have usable : (connection.queue frame).broken = none := ready.usable
  have awaited : (connection.queue frame).inFlight ≠ 0 := Nat.succ_ne_zero _
  have settled : (⟨sent, connection.inFlight, #[], connection.broken, connection.subscribed,
      connection.owedAcks, connection.subscriptions⟩ : Connection σ) =
        { connection with transport := sent } := by
    rw [ready.nothing_pending]
  rcases flush_cases queued (List.cons_ne_nil frame []) with
    ⟨_, _, same, flushed⟩ | ⟨_, _, failed, -⟩
  · cases written.symm.trans same
    have reads := getReply_flushed flushed usable awaited
    rw [execute_ready ready, Attempt.runFrom_bind, reads, ← settled, Attempt.runFrom_bind]
    rfl
  · cases written.symm.trans failed

/-- A request is written and its reply is read, or the connection breaks. -/
theorem execute_cases (ready : connection.Ready) (frame : Bytes) :
    (∃ count sent, (Transport.writeMany [frame]).runFrom connection.transport = (.ok count, sent) ∧
      (∀ reply read, Reply.readFrame.runFrom sent = (.ok reply, read) →
        (execute frame).runFrom connection =
          (reply.check, { connection with transport := read })) ∧
      (∀ cause read, Reply.readFrame.runFrom sent = (.error cause, read) →
        ((execute frame).runFrom connection).2.broken ≠ none)) ∨
    (∃ cause stuck, (Transport.writeMany [frame]).runFrom connection.transport =
        (.error cause, stuck) ∧
      ((execute frame).runFrom connection).2.broken ≠ none) := by
  have queued : (connection.queue frame).pending = [frame].toArray :=
    congrArg (·.push frame) ready.nothing_pending
  rcases flush_cases queued (List.cons_ne_nil frame []) with
    ⟨count, sent, written, -⟩ | ⟨cause, stuck, failed, after, unwritten, broken⟩
  · refine .inl ⟨count, sent, written, ?_, ?_⟩
    · intro reply read done
      rw [execute_sent ready written]
      exact Attempt.runFrom_bind_ok (perform_ok done)
    · intro cause read failed
      rw [execute_sent ready written, Attempt.runFrom_bind_error (perform_error failed)]
      exact marked_ne_none _ _
  · refine .inr ⟨cause, stuck, failed, ?_⟩
    have usable : (connection.queue frame).broken = none := ready.usable
    have awaited : (connection.queue frame).inFlight ≠ 0 := Nat.succ_ne_zero _
    rw [execute_ready ready,
      Attempt.runFrom_bind_error (getReply_unwritten usable awaited unwritten)]
    exact broken

end Steps

/-! ## The two runs side by side -/

section Runs

/-- Requests one by one on one connection, and the replies to them on another one on which they have
been written before. Both runs get the same replies and end in front of the same bytes. Otherwise
the first connection breaks, and so does the second, as long as no write fails. -/
theorem executeAll_abreast (works : Socket.Duplex half) (frames : List Bytes)
    {connection : Connection (Recorded σ)} (ready : connection.Ready)
    {transport : Transport (Recorded σ)}
    (alike : Alike (Abreast half frames.flatten) connection.transport transport) :
    (∃ replies last final,
      executeAll frames connection =
        (replies.map Reply.check, { connection with transport := last }) ∧
      (getReplies frames.length).runFrom
          { connection with transport, inFlight := frames.length } =
        (.ok replies, { connection with transport := final, inFlight := 0 }) ∧
      Alike (Abreast half []) last final) ∨
    ((executeAll frames connection).2.broken ≠ none ∧
      ∀ {calm : σ → Prop}, Socket.Accepting calm →
        (∀ socket room, calm socket → calm (Socket.read socket room).2) →
        calm connection.transport.socket.socket →
        ((getReplies frames.length).runFrom
          { connection with transport, inFlight := frames.length }).2.broken ≠ none) := by
  induction frames generalizing connection transport with
  | nil => exact .inl ⟨[], connection.transport, transport, rfl, rfl, alike⟩
  | cons frame frames ih =>
      have reads := getReply_unqueued (ready.withTransport transport) frames.length
      rcases execute_cases ready frame with
        ⟨count, sent, written, served, refused⟩ | ⟨cause, stuck, failed, broken⟩
      · have caught_up := alike_caught_up works alike written
        obtain ⟨outcome, after, last, here, there, left⟩ :=
          Reply.readFrame_unaffected (abreast_lockstep works frames.flatten) caught_up
        cases outcome with
        | error cause =>
            refine .inr ⟨executeAll_cons_broken (refused cause after here) frames, ?_⟩
            intro calm _ _ _
            rw [List.length_cons, getReplies,
              Attempt.runFrom_bind_error (reads.trans (perform_error there))]
            exact marked_ne_none _ _
        | ok reply =>
            rw [executeAll_cons (served reply after here), List.length_cons, getReplies,
              Attempt.runFrom_bind_ok (reads.trans (perform_ok there))]
            rcases ih (ready.withTransport after) left with
              ⟨replies, final, ended, others, rest, same⟩ | ⟨broken, otherwise⟩
            · refine .inl ⟨reply :: replies, final, ended, ?_, ?_, same⟩
              · rw [others]
                rfl
              · rw [Attempt.runFrom_bind_ok rest]
                rfl
            · refine .inr ⟨broken, ?_⟩
              intro calm writes kept quiet
              obtain ⟨_, same, still⟩ :=
                Transport.writeMany_succeeds (Recorded.accepting writes) [frame] quiet
              cases written.symm.trans same
              have silent := Reply.readFrame_keeps
                (fun recorded : Recorded σ => kept recorded.socket) still
              rw [here] at silent
              have rest := otherwise writes kept silent
              rw [Attempt.runFrom_bind]
              rcases ran : (getReplies frames.length).runFrom
                { connection with transport := last, inFlight := frames.length } with ⟨_ | _, _⟩
              all_goals
                rw [ran] at rest
                exact rest
      · refine .inr ⟨executeAll_cons_broken broken frames, ?_⟩
        intro calm writes _ quiet
        obtain ⟨sent, written, -⟩ :=
          Transport.writeMany_succeeds (Recorded.accepting writes) [frame] quiet
        cases failed.symm.trans written

/-- Reading the replies to what is queued, up to the point where everything has been written. -/
theorem getReplies_cases (works : Socket.Duplex half) (frames : List Bytes)
    {connection : Connection (Recorded σ)} (ready : connection.Ready) :
    (∃ sent, Alike (Abreast half frames.flatten) connection.transport sent ∧
      (getReplies frames.length).runFrom (frames.foldl queue connection) =
        (getReplies frames.length).runFrom
          { connection with transport := sent, inFlight := frames.length }) ∨
    (∃ cause stuck, (Transport.writeMany frames).runFrom connection.transport =
        (.error cause, stuck) ∧
      ((getReplies frames.length).runFrom (frames.foldl queue connection)).2.broken ≠ none) := by
  have filled := foldl_queue frames connection
  rw [ready.nothing_pending, ready.nothing_in_flight, Nat.zero_add, Array.empty_append] at filled
  cases frames with
  | nil =>
      refine .inl ⟨connection.transport, ⟨rfl, rfl, rfl, rfl, (List.append_nil _).symm⟩, ?_⟩
      rw [filled, ← ready.nothing_pending]
  | cons frame frames =>
      let full : Connection (Recorded σ) :=
        { connection with pending := (frame :: frames).toArray, inFlight := frames.length + 1 }
      have queued : full.pending = (frame :: frames).toArray := rfl
      have usable : full.broken = none := ready.usable
      have awaited : full.inFlight ≠ 0 := Nat.succ_ne_zero _
      rw [show (frame :: frames).foldl queue connection = full from filled, List.length_cons,
        getReplies]
      rcases flush_cases queued (List.cons_ne_nil frame frames) with
        ⟨count, sent, written, flushed⟩ | ⟨cause, stuck, failed, after, unwritten, broken⟩
      · refine .inl ⟨sent, alike_ahead works written, ?_⟩
        have reads := getReply_flushed flushed usable awaited
        have again := getReply_unqueued (ready.withTransport sent) frames.length
        rw [← ready.nothing_pending] at reads
        have same : getReply.runFrom full = getReply.runFrom
            { connection with transport := sent, inFlight := frames.length + 1 } :=
          reads.trans again.symm
        rw [Attempt.runFrom_bind, Attempt.runFrom_bind, same]
      · refine .inr ⟨cause, stuck, failed, ?_⟩
        rw [Attempt.runFrom_bind_error (getReply_unwritten usable awaited unwritten)]
        exact broken

/-- The same for a second connection on which everything is still queued. -/
theorem executeAll_queued (works : Socket.Duplex half) (frames : List Bytes)
    {connection : Connection (Recorded σ)} (ready : connection.Ready) :
    let run := (getReplies frames.length).runFrom (frames.foldl queue connection)
    (∃ replies last final,
      executeAll frames connection =
        (replies.map Reply.check, { connection with transport := last }) ∧
      run = (.ok replies, { connection with transport := final, inFlight := 0 }) ∧
      Alike (Abreast half []) last final) ∨
    ((run.2.broken ≠ none ∨ (executeAll frames connection).2.broken ≠ none) ∧
      ∀ {calm : σ → Prop}, Socket.Accepting calm →
        (∀ socket room, calm socket → calm (Socket.read socket room).2) →
        calm connection.transport.socket.socket →
        run.2.broken ≠ none ∧ (executeAll frames connection).2.broken ≠ none) := by
  rcases getReplies_cases works frames ready with
    ⟨sent, alike, same⟩ | ⟨cause, stuck, failed, broken⟩
  · rw [same]
    rcases executeAll_abreast works frames ready alike with both | ⟨broken, otherwise⟩
    · exact .inl both
    · exact .inr ⟨.inr broken, fun writes kept quiet => ⟨otherwise writes kept quiet, broken⟩⟩
  · refine .inr ⟨.inl broken, ?_⟩
    intro calm writes _ quiet
    obtain ⟨sent, written, -⟩ :=
      Transport.writeMany_succeeds (Recorded.accepting writes) frames quiet
    cases failed.symm.trans written

end Runs

/-- After a single request the connection is broken, or nothing is in flight. -/
theorem execute_settled {connection : Connection σ} (ready : connection.Ready) (frame : Bytes) :
    ((execute frame).runFrom connection).2.broken ≠ none ∨
      ((execute frame).runFrom connection).2.inFlight = 0 := by
  rcases execute_cases ready frame with ⟨_, sent, -, served, refused⟩ | ⟨_, _, -, broken⟩
  · rcases read : Reply.readFrame.runFrom sent with ⟨cause | reply, after⟩
    · exact .inl (refused cause after read)
    · rw [served reply after read]
      exact .inr ready.nothing_in_flight
  · exact .inl broken

end Connection

namespace Batch

open Connection (Awaits executeAll execute)

variable {α : Type}

theorem decodeReplies_single (decoder : Decoder α) (reply : Reply) :
    decodeReplies [decoder] [reply] = (decoder reply).map ([·]) := by
  rw [decodeReplies_cons]
  cases decoder reply <;> rfl

/-- Decoders that never fail convert every reply. -/
theorem decodeReplies_total {decoder : Decoder α} {convert : Reply → α}
    (total : ∀ reply, decoder reply = .ok (convert reply)) (replies : List Reply) :
    decodeReplies (List.replicate replies.length decoder) replies = .ok (replies.map convert) := by
  rw [decodeReplies, mapM_eq_ok_iff]
  induction replies with
  | nil => exact .nil
  | cons reply replies ih => exact .cons (total reply) ih

/-- The result of a command will stand where the number of commands before it says. -/
theorem append_position {batch : Batch σ α} (unresolved : batch.resolved = false)
    (commands : List (Bytes × Decoder α)) (frame : Bytes) (decoder : Decoder α) :
    ((append frame decoder).runFrom (batch.appendAll commands)).1 =
      .ok (batch.length + commands.length) := by
  have opened : ¬batch.resolved = true := by
    rw [unresolved]
    exact nofun
  rw [appendAll_open unresolved, append, Attempt.runFrom_bind_ok (Attempt.runFrom_get _),
    if_neg opened]
  change Except.ok (((batch.decoders ++ _).push decoder).size - 1) = _
  simp [length]

/-- A pipeline comes to what its decoders make of the replies to what it has queued. -/
theorem resolve_pipeline (commands : List (Bytes × Decoder α)) {connection last : Connection σ}
    {outcome : Except ClientError (List Reply)}
    (done : (Connection.getReplies commands.length).runFrom
      ((commands.map Prod.fst).foldl Connection.queue connection) = (outcome, last))
    (settled : last.broken ≠ none ∨ last.inFlight = 0) :
    let batch := ({ connection, kind := .pipeline } : Batch σ α).appendAll commands
    (resolve.runFrom batch).1 = outcome >>= decodeReplies (commands.map Prod.snd) ∧
      (batch.after .resolve).release = last := by
  intro batch
  let filled : Batch σ α :=
    { connection := (commands.map Prod.fst).foldl Connection.queue connection
      kind := .pipeline
      decoders := (commands.map Prod.snd).toArray }
  have opened : batch = filled := by
    rw [show batch = _ from appendAll_open rfl commands, Array.empty_append]
  have read : (replies filled.kind filled.decoders.size).runFrom filled.connection =
      (outcome, last) := by
    have size : filled.decoders.size = commands.length := by simp [filled]
    rw [size]
    exact done
  have resolution : resolve.runFrom batch = (outcome >>= decodeReplies (commands.map Prod.snd),
      { filled.closed with connection := last }) := by
    rw [opened]
    exact resolve_run rfl read
  rw [after, resolution]
  exact ⟨rfl, release_settled rfl settled⟩

/-- The same for commands that share their decoder. -/
theorem resolve_uniform (decoder : Decoder α) (frames : List Bytes) {connection last : Connection σ}
    {outcome : Except ClientError (List Reply)}
    (done : (Connection.getReplies frames.length).runFrom
      (frames.foldl Connection.queue connection) = (outcome, last))
    (settled : last.broken ≠ none ∨ last.inFlight = 0) :
    let batch := ({ connection, kind := .pipeline } : Batch σ α).appendAll
      (frames.map (·, decoder))
    (resolve.runFrom batch).1 = outcome >>=
        decodeReplies (List.replicate frames.length decoder) ∧
      (batch.after .resolve).release = last := by
  have requests : (frames.map (·, decoder)).map Prod.fst = frames := by
    simp [Function.comp_def]
  have decoders : (frames.map (·, decoder)).map Prod.snd =
      List.replicate frames.length decoder := by
    simp [Function.comp_def]
  rw [← decoders]
  apply resolve_pipeline (frames.map (·, decoder)) _ settled
  rw [List.length_map, requests]
  exact done

/-- A pipeline of one command that keeps nothing is a single request, also if that fails. -/
theorem resolve_single {connection : Connection σ} (ready : connection.Ready) (frame : Bytes) :
    ∃ opened : Batch σ ResultType.value.Value, start .pipeline connection = .ok opened ∧
      let batch := opened.appendAll [(frame, ResultType.value.decode)]
      let executed := (execute frame).runFrom connection
      (resolve.runFrom batch).1 = executed.1.map ([·]) ∧
        (batch.after .resolve).release = executed.2 := by
  refine ⟨_, start_idle .pipeline (ready.checkIdle .startBatch), ?_⟩
  intro batch executed
  have settled := Connection.execute_settled ready frame
  rw [Connection.execute_ready ready] at settled
  rw [show executed = _ from Connection.execute_ready ready frame]
  rcases run : Connection.getReply.runFrom (connection.queue frame) with ⟨cause | reply, last⟩
  · have replied : (Connection.getReplies 1).runFrom (connection.queue frame) =
        (.error cause, last) := Attempt.runFrom_bind_error run
    rw [Attempt.runFrom_bind_error run] at settled ⊢
    exact resolve_pipeline [(frame, ResultType.value.decode)] replied settled
  · have replied : (Connection.getReplies 1).runFrom (connection.queue frame) =
        (.ok [reply], last) := Attempt.runFrom_bind_ok run
    rw [Attempt.runFrom_bind_ok run] at settled ⊢
    obtain ⟨resolution, released⟩ :=
      resolve_pipeline [(frame, ResultType.value.decode)] replied settled
    exact ⟨resolution.trans (decodeReplies_single _ reply), released⟩

/-- A pipeline in which failures are kept as values comes to what single requests on the same
connection come to, one by one, if no fatal error occurs in either: each result stands at the index
that its command was given, and the two connections are the same up to their sockets, of which as
much has been read and on which the same has been written. On a socket that accepts what is written
a fatal error occurs in both runs or in neither. A pipeline of one command that keeps nothing fails
as the single request does, and leaves the very same connection. -/
theorem pipeline_transparent {connection : Connection (Recorded σ)} (ready : connection.Ready) :
    (∀ {ρ : Type} {half : σ → ρ}, Socket.Duplex half → ∀ frames : List Bytes,
      ∃ opened : Batch (Recorded σ) (ResultType.attempt .value).Value,
        start .pipeline connection = .ok opened ∧
        let decoder := (ResultType.attempt .value).decode
        let batch := opened.appendAll (frames.map (·, decoder))
        let pipelined := (batch.after .resolve).release
        let executed := executeAll frames connection
        (∀ before frame rest, frames = before ++ frame :: rest →
          ((append frame decoder).runFrom (opened.appendAll (before.map (·, decoder)))).1 =
            .ok before.length) ∧
        (pipelined.broken = none → executed.2.broken = none →
          (resolve.runFrom batch).1 = .ok executed.1 ∧
          pipelined = { executed.2 with
            transport := { executed.2.transport with socket := pipelined.transport.socket } } ∧
          Socket.pending pipelined.transport.socket =
            Socket.pending executed.2.transport.socket ∧
          pipelined.transport.socket.written = executed.2.transport.socket.written) ∧
        ∀ {calm : σ → Prop}, Socket.Accepting calm →
          (∀ socket room, calm socket → calm (Socket.read socket room).2) →
          calm connection.transport.socket.socket →
          (pipelined.broken = none ↔ executed.2.broken = none)) ∧
    ∀ frame : Bytes, ∃ opened : Batch (Recorded σ) ResultType.value.Value,
      start .pipeline connection = .ok opened ∧
      let batch := opened.appendAll [(frame, ResultType.value.decode)]
      let executed := (execute frame).runFrom connection
      (resolve.runFrom batch).1 = executed.1.map ([·]) ∧
        (batch.after .resolve).release = executed.2 := by
  constructor
  · intro ρ half works frames
    refine ⟨_, start_idle .pipeline (ready.checkIdle .startBatch), ?_⟩
    intro decoder batch pipelined executed
    refine ⟨?_, ?_⟩
    · rintro before frame rest rfl
      refine (append_position rfl (before.map (·, decoder)) frame decoder).trans ?_
      rw [List.length_map]
      exact congrArg Except.ok (Nat.zero_add _)
    · rcases Connection.executeAll_queued works frames ready with
        ⟨replies, last, final, ran, run, same⟩ | ⟨broken, otherwise⟩
      · obtain ⟨resolution, released⟩ := resolve_uniform decoder frames run (.inr rfl)
        have size := Connection.length_executeAll frames connection
        rw [ran, List.length_map] at size
        rw [← size] at resolution
        have values : decodeReplies (List.replicate replies.length decoder) replies =
            .ok (replies.map Reply.check) := decodeReplies_total (fun _ => rfl) replies
        have ended : executed = _ := ran
        rw [ended, show pipelined = _ from released]
        refine ⟨fun _ _ => ⟨resolution.trans values, ?_, ?_, ?_⟩, ?_⟩
        · change (⟨final, 0, _, _, _, _, _⟩ : Connection (Recorded σ)) = ⟨_, _, _, _, _, _, _⟩
          rw [← same.eq_withSocket, ready.nothing_in_flight]
        · exact works.pending same.sockets.incoming.symm
        · exact same.sockets.written.trans (List.append_nil _)
        · intro calm _ _ _
          exact Iff.rfl
      · rcases run : (Connection.getReplies frames.length).runFrom
          (frames.foldl Connection.queue connection) with ⟨outcome, last⟩
        rw [run] at broken otherwise
        refine ⟨?_, ?_⟩
        · intro usable unbroken
          rcases broken with broken | broken
          · have released : pipelined = last :=
              (resolve_uniform decoder frames run (.inl broken)).2
            exact absurd (released ▸ usable) broken
          · exact absurd unbroken broken
        · intro calm writes kept quiet
          obtain ⟨broken, unfinished⟩ := otherwise writes kept quiet
          rw [show pipelined = last from (resolve_uniform decoder frames run (.inl broken)).2]
          exact iff_of_false broken unfinished
  · exact resolve_single ready

/-- Two requests, the second of which is refused, on a socket that works in small pieces. -/
theorem pipeline_transparent_in_pieces :
    let socket : Scripted :=
      { input := Bytes.ofText ":7\r\n-ERR\r\n"
        readChunk := 3
        writeChunk := 2
        readFaults := [.pass, .interrupted] }
    let connection : Connection (Recorded Scripted) := .ofSocketWith 16 { socket }
    let request := (Command.named "GET").frame
    let command := (request, (ResultType.attempt .value).decode)
    connection.Ready ∧
    ∃ opened, start .pipeline connection = .ok opened ∧
      (resolve.runFrom (opened.appendAll [command, command])).1 =
        .ok [.ok (.integer 7), .error (.server "ERR")] := by
  intro socket connection request command
  have ready : connection.Ready := ⟨rfl, rfl, rfl⟩
  let seven : Response :=
    ⟨.integer 7, Reply.headed ':' (Bytes.ofText "7"),
      .integer (.unsigned (by decide) (by decide)) (by decide)⟩
  let refused : Response :=
    ⟨.error "ERR", Reply.headed '-' (Bytes.ofText "ERR"), .error (by decide) (by decide)⟩
  have calm : Scripted.Faultless socket := by
    constructor <;> simp [socket, Scripted.Harmless]
  have awaits : Awaits (fun recorded : Recorded Scripted => recorded.socket.Faultless)
      (seven.bytes ++ (refused.bytes ++ [])) 0 connection :=
    ⟨rfl, calm, rfl, rfl, Nat.le_refl 0, rfl⟩
  have reads := Recorded.delivering Scripted.delivering
  have writes := Recorded.accepting Scripted.accepting
  obtain ⟨middle, first, between⟩ := awaits.execute reads writes request
  obtain ⟨last, second, done⟩ := between.execute reads writes request
  have ran : executeAll [request, request] connection =
      ([.ok (.integer 7), .error (.server "ERR")], last) := by
    rw [Connection.executeAll_cons first, Connection.executeAll_cons second]
    rfl
  obtain ⟨transparent, -⟩ := pipeline_transparent ready
  obtain ⟨opened, started, -, same, fails_iff⟩ := transparent Scripted.duplex [request, request]
  have usable := fails_iff Scripted.accepting (fun _ room quiet => quiet.read room) calm
  rw [ran] at same usable
  exact ⟨ready, opened, started, (same (usable.2 done.usable) done.usable).1⟩

end Batch

end RespClient
