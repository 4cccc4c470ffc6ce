import RespClient.Proofs.PubSub.Dialogue

/-!
# Paced dialogues

A dialogue on a socket in memory, without faults and without messages. At every moment
it is known what is under way and what the client is owed, which shows that dialogues with
any commands exist. One in which all answers are read before the next command is sent
leaves the client with the largest debt of all.
-/

namespace RespClient.Dialogue

variable {τ : Type} [Broker τ]

/-- A dialogue with these frames under way, in which so many acknowledgements are owed. -/
structure Paced (start : τ) (orders : List Order) (heard : List Reply) (owed : Nat)
    (wire : List Notice) (dialogue : Dialogue Scripted τ) : Prop where
  nothing : Broker.total start = 0
  course : Course .feeding (.ofSocketWith defaultReadBuffer ({} : Scripted)) start orders heard
    dialogue
  calm : dialogue.connection.transport.socket.Faultless
  usable : dialogue.connection.broken = none
  unawaited : dialogue.connection.inFlight = 0
  stream : dialogue.connection.transport.stream = wire.flatMap Notice.bytes
  owes : dialogue.connection.owedAcks = owed

namespace Paced

variable {start : τ} {orders : List Order} {heard : List Reply} {owed : Nat}
  {wire : List Notice} {dialogue : Dialogue Scripted τ}

theorem opened (nothing : Broker.total start = 0) :
    Paced start [] [] 0 []
      { connection := .ofSocketWith defaultReadBuffer ({} : Scripted), server := start } where
  nothing := nothing
  course := .opened
  calm := ⟨nofun, nofun, nofun, nofun⟩
  usable := rfl
  unawaited := rfl
  stream := rfl
  owes := rfl

theorem run (paced : Paced start orders heard owed wire dialogue) :
    Run start orders heard dialogue :=
  ⟨paced.nothing, _, ⟨rfl, rfl, rfl, rfl, rfl, rfl, rfl⟩,
    paced.course.widen Surroundings.feeding.within_any⟩

theorem sent (paced : Paced start orders heard owed wire dialogue) {order : Order}
    (sendable : order.call.Sendable) :
    ∃ connection, Paced start (orders ++ [order]) heard (owed + max order.call.targets.length 1)
      wire { dialogue with connection, inbox := dialogue.inbox ++ [order] } := by
  obtain ⟨transport, kept, still, done⟩ := SubscriptionCall.perform_succeeds Scripted.accepting
    sendable paced.usable paced.unawaited paced.calm
  exact ⟨_, paced.nothing, paced.course.sent order done, still, paced.usable, paced.unawaited,
    kept.trans paced.stream, congrArg (· + max order.call.targets.length 1) paced.owes⟩

theorem served (paced : Paced start orders heard owed wire dialogue) {order : Order}
    {others : List Order} (queued : dialogue.inbox = order :: others) :
    ∃ connection, Paced start orders heard owed
      (wire ++ (Broker.respond dialogue.server order).1)
      { connection, server := (Broker.respond dialogue.server order).2, inbox := others } := by
  refine ⟨_, paced.nothing, paced.course.served queued rfl, ?_, paced.usable, paced.unawaited, ?_,
    paced.owes⟩
  · exact ⟨paced.calm.reads, paced.calm.writes, paced.calm.flushes, paced.calm.waits⟩
  · rw [Connection.stream_withSocket _ rfl, paced.stream, List.flatMap_append]

theorem taken {notice : Notice}
    (paced : Paced start orders heard owed (notice :: wire) dialogue)
    (readable : notice.Readable) :
    ∃ more transport, Paced start orders more (owed - (acks [notice]).length) wire
      { dialogue with
        connection := Connection.noteAck notice.reply { dialogue.connection with transport } } := by
  obtain ⟨transport, left, still, done⟩ := Connection.waitMessage_takes Scripted.delivering
    Scripted.prompt paced.usable paced.unawaited paced.calm none (Notice.frame readable)
    paced.stream
  have course := paced.course.listened .wait none
  have told := Notice.ofReply?_reply readable
  rw [Listening.after, done] at course
  refine ⟨heard ++ Listening.wait.heard none dialogue.connection, transport, ?_⟩
  rw [acks_singleton]
  cases found : notice.ack? with
  | none =>
      rw [found] at told
      rw [Connection.noteAck_none told] at course ⊢
      exact ⟨paced.nothing, course, still, paced.usable, paced.unawaited, left, paced.owes⟩
  | some ack =>
      rw [found] at told
      rw [Connection.noteAck_some told] at course ⊢
      exact ⟨paced.nothing, course, still, paced.usable, paced.unawaited, left,
        congrArg (· - 1) paced.owes⟩

theorem takenAll {notices rest : List Notice} {server : τ} {inbox : List Order}
    {connection : Connection Scripted}
    (paced : Paced start orders heard owed (notices ++ rest) { connection, server, inbox })
    (readable : ∀ notice ∈ notices, notice.Readable) :
    ∃ more last, Paced start orders more (owed - (acks notices).length) rest
      { connection := last, server, inbox } := by
  induction notices generalizing heard owed connection with
  | nil => exact ⟨heard, connection, paced⟩
  | cons notice notices ih =>
      obtain ⟨first, others⟩ := List.forall_mem_cons.1 readable
      obtain ⟨between, transport, next⟩ := paced.taken first
      obtain ⟨more, last, final⟩ := ih next others
      rw [Nat.sub_sub, ← List.length_append, ← acks_append] at final
      exact ⟨more, last, final⟩

/-- A command is sent and answered, and its answers are read. -/
theorem exchanged {server : τ} {connection : Connection Scripted}
    (paced : Paced start orders heard owed [] { connection, server }) {order : Order}
    (sendable : order.call.Sendable)
    (readable : ∀ notice ∈ (Broker.respond server order).1, notice.Readable) :
    ∃ more last, Paced start (orders ++ [order]) more
      (owed + max order.call.targets.length 1 - (acks (Broker.respond server order).1).length) []
      { connection := last, server := (Broker.respond server order).2 } := by
  obtain ⟨sender, sent⟩ := paced.sent sendable
  obtain ⟨receiver, answered⟩ := sent.served rfl
  have answers : Paced start (orders ++ [order]) heard (owed + max order.call.targets.length 1)
      ((Broker.respond server order).1 ++ [])
      { connection := receiver, server := (Broker.respond server order).2 } := by
    rw [List.append_nil]
    exact answered
  exact answers.takenAll readable

/-- Where nothing is under way, every answer has been read. -/
theorem tracks {server : τ} {connection : Connection Scripted}
    (paced : Paced start orders heard owed [] { connection, server }) :
    Tracks start orders heard (Broker.respondAll start orders).1 [] { connection, server } := by
  obtain ⟨read, wire, tracks⟩ := paced.run.tracks
  have silent : wire.flatMap Notice.bytes = [] :=
    (tracks.stream paced.usable).symm.trans paced.stream
  have none_left : wire = [] := by
    apply List.eq_nil_iff_forall_not_mem.2
    intro notice member
    exact notice.bytes_ne_nil (List.flatMap_eq_nil_iff.1 silent notice member)
  subst none_left
  have account := tracks.account
  rw [List.filter_nil, List.nil_append, Broker.respondAll, List.append_nil] at account
  rw [account]
  exact tracks

/-- Any commands can follow. What they count beyond their acknowledgements adds to the debt. -/
theorem extended {others : List Order} {server : τ} {connection : Connection Scripted}
    (paced : Paced start orders heard owed [] { connection, server })
    (sendable : Order.AllSendable others)
    (readable : ∀ notice ∈ (Broker.respondAll server others).1, notice.Readable) :
    ∃ more left last, Paced start (orders ++ others) more left []
      { connection := last, server := (Broker.respondAll server others).2 } ∧
      owed + Order.counted others ≤ left + (Broker.acknowledged server others).length := by
  induction others generalizing orders heard owed server connection with
  | nil =>
      rw [List.append_nil]
      exact ⟨heard, owed, connection, paced, Nat.le_refl _⟩
  | cons order others ih =>
      obtain ⟨first_sendable, others_sendable⟩ := List.forall_mem_cons.1 sendable
      obtain ⟨first_readable, others_readable⟩ := List.forall_mem_append.1 readable
      obtain ⟨between, middle, next⟩ := paced.exchanged first_sendable first_readable
      obtain ⟨more, left, last, final, debt⟩ := ih next others_sendable others_readable
      rw [List.append_assoc] at final
      refine ⟨more, left, last, final, ?_⟩
      rw [Order.counted_cons, Broker.acknowledged_cons, List.length_append]
      omega

/-- All commands are settled in the end, and the last of them leave a debt behind if they are
acknowledged less often than they count. -/
theorem exists_settled {earlier later : List Order} (nothing : Broker.total start = 0)
    (sendable : Order.AllSendable (earlier ++ later))
    (readable : ∀ notice ∈ (Broker.respondAll start (earlier ++ later)).1, notice.Readable) :
    ∃ heard owed connection, Paced start (earlier ++ later) heard owed []
      { connection, server := (Broker.respondAll start (earlier ++ later)).2 } ∧
      Order.counted later ≤
        owed + (Broker.acknowledged (Broker.respondAll start earlier).2 later).length := by
  obtain ⟨first_sendable, last_sendable⟩ := List.forall_mem_append.1 sendable
  rw [Broker.respondAll_append] at readable ⊢
  obtain ⟨first_readable, last_readable⟩ := List.forall_mem_append.1 readable
  obtain ⟨between, debt, middle, begun, -⟩ :=
    (opened nothing).extended first_sendable first_readable
  obtain ⟨heard, owed, connection, paced, left⟩ := begun.extended last_sendable last_readable
  exact ⟨heard, owed, connection, paced, Nat.le_trans (Nat.le_add_left _ debt) left⟩

end Paced

end RespClient.Dialogue
