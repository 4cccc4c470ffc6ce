import RespClient.Proofs.PubSub.Course

/-!
# Dialogues

A client keeps books: it counts acknowledgements when it sends a command, and takes one
off the count with each that it reads. Commands that are refused, and commands without
targets, make the books differ from what is really to come. How far they can differ is
what remains true along a whole dialogue.
-/

namespace RespClient

namespace Dialogue

variable {σ τ : Type} [Broker τ]

/-- A course from a connection in command mode and a server without subscriptions for it, in which
messages come at any time. -/
def Run [Socket σ] (start : τ) (orders : List Order) (heard : List Reply)
    (dialogue : Dialogue σ τ) : Prop :=
  Broker.total start = 0 ∧ ∃ first : Connection σ, first.InCommandMode ∧
    Course .any first start orders heard dialogue

/-! ## The books of the client -/

/-- What a connection knows once these commands have been sent and these acknowledgements have been
read. Since the acknowledgements of some first commands, of which no more have been read than there
are, it has counted the others and taken off what it has read. -/
structure Books (start : τ) (orders : List Order) (got : List Ack) (connection : Connection σ) :
    Prop where
  unawaited : connection.inFlight = 0
  unqueued : connection.pending = #[]
  reported : connection.subscriptions = latest 0 got
  owing : connection.owedAcks = 0 ∨ ∃ earlier later, orders = earlier ++ later ∧
    connection.owedAcks + got.length ≤
      Order.counted later + (Broker.acknowledged start earlier).length
  subscribed : 0 < connection.owedAcks → connection.subscribed = true
  staying : connection.subscribed = true → 0 < connection.owedAcks ∨
    ∃ others ack, got = others ++ [ack] ∧ ¬ack.Leaves

namespace Books

variable {start : τ} {orders : List Order} {got : List Ack} {connection : Connection σ}

theorem opened [Socket σ] (free : connection.InCommandMode) : Books start [] [] connection where
  unawaited := free.unawaited
  unqueued := free.unqueued
  reported := free.unheld
  owing := .inl free.unowed
  subscribed := fun owed => absurd free.unowed (Nat.ne_of_gt owed)
  staying := fun subscribed => absurd subscribed (by simp [free.unsubscribed])

/-- The socket, and whether the connection is broken, have no part in the books. -/
theorem of_socket (books : Books start orders got connection) (transport : Transport σ)
    (broken : Option FatalError) :
    Books start orders got { connection with transport, broken } :=
  ⟨books.unawaited, books.unqueued, books.reported, books.owing, books.subscribed, books.staying⟩

theorem sent (books : Books start orders got connection) (order : Order)
    (bound : got.length ≤ (Broker.acknowledged start orders).length) (transport : Transport σ) :
    Books start (orders ++ [order]) got
      { connection with
        transport
        owedAcks := connection.owedAcks + max order.call.targets.length 1
        subscribed := true } :=
  { books with
    owing := by
      right
      rcases books.owing with none_owed | ⟨earlier, later, rfl, owing⟩
      -- Where nothing was owed, a new account begins with this command.
      · refine ⟨orders, [order], rfl, ?_⟩
        have counted := Order.counted_concat [] order
        rw [List.nil_append] at counted
        rw [counted, none_owed]
        dsimp only
        omega
      · refine ⟨earlier, later ++ [order], List.append_assoc _ _ _, ?_⟩
        rw [Order.counted_concat]
        dsimp only
        omega
    subscribed := fun _ => rfl
    staying := fun _ => .inl (by dsimp only; omega) }

theorem acknowledged (books : Books start orders got connection) (ack : Ack)
    (transport : Transport σ) :
    Books start orders (got ++ [ack])
      { connection with
        transport
        owedAcks := connection.owedAcks - 1
        subscriptions := ack.count
        subscribed := connection.subscribed &&
          !(ack.kind.isUnsubscribe && ack.count = 0 && connection.owedAcks - 1 = 0) } :=
  { books with
    reported := by
      rw [latest_append]
      rfl
    owing := by
      rcases books.owing with none_owed | ⟨earlier, later, split, owing⟩
      -- A surplus acknowledgement is not saved up, and an account that is paid off is closed.
      · exact .inl (by dsimp only; omega)
      · by_cases last : connection.owedAcks - 1 = 0
        · exact .inl last
        · refine .inr ⟨earlier, later, split, ?_⟩
          rw [List.length_append, List.length_singleton]
          dsimp only
          omega
    subscribed := by
      intro owed
      have subscribed := books.subscribed (by dsimp only at owed; omega)
      have more : connection.owedAcks - 1 ≠ 0 := Nat.ne_of_gt owed
      simp [subscribed, more]
    staying := by
      intro subscribed
      by_cases last : connection.owedAcks - 1 = 0
      · refine .inr ⟨got, ack, rfl, ?_⟩
        rintro ⟨leaving, nothing⟩
        simp [leaving, nothing, last] at subscribed
      · exact .inl (Nat.pos_of_ne_zero last) }

/-- A frame that has been read is entered if it acknowledges something. -/
theorem noted {read : List Notice} {notice : Notice}
    (books : Books start orders (acks read) connection) (readable : notice.Readable)
    (transport : Transport σ) :
    Books start orders (acks (read ++ [notice]))
      (Connection.noteAck notice.reply { connection with transport }) := by
  have told := Notice.ofReply?_reply readable
  rw [acks_append, acks_singleton]
  cases found : notice.ack? with
  | none =>
      rw [found] at told
      rw [Connection.noteAck_none told, Option.toList_none, List.append_nil]
      exact books.of_socket transport connection.broken
  | some ack =>
      rw [found] at told
      rw [Connection.noteAck_some told]
      exact books.acknowledged ack transport

end Books

/-! ## What remains true along a dialogue -/

/-- How far a dialogue has come: the answers that have been read, and the frames that stand in the
stream for as long as the connection is not broken. -/
structure Tracks [Socket σ] (start : τ) (orders : List Order) (heard : List Reply)
    (read wire : List Notice) (dialogue : Dialogue σ τ) : Prop where
  books : Books start orders (acks read) dialogue.connection
  nothing : Broker.total start = 0
  answered : heard.filter Reply.isAnswer = read.map Notice.reply
  got : heard.filterMap Ack.ofReply? = acks read
  stream : dialogue.connection.broken = none →
    dialogue.connection.transport.stream = wire.flatMap Notice.bytes
  account : (Broker.respondAll start orders).1 =
    read ++ (wire.filter Notice.isAnswer ++ (Broker.respondAll dialogue.server dialogue.inbox).1)
  destination : (Broker.respondAll dialogue.server dialogue.inbox).2 =
    (Broker.respondAll start orders).2
  readable : ∀ notice ∈ read, notice.Readable
  sendable : Order.AllSendable orders

variable [Socket σ] {start : τ} {orders : List Order} {heard : List Reply}
  {read wire : List Notice} {dialogue : Dialogue σ τ}

namespace Tracks

theorem opened {connection : Connection σ} (free : connection.InCommandMode)
    (nothing : Broker.total start = 0) :
    Tracks start [] [] [] [] { connection, server := start } where
  books := .opened free
  nothing := nothing
  answered := rfl
  got := rfl
  stream := fun _ => free.silent
  account := rfl
  destination := rfl
  readable := nofun
  sendable := nofun

theorem acks_prefix (tracks : Tracks start orders heard read wire dialogue) :
    acks read <+: Broker.acknowledged start orders := by
  rw [Broker.acknowledged, tracks.account, acks_append]
  exact List.prefix_append _ _

/-- Only the socket was busy, in vain or not. -/
theorem of_socket (tracks : Tracks start orders heard read wire dialogue) {transport : Transport σ}
    {broken : Option FatalError}
    (kept : broken = none → dialogue.connection.broken = none ∧
      transport.stream = dialogue.connection.transport.stream) :
    Tracks start orders heard read wire
      { dialogue with connection := { dialogue.connection with transport, broken } } :=
  { tracks with
    books := tracks.books.of_socket transport broken
    stream := fun usable => (kept usable).2.trans (tracks.stream (kept usable).1) }

theorem sent (tracks : Tracks start orders heard read wire dialogue) {order : Order}
    (sendable : order.call.Sendable) {transport : Transport σ}
    (kept : transport.stream = dialogue.connection.transport.stream) :
    Tracks start (orders ++ [order]) heard read wire
      { dialogue with
        connection :=
          { dialogue.connection with
            transport
            owedAcks := dialogue.connection.owedAcks + max order.call.targets.length 1
            subscribed := true }
        inbox := dialogue.inbox ++ [order] } :=
  { tracks with
    books := tracks.books.sent order tracks.acks_prefix.length_le transport
    stream := fun usable => kept.trans (tracks.stream usable)
    account := by
      simp only [Broker.respondAll_append, Broker.respondAll_singleton, tracks.destination,
        tracks.account, List.append_assoc]
    destination := by
      simp only [Broker.respondAll_append, tracks.destination]
    sendable := by
      intro other member
      rcases List.mem_append.1 member with earlier | last
      · exact tracks.sendable other earlier
      · exact List.mem_singleton.1 last ▸ sendable }

theorem served (tracks : Tracks start orders heard read wire dialogue) {order : Order}
    {others : List Order} (queued : dialogue.inbox = order :: others) {socket : σ}
    (arrived : Socket.pending socket = Socket.pending dialogue.connection.transport.socket ++
      (Broker.respond dialogue.server order).1.flatMap Notice.bytes) :
    Tracks start orders heard read (wire ++ (Broker.respond dialogue.server order).1)
      { connection := dialogue.connection.withSocket socket
        server := (Broker.respond dialogue.server order).2
        inbox := others } :=
  { tracks with
    books := tracks.books.of_socket _ dialogue.connection.broken
    stream := by
      intro usable
      rw [Connection.stream_withSocket _ arrived, tracks.stream usable, List.flatMap_append]
    account := by
      have account := tracks.account
      rw [queued] at account
      rw [List.filter_append, Broker.filter_respond, List.append_assoc]
      exact account
    destination := by
      have destination := tracks.destination
      rw [queued] at destination
      exact destination }

theorem published (tracks : Tracks start orders heard read wire dialogue) {notice : Notice}
    (unanswering : notice.isAnswer = false) {socket : σ}
    (arrived : Socket.pending socket =
      Socket.pending dialogue.connection.transport.socket ++ notice.bytes) :
    Tracks start orders heard read (wire ++ [notice])
      { dialogue with connection := dialogue.connection.withSocket socket } :=
  { tracks with
    books := tracks.books.of_socket _ dialogue.connection.broken
    stream := by
      intro usable
      rw [Connection.stream_withSocket _ arrived, tracks.stream usable, List.flatMap_append]
      simp
    account := by
      have none_added : [notice].filter Notice.isAnswer = [] := by simp [unanswering]
      rw [List.filter_append, none_added, List.append_nil]
      exact tracks.account }

/-- A frame that can be read off the stream is the first that stands there. -/
theorem first (tracks : Tracks start orders heard read wire dialogue)
    (usable : dialogue.connection.broken = none) {transport : Transport σ} {reply : Reply}
    {bytes : Bytes} (frame : Reply.Frame (fun _ => True) 0 reply bytes)
    (split : dialogue.connection.transport.stream = bytes ++ transport.stream) :
    ∃ notice others, wire = notice :: others ∧ notice.Readable ∧ reply = notice.reply ∧
      transport.stream = others.flatMap Notice.bytes := by
  rw [tracks.stream usable] at split
  cases wire with
  | nil => exact absurd (List.append_eq_nil_iff.1 split.symm).1 frame.ne_nil
  | cons notice others =>
      obtain ⟨readable, same, left⟩ := notice.read_unique frame split.symm
      exact ⟨notice, others, rfl, readable, same, left⟩

section Taken

variable {notice : Notice} {others : List Notice}
  (tracks : Tracks start orders heard read (notice :: others) dialogue)
  (readable : notice.Readable) {transport : Transport σ}
  (left : transport.stream = others.flatMap Notice.bytes)

include tracks readable

theorem got_taken :
    (heard ++ [notice.reply]).filterMap Ack.ofReply? = acks (read ++ [notice]) := by
  rw [List.filterMap_append, tracks.got, acks_append, acks_singleton,
    ← Notice.ofReply?_reply readable, List.filterMap_cons]
  cases Ack.ofReply? notice.reply <;> rfl

include left

/-- An answer has been read off the stream. -/
theorem taken_answer (answering : notice.isAnswer = true) :
    Tracks start orders (heard ++ [notice.reply]) (read ++ [notice]) others { dialogue with
      connection := Connection.noteAck notice.reply { dialogue.connection with transport } } where
  books := tracks.books.noted readable transport
  nothing := tracks.nothing
  answered := by
    rw [List.filter_append, tracks.answered, List.map_append]
    simp [Notice.isAnswer_reply readable, answering]
  got := tracks.got_taken readable
  stream := fun _ => by
    rw [Connection.noteAck_transport]
    exact left
  account := by
    have account := tracks.account
    rw [List.filter_cons_of_pos answering] at account
    rw [List.append_assoc]
    exact account
  destination := tracks.destination
  readable := by
    intro other member
    rcases List.mem_append.1 member with earlier | last
    · exact tracks.readable other earlier
    · exact List.mem_singleton.1 last ▸ readable
  sendable := tracks.sendable

/-- A message has been read off the stream. It is in no account. -/
theorem taken_message (unanswering : notice.isAnswer = false) :
    Tracks start orders (heard ++ [notice.reply]) read others
      { dialogue with connection := { dialogue.connection with transport } } :=
  { tracks with
    books := tracks.books.of_socket transport dialogue.connection.broken
    answered := by
      rw [List.filter_append, tracks.answered]
      simp [Notice.isAnswer_reply readable, unanswering]
    got := by
      rw [tracks.got_taken readable, acks_append, acks_singleton,
        Notice.ack?_of_message unanswering, Option.toList_none, List.append_nil]
    stream := fun _ => left
    account := by
      have account := tracks.account
      rw [List.filter_cons_of_neg (by simp [unanswering])] at account
      exact account }

end Taken

/-- What has been read so far, and what stands in the stream, is known along every course. -/
theorem keeps (around : Surroundings σ τ) (start : τ) :
    Keeps around fun orders heard dialogue =>
      ∃ read wire, Tracks start orders heard read wire dialogue where
  sent := by
    rintro orders heard dialogue order transport ⟨read, wire, tracks⟩ sendable kept
    exact ⟨read, wire, tracks.sent sendable kept⟩
  busy := by
    rintro orders heard dialogue transport broken ⟨read, wire, tracks⟩ kept
    exact ⟨read, wire, tracks.of_socket kept⟩
  taken := by
    rintro orders heard dialogue transport reply bytes ⟨read, wire, tracks⟩ usable frame split
    obtain ⟨notice, others, rfl, readable, rfl, left⟩ := tracks.first usable frame split
    cases answering : notice.isAnswer with
    | true => exact ⟨_, others, tracks.taken_answer readable left answering⟩
    | false =>
        have told := (Notice.ofReply?_reply readable).trans (Notice.ack?_of_message answering)
        rw [Connection.noteAck_none told]
        exact ⟨read, others, tracks.taken_message readable left answering⟩
  served := by
    rintro orders heard dialogue order others socket ⟨read, wire, tracks⟩ queued arrived
    exact ⟨_, _, tracks.served queued (around.pending_of_arrives arrived)⟩
  published := by
    rintro orders heard dialogue notice socket ⟨read, wire, tracks⟩ published arrived
    exact ⟨_, _, tracks.published (around.isAnswer_of_publishes published)
      (around.pending_of_arrives arrived)⟩

end Tracks

/-- The invariant of a dialogue. -/
theorem Run.tracks [Socket.Quiet σ] (run : Run start orders heard dialogue) :
    ∃ read wire, Tracks start orders heard read wire dialogue := by
  obtain ⟨nothing, first, free, course⟩ := run
  exact (Tracks.keeps .any start).course course ⟨[], [], .opened free nothing⟩

end Dialogue

end RespClient
