import RespClient.Proofs.PubSub.Pacing

/-!
# Leaving subscribe mode

A connection that has left subscribe mode should have nothing more to come from the
commands that have been sent on it.

The client counts one acknowledgement for a command without targets, but the server
sends one for each subscription that such a command takes away. The surplus is
taken off later commands, so the connection can leave subscribe mode while their
answers are still to come. That happens for some order of events exactly if an
acknowledgement that leaves nothing stands behind as many as the client counts, itself
among them, and is not the last answer.
-/

namespace RespClient

/-- Frames in the order in which they come, where `before` subscriptions were held at first and
`after` are in the end: an acknowledgement tells the number, and messages come while it is not
zero. -/
inductive Current : (before : Nat) → List Notice → (after : Nat) → Prop where
  | nil {before : Nat} : Current before [] before
  | ack {before count after : Nat} {kind : AckKind} {target : Option Bytes}
      {notices : List Notice} (others : Current count notices after) :
      Current before (.ack kind target count :: notices) after
  | refusal {before after : Nat} {cause : Refusal} {notices : List Notice}
      (others : Current before notices after) : Current before (.refusal cause :: notices) after
  | message {before after : Nat} {notice : Notice} {notices : List Notice} (held : 0 < before)
      (unanswering : notice.isAnswer = false) (others : Current before notices after) :
      Current before (notice :: notices) after

namespace Current

theorem append {before between after : Nat} {notices others : List Notice}
    (first : Current before notices between) (second : Current between others after) :
    Current before (notices ++ others) after := by
  induction first with
  | nil => exact second
  | ack _ ih => exact .ack (ih second)
  | refusal _ ih => exact .refusal (ih second)
  | message held unanswering _ ih => exact .message held unanswering (ih second)

/-- Where nothing is held, no message comes before the next answer. -/
theorem eq_nil_of_no_answer {after : Nat} {notices : List Notice}
    (current : Current 0 notices after) (none : notices.filter Notice.isAnswer = []) :
    notices = [] ∧ after = 0 := by
  cases current with
  | nil => exact ⟨rfl, rfl⟩
  | ack => cases none
  | refusal => cases none
  | message held => cases held

variable {τ : Type} [Broker τ]

theorem acknowledge (kind : AckKind) (held : τ) (names : List (Broker.Name τ)) :
    Current (Broker.total held) (Broker.acknowledge kind held names).1
      (Broker.total (Broker.acknowledge kind held names).2) := by
  induction names generalizing held with
  | nil => exact .nil
  | cons name names ih => exact .ack (ih (Broker.change kind name held))

theorem respond (held : τ) (order : Order) :
    Current (Broker.total held) (Broker.respond held order).1
      (Broker.total (Broker.respond held order).2) := by
  unfold Broker.respond Broker.answer
  split
  · exact .refusal .nil
  · split
    · exact .ack .nil
    · exact acknowledge order.call.kind held _

end Current

namespace Dialogue

variable {σ τ : Type} [Broker τ]

/-- A course from a fresh connection and a server without subscriptions for it, which publishes
only what its subscriptions receive. -/
def FreshRun [Socket σ] (start : τ) (orders : List Order) (heard : List Reply)
    (dialogue : Dialogue σ τ) : Prop :=
  Broker.total start = 0 ∧ ∃ (socket : σ) (capacity : Nat), Socket.pending socket = [] ∧
    Course .honest (.ofSocketWith capacity socket) start orders heard dialogue

/-- Nothing is on its way in either direction, and the server holds no subscription. -/
structure Settled [Socket σ] (dialogue : Dialogue σ τ) : Prop where
  taken : dialogue.inbox = []
  read : dialogue.connection.transport.stream = []
  unsubscribed : Broker.total dialogue.server = 0
  idle : dialogue.connection.isIdle = true

/-- The client does not count all the acknowledgements of these commands: behind as many as it
counts, one tells that nothing is left, and more answers are to come. -/
structure Undercounted (start : τ) (orders : List Order) : Prop where
  nothing : Broker.total start = 0
  sendable : Order.AllSendable orders
  early : ∃ before notice later,
    (Broker.respondAll start orders).1 = before ++ notice :: later ∧ notice.Leaves ∧ later ≠ [] ∧
    Order.counted orders ≤ (acks before).length + 1 ∧ ∀ read ∈ before ++ [notice], read.Readable

variable {start : τ} {orders : List Order} {heard : List Reply} {read wire : List Notice}

/-- Where every answer is counted, none can come too late. -/
theorem not_undercounted_of_length_le
    (all_counted : (Broker.respondAll start orders).1.length ≤ Order.counted orders) :
    ¬Undercounted start orders := by
  rintro ⟨-, -, before, notice, later, split, -, more, early, -⟩
  have length := congrArg List.length split
  have some_later := List.length_pos_iff.2 more
  have fewer : (acks before).length ≤ before.length := List.length_filterMap_le _ _
  rw [List.length_append, List.length_cons] at length
  omega

variable [Socket σ] {dialogue : Dialogue σ τ}

/-- How far a dialogue has come for which messages come only to subscriptions. The client has
counted no less than it has read and is still owed, and unless it has left subscribe mode too early
no more is to come. -/
structure Reckons (start : τ) (orders : List Order) (heard : List Reply) (read wire : List Notice)
    (dialogue : Dialogue σ τ) : Prop extends Tracks start orders heard read wire dialogue where
  counts : Order.counted orders ≤ dialogue.connection.owedAcks + (acks read).length
  current : Current dialogue.connection.subscriptions wire (Broker.total dialogue.server)
  left : dialogue.connection.subscribed = false → orders = [] ∨
    ∃ before notice later, read = before ++ notice :: later ∧ notice.Leaves ∧
      Order.counted orders ≤ (acks before).length + 1

namespace Reckons

theorem opened {connection : Connection σ} (free : connection.InCommandMode)
    (nothing : Broker.total start = 0) :
    Reckons start [] [] [] [] { connection, server := start } where
  toTracks := .opened free nothing
  counts := Nat.zero_le _
  current := by
    rw [free.unheld, nothing]
    exact .nil
  left := fun _ => .inl rfl

theorem of_socket (reckons : Reckons start orders heard read wire dialogue)
    {transport : Transport σ} {broken : Option FatalError}
    (kept : broken = none → dialogue.connection.broken = none ∧
      transport.stream = dialogue.connection.transport.stream) :
    Reckons start orders heard read wire
      { dialogue with connection := { dialogue.connection with transport, broken } } where
  toTracks := reckons.toTracks.of_socket kept
  counts := reckons.counts
  current := reckons.current
  left := reckons.left

theorem sent (reckons : Reckons start orders heard read wire dialogue) {order : Order}
    (sendable : order.call.Sendable) {transport : Transport σ}
    (kept : transport.stream = dialogue.connection.transport.stream) :
    Reckons start (orders ++ [order]) heard read wire
      { dialogue with
        connection :=
          { dialogue.connection with
            transport
            owedAcks := dialogue.connection.owedAcks + max order.call.targets.length 1
            subscribed := true }
        inbox := dialogue.inbox ++ [order] } where
  toTracks := reckons.toTracks.sent sendable kept
  counts := by
    have counts := reckons.counts
    rw [Order.counted_concat]
    dsimp only
    omega
  current := reckons.current
  left := nofun

theorem served (reckons : Reckons start orders heard read wire dialogue) {order : Order}
    {others : List Order} (queued : dialogue.inbox = order :: others) {socket : σ}
    (arrived : Socket.pending socket = Socket.pending dialogue.connection.transport.socket ++
      (Broker.respond dialogue.server order).1.flatMap Notice.bytes) :
    Reckons start orders heard read (wire ++ (Broker.respond dialogue.server order).1)
      { connection := dialogue.connection.withSocket socket
        server := (Broker.respond dialogue.server order).2
        inbox := others } where
  toTracks := reckons.toTracks.served queued arrived
  counts := reckons.counts
  current := reckons.current.append (.respond dialogue.server order)
  left := reckons.left

theorem published (reckons : Reckons start orders heard read wire dialogue) {notice : Notice}
    (received : Broker.receives dialogue.server notice) {socket : σ}
    (arrived : Socket.pending socket =
      Socket.pending dialogue.connection.transport.socket ++ notice.bytes) :
    Reckons start orders heard read (wire ++ [notice])
      { dialogue with connection := dialogue.connection.withSocket socket } where
  toTracks := reckons.toTracks.published (Broker.isAnswer_of_receives received) arrived
  counts := reckons.counts
  current := reckons.current.append (.message (Broker.total_of_receives received)
    (Broker.isAnswer_of_receives received) .nil)
  left := reckons.left

section Taken

variable {others : List Notice} {transport : Transport σ}
  (left : transport.stream = others.flatMap Notice.bytes)

include left

theorem taken_ack {kind : AckKind} {target : Option Bytes} {count : Nat}
    (reckons : Reckons start orders heard read (.ack kind target count :: others) dialogue)
    (readable : (Notice.ack kind target count).Readable) :
    Reckons start orders (heard ++ [(Notice.ack kind target count).reply])
      (read ++ [.ack kind target count]) others { dialogue with
        connection := Connection.noteAck (Notice.ack kind target count).reply
          { dialogue.connection with transport } } := by
  have taken := reckons.toTracks.taken_answer readable left rfl
  have counts := reckons.counts
  have current : Current count others (Broker.total dialogue.server) := by
    cases reckons.current with
    | ack rest => exact rest
    | message _ unanswering => cases unanswering
  rw [Connection.noteAck_some (Notice.ofReply?_reply readable)] at taken ⊢
  refine ⟨taken, ?_, current, ?_⟩
  · rw [acks_append, List.length_append]
    change _ ≤ _ + (_ + 1)
    dsimp only
    omega
  · intro unsubscribed
    cases before : dialogue.connection.subscribed with
    | false =>
        rcases reckons.left before with nothing | ⟨earlier, notice, later, rfl, leaves, early⟩
        · exact .inl nothing
        · exact .inr ⟨earlier, notice, later ++ [.ack kind target count], by simp, leaves, early⟩
    | true =>
        simp only [before, Bool.true_and, Bool.not_eq_false', Bool.and_eq_true,
          decide_eq_true_eq] at unsubscribed
        obtain ⟨⟨leaving, nothing⟩, unowed⟩ := unsubscribed
        exact .inr ⟨read, _, [], rfl, ⟨_, rfl, leaving, nothing⟩, by omega⟩

theorem taken_refusal {cause : Refusal}
    (reckons : Reckons start orders heard read (.refusal cause :: others) dialogue) :
    Reckons start orders (heard ++ [(Notice.refusal cause).reply]) (read ++ [.refusal cause]) others
      { dialogue with connection := { dialogue.connection with transport } } := by
  have readable : (Notice.refusal cause).Readable := nofun
  have taken := reckons.toTracks.taken_answer readable left rfl
  have current : Current dialogue.connection.subscriptions others
      (Broker.total dialogue.server) := by
    cases reckons.current with
    | refusal rest => exact rest
    | message _ unanswering => cases unanswering
  rw [Connection.noteAck_none (Notice.ofReply?_reply readable)] at taken
  refine ⟨taken, ?_, current, ?_⟩
  · rw [acks_append]
    exact (List.append_nil _).symm ▸ reckons.counts
  · intro unsubscribed
    rcases reckons.left unsubscribed with nothing | ⟨earlier, notice, later, rfl, leaves, early⟩
    · exact .inl nothing
    · exact .inr ⟨earlier, notice, later ++ [.refusal cause], by simp, leaves, early⟩

theorem taken_message {notice : Notice}
    (reckons : Reckons start orders heard read (notice :: others) dialogue)
    (readable : notice.Readable) (unanswering : notice.isAnswer = false) :
    Reckons start orders (heard ++ [notice.reply]) read others
      { dialogue with connection := { dialogue.connection with transport } } where
  toTracks := reckons.toTracks.taken_message readable left unanswering
  counts := reckons.counts
  current := by
    cases reckons.current with
    | ack | refusal => cases unanswering
    | message _ _ rest => exact rest
  left := reckons.left

/-- Whatever the first frame of the stream is, it can be read off. -/
theorem taken {notice : Notice}
    (reckons : Reckons start orders heard read (notice :: others) dialogue)
    (readable : notice.Readable) :
    ∃ answers, Reckons start orders (heard ++ [notice.reply]) answers others { dialogue with
      connection := Connection.noteAck notice.reply { dialogue.connection with transport } } := by
  have told := Notice.ofReply?_reply readable
  cases notice with
  | ack kind target count => exact ⟨_, reckons.taken_ack left readable⟩
  | refusal cause =>
      rw [Connection.noteAck_none told]
      exact ⟨_, reckons.taken_refusal left⟩
  | message | patternMessage =>
      rw [Connection.noteAck_none told]
      exact ⟨_, reckons.taken_message left readable rfl⟩

end Taken

theorem keeps (start : τ) : Keeps (σ := σ) .honest fun orders heard dialogue =>
    ∃ read wire, Reckons start orders heard read wire dialogue where
  sent := by
    rintro orders heard dialogue order transport ⟨read, wire, reckons⟩ sendable kept
    exact ⟨read, wire, reckons.sent sendable kept⟩
  busy := by
    rintro orders heard dialogue transport broken ⟨read, wire, reckons⟩ kept
    exact ⟨read, wire, reckons.of_socket kept⟩
  taken := by
    rintro orders heard dialogue transport reply bytes ⟨read, wire, reckons⟩ usable frame split
    obtain ⟨notice, others, rfl, readable, rfl, left⟩ := reckons.toTracks.first usable frame split
    obtain ⟨answers, taken⟩ := reckons.taken left readable
    exact ⟨answers, others, taken⟩
  served := by
    rintro orders heard dialogue order others socket ⟨read, wire, reckons⟩ queued arrived
    exact ⟨_, _, reckons.served queued arrived⟩
  published := by
    rintro orders heard dialogue notice socket ⟨read, wire, reckons⟩ received arrived
    exact ⟨_, _, reckons.published received arrived⟩

/-! ## When subscribe mode has been left -/

theorem settled_of_nothing_unread (reckons : Reckons start orders heard read wire dialogue)
    (usable : dialogue.connection.broken = none)
    (nothing : wire.filter Notice.isAnswer ++
      (Broker.respondAll dialogue.server dialogue.inbox).1 = [])
    (none_left : latest 0 (acks read) = 0) : dialogue.Settled := by
  obtain ⟨no_answer, none_coming⟩ := List.append_eq_nil_iff.1 nothing
  have current := reckons.current
  rw [reckons.books.reported, none_left] at current
  obtain ⟨rfl, total⟩ := current.eq_nil_of_no_answer no_answer
  exact {
    taken := Broker.eq_nil_of_respondAll none_coming
    read := reckons.stream usable
    unsubscribed := total
    idle := by simp [Connection.isIdle, reckons.books.unawaited, reckons.books.unqueued] }

/-- Where the client counts enough, it does not leave subscribe mode too early. -/
theorem settled (reckons : Reckons start orders heard read wire dialogue)
    (usable : dialogue.connection.broken = none) (enough : ¬Undercounted start orders)
    (unsubscribed : dialogue.connection.subscribed = false) : dialogue.Settled := by
  have account := reckons.account
  rcases reckons.left unsubscribed with rfl | ⟨before, notice, later, rfl, leaves, early⟩
  · obtain ⟨rfl, unread⟩ := List.append_eq_nil_iff.1 account.symm
    exact reckons.settled_of_nothing_unread usable unread rfl
  · rw [List.append_assoc, List.cons_append] at account
    have last : later ++ (wire.filter Notice.isAnswer ++
        (Broker.respondAll dialogue.server dialogue.inbox).1) = [] := by
      apply Classical.byContradiction
      intro more
      refine enough ⟨reckons.nothing, reckons.sendable, before, notice, _, account, leaves, more,
        early, ?_⟩
      intro other member
      apply reckons.readable other
      rw [List.append_cons]
      exact List.mem_append_left later member
    obtain ⟨rfl, unread⟩ := List.append_eq_nil_iff.1 last
    apply reckons.settled_of_nothing_unread usable unread
    obtain ⟨ack, told, -, nothing⟩ := leaves
    rw [acks_append, latest_append, acks_singleton, told]
    exact nothing

end Reckons

theorem FreshRun.reckons [Socket.Quiet σ] (run : FreshRun start orders heard dialogue) :
    ∃ read wire, Reckons start orders heard read wire dialogue := by
  obtain ⟨nothing, socket, capacity, silent, course⟩ := run
  have free : (Connection.ofSocketWith capacity socket).InCommandMode :=
    ⟨rfl, rfl, rfl, rfl, rfl, rfl, silent⟩
  exact (Reckons.keeps start).course course ⟨[], [], .opened free nothing⟩

/-! ## Leaving too early -/

namespace Paced

variable {owed : Nat} {server : τ} {inbox : List Order} {connection : Connection Scripted}

theorem freshRun {dialogue : Dialogue Scripted τ}
    (paced : Paced start orders heard owed wire dialogue) :
    FreshRun start orders heard dialogue :=
  ⟨paced.nothing, _, defaultReadBuffer, rfl,
    paced.course.widen Surroundings.feeding_within_honest⟩

/-- Any commands can be sent before the server takes the first of them. -/
theorem sentAll {others : List Order} (sendable : Order.AllSendable others)
    (paced : Paced start orders heard owed wire { connection, server, inbox }) :
    ∃ last, Paced start (orders ++ others) heard (owed + Order.counted others) wire
      { connection := last, server, inbox := inbox ++ others } := by
  induction others generalizing orders owed inbox connection with
  | nil =>
      rw [List.append_nil, List.append_nil]
      exact ⟨connection, paced⟩
  | cons order others ih =>
      obtain ⟨first, rest⟩ := List.forall_mem_cons.1 sendable
      obtain ⟨middle, next⟩ := paced.sent first
      obtain ⟨last, final⟩ := ih rest next
      rw [List.append_assoc, List.append_assoc, Nat.add_assoc, ← Order.counted_cons] at final
      exact ⟨last, final⟩

theorem servedAll (paced : Paced start orders heard owed wire { connection, server, inbox }) :
    ∃ last, Paced start orders heard owed (wire ++ (Broker.respondAll server inbox).1)
      { connection := last, server := (Broker.respondAll server inbox).2 } := by
  induction inbox generalizing server connection wire with
  | nil =>
      rw [Broker.respondAll, List.append_nil]
      exact ⟨connection, paced⟩
  | cons order others ih =>
      obtain ⟨middle, next⟩ := paced.served rfl
      obtain ⟨last, final⟩ := ih next
      rw [List.append_assoc] at final
      exact ⟨last, final⟩

/-- All commands are sent before the server takes the first of them, and their answers are read up
to some point. -/
theorem exists_ahead {before later : List Notice} (nothing : Broker.total start = 0)
    (sendable : Order.AllSendable orders)
    (split : (Broker.respondAll start orders).1 = before ++ later)
    (readable : ∀ notice ∈ before, notice.Readable) :
    ∃ heard connection, Paced start orders heard (Order.counted orders - (acks before).length) later
      { connection, server := (Broker.respondAll start orders).2 } := by
  obtain ⟨sender, sent⟩ := (opened nothing).sentAll sendable
  obtain ⟨receiver, served⟩ := sent.servedAll
  have answers : [] ++ (Broker.respondAll start ([] ++ orders)).1 = before ++ later := split
  rw [answers, Nat.zero_add] at served
  exact served.takenAll readable

/-- An acknowledgement that leaves nothing takes the connection out of subscribe mode if no other is
owed. -/
theorem unsubscribed {notice : Notice}
    (paced : Paced start orders heard owed (notice :: wire) { connection, server, inbox })
    (readable : notice.Readable) (leaves : notice.Leaves) (unowed : owed ≤ 1) :
    ∃ more left last, Paced start orders more left wire { connection := last, server, inbox } ∧
      last.subscribed = false := by
  obtain ⟨more, transport, final⟩ := paced.taken readable
  obtain ⟨ack, told, leaving, nothing⟩ := leaves
  refine ⟨more, _, _, final, ?_⟩
  have none_owed : connection.owedAcks - 1 = 0 := by
    have owes := paced.owes
    dsimp only at owes
    omega
  rw [Connection.noteAck_some ((Notice.ofReply?_reply readable).trans told)]
  simp [leaving, nothing, none_owed]

end Paced

/-- Where the client counts too little, some order of events takes it out of subscribe mode before
it has read everything. -/
theorem exists_unsettled (undercounted : Undercounted start orders) :
    ∃ (heard : List Reply) (dialogue : Dialogue Scripted τ),
      FreshRun start orders heard dialogue ∧ dialogue.connection.broken = none ∧
      dialogue.connection.subscribed = false ∧ ¬dialogue.Settled := by
  obtain ⟨nothing, sendable, before, notice, later, split, leaves, more, early, readable⟩ :=
    undercounted
  obtain ⟨first_readable, last_readable⟩ := List.forall_mem_append.1 readable
  obtain ⟨between, middle, ahead⟩ := Paced.exists_ahead nothing sendable split first_readable
  obtain ⟨heard, left, last, paced, unsubscribed⟩ :=
    ahead.unsubscribed (last_readable notice List.mem_cons_self) leaves (by omega)
  refine ⟨heard, _, paced.freshRun, paced.usable, unsubscribed, fun settled => ?_⟩
  have unread := paced.stream.symm.trans settled.read
  obtain ⟨next, others, rfl⟩ := List.exists_cons_of_ne_nil more
  exact next.bytes_ne_nil (List.append_eq_nil_iff.1 unread).1

/-- In any run from a fresh connection, whether the server accepts the commands or refuses some of
them, a connection that has left subscribe mode without having broken has nothing more to come,
unless the client counts too few acknowledgements for the commands. Then, and only then, there is a
run that leaves subscribe mode too early. -/
theorem settled_when_unsubscribed_iff (start : τ) (orders : List Order) :
    (∀ (σ : Type) [Socket σ] [Socket.Quiet σ] (heard : List Reply) (dialogue : Dialogue σ τ),
      FreshRun start orders heard dialogue → dialogue.connection.broken = none →
      dialogue.connection.subscribed = false → dialogue.Settled) ↔
    ¬Undercounted start orders := by
  constructor
  · intro safe undercounted
    obtain ⟨heard, dialogue, run, usable, unsubscribed, unsettled⟩ :=
      exists_unsettled undercounted
    exact unsettled (safe Scripted heard dialogue run usable unsubscribed)
  · intro enough σ _ _ heard dialogue run usable unsubscribed
    obtain ⟨read, wire, reckons⟩ := run.reckons
    exact reckons.settled usable enough unsubscribed

/-- Two channels are subscribed to, left by a single command, and a third one is subscribed to. The
second acknowledgement of leaving ends subscribe mode ahead of that of the new subscription. -/
theorem unsettled_after_resubscribing :
    let channel (name : String) : Bytes := Bytes.ofText name
    let orders : List Order :=
      [{ call := ⟨.subscribe, [channel "a", channel "b"]⟩ }, { call := ⟨.unsubscribe, []⟩ },
        { call := ⟨.subscribe, [channel "c"]⟩ }]
    Order.AllAccepted orders ∧
      ∃ (heard : List Reply) (dialogue : Dialogue Scripted Subscriptions),
        FreshRun {} orders heard dialogue ∧ dialogue.connection.broken = none ∧
        dialogue.connection.subscribed = false ∧ ¬dialogue.Settled := by
  intro channel orders
  have named : ∀ name ∈ ["a", "b", "c"], Text.Lossy.text (channel name) = name := by decide
  have sorted : ["b", "a"].mergeSort = ["a", "b"] := by
    rw [List.mergeSort]
    simp [List.MergeSort.Internal.splitInTwo]
  have split : (Broker.respondAll ({} : Subscriptions) orders).1 =
      [.ack .subscribe (some (channel "a")) 1, .ack .subscribe (some (channel "b")) 2,
        .ack .unsubscribe (some (channel "a")) 1] ++
        .ack .unsubscribe (some (channel "b")) 0 :: [.ack .subscribe (some (channel "c")) 1] := by
    simp [orders, channel, Broker.respondAll, Broker.respond, Broker.answer, Broker.targets,
      Broker.acknowledge, Broker.named, Broker.spelled, Broker.implied, Broker.change,
      Broker.total, Subscriptions.implied, Subscriptions.change, Subscriptions.total, named,
      sorted]
  refine ⟨by simp [Order.AllAccepted, orders], exists_unsettled ⟨rfl, ?_, _, _, _, split,
    ⟨_, rfl, rfl, rfl⟩, List.cons_ne_nil _ _, by decide, by decide⟩⟩
  simp [orders, Order.AllSendable, SubscriptionCall.Sendable, AckKind.isUnsubscribe]

end Dialogue

end RespClient
