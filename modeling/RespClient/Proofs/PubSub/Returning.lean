import RespClient.Proofs.Batch.Counting
import RespClient.Proofs.PubSub.Pacing

/-!
# Returning to command mode

Once every answer has been read, a client that owes itself nothing knows how many
subscriptions the server holds, and it has left subscribe mode if there are none.
Where the server accepts every command, the client never counts more than is to come,
so nothing is owed in the end, whatever the order of events.
-/

namespace RespClient

open Connection (Counts)

/-- Requests and batches are not refused. -/
def Connection.AdmitsRequests {σ : Type} [Socket σ] (connection : Connection σ) : Prop :=
  (∀ (frame : Bytes) (cause : UsageError),
    failureOf ((Connection.execute frame).runFrom connection).1 ≠ some (.usage cause)) ∧
  ∀ (α : Type) (kind : BatchKind), ∃ batch : Batch σ α, Batch.start kind connection = .ok batch

namespace Dialogue

variable {σ τ : Type} [Broker τ] [Socket σ] {start : τ} {orders : List Order}
  {heard : List Reply} {read wire : List Notice} {dialogue : Dialogue σ τ}

namespace Tracks

/-- Where no command is refused, the client counts no more than is to come. -/
theorem owed_le (tracks : Tracks start orders heard read wire dialogue)
    (accepted : Order.AllAccepted orders) :
    dialogue.connection.owedAcks + (acks read).length ≤
      (Broker.acknowledged start orders).length := by
  rcases tracks.books.owing with none_owed | ⟨earlier, later, rfl, owing⟩
  · rw [none_owed, Nat.zero_add]
    exact tracks.acks_prefix.length_le
  · have counted := Broker.counted_le_acknowledged (Broker.respondAll start earlier).2
      (List.forall_mem_append.1 accepted).2
    rw [Broker.acknowledged_append, List.length_append]
    omega

/-! ## When everything has been read -/

/-- The acknowledgements are all that a server says to commands that it accepts. -/
theorem read_all (tracks : Tracks start orders heard read wire dialogue)
    (accepted : Order.AllAccepted orders)
    (all_got : (acks read).length = (Broker.acknowledged start orders).length) :
    read = (Broker.respondAll start orders).1 := by
  have account := tracks.account
  generalize wire.filter Notice.isAnswer ++
    (Broker.respondAll dialogue.server dialogue.inbox).1 = unread at account
  rw [Broker.acknowledged, account, acks_append, List.length_append] at all_got
  have none_acknowledges : acks unread = [] := List.length_eq_zero_iff.1 (by omega)
  have nothing : unread = [] := by
    apply List.eq_nil_iff_forall_not_mem.2
    intro notice member
    have silent := List.filterMap_eq_nil_iff.1 none_acknowledges notice member
    have answered : notice ∈ (Broker.respondAll start orders).1 := by
      rw [account]
      exact List.mem_append_right _ member
    exact Broker.ack?_of_mem_respondAll accepted answered silent
  rw [nothing, List.append_nil] at account
  exact account.symm

theorem served_all (tracks : Tracks start orders heard read wire dialogue)
    (all : read = (Broker.respondAll start orders).1) :
    dialogue.inbox = [] ∧ dialogue.server = (Broker.respondAll start orders).2 := by
  have account := tracks.account
  have destination := tracks.destination
  rw [← all, List.self_eq_append_right] at account
  have none_left := Broker.eq_nil_of_respondAll (List.append_eq_nil_iff.1 account).2
  rw [none_left] at destination
  exact ⟨none_left, destination⟩

theorem subscriptions_eq (tracks : Tracks start orders heard read wire dialogue)
    (all : read = (Broker.respondAll start orders).1) :
    dialogue.connection.subscriptions = Broker.total dialogue.server := by
  have told := Broker.latest_acknowledged start orders
  rw [tracks.books.reported, (tracks.served_all all).2, all, ← told, tracks.nothing]
  rfl

/-- The last acknowledgement has ended subscribe mode, unless others were owed. -/
theorem unsubscribed (tracks : Tracks start orders heard read wire dialogue)
    (all : read = (Broker.respondAll start orders).1)
    (unowed : dialogue.connection.owedAcks = 0)
    (none_left : Broker.total dialogue.server = 0) : dialogue.connection.subscribed = false := by
  apply Bool.eq_false_iff.2
  intro subscribed
  rcases tracks.books.staying subscribed with owed | ⟨others, ack, last, stays⟩
  · omega
  · have reported := tracks.books.reported
    rw [tracks.subscriptions_eq all, none_left, last, latest_append] at reported
    have member : ack ∈ Broker.acknowledged start orders := by
      rw [Broker.acknowledged, ← all, last]
      exact List.mem_append_right _ List.mem_cons_self
    exact stays (Broker.leaves_of_mem_acknowledged tracks.sendable member reported.symm)

theorem admits (tracks : Tracks start orders heard read wire dialogue)
    (usable : dialogue.connection.broken = none)
    (unsubscribed : dialogue.connection.subscribed = false) :
    dialogue.connection.AdmitsRequests := by
  have counts : dialogue.connection.Counts 0 :=
    ⟨usable, tracks.books.unawaited, by rw [tracks.books.unqueued]; exact Nat.zero_le _⟩
  constructor
  · intro frame cause
    exact (Connection.execute_ends frame counts unsubscribed).unrefused cause
  · intro α kind
    have idle := Connection.checkIdle_ok .startBatch usable tracks.books.unawaited unsubscribed
    exact ⟨_, Batch.start_idle kind idle⟩

end Tracks

variable [Socket.Quiet σ]

/-- A server accepts every command, and its acknowledgements are read in the order in which it gives
them. The client never counts more of them than it has not read. Once it has read them all, it owes
itself nothing and knows what the server holds. If that is nothing, it has left subscribe mode, and
unless the connection has broken it admits requests again. -/
theorem returns_to_command_mode (run : Run start orders heard dialogue)
    (accepted : Order.AllAccepted orders) :
    let due := Broker.acknowledged start orders
    let got := heard.filterMap Ack.ofReply?
    got <+: due ∧ dialogue.connection.owedAcks + got.length ≤ due.length ∧
    (got.length = due.length → dialogue.connection.owedAcks = 0 ∧
      dialogue.connection.subscriptions = Broker.total dialogue.server ∧
      (Broker.total dialogue.server = 0 → dialogue.connection.subscribed = false ∧
        (dialogue.connection.broken = none → dialogue.connection.AdmitsRequests))) := by
  obtain ⟨read, wire, tracks⟩ := run.tracks
  intro due got
  have got_eq : got = acks read := tracks.got
  rw [got_eq]
  have owed := tracks.owed_le accepted
  refine ⟨tracks.acks_prefix, owed, ?_⟩
  intro all_got
  change (acks read).length = (Broker.acknowledged start orders).length at all_got
  have unowed : dialogue.connection.owedAcks = 0 := by omega
  have all := tracks.read_all accepted all_got
  refine ⟨unowed, tracks.subscriptions_eq all, ?_⟩
  intro none_left
  have unsubscribed := tracks.unsubscribed all unowed none_left
  exact ⟨unsubscribed, fun usable => tracks.admits usable unsubscribed⟩

theorem returns_after_leaving_all :
    let channel (name : String) : Bytes := Bytes.ofText name
    let orders : List Order :=
      [{ call := ⟨.subscribe, [channel "a", channel "b"]⟩ }, { call := ⟨.unsubscribe, []⟩ }]
    Order.AllAccepted orders ∧
      ∃ (heard : List Reply) (dialogue : Dialogue Scripted Subscriptions),
        Run {} orders heard dialogue ∧ (heard.filterMap Ack.ofReply?).length = 4 ∧
        dialogue.connection.broken = none ∧ Broker.total dialogue.server = 0 ∧
        dialogue.connection.owedAcks = 0 ∧ dialogue.connection.subscriptions = 0 ∧
        dialogue.connection.subscribed = false ∧ dialogue.connection.AdmitsRequests := by
  intro channel orders
  have accepted : Order.AllAccepted orders := by simp [Order.AllAccepted, orders]
  have sendable : Order.AllSendable orders := by
    simp [Order.AllSendable, orders, SubscriptionCall.Sendable, AckKind.isUnsubscribe]
  have named : ∀ name ∈ ["a", "b"], Text.Lossy.text (channel name) = name := by decide
  have sorted : ["b", "a"].mergeSort = ["a", "b"] := by
    rw [List.mergeSort]
    simp [List.MergeSort.Internal.splitInTwo]
  have answers : Broker.respondAll ({} : Subscriptions) orders =
      ([.ack .subscribe (some (channel "a")) 1, .ack .subscribe (some (channel "b")) 2,
        .ack .unsubscribe (some (channel "a")) 1, .ack .unsubscribe (some (channel "b")) 0],
        {}) := by
    simp [orders, channel, Broker.respondAll, Broker.respond, Broker.answer, Broker.targets,
      Broker.acknowledge, Broker.named, Broker.spelled, Broker.implied, Broker.change,
      Broker.total, Subscriptions.implied, Subscriptions.change, Subscriptions.total, named,
      sorted]
  have readable : ∀ notice ∈ (Broker.respondAll ({} : Subscriptions) orders).1,
      notice.Readable := by
    rw [answers]
    decide
  obtain ⟨heard, owed, connection, paced, -⟩ := (Paced.opened rfl).extended sendable readable
  rw [List.nil_append] at paced
  have got := paced.tracks.got
  rw [answers] at paced got
  have count := congrArg List.length got
  obtain ⟨-, -, returns⟩ := returns_to_command_mode paced.run accepted
  have due : (Broker.acknowledged ({} : Subscriptions) orders).length = 4 := by
    rw [Broker.acknowledged, answers]
    rfl
  obtain ⟨unowed, reported, free⟩ := returns (count.trans due.symm)
  obtain ⟨unsubscribed, admits⟩ := free rfl
  exact ⟨accepted, heard, _, paced.run, count, paced.usable, rfl, unowed, reported, unsubscribed,
    admits paced.usable⟩

end Dialogue

end RespClient
