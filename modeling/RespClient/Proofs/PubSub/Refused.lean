import RespClient.Proofs.PubSub.Returning

/-!
# Refused subscription commands

A server may refuse a subscription command with an error line. The line reaches the
caller and the connection stays usable. Once everything has been read and no
subscription is left, the connection should be out of subscribe mode.

But a client counts acknowledgements as it sends a command, and it takes none off the
count for an error. The debt of a refused command is paid only by surplus
acknowledgements, those of a command without targets that leaves several subscriptions.
Where the last commands are acknowledged less often than they count, a debt is left that
keeps the connection in subscribe mode.
-/

namespace RespClient

theorem Connection.execute_subscribed {σ : Type} [Socket σ] {connection : Connection σ}
    (usable : connection.broken = none) (idle : connection.inFlight = 0)
    (subscribed : connection.subscribed = true) (frame : Bytes) :
    (Connection.execute frame).runFrom connection =
      (.error (.usage (.inSubscribeMode .execute)), connection) := by
  apply Attempt.runFrom_bind_error
  apply ensure_error
  rw [checkIdle, checkNothingPending_ok .execute usable idle, subscribed]
  rfl

namespace Dialogue

variable {τ : Type} [Broker τ]

/-- All that the server says to these commands has been heard. -/
def AllHeard (start : τ) (orders : List Order) (heard : List Reply) : Prop :=
  heard.filter Reply.isAnswer = (Broker.respondAll start orders).1.map Notice.reply

/-- No subscription is left in the end, but the last commands are acknowledged less often than the
client counts for them. -/
structure Overcharged (start : τ) (orders : List Order) : Prop where
  nothing : Broker.total start = 0
  sendable : Order.AllSendable orders
  readable : ∀ notice ∈ (Broker.respondAll start orders).1, notice.Readable
  none_left : Broker.total (Broker.respondAll start orders).2 = 0
  short : ∃ earlier later, orders = earlier ++ later ∧
    (Broker.acknowledged (Broker.respondAll start earlier).2 later).length < Order.counted later

variable {start : τ} {orders : List Order} {heard : List Reply}

/-- Where no command is refused, none is counted too often. -/
theorem not_overcharged_of_accepted (accepted : Order.AllAccepted orders) :
    ¬Overcharged start orders := by
  rintro ⟨-, -, -, -, earlier, later, rfl, short⟩
  have counted := Broker.counted_le_acknowledged (Broker.respondAll start earlier).2
    (List.forall_mem_append.1 accepted).2
  omega

namespace Tracks

variable {σ : Type} [Socket σ] {read wire : List Notice} {dialogue : Dialogue σ τ}

theorem heard_prefix (tracks : Tracks start orders heard read wire dialogue) :
    heard.filter Reply.isAnswer <+: (Broker.respondAll start orders).1.map Notice.reply := by
  rw [tracks.answered, tracks.account, List.map_append]
  exact List.prefix_append _ _

theorem read_of_all_heard (tracks : Tracks start orders heard read wire dialogue)
    (all : AllHeard start orders heard) : read = (Broker.respondAll start orders).1 := by
  have account := tracks.account
  have lengths := congrArg List.length (tracks.answered.symm.trans all)
  rw [List.length_map, List.length_map, account, List.length_append] at lengths
  have nothing := List.length_eq_zero_iff.1 (Nat.add_left_cancel lengths.symm)
  rw [nothing, List.append_nil] at account
  exact account.symm

/-- A debt that is left comes from commands that have been acknowledged too seldom. -/
theorem unowed (tracks : Tracks start orders heard read wire dialogue)
    (all : read = (Broker.respondAll start orders).1)
    (none_left : Broker.total dialogue.server = 0) (enough : ¬Overcharged start orders) :
    dialogue.connection.owedAcks = 0 := by
  rcases tracks.books.owing with none_owed | ⟨earlier, later, split, owing⟩
  · exact none_owed
  · apply Classical.byContradiction
    intro owed
    rw [(tracks.served_all all).2] at none_left
    refine enough ⟨tracks.nothing, tracks.sendable, all ▸ tracks.readable, none_left,
      earlier, later, split, ?_⟩
    have got : (acks read).length = (Broker.acknowledged start orders).length := by
      rw [all, Broker.acknowledged]
    rw [split, Broker.acknowledged_append, List.length_append] at got
    omega

end Tracks

/-- Where commands are counted too often, some order of events leaves the connection in subscribe
mode although everything has been read. -/
theorem exists_stuck (overcharged : Overcharged start orders) :
    ∃ (heard : List Reply) (dialogue : Dialogue Scripted τ),
      Run start orders heard dialogue ∧ AllHeard start orders heard ∧
      dialogue.connection.broken = none ∧ dialogue.connection.inFlight = 0 ∧
      Broker.total dialogue.server = 0 ∧ dialogue.connection.subscribed = true := by
  obtain ⟨nothing, sendable, readable, none_left, earlier, later, rfl, short⟩ := overcharged
  obtain ⟨heard, owed, connection, paced, debt⟩ :=
    Paced.exists_settled nothing sendable readable
  have tracks := paced.tracks
  have indebted : 0 < connection.owedAcks := by
    rw [paced.owes]
    omega
  exact ⟨heard, _, paced.run, tracks.answered, paced.usable, paced.unawaited, none_left,
    tracks.books.subscribed indebted⟩

/-- The answers to commands are heard in the order in which the server gives them. Each error line
among them is a server error to the caller, however it listens, and does not break the connection;
on a socket that works it is told as soon as it comes next, and nothing else changes. Once
everything has been heard and no subscription is left, a connection that is not broken has left
subscribe mode and admits requests, unless the client counts some last commands too often. Then, and
only then, it may be stuck. -/
theorem recovers_unless_overcharged (start : τ) (orders : List Order) :
    (∀ (σ : Type) [Socket σ] [Socket.Quiet σ] (heard : List Reply) (dialogue : Dialogue σ τ),
      Run start orders heard dialogue →
      heard.filter Reply.isAnswer <+: (Broker.respondAll start orders).1.map Notice.reply ∧
      ∀ (listening : Listening) (timeout : Option Nat),
        (∀ text, .error text ∈ listening.heard timeout dialogue.connection →
          listening.failure timeout dialogue.connection = some (.server text) ∧
          (listening.after timeout dialogue.connection).broken = none) ∧
        ∀ calm : σ → Prop, Socket.Delivering calm → Socket.Prompt calm →
          calm dialogue.connection.transport.socket → dialogue.connection.broken = none →
          ∀ (refusal : Refusal) (rest : Bytes),
            dialogue.connection.transport.stream = (Notice.refusal refusal).bytes ++ rest →
            listening.failure timeout dialogue.connection = some (.server refusal.text) ∧
            ∃ transport, transport.stream = rest ∧
              listening.after timeout dialogue.connection =
                { dialogue.connection with transport }) ∧
    ((∀ (σ : Type) [Socket σ] [Socket.Quiet σ] (heard : List Reply) (dialogue : Dialogue σ τ),
      Run start orders heard dialogue → AllHeard start orders heard →
      dialogue.connection.broken = none → Broker.total dialogue.server = 0 →
      dialogue.connection.subscribed = false ∧ dialogue.connection.AdmitsRequests) ↔
    ¬Overcharged start orders) := by
  constructor
  · intro σ _ _ heard dialogue run
    obtain ⟨read, wire, tracks⟩ := run.tracks
    refine ⟨tracks.heard_prefix, ?_⟩
    intro listening timeout
    constructor
    · intro text taken
      exact listening.failure_of_heard taken
    · intro calm works prompt quiet usable refusal rest found
      exact listening.failure_of_refusal works prompt usable tracks.books.unawaited quiet refusal
        found
  · constructor
    · intro recovers overcharged
      obtain ⟨heard, dialogue, run, all, usable, -, none_left, subscribed⟩ :=
        exists_stuck overcharged
      have left := (recovers Scripted heard dialogue run all usable none_left).1
      cases left.symm.trans subscribed
    · intro enough σ _ _ heard dialogue run all_heard usable none_left
      obtain ⟨read, wire, tracks⟩ := run.tracks
      have all := tracks.read_of_all_heard all_heard
      have unowed := tracks.unowed all none_left enough
      have unsubscribed := tracks.unsubscribed all unowed none_left
      exact ⟨unsubscribed, tracks.admits usable unsubscribed⟩

/-- A client without permission subscribes to a channel, and reads the refusal. It is in subscribe
mode all the same, and no request is admitted. -/
theorem stuck_after_refusal :
    let refusal : Refusal := ⟨"NOAUTH Authentication required.", by decide, by decide⟩
    let orders : List Order := [⟨⟨.subscribe, [Bytes.ofText "a"]⟩, some refusal⟩]
    ∃ (heard : List Reply) (dialogue : Dialogue Scripted Subscriptions),
      Run {} orders heard dialogue ∧ AllHeard ({} : Subscriptions) orders heard ∧
      dialogue.connection.broken = none ∧ Broker.total dialogue.server = 0 ∧
      dialogue.connection.subscribed = true ∧
      ∀ frame, (Connection.execute frame).runFrom dialogue.connection =
        (.error (.usage (.inSubscribeMode .execute)), dialogue.connection) := by
  intro refusal orders
  have sendable : Order.AllSendable orders := by
    simp [Order.AllSendable, orders, SubscriptionCall.Sendable]
  have answers : Broker.respondAll ({} : Subscriptions) orders = ([.refusal refusal], {}) := rfl
  have readable : ∀ notice ∈ (Broker.respondAll ({} : Subscriptions) orders).1,
      notice.Readable := by
    rw [answers]
    simp [Notice.Readable, Notice.fields]
  obtain ⟨heard, dialogue, run, all, usable, idle, none_left, subscribed⟩ :=
    exists_stuck ⟨rfl, sendable, readable, rfl, [], orders, rfl, by decide⟩
  exact ⟨heard, dialogue, run, all, usable, none_left, subscribed,
    Connection.execute_subscribed usable idle subscribed⟩

end Dialogue

end RespClient
