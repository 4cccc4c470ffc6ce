import RespClient.Proofs.PubSub.Broker
import RespClient.Proofs.PubSub.Listening

/-!
# Courses of a dialogue

A client gives subscription commands and listens in any order, while a server takes the
commands one after the other and publishes messages in between. What the client does to
its connection is left to the connection. How bytes come to its socket, and when the
server publishes, is up to the surroundings.

Every step of a course comes down to one of five, and what these keep is kept along the
whole course.
-/

namespace RespClient

structure Dialogue (σ τ : Type) where
  connection : Connection σ
  server : τ
  /-- Commands on their way to the server, the oldest first. -/
  inbox : List Order := []

/-- What goes on around a client. -/
structure Surroundings (σ τ : Type) [Socket σ] where
  /-- With these bytes the one socket becomes the other. -/
  arrives : σ → Bytes → σ → Prop
  publishes : τ → Notice → Prop
  pending_of_arrives : ∀ {before after : σ} {bytes : Bytes}, arrives before bytes after →
    Socket.pending after = Socket.pending before ++ bytes
  isAnswer_of_publishes : ∀ {held : τ} {notice : Notice}, publishes held notice →
    notice.isAnswer = false

namespace Surroundings

variable {σ τ : Type} [Socket σ]

/-- Messages come at any time. -/
def any : Surroundings σ τ where
  arrives before bytes after := Socket.pending after = Socket.pending before ++ bytes
  publishes _ notice := notice.isAnswer = false
  pending_of_arrives := id
  isAnswer_of_publishes := id

/-- Messages come to subscriptions that are held. -/
def honest [Broker τ] : Surroundings σ τ where
  arrives before bytes after := Socket.pending after = Socket.pending before ++ bytes
  publishes := Broker.receives
  pending_of_arrives := id
  isAnswer_of_publishes := Broker.isAnswer_of_receives

/-- Nothing is published, and bytes come to a socket in memory. -/
def feeding : Surroundings Scripted τ where
  arrives before bytes after := after = { before with input := before.input ++ bytes }
  publishes _ _ := False
  pending_of_arrives := fun fed => fed ▸ rfl
  isAnswer_of_publishes := False.elim

/-- Bytes come without being recorded as a call. -/
def recording (around : Surroundings (Recorded σ) τ) : Surroundings (Recorded σ) τ where
  arrives before bytes after := around.arrives before bytes after ∧ after.calls = before.calls
  publishes := around.publishes
  pending_of_arrives := fun arrived => around.pending_of_arrives arrived.1
  isAnswer_of_publishes := around.isAnswer_of_publishes

structure Within (narrow wide : Surroundings σ τ) : Prop where
  arrives : ∀ {before after : σ} {bytes : Bytes}, narrow.arrives before bytes after →
    wide.arrives before bytes after
  publishes : ∀ {held : τ} {notice : Notice}, narrow.publishes held notice →
    wide.publishes held notice

theorem within_any (around : Surroundings σ τ) : around.Within any :=
  ⟨around.pending_of_arrives, around.isAnswer_of_publishes⟩

theorem feeding_within_honest [Broker τ] :
    (feeding : Surroundings Scripted τ).Within honest :=
  ⟨feeding.pending_of_arrives, False.elim⟩

theorem recording_within (around : Surroundings (Recorded σ) τ) :
    around.recording.Within around :=
  ⟨And.left, id⟩

end Surroundings

/-- Usable and idle, and as if there had never been a subscription. -/
structure Connection.InCommandMode {σ : Type} [Socket σ] (connection : Connection σ) : Prop where
  usable : connection.broken = none
  unawaited : connection.inFlight = 0
  unqueued : connection.pending = #[]
  unsubscribed : connection.subscribed = false
  unowed : connection.owedAcks = 0
  unheld : connection.subscriptions = 0
  silent : connection.transport.stream = []

namespace Dialogue

variable {σ τ : Type} [Broker τ] [Socket σ]

/-- The ways to get to a dialogue from this connection and a server that starts with these
subscriptions, so that these commands have been sent and these frames have been heard. A command
that cannot be sent has been refused by the client, or it has broken the connection. -/
inductive Course (around : Surroundings σ τ) (first : Connection σ) (start : τ) :
    List Order → List Reply → Dialogue σ τ → Prop where
  | opened : Course around first start [] [] { connection := first, server := start }
  | sent {orders : List Order} {heard : List Reply} {dialogue : Dialogue σ τ}
      (course : Course around first start orders heard dialogue) (order : Order)
      {subscriber : Subscriber σ}
      (done : order.call.perform.runFrom { connection := dialogue.connection } =
        (.ok (), subscriber)) :
      Course around first start (orders ++ [order]) heard { dialogue with
        connection := subscriber.connection
        inbox := dialogue.inbox ++ [order] }
  | failed {orders : List Order} {heard : List Reply} {dialogue : Dialogue σ τ}
      (course : Course around first start orders heard dialogue) (call : SubscriptionCall)
      {cause : ClientError} {subscriber : Subscriber σ}
      (failed : call.perform.runFrom { connection := dialogue.connection } =
        (.error cause, subscriber)) :
      Course around first start orders heard
        { dialogue with connection := subscriber.connection }
  | listened {orders : List Order} {heard : List Reply} {dialogue : Dialogue σ τ}
      (course : Course around first start orders heard dialogue) (listening : Listening)
      (timeout : Option Nat) :
      Course around first start orders (heard ++ listening.heard timeout dialogue.connection)
        { dialogue with connection := listening.after timeout dialogue.connection }
  | served {orders : List Order} {heard : List Reply} {dialogue : Dialogue σ τ}
      (course : Course around first start orders heard dialogue) {order : Order}
      {others : List Order} (queued : dialogue.inbox = order :: others) {socket : σ}
      (arrived : around.arrives dialogue.connection.transport.socket
        ((Broker.respond dialogue.server order).1.flatMap Notice.bytes) socket) :
      Course around first start orders heard
        { connection := dialogue.connection.withSocket socket
          server := (Broker.respond dialogue.server order).2
          inbox := others }
  | published {orders : List Order} {heard : List Reply} {dialogue : Dialogue σ τ}
      (course : Course around first start orders heard dialogue) {notice : Notice}
      (published : around.publishes dialogue.server notice) {socket : σ}
      (arrived : around.arrives dialogue.connection.transport.socket notice.bytes socket) :
      Course around first start orders heard
        { dialogue with connection := dialogue.connection.withSocket socket }

variable {around : Surroundings σ τ} {first : Connection σ} {start : τ} {orders : List Order}
  {heard : List Reply} {dialogue : Dialogue σ τ}

/-- What is possible in some surroundings is possible in wider ones. -/
theorem Course.widen {wide : Surroundings σ τ} (within : around.Within wide)
    (course : Course around first start orders heard dialogue) :
    Course wide first start orders heard dialogue := by
  induction course with
  | opened => exact .opened
  | sent _ order done ih => exact ih.sent order done
  | failed _ call failed ih => exact ih.failed call failed
  | listened _ listening timeout ih => exact ih.listened listening timeout
  | served _ queued arrived ih => exact ih.served queued (within.arrives arrived)
  | published _ published arrived ih =>
      exact ih.published (within.publishes published) (within.arrives arrived)

/-! ## The steps of a course -/

/-- What a course keeps. A command is sent and counted. The socket is busy, in vain or not. A frame
is taken off the stream and accounted for. The server answers a command or publishes a message. -/
structure Keeps (around : Surroundings σ τ)
    (motive : List Order → List Reply → Dialogue σ τ → Prop) : Prop where
  sent : ∀ {orders : List Order} {heard : List Reply} {dialogue : Dialogue σ τ} {order : Order}
    {transport : Transport σ}, motive orders heard dialogue → order.call.Sendable →
    transport.stream = dialogue.connection.transport.stream →
    motive (orders ++ [order]) heard { dialogue with
      connection := { dialogue.connection with
        transport
        owedAcks := dialogue.connection.owedAcks + max order.call.targets.length 1
        subscribed := true }
      inbox := dialogue.inbox ++ [order] }
  busy : ∀ {orders : List Order} {heard : List Reply} {dialogue : Dialogue σ τ}
    {transport : Transport σ} {broken : Option FatalError}, motive orders heard dialogue →
    (broken = none → dialogue.connection.broken = none ∧
      transport.stream = dialogue.connection.transport.stream) →
    motive orders heard
      { dialogue with connection := { dialogue.connection with transport, broken } }
  taken : ∀ {orders : List Order} {heard : List Reply} {dialogue : Dialogue σ τ}
    {transport : Transport σ} {reply : Reply} {bytes : Bytes}, motive orders heard dialogue →
    dialogue.connection.broken = none → Reply.Frame (fun _ => True) 0 reply bytes →
    dialogue.connection.transport.stream = bytes ++ transport.stream →
    motive orders (heard ++ [reply]) { dialogue with
      connection := Connection.noteAck reply { dialogue.connection with transport } }
  served : ∀ {orders : List Order} {heard : List Reply} {dialogue : Dialogue σ τ} {order : Order}
    {others : List Order} {socket : σ}, motive orders heard dialogue →
    dialogue.inbox = order :: others →
    around.arrives dialogue.connection.transport.socket
      ((Broker.respond dialogue.server order).1.flatMap Notice.bytes) socket →
    motive orders heard
      { connection := dialogue.connection.withSocket socket
        server := (Broker.respond dialogue.server order).2
        inbox := others }
  published : ∀ {orders : List Order} {heard : List Reply} {dialogue : Dialogue σ τ}
    {notice : Notice} {socket : σ}, motive orders heard dialogue →
    around.publishes dialogue.server notice →
    around.arrives dialogue.connection.transport.socket notice.bytes socket →
    motive orders heard { dialogue with connection := dialogue.connection.withSocket socket }

namespace Keeps

variable {motive : List Order → List Reply → Dialogue σ τ → Prop}

/-- A wait takes the first frame of the stream, or it leaves the stream alone. -/
theorem waited (keeps : Keeps around motive) (before : motive orders heard dialogue)
    (timeout : Option Nat) :
    motive orders (heard ++ (dialogue.connection.heard? timeout).toList) { dialogue with
      connection := ((Connection.waitMessage timeout).runFrom dialogue.connection).2 } := by
  rw [Connection.runFrom_waitMessage, Connection.heard?]
  rcases Connection.takeFrame_cases timeout dialogue.connection with
    ⟨cause, refused⟩ | ⟨cause, transport, failed⟩ | ⟨transport, kept, nothing⟩ |
    ⟨transport, reply, bytes, frame, split, usable, took⟩
  · rw [refused, Option.toList_none, List.append_nil]
    exact before
  · rw [failed, Option.toList_none, List.append_nil]
    exact keeps.busy before fun usable => absurd usable (Connection.marked_ne_none _ _)
  · rw [nothing, Option.toList_none, List.append_nil]
    exact keeps.busy before fun usable => ⟨usable, kept⟩
  · rw [took]
    exact keeps.taken before usable frame split

theorem listened (keeps : Keeps around motive) (before : motive orders heard dialogue)
    (listening : Listening) (timeout : Option Nat) :
    motive orders (heard ++ listening.heard timeout dialogue.connection)
      { dialogue with connection := listening.after timeout dialogue.connection } :=
  listening.induct (motive := fun heard connection =>
    motive orders heard { dialogue with connection }) (fun now => keeps.waited now timeout) before

theorem course [Socket.Quiet σ] (keeps : Keeps around motive)
    (course : Course around first start orders heard dialogue)
    (opened : motive [] [] { connection := first, server := start }) :
    motive orders heard dialogue := by
  induction course with
  | opened => exact opened
  | @sent _ _ dialogue _ order _ done ih =>
      rcases order.call.perform_cases dialogue.connection with
        ⟨cause, refused⟩ | ⟨cause, transport, failed⟩ | ⟨transport, count, sendable, written, sent⟩
      · cases refused.symm.trans done
      · cases failed.symm.trans done
      · cases sent.symm.trans done
        have kept := Transport.writeMany_stream dialogue.connection.transport
          [order.call.command.frame]
        rw [written] at kept
        exact keeps.sent ih sendable kept
  | @failed _ _ dialogue _ call _ _ failed ih =>
      rcases call.perform_cases dialogue.connection with
        ⟨cause, refused⟩ | ⟨cause, transport, broke⟩ | ⟨transport, count, -, -, sent⟩
      · cases refused.symm.trans failed
        exact ih
      · cases broke.symm.trans failed
        exact keeps.busy ih fun usable => absurd usable (Connection.marked_ne_none _ _)
      · cases sent.symm.trans failed
  | listened _ listening timeout ih => exact keeps.listened ih listening timeout
  | served _ queued arrived ih => exact keeps.served ih queued arrived
  | published _ published arrived ih => exact keeps.published ih published arrived

end Keeps

end Dialogue

end RespClient
