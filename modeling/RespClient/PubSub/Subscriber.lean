import RespClient.Connection
import RespClient.PubSub.Event

/-!
# Subscribers

Subscription commands are sent without waiting for an answer; acknowledgements
arrive among the pushed frames. The connection stays in subscribe mode until an
acknowledgement reports that no subscription is left while no other one is owed.
-/

namespace RespClient

namespace Connection

variable {σ : Type}

/-- Accounts for a frame that may be an acknowledgement. -/
def noteAck (reply : Reply) (connection : Connection σ) : Connection σ :=
  match Ack.ofReply? reply with
  | none => connection
  | some ack =>
      let owedAcks := connection.owedAcks - 1
      let left := ack.kind.isUnsubscribe && ack.count = 0 && owedAcks = 0
      { connection with
        owedAcks
        subscriptions := ack.count
        subscribed := connection.subscribed && !left }

variable [Socket σ]

/-- The next pushed frame, unless none arrives in time. -/
def waitMessage (timeout : Option Nat) : Action σ (Option Reply) := do
  ensure (checkNothingPending .waitForMessages)
  if ← perform (Transport.wait timeout) then
    let frame ← perform Reply.readFrame
    let reply ← frame.check
    modify (noteAck reply)
    return some reply
  else return none

/-- Sends a subscription command. Each name in it will be acknowledged, and a command without names
at least once. -/
def sendSubscription (command : Command) : Action σ Unit := do
  ensure (checkNothingPending (.send command.name))
  perform (Transport.write command.frame)
  modify fun connection =>
    { connection with
      owedAcks := connection.owedAcks + max command.arguments.size 1
      subscribed := true }

end Connection

structure Subscriber (σ : Type) where
  connection : Connection σ

namespace Subscriber

variable {σ : Type}

abbrev Action (σ α : Type) := Attempt ClientError (Subscriber σ) α

def perform {α : Type} (action : Connection.Action σ α) : Action σ α :=
  .ofStep fun subscriber =>
    let (outcome, connection) := action.runFrom subscriber.connection
    (outcome, { connection })

/-- A subscriber on a connection that nothing is in flight on. Another connection stays as it is. -/
def start (connection : Connection σ) : Except ClientError (Subscriber σ) := do
  connection.checkNothingPending .subscribe
  return { connection }

def command (name : String) (targets : List Bytes) : Command :=
  (Command.named name).args (targets.map .bytes)

variable [Socket σ]

/-- Sends a command that has to name its targets. -/
def sendNamed (name : String) (unnamed : UsageError) (targets : List Bytes) : Action σ Unit :=
  if targets = [] then throw (.usage unnamed)
  else perform (Connection.sendSubscription (command name targets))

def subscribe (channels : List Bytes) : Action σ Unit :=
  sendNamed "SUBSCRIBE" .noChannel channels

def psubscribe (patterns : List Bytes) : Action σ Unit :=
  sendNamed "PSUBSCRIBE" .noPattern patterns

/-- Without channels, unsubscribes from all of them. -/
def unsubscribe (channels : List Bytes) : Action σ Unit :=
  perform (Connection.sendSubscription (command "UNSUBSCRIBE" channels))

/-- Without patterns, unsubscribes from all of them. -/
def punsubscribe (patterns : List Bytes) : Action σ Unit :=
  perform (Connection.sendSubscription (command "PUNSUBSCRIBE" patterns))

/-- The next pushed frame of any kind. -/
def nextEvent (timeout : Option Nat) : Action σ (Option Event) := do
  match ← perform (Connection.waitMessage timeout) with
  | none => return none
  | some reply =>
      let event ← Event.ofReply reply
      return some event

/-- The next message among at most `frames` frames. -/
def nextMessageWithin (timeout : Option Nat) : (frames : Nat) → Action σ (Option Message)
  | 0 => return none
  | frames + 1 => do
      match ← nextEvent timeout with
      | none => return none
      | some (.message message) => return some message
      | some _ => nextMessageWithin timeout frames

/-- How many bytes are still to be read, from the buffer and from the socket. -/
def outstanding (subscriber : Subscriber σ) : Nat :=
  let transport := subscriber.connection.transport
  transport.unread.length + (Socket.pending transport.socket).length

/-- The next published message; acknowledgements and unknown frames are skipped. Each frame takes at
least one byte, so the outstanding bytes bound their number. There is no clock here: every frame is
waited for with the whole timeout, and not with what is left of it until a deadline. -/
def nextMessage (timeout : Option Nat) : Action σ (Option Message) := do
  nextMessageWithin timeout ((← get).outstanding + 1)

end Subscriber

end RespClient
