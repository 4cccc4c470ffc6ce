import RespClient.Command
import RespClient.Reply.Reader
import RespClient.Transport.Send

/-!
# Connections

A connection counts the requests whose replies are still unread. Replies come in
the order of the requests, so an operation that leaves nothing in flight leaves
the stream aligned for the next one. The first fatal error marks the connection
as broken, and from then on nothing touches the socket.
-/

namespace RespClient

structure Connection (σ : Type) where
  transport : Transport σ
  /-- Requests sent or queued whose reply has not been read. -/
  inFlight : Nat := 0
  /-- Frames queued and not yet written. -/
  pending : Array Bytes := #[]
  broken : Option FatalError := none
  subscribed : Bool := false
  /-- Acknowledgements of subscription commands that are still to come. -/
  owedAcks : Nat := 0
  /-- The number of subscriptions that the latest acknowledgement reported. -/
  subscriptions : Nat := 0

namespace Connection

variable {σ : Type}

abbrev Action (σ α : Type) := Attempt ClientError (Connection σ) α

def ofSocketWith (readBuffer : Nat) (socket : σ) : Connection σ :=
  { transport := .ofSocketWith readBuffer socket }

def ofSocket (socket : σ) : Connection σ :=
  { transport := .ofSocket socket }

def isIdle (connection : Connection σ) : Bool :=
  connection.inFlight = 0 && connection.pending.isEmpty

def isBroken (connection : Connection σ) : Bool :=
  connection.broken.isSome

def usageFailure {α : Type} (cause : UsageError) : Action σ α :=
  throw (.usage cause)

/-- An action on the transport. If it fails, the connection is broken. -/
def perform {α : Type} (action : Attempt FatalError (Transport σ) α) : Action σ α :=
  .ofStep fun connection =>
    match action.runFrom connection.transport with
    | (.ok value, transport) => (.ok value, { connection with transport })
    | (.error cause, transport) =>
        (.error (.fatal cause),
          { connection with transport, broken := connection.broken <|> some cause })

/-- Marks the connection as broken for a reason that only the caller could see. -/
def abandon {α : Type} (cause : FatalError) : Action σ α :=
  .ofStep fun connection =>
    (.error (.fatal cause), { connection with broken := connection.broken <|> some cause })

/-! A check reads the connection and cannot change it. -/

def checkUsable (connection : Connection σ) : Except ClientError Unit :=
  match connection.broken with
  | some reason => .error (.usage (.broken reason))
  | none => .ok ()

def checkNothingPending (activity : Activity) (connection : Connection σ) :
    Except ClientError Unit := do
  connection.checkUsable
  if 0 < connection.inFlight then
    throw (.usage (.requestsPending activity connection.inFlight))

/-- Usable, nothing in flight, and not in subscribe mode. -/
def checkIdle (activity : Activity) (connection : Connection σ) : Except ClientError Unit := do
  connection.checkNothingPending activity
  if connection.subscribed then throw (.usage (.inSubscribeMode activity))

/-- Goes on if the connection passes a check. -/
def ensure (check : Connection σ → Except ClientError Unit) : Action σ Unit := do
  check (← get)

/-- The connection with one more frame in its queue. -/
def queue (connection : Connection σ) (frame : Bytes) : Connection σ :=
  { connection with
    pending := connection.pending.push frame
    inFlight := connection.inFlight + 1 }

/-- Queues a frame. Nothing is written before a reply is needed. -/
def append (frame : Bytes) : Action σ Unit :=
  modify fun connection => connection.queue frame

variable [Socket σ]

/-- Writes every queued frame. The queue is empty afterwards, also if writing failed. -/
def flush : Action σ Unit := do
  let frames := (← get).pending
  if frames.isEmpty then return
  else
    modify fun connection => { connection with pending := #[] }
    let _ ← perform (Transport.writeMany frames.toList)

/-- The oldest outstanding reply, a server error included. Queued frames are written first. -/
def getReply : Action σ Reply := do
  ensure checkUsable
  if (← get).inFlight = 0 then usageFailure .nothingInFlight
  else
    flush
    modify fun connection => { connection with inFlight := connection.inFlight - 1 }
    perform Reply.readFrame

/-- The next `count` replies. -/
def getReplies : (count : Nat) → Action σ (List Reply)
  | 0 => return []
  | count + 1 => do
      let reply ← getReply
      let rest ← getReplies count
      return reply :: rest

def dropReplies : (count : Nat) → Action σ Unit
  | 0 => return
  | count + 1 => do
      let _ ← getReply
      dropReplies count

/-- Reads `count` replies for their place in the stream alone; server errors count as well. -/
def discardReplies (count : Nat) : Action σ Unit := do
  let connection ← get
  if connection.inFlight < count then
    usageFailure (.discardTooMany count connection.inFlight)
  else dropReplies count

def discardAll : Action σ Unit := do
  discardReplies (← get).inFlight

/-- Sends one request and reads its reply, which fails if it is a server error. -/
def execute (frame : Bytes) : Action σ Reply := do
  ensure (checkIdle .execute)
  append frame
  let reply ← getReply
  reply.check

/-- Runs a command and decodes its reply. -/
def query (type : ResultType) (command : Command) : Action σ type.Value := do
  let reply ← execute command.frame
  type.decode reply

/-- Runs a request for a new value of `current`. A nil reply keeps the old one and gives `false`. -/
def executeInto (type : ResultType) (frame : Bytes) (current : type.Value) :
    Action σ (type.Value × Bool) := do
  let reply ← execute frame
  if reply.isNil then return (current, false)
  else
    let value ← type.decode reply
    return (value, true)

end Connection

end RespClient
