import RespClient.Connection

/-!
# Batches

A batch holds a connection while commands are collected, each with the decoder of
its result. Resolving a pipeline reads one reply for every command. Resolving a
transaction drops the acknowledgements of `MULTI` and of the commands, and takes
the results from the array that answers `EXEC`. Every reply is read before any
decoder runs, so a decoder that fails leaves the connection idle all the same.
-/

namespace RespClient

inductive BatchKind where
  | pipeline
  | transaction
deriving DecidableEq

def BatchKind.name : BatchKind → String
  | pipeline => "Pipeline"
  | transaction => "Transaction"

/-- The frames that a batch begins with. -/
def BatchKind.opening : BatchKind → List Bytes
  | pipeline => []
  | transaction => [Command.multi.frame]

abbrev Decoder (α : Type) := Reply → Except ClientError α

/-- The results that decoders find in the replies, up to the first failure. -/
def decodeReplies {m : Type → Type} [Monad m] {α : Type} (decoders : List (Reply → m α))
    (replies : List Reply) : m (List α) :=
  (decoders.zip replies).mapM fun pair => pair.1 pair.2

structure Batch (σ α : Type) where
  connection : Connection σ
  kind : BatchKind
  decoders : Array (Decoder α) := #[]
  resolved : Bool := false

namespace Batch

variable {σ α : Type}

abbrev Action (σ α β : Type) := Attempt ClientError (Batch σ α) β

/-- An action on the connection that the batch holds. -/
def perform {β : Type} (action : Connection.Action σ β) : Action σ α β :=
  .ofStep fun batch =>
    let (outcome, connection) := action.runFrom batch.connection
    (outcome, { batch with connection })

/-- A batch on an idle connection. A transaction begins with `MULTI`. -/
def start (kind : BatchKind) (connection : Connection σ) : Except ClientError (Batch σ α) := do
  connection.checkIdle .startBatch
  return { connection := kind.opening.foldl Connection.queue connection, kind }

def length (batch : Batch σ α) : Nat :=
  batch.decoders.size

def isEmpty (batch : Batch σ α) : Bool :=
  batch.decoders.isEmpty

/-- Queues a command and returns the position of its result. -/
def append (frame : Bytes) (decoder : Decoder α) : Action σ α Nat := do
  if (← get).resolved then throw (.usage .appendAfterResolve)
  else
    perform (Connection.append frame)
    modify fun batch => { batch with decoders := batch.decoders.push decoder }
    return (← get).length - 1

/-- Takes the decoders out of a batch that has not been resolved before. -/
def takeDecoders : Action σ α (List (Decoder α)) := do
  let batch : Batch σ α ← get
  if batch.resolved then throw (.usage .alreadyResolved)
  else
    modify fun batch => { batch with resolved := true, decoders := #[] }
    return batch.decoders.toList

variable [Socket σ]

def pipelineReplies (count : Nat) : Connection.Action σ (List Reply) :=
  Connection.getReplies count

/-- The results of `count` commands in the answer to `EXEC`. An answer that cannot be matched with
the commands means that the stream is out of step. -/
def execResults (count : Nat) : Reply → Connection.Action σ (List Reply)
  | .array results =>
      if results.length = count then return results
      else Connection.abandon (.protocol (.resultCount count results.length))
  | .nil => throw (.server "transaction aborted: a watched key was modified")
  | .error message => throw (.server message)
  | other => Connection.abandon (.protocol (.execWithoutArray other.kind))

/-- The results of a transaction of `count` commands. -/
def transactionReplies (count : Nat) : Connection.Action σ (List Reply) := do
  Connection.append Command.exec.frame
  Connection.discardReplies (count + 1)
  let answer ← Connection.getReply
  execResults count answer

def replies : BatchKind → (count : Nat) → Connection.Action σ (List Reply)
  | .pipeline, count => pipelineReplies count
  | .transaction, count => transactionReplies count

/-- Sends everything and decodes one result for each command, in the order of the commands. -/
def resolve : Action σ α (List α) := do
  let decoders ← takeDecoders
  let results ← perform (replies (← get).kind decoders.length)
  (decodeReplies decoders results : Except ClientError (List α))

/-- Gives the batch up and drains the replies to what it had queued. -/
def discard : Action σ α Unit := do
  let _ ← takeDecoders
  if (← get).kind = .transaction then perform (Connection.append Command.discard.frame)
  perform Connection.discardAll

/-- Ends the batch and hands the connection back. A batch that has not been resolved is discarded,
and replies that are still outstanding are drained unless the connection is broken. -/
def release (batch : Batch σ α) : Connection σ :=
  let ended := if batch.resolved then batch else ((discard (α := α)).runFrom batch).2
  let connection := ended.connection
  if connection.isBroken || connection.inFlight = 0 then connection
  else (Connection.discardAll.runFrom connection).2

/-- Lets go of the connection and leaves everything queued as it is. -/
def forget (batch : Batch σ α) : Connection σ :=
  batch.connection

end Batch

end RespClient
