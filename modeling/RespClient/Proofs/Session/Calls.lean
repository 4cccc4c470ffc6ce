import RespClient.Proofs.Batch.Settling
import RespClient.Proofs.Reply.Conversion
import RespClient.PubSub.Subscriber

/-!
# Sessions

A connection is free, or a batch or a subscriber holds it. What a program can call
depends on which of the three it is. A call fails or not and leaves a session behind;
on its way the first fatal error may be observed, which the drop of a batch keeps to
itself. What a decoder of the caller fails with is not an observation.
-/

namespace RespClient

variable {σ α : Type}

/-! ## What a drop keeps to itself -/

namespace Connection

variable [Socket σ]

/-- The connection without the replies that are outstanding, unless it is broken. -/
def drained (connection : Connection σ) : Connection σ :=
  if connection.isBroken || connection.inFlight = 0 then connection
  else (discardAll.runFrom connection).2

/-- What goes wrong as the connection is drained. -/
def draining (connection : Connection σ) : Option FatalError :=
  if connection.isBroken || connection.inFlight = 0 then none
  else fatalOf (discardAll.runFrom connection).1

end Connection

namespace Batch

variable [Socket σ]

/-- The batch once it has been discarded, if that was still to be done. -/
def ended (batch : Batch σ α) : Batch σ α :=
  if batch.resolved then batch else ((discard (α := α)).runFrom batch).2

/-- What goes wrong as the batch is discarded. -/
def ending (batch : Batch σ α) : Option FatalError :=
  if batch.resolved then none else fatalOf ((discard (α := α)).runFrom batch).1

def swallowed (batch : Batch σ α) : Option FatalError :=
  batch.ending <|> batch.ended.connection.draining

theorem release_eq (batch : Batch σ α) : batch.release = batch.ended.connection.drained := rfl

end Batch

/-! ## Sessions and their calls -/

inductive Session (σ : Type) : Type 1 where
  | free (connection : Connection σ)
  | batch {α : Type} (held : Batch σ α)
  | subscriber (held : Subscriber σ)

namespace Session

def connection : Session σ → Connection σ
  | free connection => connection
  | batch held => held.connection
  | subscriber held => held.connection

/-- What a call does in a session. -/
structure Effect (σ : Type) : Type 1 where
  failure : Option ClientError
  observed : Option FatalError
  after : Session σ

/-- The effect of an action on what holds the connection. -/
def Effect.of {state : Type} (back : state → Session σ) (action : Attempt ClientError state α)
    (before : state) : Effect σ where
  failure := failureOf (action.runFrom before).1
  observed := fatalOf (action.runFrom before).1
  after := back (action.runFrom before).2

/-- The effect of taking a free connection up. It is checked first, and no check changes it. -/
def Effect.opening {state : Type} (back : state → Session σ) (connection : Connection σ) :
    Except ClientError state → Effect σ
  | .ok opened => ⟨none, none, back opened⟩
  | .error cause => ⟨some cause, cause.fatal?, .free connection⟩

/-- What can be called in a session. -/
inductive Call : Session σ → Type 1 where
  | execute {connection : Connection σ} (frame : Bytes) : Call (.free connection)
  | query {connection : Connection σ} (type : ResultType) (command : Command) :
      Call (.free connection)
  | executeInto {connection : Connection σ} (type : ResultType) (frame : Bytes)
      (current : type.Value) : Call (.free connection)
  | waitMessage {connection : Connection σ} (timeout : Option Nat) : Call (.free connection)
  | startBatch {connection : Connection σ} (α : Type) (kind : BatchKind) : Call (.free connection)
  | startSubscriber {connection : Connection σ} : Call (.free connection)
  | append {α : Type} {held : Batch σ α} (frame : Bytes) (decoder : Decoder α) :
      Call (.batch held)
  | resolve {α : Type} {held : Batch σ α} : Call (.batch held)
  | discard {α : Type} {held : Batch σ α} : Call (.batch held)
  | drop {α : Type} {held : Batch σ α} : Call (.batch held)
  | forget {α : Type} {held : Batch σ α} : Call (.batch held)
  | subscribe {held : Subscriber σ} (channels : List Bytes) : Call (.subscriber held)
  | psubscribe {held : Subscriber σ} (patterns : List Bytes) : Call (.subscriber held)
  | unsubscribe {held : Subscriber σ} (channels : List Bytes) : Call (.subscriber held)
  | punsubscribe {held : Subscriber σ} (patterns : List Bytes) : Call (.subscriber held)
  | nextEvent {held : Subscriber σ} (timeout : Option Nat) : Call (.subscriber held)
  | nextMessage {held : Subscriber σ} (timeout : Option Nat) : Call (.subscriber held)
  | letGo {held : Subscriber σ} : Call (.subscriber held)

namespace Call

variable [Socket σ]

def effect : {session : Session σ} → Call session → Effect σ
  | .free connection, execute frame => .of .free (Connection.execute frame) connection
  | .free connection, query type command => .of .free (Connection.query type command) connection
  | .free connection, executeInto type frame current =>
      .of .free (Connection.executeInto type frame current) connection
  | .free connection, waitMessage timeout => .of .free (Connection.waitMessage timeout) connection
  | .free connection, startBatch α kind =>
      .opening (batch (α := α)) connection (Batch.start kind connection)
  | .free connection, startSubscriber =>
      .opening .subscriber connection (Subscriber.start connection)
  | .batch held, append frame decoder => .of .batch (Batch.append frame decoder) held
  | .batch held, resolve =>
      { Effect.of .batch Batch.resolve held with
        observed := fatalOf (Batch.collect.runFrom held).1 }
  | .batch held, discard => .of .batch Batch.discard held
  | .batch held, drop => ⟨none, held.swallowed, .free held.release⟩
  | .batch held, forget => ⟨none, none, .free held.forget⟩
  | .subscriber held, subscribe channels => .of .subscriber (Subscriber.subscribe channels) held
  | .subscriber held, psubscribe patterns => .of .subscriber (Subscriber.psubscribe patterns) held
  | .subscriber held, unsubscribe channels =>
      .of .subscriber (Subscriber.unsubscribe channels) held
  | .subscriber held, punsubscribe patterns =>
      .of .subscriber (Subscriber.punsubscribe patterns) held
  | .subscriber held, nextEvent timeout => .of .subscriber (Subscriber.nextEvent timeout) held
  | .subscriber held, nextMessage timeout => .of .subscriber (Subscriber.nextMessage timeout) held
  | .subscriber held, letGo => ⟨none, none, .free held.connection⟩

/-- The calls that ask for a usable connection before all else. -/
def Gated : {session : Session σ} → Call session → Prop
  | .batch _, _ => False
  | .subscriber _, subscribe channels => channels ≠ []
  | .subscriber _, psubscribe patterns => patterns ≠ []
  | .subscriber _, letGo => False
  | _, _ => True

end Call

/-- Calls one after the other, and the first fatal error that any of them observed. -/
inductive Run [Socket σ] (start : Session σ) : Option FatalError → Session σ → Prop where
  | start : Run start none start
  | call {seen : Option FatalError} {session : Session σ} (run : Run start seen session)
      (call : Call session) : Run start (seen <|> call.effect.observed) call.effect.after

end Session

end RespClient
