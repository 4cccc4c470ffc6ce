import RespClient.Batch
import RespClient.PubSub.Subscriber
import RespClient.Text.Record

/-!
# Printed connections

The state of a connection, of a batch and of a subscriber as one line.
-/

namespace RespClient

open Decimal (showNat)
open Text (showFlag)

variable {σ : Type}

def Connection.print (connection : Connection σ) : String :=
  Text.printRecord "Connection"
    [⟨"in_flight", showNat connection.inFlight⟩,
     ⟨"pending", showNat connection.pending.size⟩,
     ⟨"broken", Text.quoteOption (connection.broken.map FatalError.message)⟩,
     ⟨"subscribed", showFlag connection.subscribed⟩,
     ⟨"owed_acks", showNat connection.owedAcks⟩,
     ⟨"subscriptions", showNat connection.subscriptions⟩]

def Batch.print {α : Type} (batch : Batch σ α) : String :=
  Text.printRecord "Batch"
    [⟨"kind", batch.kind.name⟩,
     ⟨"len", showNat batch.length⟩,
     ⟨"resolved", showFlag batch.resolved⟩]

def Subscriber.print (subscriber : Subscriber σ) : String :=
  Text.printRecord "Subscriber" [⟨"connection", subscriber.connection.print⟩]

end RespClient
