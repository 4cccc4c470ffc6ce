import Mathlib.Algebra.Ring.Nat
import RespClient.Proofs.PubSub.Notice
import RespClient.PubSub.Subscriber
import RespClient.Text.Lossy

/-!
# Subscriptions

The commands by which a client subscribes and unsubscribes, and what a server keeps for
a connection that gives them: the channels and patterns it is subscribed to. Published
messages come only while a subscription is there to receive them.
-/

namespace RespClient

/-- A subscription command as a client gives it. -/
structure SubscriptionCall where
  kind : AckKind
  targets : List Bytes

namespace SubscriptionCall

def perform {σ : Type} [Socket σ] (call : SubscriptionCall) : Subscriber.Action σ Unit :=
  match call.kind with
  | .subscribe => Subscriber.subscribe call.targets
  | .psubscribe => Subscriber.psubscribe call.targets
  | .unsubscribe => Subscriber.unsubscribe call.targets
  | .punsubscribe => Subscriber.punsubscribe call.targets

/-- What a client sends. New subscriptions have to be named. -/
def Sendable (call : SubscriptionCall) : Prop :=
  call.targets ≠ [] ∨ call.kind.isUnsubscribe = true

/-- How many acknowledgements the client expects for these calls. -/
def counted (calls : List SubscriptionCall) : Nat :=
  (calls.map fun call => max call.targets.length 1).sum

theorem counted_append (calls : List SubscriptionCall) (call : SubscriptionCall) :
    counted (calls ++ [call]) = counted calls + max call.targets.length 1 := by
  simp [counted]

end SubscriptionCall

structure Subscriptions where
  channels : List String := []
  patterns : List String := []

namespace Subscriptions

def total (held : Subscriptions) : Nat :=
  held.channels.length + held.patterns.length

def change (kind : AckKind) (target : String) (held : Subscriptions) : Subscriptions :=
  match kind with
  | .subscribe => { held with channels := held.channels.insert target }
  | .unsubscribe => { held with channels := held.channels.erase target }
  | .psubscribe => { held with patterns := held.patterns.insert target }
  | .punsubscribe => { held with patterns := held.patterns.erase target }

/-- What a command without targets is about. -/
def implied (kind : AckKind) (held : Subscriptions) : List String :=
  match kind with
  | .unsubscribe => held.channels.mergeSort
  | .punsubscribe => held.patterns.mergeSort
  | _ => []

/-- The message may be sent while these subscriptions are held. Any channel may match a pattern. -/
def Receives (held : Subscriptions) : Notice → Prop
  | .message channel _ => ∃ name ∈ held.channels, channel = Bytes.ofText name
  | .patternMessage pattern _ _ => ∃ name ∈ held.patterns, pattern = Bytes.ofText name
  | .ack _ _ _ | .refusal _ => False

theorem Receives.isAnswer_eq_false {held : Subscriptions} {notice : Notice}
    (received : held.Receives notice) : notice.isAnswer = false := by
  cases notice with
  | message | patternMessage => rfl
  | ack | refusal => exact received.elim

theorem Receives.total_pos {held : Subscriptions} {notice : Notice}
    (received : held.Receives notice) : 0 < held.total := by
  unfold total
  cases notice with
  | message channel payload =>
      obtain ⟨name, member, -⟩ := received
      exact Nat.add_pos_left (List.length_pos_of_mem member) _
  | patternMessage pattern channel payload =>
      obtain ⟨name, member, -⟩ := received
      exact Nat.add_pos_right _ (List.length_pos_of_mem member)
  | ack | refusal => exact received.elim

end Subscriptions

end RespClient
