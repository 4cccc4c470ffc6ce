import RespClient.Proofs.Connection.Counting
import RespClient.Proofs.PubSub.Subscribing

/-!
# Subscribers and the count of replies

Nothing is in flight while a connection is used for subscriptions. A subscriber asks
before it sends a command or waits for a frame; if it then goes on to further frames, it
is not refused any more.
-/

namespace RespClient

open Attempt (Ends Proceeds)
open Connection (Counts)

variable {σ α : Type}

namespace Subscriber

theorem perform_proceeds {held : Subscriber σ} {action : Connection.Action σ α}
    (proceeds : Proceeds id held.connection (action.runFrom held.connection)) :
    Proceeds connection held ((perform action).runFrom held) := by
  rw [runFrom_perform]
  rcases ran : action.runFrom held.connection with ⟨outcome, after⟩
  rw [ran] at proceeds
  cases proceeds with
  | refused => exact .refused
  | ended clear ends => exact .ended clear (ends.within rfl)

variable [Socket σ] {held : Subscriber σ}

theorem sendNamed_proceeds (name : String) (unnamed : UsageError) (targets : List Bytes)
    (backed : held.connection.Backed) :
    Proceeds connection held ((sendNamed name unnamed targets).runFrom held) := by
  unfold sendNamed
  split
  · exact .refused
  · exact perform_proceeds (Connection.sendSubscription_proceeds _ backed)

theorem nextEvent_ends (timeout : Option Nat) (counts : held.connection.Counts 0) :
    Ends connection 0 ((nextEvent timeout).runFrom held) := by
  have waited : Ends connection 0 ((perform (Connection.waitMessage timeout)).runFrom held) :=
    (Connection.waitMessage_ends timeout counts).within rfl
  apply waited.bind
  intro found after last
  split
  · exact .done last
  · next reply =>
      exact Ends.bind (.of_tame (Event.ofReply_tame reply) last) fun _ _ behind => .done behind

theorem nextEvent_proceeds (timeout : Option Nat)
    (backed : held.connection.Backed) :
    Proceeds connection held ((nextEvent timeout).runFrom held) := by
  rcases Connection.checkNothingPending_cases .waitForMessages held.connection with
    clear | ⟨cause, refused⟩
  · have counts := Counts.of_clear backed (Connection.clear_of_checkNothingPending clear)
    exact .ended counts (nextEvent_ends timeout counts)
  · have waited : (perform (Connection.waitMessage timeout)).runFrom held =
        (.error (.usage cause), held) := by
      rw [runFrom_perform, Connection.waitMessage,
        Attempt.runFrom_bind_error (Connection.ensure_error refused)]
    rw [nextEvent, Attempt.runFrom_bind_error waited]
    exact .refused

theorem nextMessageWithin_ends (timeout : Option Nat) (frames : Nat)
    (counts : held.connection.Counts 0) :
    Ends connection 0 ((nextMessageWithin timeout frames).runFrom held) := by
  induction frames generalizing held with
  | zero => exact .done counts
  | succ frames ih =>
      apply (nextEvent_ends timeout counts).bind
      intro found after last
      split
      · exact .done last
      · exact .done last
      · exact ih last

/-- Only the first of the frames can be refused. -/
theorem nextMessage_proceeds (timeout : Option Nat)
    (backed : held.connection.Backed) :
    Proceeds connection held ((nextMessage timeout).runFrom held) := by
  rw [nextMessage, Attempt.runFrom_bind_ok (Attempt.runFrom_get held)]
  apply (nextEvent_proceeds timeout backed).bind
  intro found after last
  split
  · exact .done last
  · exact .done last
  · exact nextMessageWithin_ends timeout _ last

end Subscriber

end RespClient
