import RespClient.Proofs.Batch.Settling
import RespClient.Proofs.Connection.Counting
import RespClient.Proofs.Session.Calls

/-!
# Counting the replies to a batch

As long as a batch is open, everything that its connection has in flight is still queued:
its opening, and one frame for each decoder. That is as many as the ends of a batch ask
for, so that none of them is refused half way.
-/

namespace RespClient.Batch

open Attempt (Ends)
open Connection (Counts Rests)

variable {σ α : Type}

/-- An open batch. Nothing of it has been written. -/
structure Queued (batch : Batch σ α) : Prop where
  unresolved : batch.resolved = false
  counts : batch.connection.Counts (batch.kind.opening.length + batch.decoders.size)
  unwritten : batch.connection.pending.size = batch.connection.inFlight

theorem start_queued {connection : Connection σ} (kind : BatchKind)
    (counts : connection.Counts 0) :
    ({ connection := kind.opening.foldl Connection.queue connection, kind } :
      Batch σ α).Queued where
  unresolved := rfl
  counts := by
    have queued := counts.queueAll kind.opening
    rw [Nat.zero_add] at queued
    exact queued
  unwritten := by
    cases kind with
    | pipeline => simp [BatchKind.opening, counts.unqueued, counts.awaited]
    | transaction =>
        simp [BatchKind.opening, Connection.queue, counts.unqueued, counts.awaited]

theorem Queued.append {batch : Batch σ α} (queued : batch.Queued) (frame : Bytes)
    (decoder : Decoder α) :
    (Batch.append frame decoder).runFrom batch =
        (.ok batch.decoders.size,
          { batch with
            connection := batch.connection.queue frame
            decoders := batch.decoders.push decoder }) ∧
      ({ batch with
        connection := batch.connection.queue frame
        decoders := batch.decoders.push decoder } : Batch σ α).Queued := by
  have opened : ¬batch.resolved = true := by
    rw [queued.unresolved]
    exact nofun
  constructor
  · rw [Batch.append, Attempt.runFrom_bind_ok (Attempt.runFrom_get batch), if_neg opened]
    exact Prod.ext (congrArg (fun size => Except.ok (size - 1)) (Array.size_push decoder)) rfl
  · exact {
      unresolved := queued.unresolved
      counts := by simpa [Nat.add_assoc] using queued.counts.queue frame
      unwritten := by simp [Connection.queue, queued.unwritten] }

theorem execResults_ends (count : Nat) (answer : Reply) {connection : Connection σ}
    (counts : connection.Counts 0) :
    Ends id 0 ((execResults count answer).runFrom connection) := by
  rcases execResults_cases count answer connection with ⟨fits, kept⟩ | ⟨unfit, cause, -, broke⟩
  · rw [kept]
    cases answer with
    | array items =>
        rw [execOutcome, if_pos (show items.length = count from fits)]
        exact .done counts
    | nil => exact .failed rfl rfl counts
    | error message => exact .failed rfl rfl counts
    | _ => exact fits.elim
  · rw [broke]
    exact .broke ⟨Connection.marked_ne_none _ _, counts.unqueued⟩

variable [Socket σ]

theorem replies_ends {kind : BatchKind} {count : Nat} {connection : Connection σ}
    (counts : connection.Counts (kind.opening.length + count)) :
    Ends id 0 ((replies kind count).runFrom connection) := by
  cases kind with
  | pipeline =>
      rw [BatchKind.opening, List.length_nil, Nat.zero_add] at counts
      have delivers : Attempt.Delivers id 0 _ := Connection.getReplies_delivers count counts
      exact delivers.ends
  | transaction =>
      rw [BatchKind.opening, List.length_singleton, Nat.add_comm] at counts
      rw [replies, transactionReplies,
        Attempt.runFrom_bind_ok (Connection.runFrom_append connection _)]
      apply (Connection.discardReplies_delivers (count + 1) (counts.queue _)).bind_ends
      intro done middle between
      apply (Connection.getReply_delivers between).bind_ends
      exact fun answer after last => execResults_ends count answer last

namespace Queued

variable {batch : Batch σ α}

theorem collect_ends (queued : batch.Queued) :
    Ends connection 0 (collect.runFrom batch) ∧ (collect.runFrom batch).2.resolved = true := by
  have ends := replies_ends queued.counts
  rcases run : (replies batch.kind batch.decoders.size).runFrom batch.connection with ⟨_, last⟩
  rw [run] at ends
  rw [collect_run queued.unresolved run]
  exact ⟨ends.within rfl, rfl⟩

theorem discard_ends (queued : batch.Queued) :
    Ends connection 0 (discard.runFrom batch) ∧ (discard.runFrom batch).2.resolved = true := by
  have delivers :=
    Connection.discardAll_delivers (queued.counts.queueAll batch.kind.abandoning)
  rcases run : Connection.discardAll.runFrom
    (batch.kind.abandoning.foldl Connection.queue batch.connection) with ⟨_, last⟩
  rw [run] at delivers
  rw [discard_run queued.unresolved run]
  exact ⟨delivers.ends.within rfl, rfl⟩

theorem release_rests (queued : batch.Queued) : batch.release.Rests := by
  obtain ⟨ends, resolved⟩ := queued.discard_ends
  have rests := ends.rests
  rw [release_open queued.unresolved, after, release_settled resolved rests.broken_or_idle]
  exact rests

end Queued

end RespClient.Batch
