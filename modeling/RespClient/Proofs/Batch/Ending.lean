import RespClient.Proofs.Batch.Counting
import RespClient.Proofs.Batch.Transaction
import RespClient.Proofs.Batch.Pipelining

/-!
# The ends of a batch

Resolving, discarding and dropping a batch are three ways to have its requests sent and
the replies to them read. Which replies are decoded, and what the decoders make of them,
is settled off the connection. Since a pipeline adds nothing to its requests, its ends
cannot be told apart by the connection that they leave behind, and those that give a
transaction up cannot either.
-/

namespace RespClient

variable {σ α : Type} [Socket σ]

namespace Connection

/-- Draining a connection is reading the replies that it has in flight. -/
theorem discardAll_connection (connection : Connection σ) :
    (discardAll.runFrom connection).2 =
      ((getReplies connection.inFlight).runFrom connection).2 := by
  rw [discardAll, Attempt.runFrom_bind_ok (Attempt.runFrom_get connection),
    discardReplies_eq (Nat.le_refl _)]
  rcases run : (getReplies connection.inFlight).runFrom connection with ⟨cause | replies, last⟩
  · rw [Attempt.runFrom_bind_error run]
  · rw [Attempt.runFrom_bind_ok run]
    rfl

omit [Socket σ] in
theorem Ready.counts {connection : Connection σ} (ready : connection.Ready) :
    connection.Counts 0 where
  usable := ready.usable
  awaited := ready.nothing_in_flight
  backed := by simp [ready.nothing_pending]

end Connection

namespace Batch

section Open

variable {batch : Batch σ α}

theorem after_resolve (unresolved : batch.resolved = false) :
    batch.after .resolve =
      { batch.closed with
        connection := ((replies batch.kind batch.decoders.size).runFrom batch.connection).2 } := by
  rcases run : (replies batch.kind batch.decoders.size).runFrom batch.connection with ⟨_, last⟩
  rw [after, resolve_run unresolved run]

theorem after_discard (unresolved : batch.resolved = false) :
    batch.after .discard =
      { batch.closed with
        connection := (Connection.discardAll.runFrom
          (batch.kind.abandoning.foldl Connection.queue batch.connection)).2 } := by
  rcases run : Connection.discardAll.runFrom
    (batch.kind.abandoning.foldl Connection.queue batch.connection) with ⟨_, last⟩
  rw [after, discard_run unresolved run]

theorem resolved_after_resolve (unresolved : batch.resolved = false) :
    (batch.after .resolve).resolved = true := by
  rw [after_resolve unresolved]
  rfl

theorem resolved_after_discard (unresolved : batch.resolved = false) :
    (batch.after .discard).resolved = true := by
  rw [after_discard unresolved]
  rfl

theorem Queued.appendAll (queued : batch.Queued) (commands : List (Bytes × Decoder α)) :
    (batch.appendAll commands).Queued := by
  induction commands generalizing batch with
  | nil => exact queued
  | cons command commands ih =>
      have still := (queued.append command.1 command.2).2
      rw [← after_append queued.unresolved] at still
      exact ih still

/-- Resolving leaves nothing to be done by the drop. -/
theorem Queued.resolve_rests (queued : batch.Queued) :
    (batch.after .resolve).connection.Rests := by
  rw [after_resolve queued.unresolved]
  exact (replies_ends queued.counts).rests

theorem Queued.discard_rests (queued : batch.Queued) :
    (batch.after .discard).connection.Rests :=
  queued.discard_ends.1.rests

theorem Queued.release_resolved (queued : batch.Queued) :
    (batch.after .resolve).release = (batch.after .resolve).connection :=
  release_settled (resolved_after_resolve queued.unresolved) queued.resolve_rests.broken_or_idle

theorem Queued.release_discarded (queued : batch.Queued) :
    (batch.after .discard).release = (batch.after .discard).connection :=
  release_settled (resolved_after_discard queued.unresolved) queued.discard_rests.broken_or_idle

/-- Dropping an open batch does what discarding it does. -/
theorem Queued.release_eq (queued : batch.Queued) :
    batch.release = (batch.after .discard).connection :=
  (release_open queued.unresolved).trans queued.release_discarded

theorem Queued.resolve_pipeline (queued : batch.Queued) (pipeline : batch.kind = .pipeline) :
    (batch.after .resolve).connection =
      ((Connection.getReplies batch.decoders.size).runFrom batch.connection).2 := by
  rw [after_resolve queued.unresolved, pipeline]
  rfl

/-- Discarding a pipeline asks for as many replies as it has decoders. -/
theorem Queued.discard_pipeline (queued : batch.Queued) (pipeline : batch.kind = .pipeline) :
    (batch.after .discard).connection =
      ((Connection.getReplies batch.decoders.size).runFrom batch.connection).2 := by
  have awaited := queued.counts.awaited
  rw [pipeline, BatchKind.opening, List.length_nil, Nat.zero_add] at awaited
  rw [after_discard queued.unresolved, pipeline, ← awaited]
  exact Connection.discardAll_connection batch.connection

end Open

/-- The open batch of some commands on a connection that is ready. -/
theorem opened_connection {connection : Connection σ} (ready : connection.Ready) (kind : BatchKind)
    (commands : List (Bytes × Decoder α)) :
    ∃ opened : Batch σ α, start kind connection = .ok opened ∧
      let batch := opened.appendAll commands
      batch.Queued ∧ batch.kind = kind ∧ batch.decoders.size = commands.length ∧
        batch.connection =
          (kind.opening ++ commands.map Prod.fst).foldl Connection.queue connection := by
  refine ⟨_, start_idle kind (ready.checkIdle .startBatch),
    (start_queued kind ready.counts).appendAll commands, ?_⟩
  rw [appendAll_open rfl, List.foldl_append]
  exact ⟨rfl, by simp, rfl⟩

/-- Whatever the decoders of a pipeline come to, resolving it, discarding it and just dropping it
make the same calls on the socket in the same order and leave the same connection. The frames
determine it. So do they if a transaction is discarded or just dropped. -/
theorem ends_alike {connection : Connection (Recorded σ)} (ready : connection.Ready)
    (frames : List Bytes) :
    (∃ last : Connection (Recorded σ), ∀ {α : Type} (commands : List (Bytes × Decoder α)),
      commands.map Prod.fst = frames →
      ∃ opened, start .pipeline connection = .ok opened ∧
        let batch := opened.appendAll commands
        (batch.after .resolve).release = last ∧
          (batch.after .discard).release = last ∧ batch.release = last) ∧
    ∃ last : Connection (Recorded σ), ∀ {α : Type} (commands : List (Bytes × Decoder α)),
      commands.map Prod.fst = frames →
      ∃ opened, start .transaction connection = .ok opened ∧
        let batch := opened.appendAll commands
        (batch.after .discard).release = last ∧ batch.release = last := by
  constructor
  · refine ⟨((Connection.getReplies frames.length).runFrom
      (frames.foldl Connection.queue connection)).2, ?_⟩
    rintro α commands rfl
    obtain ⟨opened, started, queued, kind, size, held⟩ :=
      opened_connection ready .pipeline commands
    refine ⟨opened, started, ?_⟩
    dsimp only
    rw [queued.release_eq, queued.release_resolved, queued.release_discarded,
      queued.resolve_pipeline kind, queued.discard_pipeline kind, size, held, List.length_map]
    exact ⟨rfl, rfl, rfl⟩
  · refine ⟨(Connection.discardAll.runFrom
      (((BatchKind.transaction.opening ++ frames) ++ BatchKind.transaction.abandoning).foldl
        Connection.queue connection)).2, ?_⟩
    rintro α commands rfl
    obtain ⟨opened, started, queued, kind, size, held⟩ :=
      opened_connection ready .transaction commands
    refine ⟨opened, started, ?_⟩
    dsimp only
    rw [queued.release_eq, queued.release_discarded, after_discard queued.unresolved, kind, held,
      ← List.foldl_append]
    exact ⟨rfl, rfl⟩

/-- Two requests, on a socket that takes them in small pieces and fails before the second reply. -/
theorem ends_alike_in_pieces :
    let socket : Scripted :=
      { input := Bytes.ofText ":7\r\n:8\r\n"
        readChunk := 3
        writeChunk := 2
        readFaults := [.pass, .pass, .failing "reset"] }
    let connection : Connection (Recorded Scripted) := .ofSocketWith 16 { socket }
    let request := (Command.named "GET").frame
    connection.Ready ∧
    ∃ opened : Batch (Recorded Scripted) Reply, start .pipeline connection = .ok opened ∧
      let batch := opened.appendAll [(request, .ok), (request, fun _ => .error (.server "no"))]
      (batch.after .resolve).release = batch.release ∧
        (batch.after .discard).release = batch.release := by
  intro socket connection request
  have ready : connection.Ready := ⟨rfl, rfl, rfl⟩
  obtain ⟨⟨last, alike⟩, -⟩ := ends_alike ready [request, request]
  obtain ⟨opened, started, resolved, discarded, dropped⟩ :=
    alike [(request, .ok), (request, fun _ => .error (.server "no"))] rfl
  exact ⟨ready, opened, started, resolved.trans dropped.symm, discarded.trans dropped.symm⟩

end Batch

end RespClient
