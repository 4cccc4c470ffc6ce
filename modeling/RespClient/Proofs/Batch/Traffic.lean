import RespClient.Proofs.Batch.Ending
import RespClient.Proofs.Connection.Traffic

/-!
# What a batch puts on the wire

Nothing is sent for a batch before it ends. Its end sends what the batch is opened with,
the commands, and what closes it, all in one go, and reads replies only after that. When
it is over the batch has nothing left to send, whatever is done with it from then on.
-/

namespace RespClient

variable {σ α : Type}

namespace Batch

open Connection (Advances Exchanged Underway)

theorem execResults_advances (count : Nat) (answer : Reply) :
    Advances (execResults count answer : Connection.Action (Recorded σ) (List Reply)) := by
  cases answer with
  | array items =>
      rw [execResults]
      split
      · exact .pure items
      · exact .abandon _
  | nil => exact .fail _
  | error message => exact .fail _
  | integer | simple | bulk => exact .abandon _

variable [Socket σ]

/-- The replies to a batch are read once everything is on its way. -/
theorem replies_underway {start : Transport (Recorded σ)} {requests : List Bytes}
    {kind : BatchKind} {connection : Connection (Recorded σ)} (count : Nat)
    (underway :
      Underway start requests (kind.committing.foldl Connection.queue connection)) :
    Underway start requests ((replies kind count).runFrom connection).2 := by
  cases kind with
  | pipeline => exact Advances.getReplies count underway
  | transaction =>
      rw [replies, transactionReplies,
        Attempt.runFrom_bind_ok (Connection.runFrom_append connection _)]
      exact ((Advances.discardReplies (count + 1)).bind fun _ =>
        Advances.getReply.bind (execResults_advances count)) underway

section Ends

variable {batch : Batch (Recorded σ) α} {connection : Connection (Recorded σ)}
  {requests : List Bytes}

theorem Queued.resolve_exchanged (queued : batch.Queued) (ready : connection.Ready)
    (held : batch.connection = requests.foldl Connection.queue connection) :
    Exchanged (requests ++ batch.kind.committing) connection
      (batch.after .resolve).connection := by
  have underway := Underway.of_ready ready (requests ++ batch.kind.committing)
  rw [List.foldl_append, ← held] at underway
  have unqueued := queued.resolve_rests.unqueued
  rw [after_resolve queued.unresolved] at unqueued ⊢
  exact ⟨unqueued, (replies_underway batch.decoders.size underway).exchange unqueued⟩

theorem Queued.discard_exchanged (queued : batch.Queued) (ready : connection.Ready)
    (held : batch.connection = requests.foldl Connection.queue connection) :
    Exchanged (requests ++ batch.kind.abandoning) connection
      (batch.after .discard).connection := by
  have underway := Underway.of_ready ready (requests ++ batch.kind.abandoning)
  rw [List.foldl_append, ← held] at underway
  have unqueued := queued.discard_rests.unqueued
  rw [after_discard queued.unresolved] at unqueued ⊢
  exact ⟨unqueued, (Advances.discardAll underway).exchange unqueued⟩

/-- Once a batch has been resolved or discarded, nothing that is done with it has an effect. -/
theorem Queued.ended (queued : batch.Queued) {call : BatchCall α}
    (ending : call ∈ [.resolve, .discard]) (later : List (BatchCall α)) :
    (later.foldl after (batch.after call)).connection = (batch.after call).connection ∧
      (later.foldl after (batch.after call)).release = (batch.after call).connection := by
  simp only [List.mem_cons, List.not_mem_nil, or_false] at ending
  rcases ending with rfl | rfl
  · rw [foldl_after_resolved (resolved_after_resolve queued.unresolved)]
    exact ⟨rfl, queued.release_resolved⟩
  · rw [foldl_after_resolved (resolved_after_discard queued.unresolved)]
    exact ⟨rfl, queued.release_discarded⟩

end Ends

/-- A batch on a connection that is ready makes no call on the socket until it is resolved,
discarded or dropped. Each of these is an exchange of what opens the batch, the commands and what
closes it, and leaves nothing queued. A batch that has been resolved or discarded touches the
socket no more, and neither does its drop. -/
theorem ends_in_one_exchange {connection : Connection (Recorded σ)} (ready : connection.Ready)
    (kind : BatchKind) (commands : List (Bytes × Decoder α)) :
    ∃ opened, start kind connection = .ok opened ∧
      let batch := opened.appendAll commands
      let requests := kind.opening ++ commands.map Prod.fst
      batch.connection.transport = connection.transport ∧
      Exchanged (requests ++ kind.committing) connection (batch.after .resolve).connection ∧
      Exchanged (requests ++ kind.abandoning) connection (batch.after .discard).connection ∧
      Exchanged (requests ++ kind.abandoning) connection batch.release ∧
      ∀ call ∈ [.resolve, .discard], ∀ later : List (BatchCall α),
        let ended := later.foldl after (batch.after call)
        ended.connection = (batch.after call).connection ∧
          ended.release = (batch.after call).connection := by
  obtain ⟨opened, started, queued, same, -, held⟩ := opened_connection ready kind commands
  refine ⟨opened, started, ?_⟩
  dsimp only
  have resolved := queued.resolve_exchanged ready held
  have discarded := queued.discard_exchanged ready held
  rw [same] at resolved discarded
  refine ⟨?_, resolved, discarded, ?_, fun call ending later => queued.ended ending later⟩
  · rw [held, Connection.foldl_queue]
  · rw [queued.release_eq]
    exact discarded

/-- A transaction on a socket that takes three bytes at a time and then fails. -/
theorem ends_in_one_exchange_in_pieces :
    let socket : Scripted :=
      { input := Bytes.ofText "+OK\r\n+QUEUED\r\n*1\r\n:7\r\n"
        writeChunk := 3
        writeFaults := [.pass, .interrupted, .pass, .failing "reset"] }
    let connection : Connection (Recorded Scripted) := .ofSocketWith 16 { socket }
    let request := (Command.named "GET").frame
    connection.Ready ∧
    ∃ opened : Batch (Recorded Scripted) Reply, start .transaction connection = .ok opened ∧
      let batch := opened.appendAll [(request, .ok)]
      batch.connection.transport = connection.transport ∧
      Exchanged [Command.multi.frame, request, Command.exec.frame] connection
        (batch.after .resolve).connection ∧
      Exchanged [Command.multi.frame, request, Command.discard.frame] connection batch.release := by
  intro socket connection request
  have ready : connection.Ready := ⟨rfl, rfl, rfl⟩
  obtain ⟨opened, started, silent, resolved, -, dropped, -⟩ :=
    ends_in_one_exchange ready .transaction [(request, .ok)]
  exact ⟨ready, opened, started, silent, resolved, dropped⟩

end Batch

end RespClient
