import RespClient.Command.Request
import RespClient.Socket.Basic

/-!
# Answering sockets

The client's end of a stream to a server in memory, which has its replies prepared.
Each complete request is answered by the next reply, or by silence; a request past
the last reply makes the server close its side. A read finds what has been
answered, and else the end of the stream or, while it is open, nothing in time.
-/

namespace RespClient

structure Answering where
  /-- The replies to come; a missing one stands for silence. -/
  replies : List (Option Bytes)
  options : SocketOptions
  /-- Answers that have not been read. -/
  answered : Bytes := []
  closed : Bool := false
  /-- The beginning of a request that is not complete. -/
  unfinished : Bytes := []
  /-- All bytes that reached the server. -/
  received : Bytes := []

namespace Answering

def answer (server : Answering) : Answering :=
  match server.replies with
  | [] => { server with closed := true }
  | reply :: rest =>
      { server with replies := rest, answered := server.answered ++ reply.getD [] }

def answerTimes : (requests : Nat) → Answering → Answering
  | 0, server => server
  | requests + 1, server => answerTimes requests server.answer

def accept (server : Answering) (data : Bytes) : Answering :=
  let arrived := server.unfinished ++ data
  let (requests, left) := countRequests arrived.length arrived
  answerTimes requests
    { server with unfinished := left, received := server.received ++ data }

def read (server : Answering) (room : Nat) : Delivery × Answering :=
  if server.answered = [] ∧ server.closed = false then (.failed .unavailable, server)
  else
    (.received (server.answered.take room),
      { server with answered := server.answered.drop room })

instance : Socket Answering where
  read := read
  write server slices := (.accepted (totalLength slices), server.accept slices.flatten)
  flush server := (.ok (), server)
  wait server _ := (.ok (server.closed || !server.answered.isEmpty), server)
  pending := answered
  patience _ := 0
  read_received := by
    intro server after room bytes delivered
    unfold read at delivered
    split at delivered
    · cases delivered
    · cases delivered
      refine ⟨?_, (List.take_append_drop room server.answered).symm⟩
      simp only [List.length_take]
      omega
  read_interrupted := by
    intro server after room delivered
    unfold read at delivered
    split at delivered <;> cases delivered
  read_failed := by
    intro server after room cause delivered
    unfold read at delivered
    split at delivered
    · cases delivered; rfl
    · cases delivered
  write_accepted := by
    intro server after slices count accepted
    cases accepted
    exact Nat.le_refl _
  write_interrupted := by
    intro server after slices interrupted
    cases interrupted
  pending_wait _ _ := rfl

end Answering

end RespClient
