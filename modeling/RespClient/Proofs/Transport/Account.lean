import RespClient.Proofs.Transport.Calls
import RespClient.Proofs.Transport.Drawing
import RespClient.Proofs.Transport.Queue

/-!
# The account of a transport

Whenever a transport reads from its socket there is room for at least one byte. All that
the socket has delivered has then either been taken off the front of the buffer or is
still in it. So what an action takes is found between the calls that it has made, what was
in the buffer before, and what is in it afterwards; and what it takes when it succeeds is
what it answers with.
-/

namespace RespClient

variable {σ : Type}

namespace SocketCall

/-- A read has room for something. -/
def Roomy : SocketCall → Prop
  | read room _ => 0 < room
  | _ => True

theorem roomy_of_isSend {call : SocketCall} (sends : call.isSend = true) : call.Roomy := by
  cases call with
  | read => cases sends
  | write | flush | wait => trivial

theorem received_of_isSend {call : SocketCall} (sends : call.isSend = true) :
    call.received = [] := by
  cases call with
  | read => cases sends
  | write | flush | wait => rfl

end SocketCall

namespace Transport

section Kept

variable [Socket σ] {calm : σ → Prop}
  (kept : ∀ {socket : σ} {room : Nat}, 0 < room → calm socket → calm (Socket.read socket room).2)

include kept

/-! What every read with some room preserves is preserved by whatever reads. -/

theorem receive_keeps {socket : σ} {room : Nat} (roomy : 0 < room) (quiet : calm socket) :
    calm (receive socket room).2 := by
  have still := kept roomy quiet
  fun_induction receive socket room with
  | case1 socket after delivery => rwa [delivery] at still
  | case2 socket first rest after delivery => rwa [delivery] at still
  | case3 socket after interrupted ih =>
      rw [interrupted] at still
      exact ih still (kept roomy still)
  | case4 socket cause after failure => rwa [failure] at still

theorem gather_keeps {socket : σ} {room missing : Nat} (taken : Bytes) (fits : missing ≤ room)
    (quiet : calm socket) : calm (gather socket room missing taken).socket := by
  fun_induction gather socket room missing taken with
  | case1 => exact quiet
  | case2 socket room missing taken lacking cause after failed =>
      have still := receive_keeps kept (by omega : 0 < room) quiet
      rwa [failed] at still
  | case3 socket room missing taken lacking first rest after delivered size ih =>
      have still := receive_keeps kept (by omega : 0 < room) quiet
      rw [delivered] at still
      exact ih (by omega) still

theorem skip_keeps {socket : σ} {capacity remaining : Nat} (roomy : 0 < capacity)
    (quiet : calm socket) : calm (skip socket capacity remaining).2 := by
  fun_induction skip socket capacity remaining with
  | case1 => exact quiet
  | case2 socket remaining lacking cause after failed =>
      have still := receive_keeps kept (by omega : 0 < min remaining capacity) quiet
      rwa [failed] at still
  | case3 socket remaining lacking first rest after delivered ih =>
      have still := receive_keeps kept (by omega : 0 < min remaining capacity) quiet
      rw [delivered] at still
      exact ih still

variable {transport : Transport σ} (quiet : calm transport.socket)

include quiet

theorem read_keeps (count : Nat) : calm ((read count).runFrom transport).2.socket := by
  simp only [read, Attempt.runFrom_ofStep]
  split
  · exact quiet
  · split
    · split <;> exact gather_keeps kept [] (Nat.le_refl _) quiet
    · next fits =>
        split <;> exact gather_keeps kept [] (Nat.le_of_not_lt fits) quiet

theorem readByte_keeps : calm (readByte.runFrom transport).2.socket := by
  have still := receive_keeps kept transport.capacity_pos quiet
  simp only [readByte, Attempt.runFrom_ofStep]
  split
  · exact quiet
  · split
    all_goals
      next delivery =>
        rw [delivery] at still
        exact still

theorem continueLine_keeps (room : Nat) (taken : Bytes) :
    calm (continueLine transport room taken).2.socket := by
  fun_induction continueLine transport room taken with
  | case1 => exact quiet
  | case2 => exact quiet
  | case3 transport room taken before ends fits cause after failed =>
      have still := receive_keeps kept transport.capacity_pos quiet
      rwa [failed] at still
  | case4 transport room taken before ends fits first rest after delivered ih =>
      have still := receive_keeps kept transport.capacity_pos quiet
      rw [delivered] at still
      exact ih still

theorem discard_keeps (count : Nat) : calm ((discard count).runFrom transport).2.socket := by
  simp only [discard, Attempt.runFrom_ofStep]
  split
  · exact quiet
  · have still := @skip_keeps _ _ _ kept transport.socket transport.capacity
      (count - (transport.unread.take count).length) transport.capacity_pos quiet
    split
    all_goals
      next skipped =>
        rw [skipped] at still
        exact still

end Kept

end Transport

variable [Socket σ]

namespace Recorded

/-- From one socket to a later one there have been calls, none of them for nothing, and what they
have brought in is what has become of the bytes that were pending. -/
def Fetched (before after : Recorded σ) : Prop :=
  ∃ calls, after.history = before.history ++ calls ∧ (∀ call ∈ calls, call.Roomy) ∧
    Socket.pending before = calls.flatMap SocketCall.received ++ Socket.pending after

namespace Fetched

variable {before socket : Recorded σ}

theorem refl (socket : Recorded σ) : Fetched socket socket :=
  ⟨[], (List.append_nil _).symm, nofun, rfl⟩

/-- One more call. -/
theorem call {call : SocketCall} {after : Recorded σ} (fetched : Fetched before socket)
    (noted : after.history = socket.history ++ [call]) (roomy : call.Roomy)
    (brought : Socket.pending socket = call.received ++ Socket.pending after) :
    Fetched before after := by
  obtain ⟨calls, more, all, pending⟩ := fetched
  refine ⟨calls ++ [call], ?_, ?_, ?_⟩
  · rw [noted, more, List.append_assoc]
  · intro other member
    rcases List.mem_append.1 member with earlier | last
    · exact all other earlier
    · rwa [List.mem_singleton.1 last]
  · rw [pending, brought, List.flatMap_append, List.flatMap_singleton, List.append_assoc]

theorem read {room : Nat} (roomy : 0 < room) (fetched : Fetched before socket) :
    Fetched before (Socket.read socket room).2 := by
  apply fetched.call (socket.history_read room) roomy
  rcases delivery : Socket.read socket room with ⟨bytes | _ | cause, after⟩
  · exact (Socket.read_received delivery).2
  · exact (Socket.read_interrupted delivery).1.symm
  · exact (Socket.read_failed delivery).symm

theorem wait (timeout : Option Nat) (fetched : Fetched before socket) :
    Fetched before (Socket.wait socket timeout).2 :=
  fetched.call (socket.history_note (.wait timeout (Socket.wait socket timeout).1) _) trivial
    (Socket.pending_wait socket timeout).symm

end Fetched

end Recorded

namespace Transport

/-- From one transport to a later one there have been calls on the socket, none of them for
nothing, and these bytes have been taken off the front. -/
structure Takes (before after : Transport (Recorded σ)) (calls : List SocketCall)
    (taken : Bytes) : Prop where
  history : after.socket.history = before.socket.history ++ calls
  roomy : ∀ call ∈ calls, call.Roomy
  content : before.unread ++ calls.flatMap SocketCall.received = taken ++ after.unread

omit [Socket σ] in
/-- Without a call nothing comes and nothing goes. -/
theorem Takes.idle {before after : Transport (Recorded σ)}
    (silent : after.socket.history = before.socket.history) (kept : after.unread = before.unread) :
    Takes before after [] [] where
  history := by rw [silent, List.append_nil]
  roomy := nofun
  content := by rw [kept]; exact List.append_nil _

omit [Socket σ] in
theorem Takes.trans {before middle after : Transport (Recorded σ)} {calls more : List SocketCall}
    {taken also : Bytes} (first : Takes before middle calls taken)
    (second : Takes middle after more also) :
    Takes before after (calls ++ more) (taken ++ also) where
  history := by rw [second.history, first.history, List.append_assoc]
  roomy := by
    intro call member
    rcases List.mem_append.1 member with earlier | later
    · exact first.roomy call earlier
    · exact second.roomy call later
  content := by
    rw [List.flatMap_append, ← List.append_assoc, first.content, List.append_assoc, second.content,
      List.append_assoc]

theorem wait_fetches (timeout : Option Nat) (transport : Transport (Recorded σ)) :
    Recorded.Fetched transport.socket ((wait timeout).runFrom transport).2.socket := by
  have fetched := (Recorded.Fetched.refl transport.socket).wait timeout
  simp only [wait, Attempt.runFrom_ofStep]
  split
  · exact .refl _
  · split
    all_goals
      next waited =>
        rw [waited] at fetched
        exact fetched

omit [Socket σ] in
theorem state_after {α β : Type} (attempt : Attempt FatalError (Transport σ) α) (answer : α → β)
    (transport : Transport σ) :
    ((do return answer (← attempt)).runFrom transport).2 = (attempt.runFrom transport).2 := by
  rw [Attempt.runFrom_bind]
  rcases attempt.runFrom transport with ⟨cause | value, after⟩ <;> rfl

/-- What is true of the transport that each way to read leaves is true of the one that a call
leaves. -/
theorem perform_leaves {property : Transport σ → Prop} {transport : Transport σ}
    (bytes : ∀ count, property ((read count).runFrom transport).2)
    (byte : property (readByte.runFrom transport).2)
    (line : property (readLine.runFrom transport).2)
    (discarded : ∀ count, property ((discard count).runFrom transport).2)
    (waited : ∀ timeout, property ((wait timeout).runFrom transport).2) (call : Call) :
    property (call.perform.runFrom transport).2 := by
  cases call with
  | read count => exact state_after (read count) Answer.bytes transport ▸ bytes count
  | readByte => exact state_after readByte Answer.byte transport ▸ byte
  | readLine => exact state_after readLine Answer.line transport ▸ line
  | discard count =>
      exact state_after (discard count) (fun _ => Answer.done) transport ▸ discarded count
  | wait timeout => exact state_after (wait timeout) Answer.ready transport ▸ waited timeout

theorem perform_draws (call : Call) (transport : Transport σ) :
    Draws transport (call.perform.runFrom transport).2 :=
  perform_leaves (read_draws · transport) (readByte_draws transport) (readLine_draws transport)
    (discard_draws · transport) (wait_draws · transport) call

theorem perform_fetches (call : Call) (transport : Transport (Recorded σ)) :
    Recorded.Fetched transport.socket (call.perform.runFrom transport).2.socket :=
  have start := Recorded.Fetched.refl transport.socket
  @perform_leaves _ _ (fun after => Recorded.Fetched transport.socket after.socket) transport
    (read_keeps Recorded.Fetched.read start) (readByte_keeps Recorded.Fetched.read start)
    (continueLine_keeps Recorded.Fetched.read start maxLineLength [])
    (discard_keeps Recorded.Fetched.read start) (wait_fetches · transport) call

/-- A call takes something off the front. When it succeeds that is what a list of bytes would have
served it with. -/
theorem perform_takes (call : Call) (transport : Transport (Recorded σ)) :
    ∃ calls taken, Takes transport (call.perform.runFrom transport).2 calls taken ∧
      ∀ answer, (call.perform.runFrom transport).1 = .ok answer →
        ∃ rest, Serves call (taken ++ rest) answer taken rest := by
  obtain ⟨calls, history, roomy, brought⟩ := perform_fetches call transport
  obtain ⟨fresh, taken, pending, content⟩ := perform_draws call transport
  obtain rfl := List.append_cancel_right (pending.symm.trans brought)
  refine ⟨calls, taken, ⟨history, roomy, content⟩, ?_⟩
  intro answer done
  obtain ⟨served, serves⟩ := perform_ok (Prod.ext done rfl)
  have whole : transport.stream = taken ++ (call.perform.runFrom transport).2.stream := by
    rw [stream, stream, pending, ← List.append_assoc, content, List.append_assoc]
  obtain rfl := List.append_cancel_right (serves.queue_eq.symm.trans whole)
  exact ⟨_, serves.queue_eq ▸ serves⟩

/-- Sending takes nothing. -/
theorem writeMany_takes (frames : List Bytes) (transport : Transport (Recorded σ)) :
    ∃ calls, Takes transport ((writeMany frames).runFrom transport).2 calls [] := by
  obtain ⟨calls, socket, more, sending, outcome⟩ := writeMany_calls frames transport
  have after : ((writeMany frames).runFrom transport).2 = { transport with socket } := by
    rcases outcome with ⟨count, done, -⟩ | ⟨cause, failed, -⟩
    · rw [done]
    · rw [failed]
  have nothing : calls.flatMap SocketCall.received = [] :=
    List.flatMap_eq_nil_iff.2 fun call member =>
      SocketCall.received_of_isSend (sending.sends call member)
  rw [after]
  refine ⟨calls, more, ?_, ?_⟩
  · exact fun call member => SocketCall.roomy_of_isSend (sending.sends call member)
  · rw [nothing, List.append_nil]
    rfl

/-! The size of the buffer stays as it is. -/

theorem continueLine_capacity (transport : Transport σ) (room : Nat) (taken : Bytes) :
    (continueLine transport room taken).2.capacity = transport.capacity := by
  fun_induction continueLine transport room taken with
  | case1 => rfl
  | case2 => rfl
  | case3 => rfl
  | case4 transport room taken before ends fits first rest after delivered ih => exact ih

theorem perform_capacity (call : Call) (transport : Transport σ) :
    (call.perform.runFrom transport).2.capacity = transport.capacity := by
  apply @perform_leaves _ _ (fun after => after.capacity = transport.capacity)
  · intro count
    simp only [read, Attempt.runFrom_ofStep]
    repeat' split
    all_goals rfl
  · simp only [readByte, Attempt.runFrom_ofStep]
    repeat' split
    all_goals rfl
  · exact continueLine_capacity transport maxLineLength []
  · intro count
    simp only [discard, Attempt.runFrom_ofStep]
    repeat' split
    all_goals rfl
  · intro timeout
    simp only [wait, Attempt.runFrom_ofStep]
    repeat' split
    all_goals rfl

theorem writeMany_capacity (frames : List Bytes) (transport : Transport σ) :
    ((writeMany frames).runFrom transport).2.capacity = transport.capacity := by
  simp only [writeMany, Attempt.runFrom_ofStep]
  repeat' split
  all_goals rfl

end Transport

end RespClient
