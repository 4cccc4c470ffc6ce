import RespClient.Proofs.Socket.Faultless
import RespClient.Transport.Send
import RespClient.Transport.Stream

/-!
# What is sent

A send that succeeds has had every byte of its frames accepted, in order and once
each, however the socket cuts them up. On a socket without faults it does succeed.
The record of a socket tells what it has accepted, and reads do not change that.
-/

namespace RespClient

theorem takeBytes_eq_take (count : Nat) (slices : List Bytes) :
    takeBytes count slices = slices.flatten.take count := by
  induction slices generalizing count with
  | nil => simp [takeBytes]
  | cons slice rest ih =>
      cases count with
      | zero => simp [takeBytes]
      | succ count =>
          rw [takeBytes, ih, List.flatten_cons, List.take_append, List.length_take]
          · congr 2
            omega
          · exact nofun

theorem flatten_dropBytes (count : Nat) (slices : List Bytes) :
    (dropBytes count slices).flatten = slices.flatten.drop count := by
  induction slices generalizing count with
  | nil => simp [dropBytes]
  | cons slice rest ih =>
      rw [List.flatten_cons, List.drop_append, dropBytes]
      cases left : slice.drop count with
      | nil => rw [ih, List.nil_append]
      | cons byte bytes =>
          have inside : count < slice.length := by
            have length := congrArg List.length left
            rw [List.length_drop, List.length_cons] at length
            omega
          rw [Nat.sub_eq_zero_of_le (Nat.le_of_lt inside), List.drop_zero, List.flatten_cons]

theorem flatten_filter_nonempty (slices : List Bytes) :
    (slices.filter (!·.isEmpty)).flatten = slices.flatten := by
  induction slices with
  | nil => rfl
  | cons slice rest ih => cases slice <;> simp [ih]

namespace Recorded

variable {σ : Type}

theorem written_note (recorded : Recorded σ) (call : SocketCall) (socket : σ) :
    (recorded.note call socket).written = recorded.written ++ call.accepted := by
  simp [note, written, history]

variable [Socket σ]

theorem written_read (recorded : Recorded σ) (room : Nat) :
    (Socket.read recorded room).2.written = recorded.written :=
  (written_note _ _ _).trans (List.append_nil _)

theorem written_wait (recorded : Recorded σ) (timeout : Option Nat) :
    (Socket.wait recorded timeout).2.written = recorded.written :=
  (written_note _ _ _).trans (List.append_nil _)

theorem written_flush (recorded : Recorded σ) :
    (Socket.flush recorded).2.written = recorded.written :=
  (written_note _ _ _).trans (List.append_nil _)

theorem written_write {recorded after : Recorded σ} {slices : List Bytes} {outcome : Acceptance}
    (done : Socket.write recorded slices = (outcome, after)) :
    after.written = recorded.written ++ (SocketCall.write slices outcome).accepted := by
  obtain ⟨rfl, rfl⟩ := Prod.mk.inj done
  exact written_note _ _ _

/-- Reads and waits leave a record with what was written before them. -/
theorem delivering_written {calm : σ → Prop} (works : Socket.Delivering calm) (sent : Bytes) :
    Socket.Delivering fun recorded : Recorded σ =>
      calm recorded.socket ∧ recorded.written = sent :=
  (delivering works).and (fun recorded room kept => (written_read recorded room).trans kept)
    fun recorded timeout kept => (written_wait recorded timeout).trans kept

end Recorded

namespace Transport

variable {σ : Type} [Socket σ]

theorem sendAll_written {recorded after : Recorded σ} {frames : List Bytes}
    (done : sendAll recorded frames = (.ok (), after)) :
    after.written = recorded.written ++ frames.flatten := by
  fun_induction sendAll recorded frames with
  | case1 recorded frames nothing =>
      obtain ⟨-, rfl⟩ := Prod.mk.inj done
      rw [← flatten_filter_nonempty, nothing, List.flatten_nil, List.append_nil]
  | case2 => cases done
  | case3 recorded frames slice slices offer count after accepted ih =>
      have here := Recorded.written_write accepted
      change _ = recorded.written ++ takeBytes (count + 1) (slice :: slices) at here
      rw [ih done, here, takeBytes_eq_take, flatten_dropBytes, List.append_assoc,
        List.take_append_drop, ← offer, flatten_filter_nonempty]
  | case4 recorded frames slice slices offer after interrupted ih =>
      have here := Recorded.written_write interrupted
      change _ = recorded.written ++ [] at here
      rw [ih done, here, List.append_nil]
  | case5 => cases done

/-- An offer holds at least one byte. -/
theorem totalLength_offer_pos {frames slices : List Bytes} {slice : Bytes}
    (offer : frames.filter (!·.isEmpty) = slice :: slices) :
    0 < totalLength (slice :: slices) := by
  have member : slice ∈ frames.filter (!·.isEmpty) := offer ▸ List.mem_cons_self
  have nonempty := (List.mem_filter.1 member).2
  cases slice with
  | nil => cases nonempty
  | cons byte bytes =>
      simp only [totalLength, List.length_cons]
      omega

theorem sendAll_succeeds {calm : σ → Prop} (works : Socket.Accepting calm) {socket : σ}
    (frames : List Bytes) (quiet : calm socket) :
    ∃ after, sendAll socket frames = (.ok (), after) ∧ calm after := by
  fun_induction sendAll socket frames with
  | case1 => exact ⟨_, rfl, quiet⟩
  | case2 socket frames slice slices offer after nothing =>
      rcases works.write_outcome quiet (totalLength_offer_pos offer) nothing with
        ⟨-, impossible | ⟨count, impossible⟩⟩
      · cases impossible
      · cases impossible
  | case3 socket frames slice slices offer count after accepted ih =>
      exact ih (works.write_outcome quiet (totalLength_offer_pos offer) accepted).1
  | case4 socket frames slice slices offer after interrupted ih =>
      exact ih (works.write_outcome quiet (totalLength_offer_pos offer) interrupted).1
  | case5 socket frames slice slices offer cause after failed =>
      rcases works.write_outcome quiet (totalLength_offer_pos offer) failed with
        ⟨-, impossible | ⟨count, impossible⟩⟩
      · cases impossible
      · cases impossible

/-- Sending has no influence on what a quiet socket's peer has to say. -/
theorem pending_sendAll [Socket.Quiet σ] (socket : σ) (frames : List Bytes) :
    Socket.pending (sendAll socket frames).2 = Socket.pending socket := by
  fun_induction sendAll socket frames with
  | case1 => rfl
  | case2 socket frames slice slices offer after accepted => exact Socket.pending_of_write accepted
  | case3 socket frames slice slices offer after count accepted ih =>
      exact ih.trans (Socket.pending_of_write accepted)
  | case4 socket frames slice slices offer after interrupted ih =>
      exact ih.trans (Socket.pending_of_write interrupted)
  | case5 socket frames slice slices offer cause after failed =>
      exact Socket.pending_of_write failed

theorem writeMany_succeeds {calm : σ → Prop} (works : Socket.Accepting calm)
    {transport : Transport σ} (frames : List Bytes) (quiet : calm transport.socket) :
    ∃ after, (writeMany frames).runFrom transport = (.ok (totalLength frames), after) ∧
      calm after.socket := by
  obtain ⟨middle, sent, still⟩ := sendAll_succeeds works frames quiet
  obtain ⟨after, calm_after, flushed⟩ := works.flush still
  refine ⟨{ transport with socket := after }, ?_, calm_after⟩
  simp only [writeMany, Attempt.runFrom_ofStep, sent, flushed]

theorem writeMany_written {transport after : Transport (Recorded σ)} {frames : List Bytes}
    {count : Nat} (done : (writeMany frames).runFrom transport = (.ok count, after)) :
    after.socket.written = transport.socket.written ++ frames.flatten := by
  simp only [writeMany, Attempt.runFrom_ofStep] at done
  split at done
  · cases done
  · next middle sent =>
      have kept := Recorded.written_flush middle
      split at done
      · cases done
      · next flushed =>
          cases done
          rw [flushed] at kept
          exact kept.trans (sendAll_written sent)

theorem writeMany_stream [Socket.Quiet σ] (transport : Transport σ) (frames : List Bytes) :
    ((writeMany frames).runFrom transport).2.stream = transport.stream := by
  have kept := pending_sendAll transport.socket frames
  simp only [writeMany, Attempt.runFrom_ofStep]
  split
  · next sent =>
      rw [sent] at kept
      simp only [stream, kept]
  · next middle sent =>
      have flushed := Socket.Quiet.pending_flush middle
      rw [sent] at kept
      split
      · next outcome =>
          rw [outcome] at flushed
          simp only [stream, flushed, kept]
      · next outcome =>
          rw [outcome] at flushed
          simp only [stream, flushed, kept]

end Transport

end RespClient
