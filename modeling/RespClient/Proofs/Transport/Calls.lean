import RespClient.Proofs.Transport.Faults
import RespClient.Proofs.Transport.Sending

/-!
# The calls behind a send

The record of a socket is only ever added to. A send adds writes and then a flush. What
its writes have accepted is at any moment the beginning of what is to be sent, and it is
all of it by the time of the flush. Reading a reply adds reads and nothing else.
-/

namespace RespClient

variable {σ : Type}

namespace SocketCall

def isSend : SocketCall → Bool
  | write _ _ => true
  | flush _ => true
  | _ => false

def isRead : SocketCall → Bool
  | read _ _ => true
  | _ => false

end SocketCall

/-- Calls that send a part of the frames, from the beginning on. -/
structure Sending (frames : List Bytes) (calls : List SocketCall) : Prop where
  sends : ∀ call ∈ calls, call.isSend = true
  accepted : calls.flatMap SocketCall.accepted <+: frames.flatten

/-- Calls that have sent the frames. -/
structure Sent (frames : List Bytes) (calls : List SocketCall) : Prop where
  faultless : calls.filterMap SocketCall.fault = []
  accepted : calls.flatMap SocketCall.accepted = frames.flatten
  flushed : calls.getLast? = some (.flush (.ok ()))

namespace Sending

variable {frames left : List Bytes} {calls part : List SocketCall}

theorem nil : Sending frames [] :=
  ⟨nofun, List.nil_prefix⟩

theorem of_prefix (sending : Sending frames calls) (first : part <+: calls) :
    Sending frames part := by
  obtain ⟨rest, rfl⟩ := first
  refine ⟨fun call member => sending.sends call (List.mem_append_left rest member), ?_⟩
  have whole := sending.accepted
  rw [List.flatMap_append] at whole
  exact (List.prefix_append _ _).trans whole

/-- A write in front of the calls that send what it has left. -/
theorem write {slices : List Bytes} {outcome : Acceptance} (sending : Sending left calls)
    (divided : frames.flatten = (SocketCall.write slices outcome).accepted ++ left.flatten) :
    Sending frames (.write slices outcome :: calls) where
  sends := by simpa [SocketCall.isSend] using sending.sends
  accepted := by
    rw [List.flatMap_cons, divided]
    exact (List.prefix_append_right_inj _).2 sending.accepted

theorem flush (sending : Sending frames calls) (outcome : Except IoError Unit) :
    Sending frames (calls ++ [.flush outcome]) where
  sends := by
    intro call member
    rcases List.mem_append.1 member with earlier | last
    · exact sending.sends call earlier
    · rw [List.mem_singleton.1 last]
      rfl
  accepted := by
    rw [List.flatMap_append]
    exact (List.append_nil _).symm ▸ sending.accepted

end Sending

namespace Recorded

theorem history_note (recorded : Recorded σ) (call : SocketCall) (socket : σ) :
    (recorded.note call socket).history = recorded.history ++ [call] :=
  List.reverse_cons

variable [Socket σ] {recorded after : Recorded σ}

theorem history_read (recorded : Recorded σ) (room : Nat) :
    (Socket.read recorded room).2.history =
      recorded.history ++ [.read room (Socket.read recorded room).1] :=
  recorded.history_note _ _

theorem history_write {slices : List Bytes} {outcome : Acceptance}
    (done : Socket.write recorded slices = (outcome, after)) :
    after.history = recorded.history ++ [.write slices outcome] := by
  obtain ⟨rfl, rfl⟩ := Prod.mk.inj done
  exact recorded.history_note _ _

theorem history_flush {outcome : Except IoError Unit}
    (done : Socket.flush recorded = (outcome, after)) :
    after.history = recorded.history ++ [.flush outcome] := by
  obtain ⟨rfl, rfl⟩ := Prod.mk.inj done
  exact recorded.history_note _ _

omit [Socket σ] in
theorem faults_since {calls : List SocketCall} {causes : List IoError}
    (more : after.history = recorded.history ++ calls)
    (faults : after.faults = recorded.faults ++ causes) :
    calls.filterMap SocketCall.fault = causes := by
  rw [Recorded.faults, more, List.filterMap_append] at faults
  exact List.append_cancel_left faults

omit [Socket σ] in
theorem written_since {calls : List SocketCall} {bytes : Bytes}
    (more : after.history = recorded.history ++ calls)
    (written : after.written = recorded.written ++ bytes) :
    calls.flatMap SocketCall.accepted = bytes := by
  rw [Recorded.written, more, List.flatMap_append] at written
  exact List.append_cancel_left written

/-- Since a socket had this record it has been read from, and nothing else. -/
def ReadSince (start : List SocketCall) (recorded : Recorded σ) : Prop :=
  ∃ reads, recorded.history = start ++ reads ∧ ∀ call ∈ reads, call.isRead = true

theorem ReadSince.read {start : List SocketCall} {recorded : Recorded σ}
    (since : recorded.ReadSince start) (room : Nat) :
    (Socket.read recorded room).2.ReadSince start := by
  obtain ⟨reads, same, only⟩ := since
  refine ⟨reads ++ [.read room (Socket.read recorded room).1], ?_, ?_⟩
  · rw [history_read, same, List.append_assoc]
  · intro call member
    rcases List.mem_append.1 member with earlier | last
    · exact only call earlier
    · rw [List.mem_singleton.1 last]
      rfl

end Recorded

namespace Transport

variable [Socket σ]

/-- What an offer is made of is taken by a write or left for the next one. -/
theorem flatten_offer {frames slices : List Bytes} (offer : frames.filter (!·.isEmpty) = slices)
    (count : Nat) :
    frames.flatten = takeBytes count slices ++ (dropBytes count slices).flatten := by
  rw [takeBytes_eq_take, flatten_dropBytes, List.take_append_drop, ← offer,
    flatten_filter_nonempty]

theorem sendAll_calls (socket : Recorded σ) (frames : List Bytes) :
    ∃ calls, (sendAll socket frames).2.history = socket.history ++ calls ∧
      Sending frames calls := by
  -- A write that is accepted in part leaves the rest of its offer for the calls after it.
  fun_induction sendAll socket frames with
  | case1 => exact ⟨[], (List.append_nil _).symm, .nil⟩
  | case2 socket frames slice slices offer after accepted =>
      exact ⟨_, Recorded.history_write accepted, Sending.nil.write rfl⟩
  | case3 socket frames slice slices offer count after accepted ih =>
      obtain ⟨calls, more, sending⟩ := ih
      refine ⟨.write (slice :: slices) (.accepted (count + 1)) :: calls, ?_,
        sending.write (flatten_offer offer (count + 1))⟩
      rw [more, Recorded.history_write accepted, List.append_assoc]
      rfl
  | case4 socket frames slice slices offer after interrupted ih =>
      obtain ⟨calls, more, sending⟩ := ih
      refine ⟨.write (slice :: slices) .interrupted :: calls, ?_, sending.write rfl⟩
      rw [more, Recorded.history_write interrupted, List.append_assoc]
      rfl
  | case5 socket frames slice slices offer cause after failed =>
      exact ⟨_, Recorded.history_write failed, Sending.nil.write rfl⟩

/-- A write of many frames adds the calls of a send to the record. It succeeds if they have sent
everything, and fails if one of them went wrong. -/
theorem writeMany_calls (frames : List Bytes) (transport : Transport (Recorded σ)) :
    ∃ calls socket, socket.history = transport.socket.history ++ calls ∧
      Sending frames calls ∧
      ((∃ count, (writeMany frames).runFrom transport = (.ok count, { transport with socket }) ∧
          Sent frames calls) ∨
        (∃ cause, (writeMany frames).runFrom transport =
          (.error cause, { transport with socket }) ∧
          calls.filterMap SocketCall.fault ≠ [])) := by
  obtain ⟨writes, more, sending⟩ := sendAll_calls transport.socket frames
  have faults := faults_sendAll transport.socket frames
  rcases sent : sendAll transport.socket frames with ⟨cause | done, middle⟩
  · rw [sent] at more faults
    refine ⟨writes, middle, more, sending, .inr ⟨.connection cause, ?_, ?_⟩⟩
    · simp only [writeMany, Attempt.runFrom_ofStep, sent]
    · rw [Recorded.faults_since more faults]
      exact List.cons_ne_nil _ _
  · rw [sent] at more faults
    have written := Recorded.written_since more (sendAll_written sent)
    have clean := Recorded.faults_since more faults
    rcases flushed : Socket.flush middle with ⟨outcome, last⟩
    have grown := Recorded.history_flush flushed
    rw [more, List.append_assoc] at grown
    refine ⟨writes ++ [.flush outcome], last, grown, sending.flush outcome, ?_⟩
    cases outcome with
    | error cause =>
        refine .inr ⟨.connection cause, ?_, ?_⟩
        · simp only [writeMany, Attempt.runFrom_ofStep, sent, flushed]
        · simp [SocketCall.fault]
    | ok =>
        refine .inl ⟨totalLength frames, ?_, ?_, ?_, List.getLast?_concat⟩
        · simp only [writeMany, Attempt.runFrom_ofStep, sent, flushed]
        · rw [List.filterMap_append, clean]
          rfl
        · rw [List.flatMap_append, written]
          exact List.append_nil _

end Transport

namespace Reply

/-- Reading a reply adds reads to the record and nothing else. -/
theorem readFrame_since [Socket σ] {start : List SocketCall} {transport : Transport (Recorded σ)}
    (since : transport.socket.ReadSince start) :
    (readFrame.runFrom transport).2.socket.ReadSince start :=
  readFrame_keeps (fun _ room since => since.read room) since

end Reply

end RespClient
