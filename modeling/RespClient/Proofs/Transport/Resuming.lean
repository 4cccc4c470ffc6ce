import RespClient.Proofs.Transport.Calls

/-!
# Sends that are taken up again

A socket may take any part of an offer. The next write then offers what has not been
accepted, and nothing else, until nothing is left or a write goes wrong. A send is
described as such a series of writes, and what it writes, returns and flushes is told
from the series alone.
-/

namespace RespClient

/-- A write of all the bytes that are left, in slices of which none is empty. -/
def SocketCall.Offers (left : Bytes) (call : SocketCall) : Prop :=
  ∃ slices outcome, call = .write slices outcome ∧ slices ≠ [] ∧
    (∀ slice ∈ slices, slice ≠ []) ∧ slices.flatten = left

/-- Writes that start with `left` to be sent. They stop at the first fault, if there is one, and
leave `rest`. -/
inductive Resuming : (left : Bytes) → (writes : List SocketCall) → (fault : Option IoError) →
    (rest : Bytes) → Prop where
  | sent : Resuming [] [] none []
  | resumed {left later rest : Bytes} {call : SocketCall} {writes : List SocketCall}
      {fault : Option IoError} (offers : call.Offers left) (faultless : call.fault = none)
      (divided : call.accepted ++ later = left) (others : Resuming later writes fault rest) :
      Resuming left (call :: writes) fault rest
  | stopped {left : Bytes} {call : SocketCall} {cause : IoError} (offers : call.Offers left)
      (faulty : call.fault = some cause) : Resuming left [call] (some cause) left

namespace SocketCall

variable {left : Bytes} {call : SocketCall}

theorem Offers.ne_nil (offers : call.Offers left) : left ≠ [] := by
  obtain ⟨slices, outcome, -, nonempty, filled, rfl⟩ := offers
  obtain ⟨slice, others, rfl⟩ := List.exists_cons_of_ne_nil nonempty
  intro empty
  exact filled slice List.mem_cons_self (List.append_eq_nil_iff.1 empty).1

/-- What goes wrong has no effect. -/
theorem Offers.accepted_of_fault (offers : call.Offers left) {cause : IoError}
    (faulty : call.fault = some cause) : call.accepted = [] := by
  obtain ⟨slices, outcome, rfl, -⟩ := offers
  match outcome with
  | .accepted 0 => exact takeBytes_eq_take 0 slices
  | .accepted (count + 1) => cases faulty
  | .interrupted => cases faulty
  | .failed _ => rfl

end SocketCall

namespace Resuming

variable {left rest : Bytes} {writes : List SocketCall} {fault : Option IoError}

/-- Every write offers what those before it have not got accepted. -/
theorem offers (series : Resuming left writes fault rest) :
    ∀ earlier call later, writes = earlier ++ call :: later →
      ∃ slices outcome, call = .write slices outcome ∧ slices ≠ [] ∧
        (∀ slice ∈ slices, slice ≠ []) ∧
        earlier.flatMap SocketCall.accepted ++ slices.flatten = left := by
  induction series with
  | sent =>
      intro earlier call later split
      cases (List.append_eq_nil_iff.1 split.symm).2
  | resumed offer faultless divided others ih =>
      intro earlier call later split
      cases earlier with
      | nil =>
          obtain ⟨rfl, rfl⟩ := List.cons.inj split
          exact offer
      | cons first earlier =>
          obtain ⟨rfl, behind⟩ := List.cons.inj split
          obtain ⟨slices, outcome, same, nonempty, filled, whole⟩ := ih earlier call later behind
          refine ⟨slices, outcome, same, nonempty, filled, ?_⟩
          rw [List.flatMap_cons, List.append_assoc, whole, divided]
  | stopped offer faulty =>
      intro earlier call later split
      cases earlier with
      | nil =>
          obtain ⟨rfl, -⟩ := List.cons.inj split
          exact offer
      | cons first earlier =>
          have behind := (List.cons.inj split).2
          cases (List.append_eq_nil_iff.1 behind.symm).2

/-- Each byte is accepted once, or it is left. -/
theorem accepted (series : Resuming left writes fault rest) :
    writes.flatMap SocketCall.accepted ++ rest = left := by
  induction series with
  | sent => rfl
  | resumed offer faultless divided others ih =>
      rw [List.flatMap_cons, List.append_assoc, ih, divided]
  | stopped offer faulty =>
      rw [List.flatMap_singleton, offer.accepted_of_fault faulty, List.nil_append]

/-- A fault ends the series, and without one no write in it goes wrong. -/
theorem ends_at_fault (series : Resuming left writes fault rest) :
    ∃ earlier, (∀ call ∈ earlier, SocketCall.fault call = none) ∧
      (fault = none ∧ writes = earlier ∨
        ∃ call cause, fault = some cause ∧ call.fault = some cause ∧
          writes = earlier ++ [call]) := by
  induction series with
  | sent => exact ⟨[], nofun, .inl ⟨rfl, rfl⟩⟩
  | @resumed _ _ _ first _ _ offer faultless divided others ih =>
      obtain ⟨earlier, clean, ⟨rfl, same⟩ | ⟨call, cause, rfl, faulty, rfl⟩⟩ := ih
      · exact ⟨first :: earlier, List.forall_mem_cons.2 ⟨faultless, clean⟩,
          .inl ⟨rfl, congrArg (first :: ·) same⟩⟩
      · exact ⟨first :: earlier, List.forall_mem_cons.2 ⟨faultless, clean⟩,
          .inr ⟨call, cause, rfl, faulty, rfl⟩⟩
  | @stopped _ call cause offer faulty =>
      exact ⟨[], nofun, .inr ⟨call, cause, rfl, faulty, rfl⟩⟩

/-- Something is left exactly after a fault. -/
theorem rest_eq_nil_iff (series : Resuming left writes fault rest) :
    rest = [] ↔ fault = none := by
  induction series with
  | sent => simp
  | resumed offer faultless divided others ih => exact ih
  | stopped offer faulty => simp [offer.ne_nil]

theorem eq_nil (series : Resuming left writes fault rest) (nothing : left = []) :
    writes = [] := by
  cases series with
  | sent => rfl
  | resumed offer => exact absurd nothing offer.ne_nil
  | stopped offer => exact absurd nothing offer.ne_nil

end Resuming

namespace Transport

variable {σ : Type} [Socket σ]

theorem offers_of_filter {frames slices : List Bytes} {slice : Bytes}
    (offer : frames.filter (!·.isEmpty) = slice :: slices) (outcome : Acceptance) :
    (SocketCall.write (slice :: slices) outcome).Offers frames.flatten := by
  refine ⟨_, outcome, rfl, List.cons_ne_nil _ _, ?_, ?_⟩
  · intro other member
    rw [← offer] at member
    simpa using (List.mem_filter.1 member).2
  · rw [← offer, flatten_filter_nonempty]

/-- The writes of a send resume one another. -/
theorem sendAll_resumes (socket : Recorded σ) (frames : List Bytes) :
    ∃ writes rest, (sendAll socket frames).2.history = socket.history ++ writes ∧
      Resuming frames.flatten writes (failureOf (sendAll socket frames).1) rest := by
  fun_induction sendAll socket frames with
  | case1 socket frames nothing =>
      rw [← flatten_filter_nonempty, nothing]
      exact ⟨[], [], (List.append_nil _).symm, .sent⟩
  | case2 socket frames slice slices offer after accepted =>
      exact ⟨_, _, Recorded.history_write accepted, .stopped (offers_of_filter offer _) rfl⟩
  | case3 socket frames slice slices offer count after accepted ih =>
      obtain ⟨writes, rest, more, series⟩ := ih
      have divided := flatten_offer offer (count + 1)
      refine ⟨_, rest, ?_, .resumed (offers_of_filter offer (.accepted (count + 1))) rfl
        divided.symm series⟩
      rw [more, Recorded.history_write accepted, List.append_assoc]
      rfl
  | case4 socket frames slice slices offer after interrupted ih =>
      obtain ⟨writes, rest, more, series⟩ := ih
      refine ⟨_, rest, ?_, .resumed (offers_of_filter offer .interrupted) rfl rfl series⟩
      rw [more, Recorded.history_write interrupted, List.append_assoc]
      rfl
  | case5 socket frames slice slices offer cause after failed =>
      exact ⟨_, _, Recorded.history_write failed, .stopped (offers_of_filter offer _) rfl⟩

/-- A write of many frames sends each byte of them once, in order. Every write offers exactly what
has not been accepted, and if none goes wrong, all of it is accepted and then flushed once. A write
that goes wrong is the last call; it leaves something unsent, and the caller is told its cause. On a
socket that works nothing goes wrong. -/
theorem writeMany_sends_once (frames : List Bytes) (transport : Transport (Recorded σ)) :
    (∃ writes rest socket,
      (∀ earlier call later, writes = earlier ++ call :: later →
        ∃ slices outcome, call = .write slices outcome ∧ slices ≠ [] ∧
          (∀ slice ∈ slices, slice ≠ []) ∧
          earlier.flatMap SocketCall.accepted ++ slices.flatten = frames.flatten) ∧
      writes.flatMap SocketCall.accepted ++ rest = frames.flatten ∧
      ((∀ frame ∈ frames, frame = []) → writes = []) ∧
      (((∀ call ∈ writes, call.fault = none) ∧ rest = [] ∧ ∃ flushed,
          socket.history = transport.socket.history ++ (writes ++ [.flush flushed]) ∧
          (writeMany frames).runFrom transport =
            ((flushed.map fun _ => totalLength frames).mapError .connection,
              { transport with socket })) ∨
        ∃ earlier call cause, writes = earlier ++ [call] ∧
          (∀ other ∈ earlier, other.fault = none) ∧ call.fault = some cause ∧ rest ≠ [] ∧
          socket.history = transport.socket.history ++ writes ∧
          (writeMany frames).runFrom transport =
            (.error (.connection cause), { transport with socket }))) ∧
    ∀ calm : σ → Prop, Socket.Accepting calm → calm transport.socket.socket →
      ∃ after, (writeMany frames).runFrom transport = (.ok (totalLength frames), after) := by
  constructor
  · obtain ⟨writes, rest, more, series⟩ := sendAll_resumes transport.socket frames
    have nothing : (∀ frame ∈ frames, frame = []) → writes = [] := fun empty =>
      series.eq_nil (List.flatten_eq_nil_iff.2 empty)
    have unsent := series.rest_eq_nil_iff
    obtain ⟨earlier, clean, verdict⟩ := series.ends_at_fault
    rcases sent : sendAll transport.socket frames with ⟨cause | _, middle⟩
    · rw [sent] at more unsent verdict
      obtain ⟨impossible, -⟩ | ⟨call, found, same, faulty, last⟩ := verdict
      · cases impossible
      · cases same
        refine ⟨writes, rest, middle, series.offers, series.accepted, nothing, .inr
          ⟨earlier, call, cause, last, clean, faulty, ?_, more, ?_⟩⟩
        · exact fun empty => nomatch unsent.1 empty
        · simp only [writeMany, Attempt.runFrom_ofStep, sent]
    · rw [sent] at more unsent verdict
      obtain ⟨-, rfl⟩ | ⟨call, found, impossible, -⟩ := verdict
      · rcases flushed : Socket.flush middle with ⟨outcome, after⟩
        refine ⟨writes, rest, after, series.offers, series.accepted, nothing, .inl
          ⟨clean, unsent.2 rfl, outcome, ?_, ?_⟩⟩
        · rw [Recorded.history_flush flushed, more, List.append_assoc]
        · simp only [writeMany, Attempt.runFrom_ofStep, sent, flushed]
          cases outcome <;> rfl
      · cases impossible
  · intro calm works quiet
    obtain ⟨after, done, -⟩ := writeMany_succeeds (Recorded.accepting works) frames quiet
    exact ⟨after, done⟩

/-- Frames with empty ones among them, to a socket that accepts three bytes at a time and is
interrupted once. -/
theorem writeMany_sends_once_in_pieces :
    let socket : Scripted := { writeChunk := 3, writeFaults := [.pass, .interrupted] }
    let transport := Transport.ofSocket ({ socket } : Recorded Scripted)
    let frames := [[], Bytes.ofText "*1\r\n", [], [], Bytes.ofText "$4\r\nPING\r\n"]
    ∃ after, (writeMany frames).runFrom transport = (.ok 14, after) := by
  intro socket transport frames
  have calm : socket.Faultless := by
    constructor <;> simp [socket, Scripted.Harmless]
  exact (writeMany_sends_once frames transport).2 _ Scripted.accepting calm

end Transport

end RespClient
