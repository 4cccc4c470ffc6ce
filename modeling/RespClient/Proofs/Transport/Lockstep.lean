import RespClient.Proofs.Transport.Delivery
import RespClient.Proofs.Transport.Sending

/-!
# Reading in lockstep

A relation between sockets that reads cannot tell apart carries over to transports
with the same buffer: what is read off one of them is read off the other. On a duplex
socket, whose two directions have nothing to do with each other, sockets are related
in this way whatever has been written on either of them.
-/

namespace RespClient

namespace Socket

variable {σ ρ : Type} [Socket σ]

/-- Reads on related sockets come to the same and leave related sockets. -/
def Lockstep (related : σ → σ → Prop) : Prop :=
  ∀ ⦃first second : σ⦄ (room : Nat), related first second →
    ∃ outcome after last, Socket.read first room = (outcome, after) ∧
      Socket.read second room = (outcome, last) ∧ related after last

theorem lockstep_self {calm : σ → Prop}
    (kept : ∀ socket room, calm socket → calm (Socket.read socket room).2) :
    Lockstep fun first second : σ => first = second ∧ calm second := by
  rintro first second room ⟨rfl, quiet⟩
  exact ⟨_, _, _, rfl, rfl, rfl, kept first room quiet⟩

/-- Reads see this half of the socket alone, and writes leave it as it is. -/
structure Duplex (half : σ → ρ) : Prop where
  read : Lockstep fun first second : σ => half first = half second
  write : ∀ (socket : σ) (slices : List Bytes), half (Socket.write socket slices).2 = half socket
  flush : ∀ socket : σ, half (Socket.flush socket).2 = half socket
  pending : ∀ {first second : σ}, half first = half second →
    Socket.pending first = Socket.pending second

end Socket

namespace Scripted

/-- What reads depend on. -/
def incoming (socket : Scripted) : Bytes × Nat × List Fault :=
  (socket.input, socket.readChunk, socket.readFaults)

theorem duplex : Socket.Duplex incoming where
  read := by
    rintro ⟨input, ended, chunk, _, faults, _, _, _⟩ ⟨_, _, _, _, _, _, _, _⟩ room same
    cases same
    cases faults with
    | nil => exact ⟨_, _, _, rfl, rfl, rfl⟩
    | cons fault rest => cases fault <;> exact ⟨_, _, _, rfl, rfl, rfl⟩
  write := by
    intro socket slices
    change incoming (write socket slices).2 = incoming socket
    unfold write
    split
    · rfl
    · next fault rest queue => cases fault <;> rfl
  flush _ := rfl
  pending := congrArg Prod.fst

end Scripted

theorem Recorded.duplex {σ ρ : Type} [Socket σ] {half : σ → ρ} (works : Socket.Duplex half) :
    Socket.Duplex fun recorded : Recorded σ => half recorded.socket where
  read := by
    intro first second room same
    obtain ⟨outcome, after, last, here, there, left⟩ := works.read room same
    change ∃ outcome after last, first.read room = (outcome, after) ∧
      second.read room = (outcome, last) ∧ half after.socket = half last.socket
    rw [Recorded.read, Recorded.read, here, there]
    exact ⟨_, _, _, rfl, rfl, left⟩
  write recorded slices := works.write recorded.socket slices
  flush recorded := works.flush recorded.socket
  pending same := works.pending same

namespace Transport

variable {σ : Type} {related : σ → σ → Prop}

/-- The same buffer in front of related sockets. -/
structure Alike (related : σ → σ → Prop) (first second : Transport σ) : Prop where
  capacity : first.capacity = second.capacity
  position : first.position = second.position
  unread : first.unread = second.unread
  sockets : related first.socket second.socket

namespace Alike

variable {first second : Transport σ}

theorem advance (alike : Alike related first second) (count : Nat) :
    Alike related (first.advance count) (second.advance count) where
  capacity := alike.capacity
  position := congrArg (· + count) alike.position
  unread := congrArg (List.drop count) alike.unread
  sockets := alike.sockets

theorem refilled (alike : Alike related first second) {socket other : σ}
    (same : related socket other) (bytes : Bytes) :
    Alike related (first.refilled socket bytes) (second.refilled other bytes) :=
  ⟨alike.capacity, rfl, rfl, same⟩

/-- They differ in their sockets at most. -/
theorem eq_withSocket (alike : Alike related first second) :
    second = { first with socket := second.socket } := by
  obtain ⟨socket, capacity, roomy, position, unread⟩ := first
  obtain ⟨other, _, _, _, _⟩ := second
  obtain ⟨rfl, rfl, rfl, -⟩ := alike
  rfl

end Alike

/-- What is read does not tell alike transports apart, and leaves them alike. -/
def Unaffected (related : σ → σ → Prop) {α : Type}
    (reading : Attempt FatalError (Transport σ) α) : Prop :=
  ∀ ⦃first second : Transport σ⦄, Alike related first second →
    ∃ outcome after last, reading.runFrom first = (outcome, after) ∧
      reading.runFrom second = (outcome, last) ∧ Alike related after last

variable [Socket σ]

theorem receive_unaffected (works : Socket.Lockstep related) {first second : σ} (room : Nat)
    (same : related first second) :
    ∃ outcome after last, receive first room = (outcome, after) ∧
      receive second room = (outcome, last) ∧ related after last := by
  obtain ⟨outcome, after, last, here, there, left⟩ := works room same
  rw [receive_eq first, receive_eq second, here, there]
  cases outcome with
  | received bytes => cases bytes <;> exact ⟨_, _, _, rfl, rfl, left⟩
  | interrupted => exact receive_unaffected works room left
  | failed cause => exact ⟨_, _, _, rfl, rfl, left⟩
termination_by Socket.patience first
decreasing_by exact (Socket.read_interrupted here).2

theorem gather_unaffected (works : Socket.Lockstep related) {first second : σ} (room missing : Nat)
    (taken : Bytes) (same : related first second) :
    ∃ outcome bytes after last, gather first room missing taken = ⟨outcome, bytes, after⟩ ∧
      gather second room missing taken = ⟨outcome, bytes, last⟩ ∧ related after last := by
  rw [gather.eq_def first, gather.eq_def second]
  by_cases enough : missing = 0
  · rw [if_pos enough, if_pos enough]
    exact ⟨_, _, _, _, rfl, rfl, same⟩
  · rw [if_neg enough, if_neg enough]
    obtain ⟨outcome, after, last, here, there, left⟩ := receive_unaffected works room same
    rw [here, there]
    cases outcome with
    | error cause => exact ⟨_, _, _, _, rfl, rfl, left⟩
    | ok delivered => exact gather_unaffected works _ _ _ left
termination_by missing

theorem read_unaffected (works : Socket.Lockstep related) (count : Nat) :
    Unaffected related (read count) := by
  rintro ⟨socket, capacity, roomy, position, unread⟩ ⟨other, _, _, _, _⟩ ⟨rfl, rfl, rfl, same⟩
  simp only [read, Attempt.runFrom_ofStep]
  split
  · exact ⟨_, _, _, rfl, rfl, rfl, rfl, rfl, same⟩
  · split
    · obtain ⟨outcome, bytes, after, last, here, there, left⟩ :=
        gather_unaffected works (count - (unread.take count).length)
          (count - (unread.take count).length) [] same
      rw [here, there]
      cases outcome <;> exact ⟨_, _, _, rfl, rfl, rfl, rfl, rfl, left⟩
    · obtain ⟨outcome, bytes, after, last, here, there, left⟩ :=
        gather_unaffected works capacity (count - (unread.take count).length) [] same
      rw [here, there]
      cases outcome <;> exact ⟨_, _, _, rfl, rfl, rfl, rfl, rfl, left⟩

theorem readByte_unaffected (works : Socket.Lockstep related) : Unaffected related readByte := by
  rintro ⟨socket, capacity, roomy, position, unread⟩ ⟨other, _, _, _, _⟩ ⟨rfl, rfl, rfl, same⟩
  simp only [readByte, Attempt.runFrom_ofStep]
  split
  · exact ⟨_, _, _, rfl, rfl, rfl, rfl, rfl, same⟩
  · obtain ⟨outcome, after, last, here, there, left⟩ := receive_unaffected works capacity same
    rw [here, there]
    cases outcome <;> exact ⟨_, _, _, rfl, rfl, rfl, rfl, rfl, left⟩

theorem continueLine_unaffected (works : Socket.Lockstep related) {first second : Transport σ}
    (room : Nat) (taken : Bytes) (alike : Alike related first second) :
    ∃ outcome after last, continueLine first room taken = (outcome, after) ∧
      continueLine second room taken = (outcome, last) ∧ Alike related after last := by
  rw [continueLine.eq_def first, continueLine.eq_def second, ← alike.unread, ← alike.capacity]
  dsimp only
  cases cut_off : first.unread.drop first.unread.firstLine.length with
  | cons feed rest => exact ⟨_, _, _, rfl, rfl, alike.advance _⟩
  | nil =>
      by_cases long : room < first.unread.length
      · rw [if_pos long, if_pos long]
        exact ⟨_, _, _, rfl, rfl, alike.advance _⟩
      · rw [if_neg long, if_neg long]
        obtain ⟨outcome, after, last, here, there, left⟩ :=
          receive_unaffected works first.capacity alike.sockets
        rw [here, there]
        cases outcome with
        | error cause => exact ⟨_, _, _, rfl, rfl, alike.refilled left []⟩
        | ok delivered => exact continueLine_unaffected works _ _ (alike.refilled left _)
termination_by room + (if first.unread.isEmpty then 1 else 0)
decreasing_by
  simp only [refilled, List.isEmpty_cons]
  cases unread : first.unread <;> simp_all
  omega

theorem readLine_unaffected (works : Socket.Lockstep related) : Unaffected related readLine :=
  fun _ _ alike => continueLine_unaffected works maxLineLength [] alike

/-! ## Writing -/

theorem half_sendAll {ρ : Type} {half : σ → ρ} (works : Socket.Duplex half) (socket : σ)
    (frames : List Bytes) : half (sendAll socket frames).2 = half socket := by
  have kept : ∀ {socket after : σ} {slices : List Bytes} {outcome : Acceptance},
      Socket.write socket slices = (outcome, after) → half after = half socket := by
    intro socket after slices outcome written
    have same := works.write socket slices
    rwa [written] at same
  fun_induction sendAll socket frames with
  | case1 => rfl
  | case2 socket frames slice slices offer after accepted => exact kept accepted
  | case3 socket frames slice slices offer after count accepted ih => exact ih.trans (kept accepted)
  | case4 socket frames slice slices offer after interrupted ih => exact ih.trans (kept interrupted)
  | case5 socket frames slice slices offer cause after failed => exact kept failed

/-- Writing leaves the buffer and the reading half as they are. -/
theorem writeMany_half {ρ : Type} {half : σ → ρ} (works : Socket.Duplex half)
    (transport : Transport σ) (frames : List Bytes) :
    ∃ outcome socket, (writeMany frames).runFrom transport = (outcome, { transport with socket }) ∧
      half socket = half transport.socket := by
  have kept := half_sendAll works transport.socket frames
  simp only [writeMany, Attempt.runFrom_ofStep]
  rcases sent : sendAll transport.socket frames with ⟨_ | _, after⟩
  · rw [sent] at kept
    exact ⟨_, _, rfl, kept⟩
  · rw [sent] at kept
    have still := works.flush after
    rcases flushed : Socket.flush after with ⟨_ | _, last⟩
    all_goals
      rw [flushed] at still
      simp only [flushed]
      exact ⟨_, _, rfl, still.trans kept⟩

end Transport

end RespClient
