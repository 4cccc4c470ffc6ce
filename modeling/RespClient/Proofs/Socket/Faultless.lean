import RespClient.Socket.Recorded
import RespClient.Socket.Scripted

/-!
# Sockets without faults

A property of socket states that every call preserves and under which no call
fails describes a socket that works. Such a socket may still cut what it delivers
and accepts into pieces of any size, and interrupt a call now and then. Apart from
that, writing to a quiet socket has no influence on what its peer sends.
-/

namespace RespClient

namespace Socket

variable {σ : Type} [Socket σ]

/-- A read into a buffer with room delivers something as long as there is something to deliver. -/
structure Delivering (calm : σ → Prop) : Prop where
  read : ∀ {socket : σ} {room : Nat}, calm socket → 0 < room → Socket.pending socket ≠ [] →
    ∃ after, calm after ∧ (Socket.read socket room = (.interrupted, after) ∨
      ∃ first rest, Socket.read socket room = (.received (first :: rest), after))
  wait : ∀ {socket : σ} (timeout : Option Nat), calm socket →
    ∃ ready after, calm after ∧ Socket.wait socket timeout = (.ok ready, after)

/-- A write of something accepts at least one byte of it. -/
structure Accepting (calm : σ → Prop) : Prop where
  write : ∀ {socket : σ} {slices : List Bytes}, calm socket → 0 < totalLength slices →
    ∃ after, calm after ∧ (Socket.write socket slices = (.interrupted, after) ∨
      ∃ count, Socket.write socket slices = (.accepted (count + 1), after))
  flush : ∀ {socket : σ}, calm socket → ∃ after, calm after ∧ Socket.flush socket = (.ok (), after)

/-- What is true of a write that has to accept something, told of the outcome that it had. -/
theorem Accepting.write_outcome {calm : σ → Prop} (works : Accepting calm) {socket after : σ}
    {slices : List Bytes} {outcome : Acceptance} (quiet : calm socket)
    (filled : 0 < totalLength slices) (written : Socket.write socket slices = (outcome, after)) :
    calm after ∧ (outcome = .interrupted ∨ ∃ count, outcome = .accepted (count + 1)) := by
  rcases works.write quiet filled with ⟨last, still, interrupted | ⟨count, accepted⟩⟩
  · cases written.symm.trans interrupted
    exact ⟨still, .inl rfl⟩
  · cases written.symm.trans accepted
    exact ⟨still, .inr ⟨count, rfl⟩⟩

/-- A wait for something that is there finds it. -/
def Prompt (calm : σ → Prop) : Prop :=
  ∀ {socket : σ} (timeout : Option Nat), calm socket → Socket.pending socket ≠ [] →
    ∃ after, calm after ∧ Socket.wait socket timeout = (.ok true, after)

/-- A wait tells whether there is anything left to be delivered. -/
def Honest (calm : σ → Prop) : Prop :=
  ∀ {socket : σ} (timeout : Option Nat), calm socket →
    ∃ after, calm after ∧
      Socket.wait socket timeout = (.ok (decide (Socket.pending socket ≠ [])), after)

theorem Honest.prompt {calm : σ → Prop} (honest : Honest calm) : Prompt calm := by
  intro socket timeout quiet left
  obtain ⟨after, still, waited⟩ := honest timeout quiet
  rw [decide_eq_true left] at waited
  exact ⟨after, still, waited⟩

/-- What reads and waits keep goes together with what they need. -/
theorem Delivering.and {calm kept : σ → Prop} (works : Delivering calm)
    (read : ∀ socket room, kept socket → kept (Socket.read socket room).2)
    (wait : ∀ socket timeout, kept socket → kept (Socket.wait socket timeout).2) :
    Delivering fun socket => calm socket ∧ kept socket where
  read := by
    rintro socket room ⟨quiet, keeps⟩ roomy left
    obtain ⟨after, still, outcome⟩ := works.read quiet roomy left
    have same : (Socket.read socket room).2 = after := by
      rcases outcome with outcome | ⟨first, rest, outcome⟩ <;> rw [outcome]
    exact ⟨after, ⟨still, same ▸ read socket room keeps⟩, outcome⟩
  wait := by
    rintro socket timeout ⟨quiet, keeps⟩
    obtain ⟨ready, after, still, outcome⟩ := works.wait timeout quiet
    have same : (Socket.wait socket timeout).2 = after := by rw [outcome]
    exact ⟨ready, after, ⟨still, same ▸ wait socket timeout keeps⟩, outcome⟩

/-- What the peer sends does not depend on what is written to it. -/
class Quiet (σ : Type) [Socket σ] : Prop where
  pending_write : ∀ (socket : σ) (slices : List Bytes),
    Socket.pending (Socket.write socket slices).2 = Socket.pending socket
  pending_flush : ∀ socket : σ, Socket.pending (Socket.flush socket).2 = Socket.pending socket

theorem pending_of_write [Quiet σ] {socket after : σ} {slices : List Bytes} {outcome : Acceptance}
    (written : Socket.write socket slices = (outcome, after)) :
    Socket.pending after = Socket.pending socket := by
  have kept := Quiet.pending_write socket slices
  rw [written] at kept
  exact kept

end Socket

namespace Scripted

theorem lengthUpTo_pos {bound : Nat} {slices : List Bytes} (some : 0 < bound)
    (filled : 0 < totalLength slices) : 0 < lengthUpTo bound slices := by
  induction slices with
  | nil => exact filled
  | cons slice rest ih =>
      simp only [totalLength] at ih filled
      simp only [lengthUpTo, List.length_take]
      by_cases empty : slice.length = 0
      · have tail := ih (by omega)
        simpa [empty] using tail
      · omega

/-- Nothing in the queue but calls that go through or are interrupted. -/
def Harmless (faults : List Fault) : Prop :=
  ∀ fault ∈ faults, fault = .pass ∨ fault = .interrupted

/-- A script that never makes a call fail. -/
structure Faultless (socket : Scripted) : Prop where
  reads : Harmless socket.readFaults
  writes : Harmless socket.writeFaults
  flushes : ∀ fault ∈ socket.flushFaults, fault = .pass
  waits : ∀ fault ∈ socket.waitFaults, fault = .pass

/-- A script that says nothing of its calls has no faults. -/
theorem faultless_of_input (input : Bytes) : Faultless { input } := by
  constructor <;> simp [Harmless]

theorem Faultless.deliver {socket : Scripted} (faultless : socket.Faultless) (room : Nat) :
    (socket.deliver room).2.Faultless :=
  ⟨faultless.reads, faultless.writes, faultless.flushes, faultless.waits⟩

/-- The next read goes through or is interrupted, and the script has no faults after it either. -/
theorem Faultless.next_read {socket : Scripted} (faultless : socket.Faultless) {fault : Fault}
    {rest : List Fault} (queue : socket.readFaults = fault :: rest) :
    (fault = .pass ∨ fault = .interrupted) ∧ Faultless { socket with readFaults := rest } := by
  have others : Harmless rest := fun other member =>
    faultless.reads other (queue ▸ List.mem_cons_of_mem _ member)
  exact ⟨faultless.reads fault (queue ▸ List.mem_cons_self), others, faultless.writes,
    faultless.flushes, faultless.waits⟩

theorem Faultless.read {socket : Scripted} (faultless : socket.Faultless) (room : Nat) :
    (socket.read room).2.Faultless := by
  unfold Scripted.read
  split
  · exact faultless.deliver room
  · next fault rest queue =>
    obtain ⟨rfl | rfl, after⟩ := faultless.next_read queue
    · exact after.deliver room
    · exact after

theorem limit_pos (chunk : Nat) {room : Nat} (roomy : 0 < room) : 0 < limit chunk room := by
  unfold limit
  split
  · exact roomy
  · omega

theorem deliver_received_cons (socket : Scripted) {room : Nat} (roomy : 0 < room)
    (left : socket.input ≠ []) :
    ∃ first rest, (socket.deliver room).1 = .received (first :: rest) := by
  obtain ⟨first, rest, input⟩ := List.exists_cons_of_ne_nil left
  obtain ⟨size, positive⟩ := Nat.exists_eq_add_of_lt (limit_pos socket.readChunk roomy)
  rw [Nat.zero_add] at positive
  exact ⟨first, rest.take size, by rw [deliver, positive, input, List.take_succ_cons]⟩

theorem accept_succ (socket : Scripted) {slices : List Bytes} (some : 0 < totalLength slices) :
    ∃ count, socket.accept slices = .accepted (count + 1) := by
  have positive : 0 < if socket.writeChunk = 0 then totalLength slices
      else lengthUpTo socket.writeChunk slices := by
    split
    · exact some
    · next limited => exact lengthUpTo_pos (Nat.pos_of_ne_zero limited) some
  exact ⟨_, congrArg Acceptance.accepted (Nat.succ_pred_eq_of_pos positive).symm⟩

theorem once_pass {α : Type} {faults : List Fault} (harmless : ∀ fault ∈ faults, fault = .pass)
    (value : α) : once faults.head? value = .ok value := by
  cases faults with
  | nil => rfl
  | cons fault rest =>
      rw [harmless fault List.mem_cons_self]
      rfl

theorem Faultless.wait {socket : Scripted} (faultless : socket.Faultless) (timeout : Option Nat) :
    (socket.wait timeout).2.Faultless :=
  ⟨faultless.reads, faultless.writes, faultless.flushes, fun fault member =>
    faultless.waits fault (List.mem_of_mem_tail member)⟩

theorem delivering : Socket.Delivering Faultless where
  read := by
    intro socket room faultless roomy left
    change ∃ after, _ ∧ (read socket room = _ ∨ ∃ first rest, read socket room = _)
    unfold read
    split
    · obtain ⟨first, rest, delivered⟩ := deliver_received_cons socket roomy left
      exact ⟨_, faultless.deliver room, .inr ⟨first, rest, Prod.ext delivered rfl⟩⟩
    · next fault rest queue =>
      obtain ⟨rfl | rfl, after⟩ := faultless.next_read queue
      · obtain ⟨first, rest, delivered⟩ := deliver_received_cons
          { socket with readFaults := rest } roomy left
        exact ⟨_, after.deliver room, .inr ⟨first, rest, Prod.ext delivered rfl⟩⟩
      · exact ⟨_, after, .inl rfl⟩
  wait := by
    intro socket timeout faultless
    exact ⟨_, _, faultless.wait timeout, Prod.ext (once_pass faultless.waits _) rfl⟩

theorem prompt : Socket.Prompt Faultless := by
  intro socket timeout faultless left
  have ready : (socket.ended || !socket.input.isEmpty) = true := by
    cases input : socket.input with
    | nil => exact absurd input left
    | cons => simp
  refine ⟨_, faultless.wait timeout, Prod.ext ?_ rfl⟩
  exact (once_pass faultless.waits _).trans (congrArg Except.ok ready)

/-- The script has no faults, and its peer does not close. -/
def Standing (socket : Scripted) : Prop :=
  socket.Faultless ∧ socket.ended = false

theorem ended_read (socket : Scripted) (room : Nat) :
    (socket.read room).2.ended = socket.ended := by
  unfold Scripted.read
  split
  · rfl
  · dsimp only
    split <;> rfl

theorem standing_delivering : Socket.Delivering Standing :=
  delivering.and (fun socket room still => (socket.ended_read room).trans still)
    fun _ _ still => still

theorem standing_honest : Socket.Honest Standing := by
  rintro socket timeout ⟨faultless, still⟩
  refine ⟨_, ⟨faultless.wait timeout, still⟩, Prod.ext ?_ rfl⟩
  refine (once_pass faultless.waits _).trans (congrArg Except.ok ?_)
  change (socket.ended || !socket.input.isEmpty) = decide (socket.input ≠ [])
  rw [still]
  cases socket.input <;> rfl

theorem accepting : Socket.Accepting Faultless where
  write := by
    intro socket slices faultless some
    change ∃ after, _ ∧ (write socket slices = _ ∨ ∃ count, write socket slices = _)
    unfold write
    split
    · obtain ⟨count, accepted⟩ := accept_succ socket some
      exact ⟨_, faultless, .inr ⟨count, Prod.ext accepted rfl⟩⟩
    · next fault rest queue =>
      have others : Harmless rest := fun other member =>
        faultless.writes other (queue ▸ List.mem_cons_of_mem _ member)
      have after : Faultless { socket with writeFaults := rest } :=
        ⟨faultless.reads, others, faultless.flushes, faultless.waits⟩
      rcases faultless.writes fault (queue ▸ List.mem_cons_self) with rfl | rfl
      · obtain ⟨count, accepted⟩ := accept_succ
          { socket with writeFaults := rest } some
        exact ⟨_, after, .inr ⟨count, Prod.ext accepted rfl⟩⟩
      · exact ⟨_, after, .inl rfl⟩
  flush := by
    intro socket faultless
    refine ⟨_, ?_, Prod.ext (once_pass faultless.flushes _) rfl⟩
    exact ⟨faultless.reads, faultless.writes, fun fault member =>
      faultless.flushes fault (List.mem_of_mem_tail member), faultless.waits⟩

instance : Socket.Quiet Scripted where
  pending_write socket slices := by
    change (write socket slices).2.input = socket.input
    unfold write
    split
    · rfl
    · dsimp only
      split <;> rfl
  pending_flush _ := rfl

end Scripted

namespace Recorded

variable {σ : Type} [Socket σ]

theorem delivering {calm : σ → Prop} (works : Socket.Delivering calm) :
    Socket.Delivering fun recorded : Recorded σ => calm recorded.socket where
  read := by
    intro recorded room quiet roomy left
    obtain ⟨after, still, outcome⟩ := works.read quiet roomy left
    change ∃ next : Recorded σ, _ ∧ (recorded.read room = _ ∨ ∃ first rest, recorded.read room = _)
    unfold read
    rcases outcome with outcome | ⟨first, rest, outcome⟩
    · rw [outcome]
      exact ⟨_, still, .inl rfl⟩
    · rw [outcome]
      exact ⟨_, still, .inr ⟨first, rest, rfl⟩⟩
  wait := by
    intro recorded timeout quiet
    obtain ⟨ready, after, still, outcome⟩ := works.wait timeout quiet
    change ∃ ready next, _ ∧ recorded.wait timeout = _
    unfold wait
    rw [outcome]
    exact ⟨ready, _, still, rfl⟩

theorem accepting {calm : σ → Prop} (works : Socket.Accepting calm) :
    Socket.Accepting fun recorded : Recorded σ => calm recorded.socket where
  write := by
    intro recorded slices quiet some
    obtain ⟨after, still, outcome⟩ := works.write quiet some
    change ∃ next : Recorded σ, _ ∧ (recorded.write slices = _ ∨ ∃ count, recorded.write slices = _)
    unfold write
    rcases outcome with outcome | ⟨count, outcome⟩
    · rw [outcome]
      exact ⟨_, still, .inl rfl⟩
    · rw [outcome]
      exact ⟨_, still, .inr ⟨count, rfl⟩⟩
  flush := by
    intro recorded quiet
    obtain ⟨after, still, outcome⟩ := works.flush quiet
    change ∃ next : Recorded σ, _ ∧ recorded.flush = _
    unfold flush
    rw [outcome]
    exact ⟨_, still, rfl⟩

instance [Socket.Quiet σ] : Socket.Quiet (Recorded σ) where
  pending_write recorded slices := Socket.Quiet.pending_write recorded.socket slices
  pending_flush recorded := Socket.Quiet.pending_flush recorded.socket

end Recorded

end RespClient
