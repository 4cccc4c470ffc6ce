import RespClient.Proofs.Transport.Account
import RespClient.Proofs.Transport.Simulation

/-!
# Within bounds

Whatever is done with a transport, in whatever order and after whatever errors, its
indices stay in order and within the block, no operation on the block violates a check,
and no read is asked for nothing. What is in the buffer is what has been delivered and
not been taken, in the order in which it has been delivered.
-/

namespace RespClient

namespace Attempt

variable {ε state α : Type}

/-- The attempts one after the other, also after one that fails. -/
def runEach : List (Attempt ε state α) → state → List (Except ε α) × state
  | [], before => ([], before)
  | attempt :: attempts, before =>
      let (outcome, middle) := attempt.runFrom before
      let (outcomes, after) := runEach attempts middle
      (outcome :: outcomes, after)

theorem runEach_cons {attempt : Attempt ε state α} {attempts : List (Attempt ε state α)}
    {before middle after : state} {outcome : Except ε α} {outcomes : List (Except ε α)}
    (first : attempt.runFrom before = (outcome, middle))
    (others : runEach attempts middle = (outcomes, after)) :
    runEach (attempt :: attempts) before = (outcome :: outcomes, after) := by
  rw [runEach, first]
  dsimp only
  rw [others]

end Attempt

namespace Window

open Transport (Answer Call Serves Takes)

variable {σ : Type}

/-- What can be done with a transport that is not only looked at. -/
inductive Action (σ : Type) where
  | ask (call : Call)
  /-- Fills the memory of the caller. -/
  | fill (memory : Bytes)
  | send (frames : List Bytes)
  /-- Lends out the socket, to be changed in any way. -/
  | lend (change : σ → σ)

namespace Action

/-- How an action reads, if it does. -/
def asks : Action σ → Option Call
  | .ask call => some call
  | .fill memory => some (.read memory.length)
  | .send _ => none
  | .lend _ => none

/-- An action that succeeds in reading takes what it answers with, and one that does not read takes
nothing. When reading fails some bytes may be lost. -/
def Spends (action : Action σ) (outcome : Except FatalError Answer) (taken : Bytes) : Prop :=
  match action.asks, outcome with
  | some call, .ok answer => ∃ rest, Serves call (taken ++ rest) answer taken rest
  | some _, .error _ => True
  | none, _ => taken = []

end Action

/-- What the actions have taken, one after the other. -/
inductive Spent : List (Action σ) → List (Except FatalError Answer) → Bytes → Prop where
  | nil : Spent [] [] []
  | cons {action : Action σ} {actions : List (Action σ)} {outcome : Except FatalError Answer}
      {outcomes : List (Except FatalError Answer)} {taken more : Bytes}
      (first : action.Spends outcome taken) (others : Spent actions outcomes more) :
      Spent (action :: actions) (outcome :: outcomes) (taken ++ more)

/-- The record does not show what the caller does to the socket. -/
def lent (change : σ → σ) (recorded : Recorded σ) : Recorded σ :=
  { recorded with socket := change recorded.socket }

variable [Socket σ]

def perform : Call → Guarded (Window σ) Answer
  | .read count => do return .bytes (← read count)
  | .readByte => do return .byte (← readByte)
  | .readLine => do return .line (← readLine)
  | .discard count => do
      discard count
      return .done
  | .wait timeout => do return .ready (← wait timeout)

namespace Action

def onWindow : Action σ → Guarded (Window (Recorded σ)) Answer
  | .ask call => perform call
  | .fill memory => do return .bytes (← readExact memory)
  | .send frames => do
      let _ ← writeMany frames
      return .done
  | .lend change => do
      modify fun window => { window with socket := lent change window.socket }
      return .done

def onTransport : Action σ → Attempt FatalError (Transport (Recorded σ)) Answer
  | .ask call => call.perform
  | .fill memory => (Call.read memory.length).perform
  | .send frames => do
      let _ ← Transport.writeMany frames
      return .done
  | .lend change => do
      modify fun transport => { transport with socket := lent change transport.socket }
      return .done

end Action

/-! ## One action -/

theorem perform_simulates (call : Call) : Simulates (perform call) (call.perform (σ := σ)) := by
  cases call with
  | read count =>
      have simulates := readExact_simulates (σ := σ) (List.replicate count 0)
      rw [List.length_replicate] at simulates
      exact simulates.bind fun data => .pure (Answer.bytes data)
  | readByte => exact readByte_simulates.bind fun value => .pure (Answer.byte value)
  | readLine => exact readLine_simulates.bind fun text => .pure (Answer.line text)
  | discard count => exact (discard_simulates count).bind fun _ => .pure Answer.done
  | wait timeout => exact (wait_simulates timeout).bind fun ready => .pure (Answer.ready ready)

theorem Action.simulates (action : Action σ) : Simulates action.onWindow action.onTransport := by
  cases action with
  | ask call => exact perform_simulates call
  | fill memory => exact (readExact_simulates memory).bind fun data => .pure (Answer.bytes data)
  | send frames => exact (writeMany_simulates frames).bind fun _ => .pure Answer.done
  | lend change =>
      intro window transport holds
      have still := holds.withSocket (lent change transport.socket)
      refine ⟨.ok Answer.done, _, _, rfl, ?_, still⟩
      rw [← holds.socket]
      rfl

theorem Action.after_send (frames : List Bytes) (transport : Transport (Recorded σ)) :
    ((Action.send frames).onTransport.runFrom transport).2 =
      ((Transport.writeMany frames).runFrom transport).2 :=
  Transport.state_after (Transport.writeMany frames) (fun _ => Answer.done) transport

/-- An action takes something off the front of the buffer, and it is what it may take. -/
theorem Action.takes (action : Action σ) (transport : Transport (Recorded σ)) :
    ∃ calls taken, Takes transport (action.onTransport.runFrom transport).2 calls taken ∧
      action.Spends (action.onTransport.runFrom transport).1 taken := by
  have reads (call : Call) : ∃ calls taken,
      Takes transport (call.perform.runFrom transport).2 calls taken ∧
      (Action.ask call : Action σ).Spends (call.perform.runFrom transport).1 taken := by
    obtain ⟨calls, taken, takes, served⟩ := Transport.perform_takes call transport
    refine ⟨calls, taken, takes, ?_⟩
    cases outcome : (call.perform.runFrom transport).1 with
    | error cause => trivial
    | ok answer => exact served answer outcome
  cases action with
  | ask call => exact reads call
  | fill memory => exact reads (.read memory.length)
  | send frames =>
      obtain ⟨calls, takes⟩ := Transport.writeMany_takes frames transport
      exact ⟨calls, [], after_send frames transport ▸ takes, rfl⟩
  | lend change => exact ⟨[], [], .idle rfl rfl, rfl⟩

theorem Action.capacity_after (action : Action σ) (transport : Transport (Recorded σ)) :
    (action.onTransport.runFrom transport).2.capacity = transport.capacity := by
  cases action with
  | ask call => exact Transport.perform_capacity call transport
  | fill memory => exact Transport.perform_capacity (.read memory.length) transport
  | send frames =>
      rw [after_send]
      exact Transport.writeMany_capacity frames transport
  | lend change => rfl

/-! ## Many actions -/

theorem runEach_simulates (actions : List (Action σ)) {window : Window (Recorded σ)}
    {transport : Transport (Recorded σ)} (holds : Holds window transport) :
    ∃ outcomes shown after,
      Attempt.runEach (actions.map Action.onTransport) transport = (outcomes, after) ∧
      Attempt.runEach (actions.map Action.onWindow) window =
        (outcomes.map (·.mapError .failed), shown) ∧
      Holds shown after := by
  induction actions generalizing window transport with
  | nil => exact ⟨[], window, transport, rfl, rfl, holds⟩
  | cons action actions ih =>
      obtain ⟨outcome, middle, between, kept, ran, still⟩ := action.simulates holds
      obtain ⟨outcomes, shown, after, others, along, last⟩ := ih still
      exact ⟨outcome :: outcomes, shown, after, Attempt.runEach_cons kept others,
        Attempt.runEach_cons ran along, last⟩

theorem runEach_takes (actions : List (Action σ)) (transport : Transport (Recorded σ)) :
    ∃ calls spent,
      Takes transport (Attempt.runEach (actions.map Action.onTransport) transport).2 calls spent ∧
      Spent actions (Attempt.runEach (actions.map Action.onTransport) transport).1 spent := by
  induction actions generalizing transport with
  | nil => exact ⟨[], [], .idle rfl rfl, .nil⟩
  | cons action actions ih =>
      obtain ⟨calls, taken, first, spends⟩ := action.takes transport
      obtain ⟨more, spent, rest, others⟩ := ih (action.onTransport.runFrom transport).2
      exact ⟨calls ++ more, taken ++ spent, first.trans rest, .cons spends others⟩

theorem runEach_capacity (actions : List (Action σ)) (transport : Transport (Recorded σ)) :
    (Attempt.runEach (actions.map Action.onTransport) transport).2.capacity =
      transport.capacity := by
  induction actions generalizing transport with
  | nil => rfl
  | cons action actions ih => exact (ih _).trans (action.capacity_after transport)

omit [Socket σ] in
theorem ofSocketWith_holds (capacity : Nat) (socket : σ) :
    Holds (ofSocketWith capacity socket) (Transport.ofSocketWith capacity socket) where
  socket := rfl
  size := List.length_replicate
  start := rfl
  stop := rfl
  fits := Nat.zero_le _
  content := rfl

/-- From a new transport on, after any actions, failed ones among them, the block with its indices
still represents the transport, and no check has been violated on the way. The indices are in order
and within a block that has kept its size. Every read of the socket had room for something. What is
in the buffer is what the socket has delivered without what the actions have taken. -/
theorem stays_in_bounds (capacity : Nat) (socket : σ) (actions : List (Action σ)) :
    let kept := Attempt.runEach (actions.map Action.onTransport)
      (Transport.ofSocketWith capacity { socket })
    let ran := Attempt.runEach (actions.map Action.onWindow) (ofSocketWith capacity { socket })
    Holds ran.2 kept.2 ∧ ran.1 = kept.1.map (·.mapError .failed) ∧
    (∀ check, .error (.violated check) ∉ ran.1) ∧
    (ran.2.start ≤ ran.2.stop ∧ ran.2.stop ≤ ran.2.block.length ∧
      ran.2.block.length = max capacity minReadBuffer ∧ minReadBuffer ≤ ran.2.block.length) ∧
    (∀ room outcome, .read room outcome ∈ ran.2.socket.history → 0 < room) ∧
    buffered.runFrom ran.2 = (.ok kept.2.unread, ran.2) ∧
    ∃ spent, Spent actions kept.1 spent ∧ ran.2.socket.delivered = spent ++ kept.2.unread := by
  intro kept ran
  obtain ⟨outcomes, shown, after, done, along, holds⟩ :=
    runEach_simulates actions (ofSocketWith_holds capacity ({ socket } : Recorded σ))
  obtain ⟨calls, spent, takes, accounted⟩ :=
    runEach_takes actions (Transport.ofSocketWith capacity { socket })
  have size := runEach_capacity actions (Transport.ofSocketWith capacity { socket })
  rw [show kept = (outcomes, after) from done, show ran = _ from along]
  rw [done] at takes accounted size
  have history : shown.socket.history = calls := holds.socket ▸ takes.history
  have length := holds.size.trans size
  refine ⟨holds, rfl, ?_, ⟨holds.ordered, holds.within, length, ?_⟩, ?_, buffered_shows holds,
    spent, accounted, ?_⟩
  · intro check member
    obtain ⟨outcome, -, mapped⟩ := List.mem_map.1 member
    cases outcome <;> cases mapped
  · rw [length]
    exact Nat.le_max_right _ _
  · intro room outcome member
    exact takes.roomy _ (history ▸ member)
  · rw [Recorded.delivered, history]
    exact takes.content

end Window

end RespClient
