import RespClient.Proofs.Transport.Window

/-!
# The window represents the transport

The block and its indices hold what is left in the buffer of a transport. From there
every operation on them comes to what the transport comes to, with the same socket, and
holds it again afterwards, whether it has succeeded or not. So none of the checks along
the way has been violated.
-/

namespace RespClient

namespace Window

open Guarded

variable {σ : Type}

structure Holds (window : Window σ) (transport : Transport σ) : Prop where
  socket : window.socket = transport.socket
  size : window.block.length = transport.capacity
  start : window.start = transport.position
  stop : window.stop = transport.filled
  fits : transport.filled ≤ transport.capacity
  content : (window.block.take window.stop).drop window.start = transport.unread

/-- On a window that represents a transport, the one does what the other does, and no check is
violated. -/
def Simulates {α : Type} (guarded : Guarded (Window σ) α)
    (attempt : Attempt FatalError (Transport σ) α) : Prop :=
  ∀ ⦃window transport⦄, Holds window transport →
    ∃ outcome shown after, attempt.runFrom transport = (outcome, after) ∧
      guarded.runFrom window = (outcome.mapError .failed, shown) ∧ Holds shown after

namespace Simulates

variable {α β : Type}

theorem pure (value : α) :
    Simulates (pure value : Guarded (Window σ) α)
      (pure value : Attempt FatalError (Transport σ) α) :=
  fun window transport holds => ⟨_, window, transport, rfl, rfl, holds⟩

theorem bind {guarded : Guarded (Window σ) α} {attempt : Attempt FatalError (Transport σ) α}
    {next : α → Guarded (Window σ) β} {then_next : α → Attempt FatalError (Transport σ) β}
    (first : Simulates guarded attempt) (rest : ∀ value, Simulates (next value) (then_next value)) :
    Simulates (guarded >>= next) (attempt >>= then_next) := by
  intro window transport holds
  obtain ⟨cause | value, shown, after, kept, ran, still⟩ := first holds
  · exact ⟨_, _, _, Attempt.runFrom_bind_error kept, Attempt.runFrom_bind_error ran, still⟩
  · rw [Attempt.runFrom_bind_ok kept, Attempt.runFrom_bind_ok ran]
    exact rest value still

end Simulates

namespace Holds

variable {window : Window σ} {transport : Transport σ}

theorem ordered (holds : Holds window transport) : window.start ≤ window.stop := by
  rw [holds.start, holds.stop]
  exact Nat.le_add_right _ _

theorem within (holds : Holds window transport) : window.stop ≤ window.block.length := by
  rw [holds.stop, holds.size]
  exact holds.fits

theorem available (holds : Holds window transport) :
    window.stop - window.start = transport.unread.length := by
  rw [holds.start, holds.stop, Transport.filled, Nat.add_sub_cancel_left]

theorem hasBuffered (holds : Holds window transport) :
    transport.hasBuffered = true ↔ window.start < window.stop := by
  have some : transport.hasBuffered = true ↔ 0 < transport.unread.length := by
    rw [Transport.hasBuffered, List.length_pos_iff, ← List.isEmpty_eq_false_iff, Bool.not_eq_true']
  rw [some, ← holds.available]
  exact Nat.sub_pos_iff_lt

/-- A buffer that has been emptied and filled again from its beginning. -/
theorem refilled {shown : Window σ} {bytes : Bytes} (size : shown.block.length = transport.capacity)
    (start : shown.start = 0) (stop : shown.stop = bytes.length)
    (within : bytes.length ≤ transport.capacity)
    (content : shown.block.take shown.stop = bytes) :
    Holds shown (transport.refilled shown.socket bytes) where
  socket := rfl
  size := size
  start := start
  stop := stop.trans (Nat.zero_add _).symm
  fits := by
    rw [Transport.filled, Transport.refilled, Nat.zero_add]
    exact within
  content := by rw [start, content]; rfl

theorem filled_advance {count : Nat} (some : count ≤ transport.unread.length) :
    (transport.advance count).filled = transport.filled := by
  simp only [Transport.filled, Transport.advance, List.length_drop]
  omega

theorem first (holds : Holds window transport) {byte : UInt8} {rest : Bytes}
    (there : transport.unread = byte :: rest) : window.block[window.start]? = some byte := by
  have found : (window.block.take window.stop)[window.start]? = some byte := by
    rw [← List.head?_drop, holds.content, there]
    rfl
  rw [List.getElem?_take] at found
  split at found
  · exact found
  · cases found

theorem advance (holds : Holds window transport) {count : Nat}
    (some : count ≤ transport.unread.length) :
    Holds { window with start := window.start + count } (transport.advance count) where
  socket := holds.socket
  size := holds.size
  start := congrArg (· + count) holds.start
  stop := holds.stop.trans (filled_advance some).symm
  fits := (filled_advance some).symm ▸ holds.fits
  content := by rw [← List.drop_drop, holds.content]; rfl

/-- All that is in the buffer has been read. -/
theorem drained (holds : Holds window transport) :
    Holds window.drained (transport.advance transport.unread.length) := by
  have read := holds.advance (Nat.le_refl _)
  have reached : window.start + transport.unread.length = window.stop := by
    rw [← holds.available]
    exact Nat.add_sub_cancel' holds.ordered
  rwa [reached] at read

theorem withSocket (holds : Holds window transport) (socket : σ) :
    Holds { window with socket } { transport with socket } where
  socket := rfl
  size := holds.size
  start := holds.start
  stop := holds.stop
  fits := holds.fits
  content := holds.content

/-- The socket may change while the buffer is empty and its indices are set back. -/
theorem passed (holds : Holds window transport) (fresh : window.start = 0)
    (empty : transport.unread = []) (socket : σ) :
    Holds { window with socket } (transport.refilled socket []) where
  socket := rfl
  size := holds.size
  start := fresh
  stop := by
    rw [holds.stop, Transport.filled, ← holds.start, fresh, empty]
    rfl
  fits := Nat.zero_le _
  content := holds.content.trans empty

/-- The indices of an empty buffer can be set back. -/
theorem emptied (holds : Holds window transport) :
    Holds window.emptied (transport.refilled transport.socket []) where
  socket := holds.socket
  size := holds.size
  start := rfl
  stop := rfl
  fits := Nat.zero_le _
  content := rfl

end Holds

theorem Gathered.holds {window after : Window σ} {transport : Transport σ}
    {gathering : Transport.Gathering σ} (gathered : Gathered window.emptied after gathering)
    (size : window.block.length = transport.capacity) :
    Holds after (transport.refilled gathering.socket gathering.bytes) := by
  have filled := Holds.refilled (gathered.size.trans size) gathered.start gathered.stop
    (size ▸ gathered.within) gathered.content
  rwa [gathered.socket] at filled

theorem Holds.readFront {window : Window σ} {transport : Transport σ}
    (holds : Holds window transport) {count : Nat} (some : count ≤ transport.unread.length) :
    (window.block.take (window.start + count)).drop window.start = transport.unread.take count := by
  have ordered := holds.ordered
  have available := holds.available
  rw [← holds.content, List.take_drop, List.take_take, Nat.min_eq_left (by omega)]

/-- What is buffered is what has not been read. -/
theorem buffered_shows {window : Window σ} {transport : Transport σ}
    (holds : Holds window transport) :
    buffered.runFrom window = (.ok transport.unread, window) := by
  rw [buffered, Attempt.runFrom_bind_ok (Attempt.runFrom_get window),
    runFrom_slice window holds.ordered holds.within, holds.content]

theorem takeByte_takes {window : Window σ} {transport : Transport σ}
    (holds : Holds window transport) {byte : UInt8} {rest : Bytes}
    (there : transport.unread = byte :: rest) :
    ∃ shown, takeByte.runFrom window = (.ok byte, shown) ∧ Holds shown (transport.advance 1) := by
  have some : 1 ≤ transport.unread.length := by rw [there]; exact Nat.le_add_left 1 _
  refine ⟨_, ?_, holds.advance some⟩
  rw [takeByte, Attempt.runFrom_bind_ok (Attempt.runFrom_get window),
    Attempt.runFrom_bind_ok (runFrom_index window (holds.first there))]
  rfl

theorem endLine_ends {window : Window σ} {transport : Transport σ} (holds : Holds window transport)
    (ends : transport.unread.firstLine.length < transport.unread.length) (line : Bytes) :
    ∃ shown, (endLine line transport.unread).runFrom window =
        ((Transport.endLine (transport.unread.firstLine.reverseAux line.reverse)).mapError .failed,
          shown) ∧
      Holds shown (transport.advance (transport.unread.firstLine.length + 1)) := by
  have front : (transport.unread.take transport.unread.firstLine.length).drop 0 =
      transport.unread.firstLine := by
    have first : transport.unread.firstLine <+: transport.unread := List.takeWhile_prefix _
    exact (List.prefix_iff_eq_take.1 first).symm
  have reversed : transport.unread.firstLine.reverseAux line.reverse =
      (line ++ transport.unread.firstLine).reverse := by
    rw [List.reverseAux_eq, List.reverse_append]
  refine ⟨_, ?_, holds.advance ends⟩
  rw [endLine, Attempt.runFrom_bind_ok (runFrom_slice window (Nat.zero_le _) (Nat.le_of_lt ends)),
    front, reversed]
  rfl

variable [Socket σ]

/-- A read that the buffer cannot serve empties it first. -/
theorem read_beyond {count : Nat} {transport : Transport σ}
    (short : transport.unread.length < count) :
    (Transport.read count).runFrom transport =
      (do
        let tail ← Transport.read (count - transport.unread.length)
        return transport.unread ++ tail).runFrom (transport.refilled transport.socket []) := by
  have all : transport.unread.take count = transport.unread :=
    List.take_of_length_le (Nat.le_of_lt short)
  have missing : count - transport.unread.length ≠ 0 := by omega
  rw [Attempt.runFrom_bind, Transport.read, Transport.read, Attempt.runFrom_ofStep,
    Attempt.runFrom_ofStep]
  simp only [all, Transport.refilled, List.take_nil, List.length_nil, Nat.sub_zero, if_neg missing,
    List.nil_append]
  by_cases large : transport.capacity < count - transport.unread.length
  · rw [if_pos large, if_pos large]
    cases (Transport.gather transport.socket (count - transport.unread.length)
      (count - transport.unread.length) []).outcome <;> rfl
  · rw [if_neg large, if_neg large]
    cases (Transport.gather transport.socket transport.capacity
      (count - transport.unread.length) []).outcome <;> rfl

/-- On a buffer that has been emptied a read goes past it or through it. -/
theorem readTail_simulates {memory : Bytes} {window : Window σ} {transport : Transport σ}
    (lacking : 0 < memory.length) (holds : Holds window transport) (empty : transport.unread = [])
    (fresh : window.start = 0) :
    ∃ outcome shown after, (Transport.read memory.length).runFrom transport = (outcome, after) ∧
      (readTail memory).runFrom window = (outcome.mapError .failed, shown) ∧
      Holds shown after := by
  have size := holds.size
  have level : window.start = window.stop := by
    have available := holds.available
    have ordered := holds.ordered
    rw [empty, List.length_nil] at available
    omega
  rw [readTail, Attempt.runFrom_bind_ok (Attempt.runFrom_get window), Transport.read,
    Attempt.runFrom_ofStep]
  simp only [empty, List.take_nil, List.length_nil, Nat.sub_zero, if_neg (Nat.ne_of_gt lacking),
    List.nil_append]
  by_cases large : transport.capacity < memory.length
  · have gathered := @runFrom_readInto σ _ memory 0 window (Nat.zero_le _)
    simp only [Nat.sub_zero, List.take_zero, List.reverse_nil, holds.socket] at gathered
    rw [if_pos large, if_pos (size ▸ large), gathered]
    cases (Transport.gather transport.socket memory.length memory.length []).outcome with
    | error cause => exact ⟨_, _, _, rfl, rfl, holds.passed fresh empty _⟩
    | ok done => exact ⟨_, _, _, rfl, rfl, holds.passed fresh empty _⟩
  · have fits : memory.length ≤ window.block.length := size ▸ Nat.le_of_not_lt large
    obtain ⟨after, done, gathered⟩ := fillAtLeast_gathers level fits
    have filled := gathered.holds size
    have begun : after.start = 0 := gathered.start
    have within := Nat.le_trans fits (Nat.le_of_eq gathered.size.symm)
    rw [size, holds.socket] at done filled
    obtain ⟨more, bytes, -, -, enough⟩ := Transport.gather_bytes transport.socket
      transport.capacity memory.length [] (Nat.le_of_not_lt large)
    rw [List.reverse_nil, List.nil_append] at bytes
    rw [if_neg large, if_neg (size ▸ large)]
    cases outcome : (Transport.gather transport.socket transport.capacity memory.length
      []).outcome with
    | error cause =>
        rw [outcome] at done
        rw [Attempt.runFrom_bind_error done]
        exact ⟨_, _, _, rfl, rfl, filled⟩
    | ok complete =>
        rw [outcome] at done
        have some : memory.length ≤ (Transport.gather transport.socket transport.capacity
          memory.length []).bytes.length := bytes ▸ enough outcome
        have front := filled.readFront some
        have moved := filled.advance some
        have same := List.length_take_of_le some
        rw [begun, Nat.zero_add] at front moved
        rw [Attempt.runFrom_bind_ok done, Attempt.runFrom_bind_ok (Attempt.runFrom_get after),
          Attempt.runFrom_bind_ok (runFrom_slice after (Nat.zero_le _) within), front]
        exact ⟨_, _, _, rfl, Attempt.runFrom_bind_ok (runFrom_copy after same.symm), moved⟩

theorem readExact_simulates (memory : Bytes) :
    Simulates (readExact memory) (Transport.read (σ := σ) memory.length) := by
  intro window transport holds
  have available := holds.available
  have within := holds.within
  have ordered := holds.ordered
  rw [readExact, Attempt.runFrom_bind_ok (Attempt.runFrom_get window),
    Attempt.runFrom_bind_ok (runFrom_subtract window ordered), available]
  by_cases short : memory.length ≤ transport.unread.length
  · have same := List.length_take_of_le short
    have complete : memory.length - (transport.unread.take memory.length).length = 0 := by omega
    rw [Transport.read, Attempt.runFrom_ofStep, if_pos complete, if_pos short,
      Attempt.runFrom_bind_ok (runFrom_slice window (Nat.le_add_right _ _) (by omega)),
      holds.readFront short, Attempt.runFrom_bind_ok (runFrom_copy window same.symm)]
    exact ⟨_, _, _, rfl, rfl, holds.advance short⟩
  · have longer := Nat.lt_of_not_le short
    have head : (memory.take transport.unread.length).length = transport.unread.length :=
      List.length_take_of_le (Nat.le_of_lt longer)
    have tail : (memory.drop transport.unread.length).length =
      memory.length - transport.unread.length := List.length_drop
    have lacking : 0 < (memory.drop transport.unread.length).length := by omega
    obtain ⟨outcome, shown, after, served, filled, still⟩ :=
      readTail_simulates lacking holds.emptied rfl rfl
    rw [tail] at served
    rw [read_beyond longer, if_neg short,
      Attempt.runFrom_bind_ok (runFrom_split window (Nat.le_of_lt longer))]
    dsimp only
    rw [Attempt.runFrom_bind_ok (runFrom_slice window ordered within), holds.content,
      Attempt.runFrom_bind_ok (runFrom_copy window head),
      Attempt.runFrom_bind_ok (Attempt.runFrom_modify emptied window)]
    cases outcome with
    | error cause =>
        exact ⟨_, _, _, Attempt.runFrom_bind_error served, Attempt.runFrom_bind_error filled, still⟩
    | ok bytes =>
        exact ⟨_, _, _, Attempt.runFrom_bind_ok served, Attempt.runFrom_bind_ok filled, still⟩

/-- To gather one byte is to receive once. -/
theorem gather_one (socket : σ) (room : Nat) :
    Transport.gather socket room 1 [] =
      match Transport.receive socket room with
      | (.error cause, after) => ⟨.error cause, [], after⟩
      | (.ok (first, rest), after) => ⟨.ok (), first :: rest, after⟩ := by
  rw [Transport.gather, if_neg Nat.one_ne_zero]
  rcases Transport.receive socket room with ⟨cause | ⟨first, rest⟩, after⟩
  · rfl
  · have nothing : 1 - (rest.length + 1) = 0 := by omega
    simp only [nothing]
    rw [Transport.gather, if_pos rfl, List.reverseAux_eq]
    simp

section Refill

variable {window : Window σ} {transport : Transport σ} {socket : σ}
  (holds : Holds window transport) (level : window.start = window.stop)

include holds level

theorem refill_error {cause : IoError}
    (failed : Transport.receive transport.socket transport.capacity = (.error cause, socket)) :
    ∃ shown, (fillAtLeast 1).runFrom window = (.error (.failed (.connection cause)), shown) ∧
      Holds shown (transport.refilled socket []) := by
  have enough : 1 ≤ window.block.length := holds.size ▸ transport.capacity_pos
  obtain ⟨shown, done, gathered⟩ := fillAtLeast_gathers level enough
  have filled := gathered.holds holds.size
  rw [gather_one, holds.size, holds.socket, failed] at done filled
  exact ⟨shown, done, filled⟩

theorem refill_ok {first : UInt8} {rest : Bytes}
    (delivered : Transport.receive transport.socket transport.capacity =
      (.ok (first, rest), socket)) :
    ∃ shown, (fillAtLeast 1).runFrom window = (.ok (), shown) ∧
      Holds shown (transport.refilled socket (first :: rest)) := by
  have enough : 1 ≤ window.block.length := holds.size ▸ transport.capacity_pos
  obtain ⟨shown, done, gathered⟩ := fillAtLeast_gathers level enough
  have filled := gathered.holds holds.size
  rw [gather_one, holds.size, holds.socket, delivered] at done filled
  exact ⟨shown, done, filled⟩

end Refill

theorem readByte_simulates : Simulates readByte (Transport.readByte (σ := σ)) := by
  intro window transport holds
  have ordered := holds.ordered
  have available := holds.available
  rw [readByte, Attempt.runFrom_bind_ok (Attempt.runFrom_get window), Transport.readByte,
    Attempt.runFrom_ofStep]
  cases unread : transport.unread with
  | cons byte rest =>
      rw [unread, List.length_cons] at available
      obtain ⟨shown, done, still⟩ := takeByte_takes holds unread
      rw [if_neg (by omega)]
      exact ⟨_, shown, _, rfl, done, still⟩
  | nil =>
      rw [unread, List.length_nil] at available
      have level : window.start = window.stop := by omega
      rw [if_pos level]
      rcases delivery : Transport.receive transport.socket transport.capacity with
        ⟨cause | ⟨first, rest⟩, socket⟩
      · obtain ⟨shown, failed, still⟩ := refill_error holds level delivery
        exact ⟨_, shown, _, rfl, Attempt.runFrom_bind_error failed, still⟩
      · obtain ⟨middle, filled, full⟩ := refill_ok holds level delivery
        obtain ⟨shown, done, still⟩ := takeByte_takes full rfl
        exact ⟨_, shown, _, rfl, (Attempt.runFrom_bind_ok filled).trans done, still⟩

section Line

variable {transport : Transport σ} {room : Nat} {taken : Bytes}

theorem continueLine_ended
    (ends : transport.unread.firstLine.length < transport.unread.length) :
    Transport.continueLine transport room taken =
      (Transport.endLine (transport.unread.firstLine.reverseAux taken),
        transport.advance (transport.unread.firstLine.length + 1)) := by
  have left : transport.unread.drop transport.unread.firstLine.length ≠ [] := by
    rw [Ne, List.drop_eq_nil_iff]
    omega
  obtain ⟨feed, rest, cut⟩ := List.exists_cons_of_ne_nil left
  rw [Transport.continueLine, cut]

theorem continueLine_open
    (goes_on : ¬transport.unread.firstLine.length < transport.unread.length) :
    Transport.continueLine transport room taken =
      if room < transport.unread.length then
        (.error (.protocol .lineTooLong), transport.advance transport.unread.length)
      else
        match Transport.receive transport.socket transport.capacity with
        | (.error cause, after) => (.error (.connection cause), transport.refilled after [])
        | (.ok (first, rest), after) =>
            Transport.continueLine (transport.refilled after (first :: rest))
              (room - transport.unread.length) (transport.unread.reverseAux taken) := by
  have nothing : transport.unread.drop transport.unread.firstLine.length = [] :=
    List.drop_eq_nil_iff.2 (Nat.le_of_not_lt goes_on)
  rewrite [Transport.continueLine, nothing]
  rfl

end Line

theorem continueLine_simulates {window : Window σ} {transport : Transport σ} {line : Bytes}
    (holds : Holds window transport) {room : Nat} (left : room + line.length = maxLineLength) :
    ∃ outcome shown after,
      Transport.continueLine transport room line.reverse = (outcome, after) ∧
      continueLine window line = (outcome.mapError .failed, shown) ∧ Holds shown after := by
  -- Both sides refill by one delivery, so that one of them fails if the other does.
  fun_induction continueLine window line generalizing transport room with
  | case1 window line halt after sliced =>
      rw [runFrom_slice window holds.ordered holds.within] at sliced
      cases sliced
  | case2 window line chunk after sliced ends =>
      rw [runFrom_slice window holds.ordered holds.within, holds.content] at sliced
      cases sliced
      obtain ⟨shown, done, still⟩ := endLine_ends holds ends line
      exact ⟨_, shown, _, continueLine_ended ends, done, still⟩
  | case3 window line chunk after sliced goes_on long =>
      rw [runFrom_slice window holds.ordered holds.within, holds.content] at sliced
      cases sliced
      rw [List.length_append] at long
      rw [continueLine_open goes_on, if_pos (by omega)]
      exact ⟨_, _, _, rfl, rfl, holds.drained⟩
  | case4 window line chunk after sliced goes_on fits halt refilled failed =>
      rw [runFrom_slice window holds.ordered holds.within, holds.content] at sliced
      cases sliced
      rw [List.length_append] at fits
      rw [continueLine_open goes_on, if_neg (by omega)]
      rcases delivery : Transport.receive transport.socket transport.capacity with
        ⟨cause | ⟨first, rest⟩, socket⟩
      · obtain ⟨shown, same, still⟩ := refill_error holds.drained rfl delivery
        cases failed.symm.trans same
        exact ⟨_, _, _, rfl, rfl, still⟩
      · obtain ⟨shown, same, -⟩ := refill_ok holds.drained rfl delivery
        cases failed.symm.trans same
  | case5 window line chunk after sliced goes_on fits refilled filled ih =>
      rw [runFrom_slice window holds.ordered holds.within, holds.content] at sliced
      cases sliced
      rw [List.length_append] at fits
      rw [continueLine_open goes_on, if_neg (by omega)]
      rcases delivery : Transport.receive transport.socket transport.capacity with
        ⟨cause | ⟨first, rest⟩, socket⟩
      · obtain ⟨shown, same, -⟩ := refill_error holds.drained rfl delivery
        cases filled.symm.trans same
      · obtain ⟨shown, same, still⟩ := refill_ok holds.drained rfl delivery
        cases filled.symm.trans same
        have less : room - transport.unread.length + (line ++ transport.unread).length =
            maxLineLength := by
          rw [List.length_append]
          omega
        rw [List.reverseAux_eq, ← List.reverse_append]
        exact ih still less

theorem readLine_simulates : Simulates readLine (Transport.readLine (σ := σ)) := by
  intro window transport holds
  have whole : maxLineLength + ([] : Bytes).length = maxLineLength := rfl
  exact continueLine_simulates holds whole

theorem discard_simulates (count : Nat) :
    Simulates (discard count) (Transport.discard (σ := σ) count) := by
  intro window transport holds
  have available := holds.available
  have ordered := holds.ordered
  rw [discard, Attempt.runFrom_bind_ok (Attempt.runFrom_get window),
    Attempt.runFrom_bind_ok (runFrom_subtract window ordered), available, Transport.discard,
    Attempt.runFrom_ofStep]
  by_cases short : count ≤ transport.unread.length
  · have same := List.length_take_of_le short
    have complete : count - (transport.unread.take count).length = 0 := by omega
    rw [if_pos short, if_pos complete]
    exact ⟨_, _, _, rfl, rfl, holds.advance short⟩
  · have all : transport.unread.take count = transport.unread :=
      List.take_of_length_le (by omega)
    have lacking : count - transport.unread.length ≠ 0 := by omega
    obtain ⟨block, same, skipped⟩ := runFrom_skip (count - transport.unread.length) window.emptied
    have emptied := holds.emptied
    have socket : window.emptied.socket = transport.socket := holds.socket
    have size : window.emptied.block.length = transport.capacity := holds.size
    rw [socket, size] at skipped
    rw [size] at same
    rw [if_neg short, Attempt.runFrom_bind_ok (runFrom_subtract window (by omega)),
      Attempt.runFrom_bind_ok (Attempt.runFrom_modify Window.emptied window), skipped, all,
      if_neg lacking]
    rcases Transport.skip transport.socket transport.capacity
      (count - transport.unread.length) with ⟨cause | done, after⟩
    all_goals exact ⟨_, _, _, rfl, rfl, rfl, same, rfl, rfl, Nat.zero_le _, rfl⟩

theorem wait_simulates (timeout : Option Nat) :
    Simulates (wait timeout) (Transport.wait (σ := σ) timeout) := by
  intro window transport holds
  rw [wait, Attempt.runFrom_bind_ok (Attempt.runFrom_get window), Transport.wait,
    Attempt.runFrom_ofStep]
  by_cases some : window.start < window.stop
  · rw [if_pos some, if_pos (holds.hasBuffered.2 some)]
    exact ⟨_, _, _, rfl, rfl, holds⟩
  · rw [if_neg some, if_neg (mt holds.hasBuffered.1 some)]
    rcases waited : Socket.wait transport.socket timeout with ⟨cause | ready, after⟩
    all_goals rw [← holds.socket] at waited
    · exact ⟨_, _, _, rfl, runFrom_onSocket_error waited, holds.withSocket after⟩
    · exact ⟨_, _, _, rfl, runFrom_onSocket_ok waited, holds.withSocket after⟩

theorem writeMany_simulates (frames : List Bytes) :
    Simulates (writeMany frames) (Transport.writeMany (σ := σ) frames) := by
  intro window transport holds
  have send := runFrom_atSocket (Cursor.runFrom_send frames window.socket)
  rw [writeMany, Transport.writeMany, Attempt.runFrom_ofStep]
  rcases sent : Transport.sendAll transport.socket frames with ⟨cause | _, after⟩
  all_goals rw [holds.socket, sent] at send
  · exact ⟨_, _, _, rfl, Attempt.runFrom_bind_error send, holds.withSocket after⟩
  · rw [Attempt.runFrom_bind_ok send]
    have still := holds.withSocket after
    dsimp only
    rcases flushed : Socket.flush after with ⟨cause | _, last⟩
    · exact ⟨_, _, _, rfl, Attempt.runFrom_bind_error (runFrom_onSocket_error flushed),
        still.withSocket last⟩
    · exact ⟨_, _, _, rfl, Attempt.runFrom_bind_ok (runFrom_onSocket_ok flushed),
        still.withSocket last⟩

end Window

end RespClient
