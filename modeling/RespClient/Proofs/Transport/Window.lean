import RespClient.Proofs.Transport.Cursor
import RespClient.Proofs.Transport.Queue

/-!
# The buffer under a transport

A transport says what is left in its buffer. Under that lies a block of bytes of a fixed
length and two indices into it. The operations are told once more on these, and here each
subtraction, slice, split, copy and index is checked, and so is that a refill starts with
an empty buffer that has room for what is wanted. A send, in which the buffer has no
part, goes from place to place among its frames. A check that fails halts the operation.
None ever does: the block with its indices stays a representation of the transport, and
every operation on it comes to what the transport comes to.
-/

namespace RespClient

structure Window (σ : Type) where
  socket : σ
  /-- The memory of the buffer, with whatever has been left in it. -/
  block : Bytes
  /-- Where the bytes begin that have not been read. -/
  start : Nat
  /-- Where the bytes end that have come. -/
  stop : Nat

namespace Window

open Guarded

variable {σ : Type}

/-- The bytes once the data have been written over them from an offset on. -/
def overwrite (bytes : Bytes) (offset : Nat) (data : Bytes) : Bytes :=
  bytes.take offset ++ data ++ bytes.drop (offset + data.length)

def ofSocketWith (capacity : Nat) (socket : σ) : Window σ :=
  { socket, block := List.replicate (max capacity minReadBuffer) 0, start := 0, stop := 0 }

def emptied (window : Window σ) : Window σ :=
  { window with start := 0, stop := 0 }

def drained (window : Window σ) : Window σ :=
  { window with start := window.stop }

/-- What is done on the socket alone. -/
def atSocket {α : Type} (guarded : Guarded σ α) : Guarded (Window σ) α :=
  .ofStep fun window =>
    let (outcome, socket) := guarded.runFrom window.socket
    (outcome, { window with socket })

/-- A call on the socket, by which the buffer is left alone. -/
def onSocket {α : Type} (call : σ → Except IoError α × σ) : Guarded (Window σ) α :=
  atSocket (.ofStep fun socket =>
    let (outcome, after) := call socket
    (outcome.mapError fun cause => .failed (.connection cause), after))

section Called

variable {α : Type} {window : Window σ} {socket : σ}

theorem runFrom_atSocket {guarded : Guarded σ α} {outcome : Except Halt α}
    (done : guarded.runFrom window.socket = (outcome, socket)) :
    (atSocket guarded).runFrom window = (outcome, { window with socket }) := by
  rw [atSocket, Attempt.runFrom_ofStep, done]

variable {call : σ → Except IoError α × σ}

theorem runFrom_onSocket_ok {value : α} (called : call window.socket = (.ok value, socket)) :
    (onSocket call).runFrom window = (.ok value, { window with socket }) := by
  refine runFrom_atSocket ?_
  rw [Attempt.runFrom_ofStep, called]
  rfl

theorem runFrom_onSocket_error {cause : IoError}
    (called : call window.socket = (.error cause, socket)) :
    (onSocket call).runFrom window =
      (.error (.failed (.connection cause)), { window with socket }) := by
  refine runFrom_atSocket ?_
  rw [Attempt.runFrom_ofStep, called]
  rfl

end Called

theorem length_overwrite {bytes data : Bytes} {offset : Nat}
    (fits : offset + data.length ≤ bytes.length) :
    (overwrite bytes offset data).length = bytes.length := by
  simp only [overwrite, List.length_append, List.length_take, List.length_drop]
  omega

theorem take_overwrite {bytes data : Bytes} {offset : Nat}
    (fits : offset + data.length ≤ bytes.length) :
    (overwrite bytes offset data).take (offset + data.length) = bytes.take offset ++ data := by
  have front : (bytes.take offset ++ data).length = offset + data.length := by
    rw [List.length_append, List.length_take]
    omega
  rw [overwrite, ← front, List.take_left']
  rfl

/-- Bytes that are written over others come last in the order in which they are gathered. -/
theorem reverse_take_overwrite {bytes rest : Bytes} {offset : Nat} {first : UInt8}
    (fits : offset + (first :: rest).length ≤ bytes.length) :
    ((overwrite bytes offset (first :: rest)).take (offset + (rest.length + 1))).reverse =
      rest.reverseAux (first :: (bytes.take offset).reverse) := by
  refine (congrArg List.reverse (take_overwrite fits)).trans ?_
  rw [List.reverseAux_eq, List.reverse_append, List.reverse_cons, List.append_assoc]
  rfl

variable [Socket σ]

/-- A delivery into memory with so much room. -/
def receive (room : Nat) : Guarded (Window σ) (UInt8 × Bytes) :=
  onSocket fun socket => Transport.receive socket room

theorem runFrom_receive_ok {room : Nat} {window : Window σ} {first : UInt8} {rest : Bytes}
    {socket : σ} (delivered : Transport.receive window.socket room = (.ok (first, rest), socket)) :
    (receive room).runFrom window = (.ok (first, rest), { window with socket }) :=
  runFrom_onSocket_ok delivered

theorem runFrom_receive_error {room : Nat} {window : Window σ} {cause : IoError} {socket : σ}
    (failed : Transport.receive window.socket room = (.error cause, socket)) :
    (receive room).runFrom window =
      (.error (.failed (.connection cause)), { window with socket }) :=
  runFrom_onSocket_error failed

/-- Refills the block behind `stop` until it holds as much as is wanted. -/
def fillFrom (stop wanted : Nat) : Guarded (Window σ) Unit :=
  if _lacking : stop < wanted then do
    let window ← get
    let target ← slice window.block stop window.block.length
    let (first, rest) ← receive target.length
    modify fun window =>
      { window with
        block := overwrite window.block stop (first :: rest)
        stop := stop + (rest.length + 1) }
    fillFrom (stop + (rest.length + 1)) wanted
  else return ()
termination_by wanted - stop

def fillAtLeast (wanted : Nat) : Guarded (Window σ) Unit := do
  let window ← get
  require (window.start = window.stop ∧ wanted ≤ window.block.length) .refill
  modify emptied
  fillFrom 0 wanted

/-- Fills the memory of a caller, past the block. -/
def readInto (memory : Bytes) (filled : Nat) : Guarded (Window σ) Bytes :=
  if _lacking : filled < memory.length then do
    let target ← slice memory filled memory.length
    let (first, rest) ← receive target.length
    readInto (overwrite memory filled (first :: rest)) (filled + (rest.length + 1))
  else return memory
termination_by memory.length - filled
decreasing_by
  simp only [overwrite, List.length_append, List.length_take, List.length_drop, List.length_cons]
  omega

/-- Fills the memory of a caller when there is nothing left in the block. -/
def readTail (memory : Bytes) : Guarded (Window σ) Bytes := do
  let window ← get
  if window.block.length < memory.length then readInto memory 0
  else
    fillAtLeast memory.length
    let window ← get
    let source ← slice window.block 0 memory.length
    let filled ← copy memory source
    modify fun window => { window with start := memory.length }
    return filled

/-- Fills the memory of a caller. -/
def readExact (memory : Bytes) : Guarded (Window σ) Bytes := do
  let window ← get
  let available ← subtract window.stop window.start
  if memory.length ≤ available then
    let source ← slice window.block window.start (window.start + memory.length)
    let filled ← copy memory source
    modify fun window => { window with start := window.start + memory.length }
    return filled
  else
    let (head, tail) ← split memory available
    let source ← slice window.block window.start window.stop
    let head ← copy head source
    modify emptied
    let tail ← readTail tail
    return head ++ tail

def read (count : Nat) : Guarded (Window σ) Bytes :=
  readExact (List.replicate count 0)

def takeByte : Guarded (Window σ) UInt8 := do
  let window ← get
  let byte ← index window.block window.start
  modify fun window => { window with start := window.start + 1 }
  return byte

def readByte : Guarded (Window σ) UInt8 := do
  let window ← get
  if window.start = window.stop then fillAtLeast 1
  takeByte

/-- The line that ends in this chunk of the block. -/
def endLine (line chunk : Bytes) : Guarded (Window σ) Bytes := do
  let before ← slice chunk 0 chunk.firstLine.length
  modify fun window => { window with start := window.start + (before.length + 1) }
  liftM ((Transport.endLine (line ++ before).reverse).mapError Halt.failed)

theorem fillFrom_ok {stop wanted : Nat} {window after : Window σ} (reached : window.stop = stop)
    (done : (fillFrom stop wanted).runFrom window = (.ok (), after)) :
    after.start = window.start ∧ wanted ≤ after.stop := by
  fun_induction @fillFrom σ _ stop wanted generalizing window with
  | case1 stop lacking ih =>
      rw [Attempt.runFrom_bind_ok (Attempt.runFrom_get window)] at done
      obtain ⟨target, _, sliced, received⟩ := Attempt.ok_of_runFrom_bind done
      obtain ⟨-, -, -, rfl⟩ := slice_ok sliced
      obtain ⟨⟨first, rest⟩, middle, delivered, noted⟩ := Attempt.ok_of_runFrom_bind received
      rw [Attempt.runFrom_bind_ok (Attempt.runFrom_modify _ middle)] at noted
      obtain ⟨started, some⟩ := ih rest rfl noted
      have kept := congrArg (Window.start ∘ Prod.snd) delivered
      exact ⟨started.trans kept.symm, some⟩
  | case2 stop enough =>
      cases done
      exact ⟨rfl, by omega⟩

theorem fillAtLeast_ok {wanted : Nat} {window after : Window σ}
    (done : (fillAtLeast wanted).runFrom window = (.ok (), after)) :
    after.start = 0 ∧ wanted ≤ after.stop := by
  unfold fillAtLeast require at done
  rw [Attempt.runFrom_bind_ok (Attempt.runFrom_get window)] at done
  split at done
  · have reached : window.emptied.stop = 0 := rfl
    exact fillFrom_ok reached done
  · cases done

/-- The rest of a line that begins with the given bytes. -/
def continueLine (window : Window σ) (line : Bytes) : Except Halt Bytes × Window σ :=
  match _sliced : (slice window.block window.start window.stop).runFrom window with
  | (.error halt, after) => (.error halt, after)
  | (.ok chunk, _) =>
      if (Bytes.firstLine chunk).length < chunk.length then (endLine line chunk).runFrom window
      else
        if _fits : maxLineLength < (line ++ chunk).length then
          (.error (.failed (.protocol .lineTooLong)), window.drained)
        else
          match _filled : (fillAtLeast 1).runFrom window.drained with
          | (.error halt, after) => (.error halt, after)
          | (.ok (), after) => continueLine after (line ++ chunk)
termination_by (maxLineLength + 1 - line.length, if window.start < window.stop then 0 else 1)
decreasing_by
  obtain ⟨ordered, within, rfl, -⟩ := slice_ok _sliced
  obtain ⟨front, some⟩ := fillAtLeast_ok _filled
  rw [List.length_append, List.length_drop, List.length_take, Nat.min_eq_left within] at *
  by_cases empty : window.start < window.stop
  · apply Prod.Lex.left
    omega
  · rw [if_neg empty, if_pos (by omega), show window.stop - window.start = 0 by omega]
    exact Prod.Lex.right _ Nat.one_pos

def readLine : Guarded (Window σ) Bytes :=
  .ofStep fun window => continueLine window []

/-- Reads and drops so many bytes, the block being free for them. -/
def skip (remaining : Nat) : Guarded (Window σ) Unit :=
  if _lacking : 0 < remaining then do
    let window ← get
    let target ← slice window.block 0 (min remaining window.block.length)
    let (first, rest) ← receive target.length
    modify fun window => { window with block := overwrite window.block 0 (first :: rest) }
    require (rest.length + 1 ≤ remaining) .subtraction
    skip (remaining - (rest.length + 1))
  else return ()
termination_by remaining

def discard (count : Nat) : Guarded (Window σ) Unit := do
  let window ← get
  let available ← subtract window.stop window.start
  if count ≤ available then
    modify fun window => { window with start := window.start + count }
  else
    let remaining ← subtract count available
    modify emptied
    skip remaining

def wait (timeout : Option Nat) : Guarded (Window σ) Bool := do
  let window ← get
  if window.start < window.stop then return true
  else onSocket fun socket => Socket.wait socket timeout

def buffered : Guarded (Window σ) Bytes := do
  let window ← get
  slice window.block window.start window.stop

/-- Sending does not concern the buffer. -/
def writeMany (frames : List Bytes) : Guarded (Window σ) Nat := do
  atSocket (Cursor.send frames)
  onSocket Socket.flush
  return totalLength frames

/-! ## What is gathered -/

/-- What a refill leaves in the block is what has been gathered. -/
structure Gathered (window after : Window σ) (gathering : Transport.Gathering σ) : Prop where
  socket : after.socket = gathering.socket
  start : after.start = window.start
  size : after.block.length = window.block.length
  stop : after.stop = gathering.bytes.length
  within : gathering.bytes.length ≤ window.block.length
  content : after.block.take after.stop = gathering.bytes

theorem fillFrom_gathers {stop wanted : Nat} {window : Window σ} (reached : window.stop = stop)
    (within : stop ≤ window.block.length) (enough : wanted ≤ window.block.length) :
    let gathering := Transport.gather window.socket (window.block.length - stop) (wanted - stop)
      (window.block.take stop).reverse
    ∃ after, (fillFrom stop wanted).runFrom window =
        (gathering.outcome.mapError fun cause => .failed (.connection cause), after) ∧
      Gathered window after gathering := by
  fun_induction @fillFrom σ _ stop wanted generalizing window with
  | case1 stop lacking ih =>
      have target : ((window.block.take window.block.length).drop stop).length =
        window.block.length - stop := by simp
      have more : wanted - stop ≠ 0 := by omega
      rw [Transport.gather, if_neg more, Attempt.runFrom_bind_ok (Attempt.runFrom_get window),
        Attempt.runFrom_bind_ok (runFrom_slice window within (Nat.le_refl _)), target]
      rcases delivery : Transport.receive window.socket (window.block.length - stop) with
        ⟨cause | ⟨first, rest⟩, socket⟩
      · rw [Attempt.runFrom_bind_error (runFrom_receive_error delivery)]
        refine ⟨_, rfl, rfl, rfl, rfl, ?_, ?_, ?_⟩
        · simp [reached, within]
        · simp [within]
        · simp [reached]
      · obtain ⟨bound, -⟩ := Transport.receive_ok delivery
        have fits : stop + (first :: rest).length ≤ window.block.length := by
          rw [List.length_cons]
          omega
        have size := length_overwrite fits
        rw [Attempt.runFrom_bind_ok (runFrom_receive_ok delivery)]
        let grown : Window σ :=
          { window with
            socket, block := overwrite window.block stop (first :: rest)
            stop := stop + (rest.length + 1) }
        have taken : (grown.block.take (stop + (rest.length + 1))).reverse =
            rest.reverseAux (first :: (window.block.take stop).reverse) :=
          reverse_take_overwrite fits
        obtain ⟨after, done, gathered⟩ :=
          @ih rest grown rfl (size.symm ▸ fits) (size.symm ▸ enough)
        rw [taken, size, Nat.sub_add_eq window.block.length, Nat.sub_add_eq wanted] at done gathered
        exact ⟨after, done, gathered.socket, gathered.start, gathered.size.trans size,
          gathered.stop, size ▸ gathered.within, gathered.content⟩
  | case2 stop full =>
      have nothing : wanted - stop = 0 := by omega
      rw [Transport.gather, if_pos nothing]
      refine ⟨window, rfl, rfl, rfl, rfl, ?_, ?_, ?_⟩
      · simp [reached, within]
      · simp [within]
      · simp [reached]

theorem fillAtLeast_gathers {wanted : Nat} {window : Window σ} (empty : window.start = window.stop)
    (enough : wanted ≤ window.block.length) :
    let gathering := Transport.gather window.socket window.block.length wanted []
    ∃ after, (fillAtLeast wanted).runFrom window =
        (gathering.outcome.mapError fun cause => .failed (.connection cause), after) ∧
      Gathered window.emptied after gathering := by
  have reached : window.emptied.stop = 0 := rfl
  rw [fillAtLeast, Attempt.runFrom_bind_ok (Attempt.runFrom_get window),
    Attempt.runFrom_bind_ok (runFrom_require window ⟨empty, enough⟩),
    Attempt.runFrom_bind_ok (Attempt.runFrom_modify emptied window)]
  exact fillFrom_gathers reached (Nat.zero_le _) enough

/-- Past the block a read gathers into the memory of the caller. -/
theorem runFrom_readInto {memory : Bytes} {filled : Nat} {window : Window σ}
    (within : filled ≤ memory.length) :
    let gathering := Transport.gather window.socket (memory.length - filled)
      (memory.length - filled) (memory.take filled).reverse
    (readInto memory filled).runFrom window =
      ((gathering.outcome.mapError fun cause => .failed (.connection cause)).map
          fun _ => gathering.bytes,
        { window with socket := gathering.socket }) := by
  fun_induction @readInto σ _ memory filled generalizing window with
  | case1 memory filled lacking ih =>
      have target : ((memory.take memory.length).drop filled).length = memory.length - filled := by
        simp
      have more : memory.length - filled ≠ 0 := by omega
      rw [Transport.gather, if_neg more,
        Attempt.runFrom_bind_ok (runFrom_slice window within (Nat.le_refl _)), target]
      rcases delivery : Transport.receive window.socket (memory.length - filled) with
        ⟨cause | ⟨first, rest⟩, socket⟩
      · rw [Attempt.runFrom_bind_error (runFrom_receive_error delivery)]
        rfl
      · obtain ⟨bound, -⟩ := Transport.receive_ok delivery
        have fits : filled + (first :: rest).length ≤ memory.length := by
          rw [List.length_cons]
          omega
        have size := length_overwrite fits
        have done := @ih first rest { window with socket } (size.symm ▸ fits)
        rw [reverse_take_overwrite fits, size, Nat.sub_add_eq memory.length] at done
        rw [Attempt.runFrom_bind_ok (runFrom_receive_ok delivery)]
        exact done
  | case2 memory filled full =>
      have nothing : memory.length - filled = 0 := by omega
      have all : memory.take filled = memory := List.take_of_length_le (by omega)
      rw [Transport.gather, if_pos nothing, all, List.reverse_reverse]
      rfl

/-- Skipping leaves other bytes in the block, but not more of them. -/
theorem runFrom_skip (remaining : Nat) (window : Window σ) :
    ∃ block, block.length = window.block.length ∧
      (skip remaining).runFrom window =
        ((Transport.skip window.socket window.block.length remaining).1.mapError
            fun cause => .failed (.connection cause),
          { window with
            socket := (Transport.skip window.socket window.block.length remaining).2
            block }) := by
  fun_induction @skip σ _ remaining generalizing window with
  | case1 remaining lacking ih =>
      have short : min remaining window.block.length ≤ window.block.length := Nat.min_le_right _ _
      have target : ((window.block.take (min remaining window.block.length)).drop 0).length =
        min remaining window.block.length := by simp
      rw [Transport.skip, if_neg (Nat.ne_of_gt lacking),
        Attempt.runFrom_bind_ok (Attempt.runFrom_get window),
        Attempt.runFrom_bind_ok (runFrom_slice window (Nat.zero_le _) short), target]
      rcases delivery : Transport.receive window.socket (min remaining window.block.length) with
        ⟨cause | ⟨first, rest⟩, socket⟩
      · rw [Attempt.runFrom_bind_error (runFrom_receive_error delivery)]
        exact ⟨window.block, rfl, rfl⟩
      · obtain ⟨bound, -⟩ := Transport.receive_ok delivery
        have fits : 0 + (first :: rest).length ≤ window.block.length := by
          rw [List.length_cons]
          omega
        have size := length_overwrite fits
        obtain ⟨block, same, done⟩ := ih rest
          { window with socket, block := overwrite window.block 0 (first :: rest) }
        simp only [size] at same done
        rw [Attempt.runFrom_bind_ok (runFrom_receive_ok delivery)]
        have counted : rest.length + 1 ≤ remaining := by omega
        refine ⟨block, same, (Attempt.runFrom_bind_ok (Attempt.runFrom_modify _ _)).trans ?_⟩
        rw [Attempt.runFrom_bind_ok (runFrom_require _ counted)]
        exact done
  | case2 remaining full =>
      have nothing : remaining = 0 := by omega
      rw [Transport.skip, if_pos nothing]
      exact ⟨window.block, rfl, rfl⟩

end Window

end RespClient
