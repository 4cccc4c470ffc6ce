import RespClient.Socket.Basic

/-!
# Scripted sockets

A socket in memory. It delivers a given input and accepts what is written, both in
pieces of a chosen size, and a queue of faults for each call says which of the
next calls go wrong, and how. A size of zero means no limit.
-/

namespace RespClient

inductive Fault where
  /-- The call goes through. -/
  | pass
  /-- Nothing is delivered or accepted. -/
  | zero
  | interrupted
  | failing (name : String)

def Fault.cause (name : String) : IoError :=
  .other ("scripted " ++ name)

structure Scripted where
  input : Bytes := []
  /-- The peer has closed its side, which a wait can see. -/
  ended : Bool := false
  readChunk : Nat := 0
  writeChunk : Nat := 0
  readFaults : List Fault := []
  writeFaults : List Fault := []
  flushFaults : List Fault := []
  waitFaults : List Fault := []

namespace Scripted

def limit (chunk room : Nat) : Nat :=
  if chunk = 0 then room else min room chunk

/-- The length of the slices together, as far as `bound`. -/
def lengthUpTo : (bound : Nat) → List Bytes → Nat
  | _, [] => 0
  | bound, slice :: rest =>
      let length := (slice.take bound).length
      length + lengthUpTo (bound - length) rest

theorem lengthUpTo_le (bound : Nat) (slices : List Bytes) :
    lengthUpTo bound slices ≤ totalLength slices := by
  induction slices generalizing bound with
  | nil => simp [lengthUpTo]
  | cons slice rest ih =>
      have tail := ih (bound - (slice.take bound).length)
      have head : (slice.take bound).length ≤ slice.length := List.length_take_le' bound slice
      simp only [totalLength] at tail ⊢
      simp only [lengthUpTo]
      omega

def deliver (socket : Scripted) (room : Nat) : Delivery × Scripted :=
  let size := limit socket.readChunk room
  (.received (socket.input.take size), { socket with input := socket.input.drop size })

def read (socket : Scripted) (room : Nat) : Delivery × Scripted :=
  match socket.readFaults with
  | [] => socket.deliver room
  | fault :: rest =>
      let after := { socket with readFaults := rest }
      match fault with
      | .pass => after.deliver room
      | .zero => (.received [], after)
      | .interrupted => (.interrupted, after)
      | .failing name => (.failed (Fault.cause name), after)

def accept (socket : Scripted) (slices : List Bytes) : Acceptance :=
  .accepted (if socket.writeChunk = 0 then totalLength slices
    else lengthUpTo socket.writeChunk slices)

def write (socket : Scripted) (slices : List Bytes) : Acceptance × Scripted :=
  match socket.writeFaults with
  | [] => (socket.accept slices, socket)
  | fault :: rest =>
      let after := { socket with writeFaults := rest }
      match fault with
      | .pass => (after.accept slices, after)
      | .zero => (.accepted 0, after)
      | .interrupted => (.interrupted, after)
      | .failing name => (.failed (Fault.cause name), after)

/-- A call that is not repeated when it is interrupted. -/
def once {α : Type} (fault : Option Fault) (value : α) : Except IoError α :=
  match fault with
  | some .interrupted => .error (Fault.cause "interrupted")
  | some (.failing name) => .error (Fault.cause name)
  | _ => .ok value

def flush (socket : Scripted) : Except IoError Unit × Scripted :=
  (once socket.flushFaults.head? (), { socket with flushFaults := socket.flushFaults.tail })

def wait (socket : Scripted) (_timeout : Option Nat) : Except IoError Bool × Scripted :=
  (once socket.waitFaults.head? (socket.ended || !socket.input.isEmpty),
    { socket with waitFaults := socket.waitFaults.tail })

theorem deliver_received {socket after : Scripted} {room : Nat} {bytes : Bytes}
    (delivered : socket.deliver room = (.received bytes, after)) :
    bytes.length ≤ room ∧ socket.input = bytes ++ after.input := by
  simp only [deliver, Prod.mk.injEq, Delivery.received.injEq] at delivered
  obtain ⟨rfl, rfl⟩ := delivered
  constructor
  · simp only [List.length_take, limit]
    split <;> omega
  · simp

instance : Socket Scripted where
  read := read
  write := write
  flush := flush
  wait := wait
  pending := input
  patience socket := socket.readFaults.length + socket.writeFaults.length
  read_received := by
    intro socket after room bytes delivered
    unfold read at delivered
    split at delivered
    · exact deliver_received delivered
    · dsimp only at delivered
      split at delivered
      · have taken := deliver_received delivered
        exact taken
      · cases delivered; simp
      · cases delivered
      · cases delivered
  read_interrupted := by
    intro socket after room delivered
    unfold read at delivered
    split at delivered
    · simp [deliver] at delivered
    · next fault rest queue =>
      dsimp only at delivered
      split at delivered
      · simp [deliver] at delivered
      · cases delivered
      · cases delivered; simp [queue]
      · cases delivered
  read_failed := by
    intro socket after room cause delivered
    unfold read at delivered
    split at delivered
    · simp [deliver] at delivered
    · dsimp only at delivered
      split at delivered
      · simp [deliver] at delivered
      · cases delivered
      · cases delivered
      · cases delivered; rfl
  write_accepted := by
    have bounded : ∀ (socket : Scripted) (slices : List Bytes) (count : Nat),
        socket.accept slices = .accepted count → count ≤ totalLength slices := by
      intro socket slices count accepted
      simp only [accept, Acceptance.accepted.injEq] at accepted
      subst accepted
      split
      · exact Nat.le_refl _
      · exact lengthUpTo_le _ _
    intro socket after slices count accepted
    unfold write at accepted
    split at accepted
    · exact bounded _ _ _ (congrArg Prod.fst accepted)
    · dsimp only at accepted
      split at accepted
      · exact bounded _ _ _ (congrArg Prod.fst accepted)
      · cases accepted; exact Nat.zero_le _
      · cases accepted
      · cases accepted
  write_interrupted := by
    intro socket after slices interrupted
    unfold write at interrupted
    split at interrupted
    · simp [accept] at interrupted
    · next fault rest queue =>
      dsimp only at interrupted
      split at interrupted
      · simp [accept] at interrupted
      · cases interrupted
      · cases interrupted; simp [queue]
      · cases interrupted
  pending_wait _ _ := rfl

end Scripted

end RespClient
