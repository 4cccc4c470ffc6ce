import RespClient.Socket.Basic

/-!
# Recorded sockets

A socket together with the calls made on it and what each of them came to. The
record is what statements about the order and the number of calls speak of.
-/

namespace RespClient

inductive SocketCall where
  | read (room : Nat) (outcome : Delivery)
  | write (slices : List Bytes) (outcome : Acceptance)
  | flush (outcome : Except IoError Unit)
  | wait (timeout : Option Nat) (outcome : Except IoError Bool)

/-- The first `count` bytes of the slices. -/
def takeBytes : (count : Nat) → List Bytes → Bytes
  | _, [] => []
  | 0, _ => []
  | count, slice :: rest =>
      let head := slice.take count
      head ++ takeBytes (count - head.length) rest

namespace SocketCall

def received : SocketCall → Bytes
  | read _ (.received bytes) => bytes
  | _ => []

def accepted : SocketCall → Bytes
  | write slices (.accepted count) => takeBytes count slices
  | _ => []

end SocketCall

/-- The calls are kept with the latest one first. -/
structure Recorded (σ : Type) where
  socket : σ
  calls : List SocketCall := []

namespace Recorded

variable {σ : Type}

def history (recorded : Recorded σ) : List SocketCall :=
  recorded.calls.reverse

def written (recorded : Recorded σ) : Bytes :=
  recorded.history.flatMap SocketCall.accepted

def delivered (recorded : Recorded σ) : Bytes :=
  recorded.history.flatMap SocketCall.received

def note (recorded : Recorded σ) (call : SocketCall) (socket : σ) : Recorded σ :=
  { socket, calls := call :: recorded.calls }

variable [Socket σ]

def read (recorded : Recorded σ) (room : Nat) : Delivery × Recorded σ :=
  let (outcome, socket) := Socket.read recorded.socket room
  (outcome, recorded.note (.read room outcome) socket)

def write (recorded : Recorded σ) (slices : List Bytes) : Acceptance × Recorded σ :=
  let (outcome, socket) := Socket.write recorded.socket slices
  (outcome, recorded.note (.write slices outcome) socket)

def flush (recorded : Recorded σ) : Except IoError Unit × Recorded σ :=
  let (outcome, socket) := Socket.flush recorded.socket
  (outcome, recorded.note (.flush outcome) socket)

def wait (recorded : Recorded σ) (timeout : Option Nat) : Except IoError Bool × Recorded σ :=
  let (outcome, socket) := Socket.wait recorded.socket timeout
  (outcome, recorded.note (.wait timeout outcome) socket)

instance : Socket (Recorded σ) where
  read := read
  write := write
  flush := flush
  wait := wait
  pending recorded := Socket.pending recorded.socket
  patience recorded := Socket.patience recorded.socket
  read_received := by
    intro recorded after room bytes delivered
    obtain ⟨outcome, rfl⟩ := Prod.mk.inj delivered
    exact Socket.read_received (Prod.ext outcome rfl)
  read_interrupted := by
    intro recorded after room delivered
    obtain ⟨outcome, rfl⟩ := Prod.mk.inj delivered
    exact Socket.read_interrupted (Prod.ext outcome rfl)
  read_failed := by
    intro recorded after room cause delivered
    obtain ⟨outcome, rfl⟩ := Prod.mk.inj delivered
    exact Socket.read_failed (Prod.ext outcome rfl)
  write_accepted := by
    intro recorded after slices count accepted
    obtain ⟨outcome, rfl⟩ := Prod.mk.inj accepted
    exact Socket.write_accepted (Prod.ext outcome rfl)
  write_interrupted := by
    intro recorded after slices interrupted
    obtain ⟨outcome, rfl⟩ := Prod.mk.inj interrupted
    exact Socket.write_interrupted (Prod.ext outcome rfl)
  pending_wait recorded timeout := Socket.pending_wait recorded.socket timeout

end Recorded

end RespClient
