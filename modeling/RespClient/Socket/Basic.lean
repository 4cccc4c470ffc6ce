import RespClient.Error

/-!
# Sockets

A socket is a state with four calls. What its peer has yet to deliver is a byte
string, of which each successful read takes a prefix that fits into the buffer
offered for it. A call may be interrupted, and the caller then repeats it; a
socket has only finitely many interruptions in store, so that this comes to an
end.
-/

namespace RespClient

/-- The outcome of a read. An empty delivery is the end of the stream. -/
inductive Delivery where
  | received (bytes : Bytes)
  | interrupted
  | failed (cause : IoError)

/-- The outcome of a write. -/
inductive Acceptance where
  | accepted (count : Nat)
  | interrupted
  | failed (cause : IoError)

def totalLength : List Bytes → Nat
  | [] => 0
  | slice :: slices => slice.length + totalLength slices

class Socket (σ : Type) where
  read : σ → Nat → Delivery × σ
  write : σ → List Bytes → Acceptance × σ
  flush : σ → Except IoError Unit × σ
  /-- Waits until something can be read, for so many milliseconds or without end. -/
  wait : σ → Option Nat → Except IoError Bool × σ
  /-- What reads may still deliver. -/
  pending : σ → Bytes
  /-- A bound on the interruptions still to come. -/
  patience : σ → Nat
  read_received : ∀ {socket after : σ} {room : Nat} {bytes : Bytes},
    read socket room = (.received bytes, after) →
      bytes.length ≤ room ∧ pending socket = bytes ++ pending after
  read_interrupted : ∀ {socket after : σ} {room : Nat},
    read socket room = (.interrupted, after) →
      pending after = pending socket ∧ patience after < patience socket
  read_failed : ∀ {socket after : σ} {room : Nat} {cause : IoError},
    read socket room = (.failed cause, after) → pending after = pending socket
  write_accepted : ∀ {socket after : σ} {slices : List Bytes} {count : Nat},
    write socket slices = (.accepted count, after) → count ≤ totalLength slices
  write_interrupted : ∀ {socket after : σ} {slices : List Bytes},
    write socket slices = (.interrupted, after) → patience after < patience socket
  pending_wait : ∀ (socket : σ) (timeout : Option Nat),
    pending (wait socket timeout).2 = pending socket

/-- What a connected stream is set up with. A time limit is in milliseconds. -/
structure SocketOptions where
  noDelay : Bool
  readTimeout : Option Nat
  writeTimeout : Option Nat

end RespClient
