import RespClient.Attempt
import RespClient.Limits
import RespClient.Socket.Basic

/-!
# Buffered transport

A read-ahead buffer in front of a socket. Header lines and small requests are
served from the buffer; a request larger than the whole buffer goes past it, and
skipping bytes drops them as they arrive. Writes are not buffered: a list of
frames goes out in as few calls as the socket allows, each of which offers
exactly what has not been accepted yet.
-/

namespace RespClient

structure Transport (σ : Type) where
  socket : σ
  capacity : Nat
  roomy : minReadBuffer ≤ capacity
  /-- How far into the buffer reading has come. -/
  position : Nat := 0
  /-- What the buffer holds from that position on. -/
  unread : Bytes := []

namespace Transport

variable {σ : Type}

def ofSocketWith (capacity : Nat) (socket : σ) : Transport σ :=
  { socket, capacity := max capacity minReadBuffer, roomy := Nat.le_max_right _ _ }

def ofSocket (socket : σ) : Transport σ :=
  ofSocketWith defaultReadBuffer socket

def hasBuffered (transport : Transport σ) : Bool :=
  !transport.unread.isEmpty

/-- How many bytes of the buffer are in use, those already read among them. -/
def filled (transport : Transport σ) : Nat :=
  transport.position + transport.unread.length

/-- The transport once `count` more bytes of its buffer have been read. -/
def advance (transport : Transport σ) (count : Nat) : Transport σ :=
  { transport with
    position := transport.position + count
    unread := transport.unread.drop count }

/-- The transport with a buffer that has just been refilled. -/
def refilled (transport : Transport σ) (socket : σ) (bytes : Bytes) : Transport σ :=
  { transport with socket, position := 0, unread := bytes }

theorem capacity_pos (transport : Transport σ) : 0 < transport.capacity :=
  Nat.lt_of_lt_of_le (by decide) transport.roomy

variable [Socket σ]

/-- The next delivery, split after its first byte. Interrupted reads are repeated, and an empty
delivery means that the peer has closed the connection. -/
def receive (socket : σ) (room : Nat) : Except IoError (UInt8 × Bytes) × σ :=
  match _delivery : Socket.read socket room with
  | (.received [], after) => (.error .closedByPeer, after)
  | (.received (first :: rest), after) => (.ok (first, rest), after)
  | (.interrupted, after) => receive after room
  | (.failed cause, after) => (.error cause, after)
termination_by Socket.patience socket
decreasing_by exact (Socket.read_interrupted _delivery).2

/-- What a series of reads brought in, also if the last of them failed. -/
structure Gathering (σ : Type) where
  outcome : Except IoError Unit
  bytes : Bytes
  socket : σ

/-- Reads until `missing` more bytes have come. Each read offers all the room that is left; `taken`
holds what has come so far, the latest byte first. -/
def gather (socket : σ) (room missing : Nat) (taken : Bytes) : Gathering σ :=
  if missing = 0 then ⟨.ok (), taken.reverse, socket⟩
  else
    match receive socket room with
    | (.error cause, after) => ⟨.error cause, taken.reverse, after⟩
    | (.ok (first, rest), after) =>
        let size := rest.length + 1
        gather after (room - size) (missing - size) (rest.reverseAux (first :: taken))
termination_by missing

/-- Reads and drops `remaining` bytes, in pieces of at most `capacity`. -/
def skip (socket : σ) (capacity remaining : Nat) : Except IoError Unit × σ :=
  if remaining = 0 then (.ok (), socket)
  else
    match receive socket (min remaining capacity) with
    | (.error cause, after) => (.error cause, after)
    | (.ok (_, rest), after) => skip after capacity (remaining - (rest.length + 1))
termination_by remaining

/-- The next `count` bytes. What the buffer lacks is read past it if it is more than the buffer can
hold, and otherwise together with whatever else fits into the buffer. -/
def read (count : Nat) : Attempt FatalError (Transport σ) Bytes :=
  .ofStep fun transport =>
    let head := transport.unread.take count
    let missing := count - head.length
    if missing = 0 then (.ok head, transport.advance count)
    else if transport.capacity < missing then
      let gathering := gather transport.socket missing missing []
      match gathering.outcome with
      | .error cause => (.error (.connection cause), transport.refilled gathering.socket [])
      | .ok () => (.ok (head ++ gathering.bytes), transport.refilled gathering.socket [])
    else
      let gathering := gather transport.socket transport.capacity missing []
      let full := transport.refilled gathering.socket gathering.bytes
      match gathering.outcome with
      | .error cause => (.error (.connection cause), full)
      | .ok () => (.ok (head ++ gathering.bytes.take missing), full.advance missing)

def readByte : Attempt FatalError (Transport σ) UInt8 :=
  .ofStep fun transport =>
    match transport.unread with
    | byte :: _ => (.ok byte, transport.advance 1)
    | [] =>
        match receive transport.socket transport.capacity with
        | (.error cause, after) => (.error (.connection cause), transport.refilled after [])
        | (.ok (first, rest), after) =>
            (.ok first, (transport.refilled after (first :: rest)).advance 1)

/-- A line without its line end, given the bytes before the line feed, the last one first. -/
def endLine : Bytes → Except FatalError Bytes
  | [] => .error (.protocol .lineWithoutReturn)
  | last :: taken =>
      if last = Bytes.carriageReturn then .ok taken.reverse
      else .error (.protocol .lineWithoutReturn)

/-- The rest of a line of which `taken` has been read, the latest byte first. A line may go on for
`room` more bytes; the bound is checked only where the buffer ends before the line does. -/
def continueLine (transport : Transport σ) (room : Nat) (taken : Bytes) :
    Except FatalError Bytes × Transport σ :=
  let before := transport.unread.firstLine
  match transport.unread.drop before.length with
  | _ :: _ => (endLine (before.reverseAux taken), transport.advance (before.length + 1))
  | [] =>
      if room < transport.unread.length then
        (.error (.protocol .lineTooLong), transport.advance transport.unread.length)
      else
        match receive transport.socket transport.capacity with
        | (.error cause, after) => (.error (.connection cause), transport.refilled after [])
        | (.ok (first, rest), after) =>
            continueLine (transport.refilled after (first :: rest))
              (room - transport.unread.length) (transport.unread.reverseAux taken)
termination_by room + (if transport.unread.isEmpty then 1 else 0)
decreasing_by
  simp only [refilled, List.isEmpty_cons]
  cases unread : transport.unread <;> simp_all
  omega

/-- The bytes up to the next line end, which is read too. -/
def readLine : Attempt FatalError (Transport σ) Bytes :=
  .ofStep fun transport => continueLine transport maxLineLength []

def discard (count : Nat) : Attempt FatalError (Transport σ) Unit :=
  .ofStep fun transport =>
    let remaining := count - (transport.unread.take count).length
    if remaining = 0 then (.ok (), transport.advance count)
    else
      match skip transport.socket transport.capacity remaining with
      | (.error cause, after) => (.error (.connection cause), transport.refilled after [])
      | (.ok (), after) => (.ok (), transport.refilled after [])

/-- Whether a read would find something in time. Buffered bytes answer at once. -/
def wait (timeout : Option Nat) : Attempt FatalError (Transport σ) Bool :=
  .ofStep fun transport =>
    if transport.hasBuffered then (.ok true, transport)
    else
      match Socket.wait transport.socket timeout with
      | (.error cause, after) => (.error (.connection cause), { transport with socket := after })
      | (.ok ready, after) => (.ok ready, { transport with socket := after })

end Transport

end RespClient
