import RespClient.Proofs.Reply.Composition
import RespClient.Proofs.Transport.Delivery

/-!
# Faults come out

The record of a socket shows which of the calls on it went wrong. A transport hides
none of them, and makes none up: an action that does not fail has met no fault, and one
that fails with a connection error has met one fault, the last one, which is its cause.
-/

namespace RespClient

variable {σ α β : Type}

def failureOf {ε : Type} : Except ε α → Option ε
  | .ok _ => none
  | .error cause => some cause

/-- How a call went wrong. An interruption does not count, since the call is repeated. -/
def SocketCall.fault : SocketCall → Option IoError
  | read _ (.received []) => some .closedByPeer
  | read _ (.failed cause) => some cause
  | write _ (.accepted 0) => some .acceptedNothing
  | write _ (.failed cause) => some cause
  | flush (.error cause) => some cause
  | wait _ (.error cause) => some cause
  | _ => none

theorem SocketCall.fault_flush (outcome : Except IoError Unit) :
    (flush outcome).fault = failureOf outcome := by
  cases outcome <;> rfl

theorem SocketCall.fault_wait (timeout : Option Nat) (outcome : Except IoError Bool) :
    (wait timeout outcome).fault = failureOf outcome := by
  cases outcome <;> rfl

/-- What a socket has to do with a fatal error. -/
def FatalError.fault : FatalError → Option IoError
  | connection cause => some cause
  | protocol _ => none

namespace Recorded

def faults (recorded : Recorded σ) : List IoError :=
  recorded.history.filterMap SocketCall.fault

theorem faults_note (recorded : Recorded σ) (call : SocketCall) (socket : σ) :
    (recorded.note call socket).faults = recorded.faults ++ call.fault.toList := by
  rw [faults, faults, history, history, note, List.reverse_cons, List.filterMap_append]
  cases fault : call.fault <;> simp [fault]

variable [Socket σ] {recorded after : Recorded σ}

theorem faults_read {room : Nat} {outcome : Delivery}
    (delivery : Socket.read recorded room = (outcome, after)) :
    after.faults = recorded.faults ++ (SocketCall.read room outcome).fault.toList := by
  obtain ⟨rfl, rfl⟩ := Prod.mk.inj delivery
  exact recorded.faults_note _ _

theorem faults_write {slices : List Bytes} {outcome : Acceptance}
    (acceptance : Socket.write recorded slices = (outcome, after)) :
    after.faults = recorded.faults ++ (SocketCall.write slices outcome).fault.toList := by
  obtain ⟨rfl, rfl⟩ := Prod.mk.inj acceptance
  exact recorded.faults_note _ _

theorem faults_flush {outcome : Except IoError Unit}
    (flushed : Socket.flush recorded = (outcome, after)) :
    after.faults = recorded.faults ++ (failureOf outcome).toList := by
  obtain ⟨rfl, rfl⟩ := Prod.mk.inj flushed
  exact SocketCall.fault_flush _ ▸ recorded.faults_note _ _

theorem faults_wait {timeout : Option Nat} {outcome : Except IoError Bool}
    (waited : Socket.wait recorded timeout = (outcome, after)) :
    after.faults = recorded.faults ++ (failureOf outcome).toList := by
  obtain ⟨rfl, rfl⟩ := Prod.mk.inj waited
  exact SocketCall.fault_wait timeout _ ▸ recorded.faults_note _ _

end Recorded

namespace Transport

/-- The faults that an action meets are the one that it fails with. -/
def Candid (action : Attempt FatalError (Transport (Recorded σ)) α) : Prop :=
  ∀ ⦃before outcome after⦄, action.runFrom before = (outcome, after) →
    after.socket.faults =
      before.socket.faults ++ ((failureOf outcome).bind FatalError.fault).toList

namespace Candid

theorem pure (value : α) :
    Candid (pure value : Attempt FatalError (Transport (Recorded σ)) α) := by
  intro before outcome after ran
  cases ran
  exact (List.append_nil _).symm

theorem fail (cause : ProtocolError) :
    Candid (throw (.protocol cause) : Attempt FatalError (Transport (Recorded σ)) α) := by
  intro before outcome after ran
  cases ran
  exact (List.append_nil _).symm

theorem bind {action : Attempt FatalError (Transport (Recorded σ)) α}
    {next : α → Attempt FatalError (Transport (Recorded σ)) β} (first : Candid action)
    (rest : ∀ value, Candid (next value)) : Candid (action >>= next) := by
  intro before outcome after ran
  rcases begun : action.runFrom before with ⟨cause | value, middle⟩
  · rw [Attempt.runFrom_bind_error begun] at ran
    cases ran
    exact first begun
  · rw [Attempt.runFrom_bind_ok begun] at ran
    have same := first begun
    rw [failureOf, Option.bind_none, Option.toList_none, List.append_nil] at same
    rw [rest value ran, same]

end Candid

variable [Socket σ]

theorem faults_receive (socket : Recorded σ) (room : Nat) :
    (receive socket room).2.faults =
      socket.faults ++ (failureOf (receive socket room).1).toList := by
  fun_induction receive socket room with
  | case1 socket after delivery => exact Recorded.faults_read delivery
  | case2 socket first rest after delivery => exact Recorded.faults_read delivery
  | case3 socket after interrupted ih =>
      have same := Recorded.faults_read interrupted
      rw [show (SocketCall.read room .interrupted).fault.toList = [] from rfl,
        List.append_nil] at same
      rw [ih, same]
  | case4 socket cause after failure => exact Recorded.faults_read failure

theorem faults_gather (socket : Recorded σ) (room missing : Nat) (taken : Bytes) :
    (gather socket room missing taken).socket.faults =
      socket.faults ++ (failureOf (gather socket room missing taken).outcome).toList := by
  fun_induction gather socket room missing taken with
  | case1 => exact (List.append_nil _).symm
  | case2 socket room missing taken lacking cause after failed =>
      have faults := faults_receive socket room
      rwa [failed] at faults
  | case3 socket room missing taken lacking first rest after delivered size ih =>
      have faults := faults_receive socket room
      rw [delivered] at faults
      rw [ih, faults, failureOf, Option.toList_none, List.append_nil]

theorem faults_sendAll (socket : Recorded σ) (frames : List Bytes) :
    (sendAll socket frames).2.faults =
      socket.faults ++ (failureOf (sendAll socket frames).1).toList := by
  fun_induction sendAll socket frames with
  | case1 => exact (List.append_nil _).symm
  | case2 socket frames slice slices offer after accepted => exact Recorded.faults_write accepted
  | case3 socket frames slice slices offer after count accepted ih =>
      rw [ih, Recorded.faults_write accepted]
      exact congrArg (· ++ _) (List.append_nil _)
  | case4 socket frames slice slices offer after interrupted ih =>
      rw [ih, Recorded.faults_write interrupted]
      exact congrArg (· ++ _) (List.append_nil _)
  | case5 socket frames slice slices offer cause after failed => exact Recorded.faults_write failed

theorem read_candid (count : Nat) :
    Candid (read count : Attempt FatalError (Transport (Recorded σ)) Bytes) := by
  intro before outcome after ran
  simp only [read, Attempt.runFrom_ofStep] at ran
  split at ran
  · cases ran
    exact (List.append_nil _).symm
  · split at ran
    all_goals
      split at ran
      all_goals
        next ended =>
          cases ran
          refine (faults_gather before.socket _ _ []).trans ?_
          rw [ended]
          rfl

theorem readByte_candid :
    Candid (readByte : Attempt FatalError (Transport (Recorded σ)) UInt8) := by
  intro before outcome after ran
  simp only [readByte, Attempt.runFrom_ofStep] at ran
  split at ran
  · cases ran
    exact (List.append_nil _).symm
  · have faults := faults_receive before.socket before.capacity
    split at ran
    all_goals
      next delivery =>
        rw [delivery] at faults
        cases ran
        exact faults

theorem fault_endLine (taken : Bytes) :
    (failureOf (endLine taken)).bind FatalError.fault = none := by
  cases taken with
  | nil => rfl
  | cons last taken =>
      rw [endLine]
      split <;> rfl

theorem faults_continueLine (transport : Transport (Recorded σ)) (room : Nat) (taken : Bytes) :
    (continueLine transport room taken).2.socket.faults = transport.socket.faults ++
      ((failureOf (continueLine transport room taken).1).bind FatalError.fault).toList := by
  fun_induction continueLine transport room taken with
  | case1 transport room taken before feed rest cut_off =>
      rw [fault_endLine]
      exact (List.append_nil _).symm
  | case2 => exact (List.append_nil _).symm
  | case3 transport room taken before ends fits cause after failed =>
      have faults := faults_receive transport.socket transport.capacity
      rwa [failed] at faults
  | case4 transport room taken before ends fits first rest after delivered ih =>
      have faults := faults_receive transport.socket transport.capacity
      rw [delivered, failureOf, Option.toList_none, List.append_nil] at faults
      rw [ih, ← faults]
      rfl

theorem readLine_candid :
    Candid (readLine : Attempt FatalError (Transport (Recorded σ)) Bytes) := by
  intro before outcome after ran
  have faults := faults_continueLine before maxLineLength []
  rwa [show continueLine before maxLineLength [] = (outcome, after) from ran] at faults

theorem writeMany_candid (frames : List Bytes) :
    Candid (writeMany frames : Attempt FatalError (Transport (Recorded σ)) Nat) := by
  intro before outcome after ran
  have sent := faults_sendAll before.socket frames
  simp only [writeMany, Attempt.runFrom_ofStep] at ran
  split at ran
  · next failed =>
      rw [failed] at sent
      cases ran
      exact sent
  · next accepted =>
      rw [accepted, failureOf, Option.toList_none, List.append_nil] at sent
      split at ran
      all_goals
        next flushed =>
          cases ran
          rw [← sent]
          exact Recorded.faults_flush flushed

theorem write_candid (frame : Bytes) :
    Candid (write frame : Attempt FatalError (Transport (Recorded σ)) Unit) :=
  (writeMany_candid [frame]).bind fun _ => .pure ()

theorem wait_candid (timeout : Option Nat) :
    Candid (wait timeout : Attempt FatalError (Transport (Recorded σ)) Bool) := by
  intro before outcome after ran
  simp only [wait, Attempt.runFrom_ofStep] at ran
  split at ran
  · cases ran
    exact (List.append_nil _).symm
  · split at ran
    all_goals
      next waited =>
        cases ran
        exact Recorded.faults_wait waited

end Transport

namespace Reply

open Transport (Candid)

theorem Composed.candid [Socket σ] {reading : Reading (Recorded σ) α}
    (composed : Composed reading) : Candid reading := by
  induction composed with
  | pure value => exact .pure value
  | fail cause => exact .fail cause
  | byte => exact Transport.readByte_candid
  | bytes count => exact Transport.read_candid count
  | line => exact Transport.readLine_candid
  | bind begun continued first next => exact first.bind next

theorem readFrame_candid [Socket σ] : Candid (readFrame : Reading (Recorded σ) Reply) :=
  readFrame_composed.candid

end Reply

end RespClient
