import RespClient.Proofs.Transport.Delivery

/-!
# A transport is a queue of bytes

The calls on the reading side of a transport have a meaning on a plain list of
bytes that knows nothing of buffers and sockets. Every series of calls that
succeeds gives the answers of that list and leaves the rest of it, and on a socket
without faults a series succeeds whenever the list holds what it asks for.
-/

namespace RespClient.Transport

/-- A call on the reading side. A counted read may fill a buffer of the caller's or a new one. -/
inductive Call where
  | read (count : Nat)
  | readByte
  | readLine
  | discard (count : Nat)
  | wait (timeout : Option Nat)

inductive Answer where
  | bytes (data : Bytes)
  | byte (value : UInt8)
  | line (text : Bytes)
  | done
  | ready (answer : Bool)

/-- What a call on a list of bytes answers, what it takes off the front of the list, and what it
leaves. Waiting takes nothing, and its answer is not for the list to give. -/
inductive Serves : Call → Bytes → Answer → Bytes → Bytes → Prop where
  | read (data rest : Bytes) : Serves (.read data.length) (data ++ rest) (.bytes data) data rest
  | readByte (byte : UInt8) (rest : Bytes) :
      Serves .readByte (byte :: rest) (.byte byte) [byte] rest
  | readLine (line rest : Bytes) (free : Bytes.lineFeed ∉ line) :
      Serves .readLine (line ++ Bytes.crlf ++ rest) (.line line) (line ++ Bytes.crlf) rest
  | discard (dropped rest : Bytes) :
      Serves (.discard dropped.length) (dropped ++ rest) .done dropped rest
  | wait (timeout : Option Nat) (ready : Bool) (queue : Bytes) :
      Serves (.wait timeout) queue (.ready ready) [] queue

/-- The same for calls made one after the other. -/
inductive ServesAll : List Call → Bytes → List Answer → Bytes → Bytes → Prop where
  | nil (queue : Bytes) : ServesAll [] queue [] [] queue
  | cons {call : Call} {calls : List Call} {answer : Answer} {answers : List Answer}
      {queue middle rest taken more : Bytes} (first : Serves call queue answer taken middle)
      (others : ServesAll calls middle answers more rest) :
      ServesAll (call :: calls) queue (answer :: answers) (taken ++ more) rest

/-- No line among the answers is longer than a header line may be, its return included. -/
def LinesFit (answers : List Answer) : Prop :=
  ∀ line, .line line ∈ answers → line.length < maxLineLength

namespace Serves

theorem queue_eq {call : Call} {answer : Answer} {queue taken rest : Bytes}
    (served : Serves call queue answer taken rest) : queue = taken ++ rest := by
  cases served <;> rfl

theorem rest_unique {call : Call} {answer other : Answer} {queue taken more rest left : Bytes}
    (served : Serves call queue answer taken rest) (again : Serves call queue other more left) :
    rest = left := by
  cases served with
  | read =>
      generalize size : taken.length = count at again
      generalize whole : taken ++ rest = queue at again
      cases again with
      | read => exact (List.append_inj whole size).2
  | readByte => cases again; rfl
  | readLine line _ free =>
      generalize whole : line ++ Bytes.crlf ++ rest = queue at again
      cases again with
      | readLine other left absent =>
          exact (Bytes.crlf_inj free absent whole).2
  | discard =>
      generalize size : taken.length = count at again
      generalize whole : taken ++ rest = queue at again
      cases again with
      | discard => exact (List.append_inj whole size).2
  | wait => cases again; rfl

end Serves

theorem ServesAll.queue_eq {calls : List Call} {answers : List Answer} {queue taken rest : Bytes}
    (served : ServesAll calls queue answers taken rest) : queue = taken ++ rest := by
  induction served with
  | nil => rfl
  | cons first others ih => rw [first.queue_eq, ih, List.append_assoc]

theorem ServesAll.rest_unique {calls : List Call} {answers others : List Answer}
    {queue taken more rest left : Bytes} (served : ServesAll calls queue answers taken rest)
    (again : ServesAll calls queue others more left) : rest = left := by
  induction served generalizing others more with
  | nil => cases again; rfl
  | cons first later ih =>
      cases again with
      | cons second later_again =>
          obtain rfl := first.rest_unique second
          exact ih later_again

variable {σ : Type} [Socket σ]

def Call.perform : Call → Attempt FatalError (Transport σ) Answer
  | .read count => do return .bytes (← Transport.read count)
  | .readByte => do return .byte (← Transport.readByte)
  | .readLine => do return .line (← Transport.readLine)
  | .discard count => do
      Transport.discard count
      return .done
  | .wait timeout => do return .ready (← Transport.wait timeout)

/-- The calls one after the other, up to the first that fails. -/
def performAll : List Call → Attempt FatalError (Transport σ) (List Answer)
  | [] => return []
  | call :: calls => do
      let answer ← call.perform
      let answers ← performAll calls
      return answer :: answers

theorem perform_ok {call : Call} {transport after : Transport σ} {answer : Answer}
    (done : call.perform.runFrom transport = (.ok answer, after)) :
    ∃ taken, Serves call transport.stream answer taken after.stream := by
  cases call with
  | read count =>
      obtain ⟨data, middle, given, finish⟩ := Attempt.ok_of_runFrom_bind done
      cases finish
      obtain ⟨rfl, split⟩ := read_ok given
      rw [split]
      exact ⟨_, .read data _⟩
  | readByte =>
      obtain ⟨byte, middle, given, finish⟩ := Attempt.ok_of_runFrom_bind done
      cases finish
      rw [readByte_ok given]
      exact ⟨_, .readByte byte _⟩
  | readLine =>
      obtain ⟨line, middle, given, finish⟩ := Attempt.ok_of_runFrom_bind done
      cases finish
      obtain ⟨free, split⟩ := readLine_ok given
      rw [split]
      exact ⟨_, .readLine line _ free⟩
  | discard count =>
      obtain ⟨_, middle, given, finish⟩ := Attempt.ok_of_runFrom_bind done
      cases finish
      obtain ⟨dropped, rfl, split⟩ := discard_ok given
      rw [split]
      exact ⟨_, .discard dropped _⟩
  | wait timeout =>
      obtain ⟨ready, middle, given, finish⟩ := Attempt.ok_of_runFrom_bind done
      cases finish
      have kept := wait_stream transport timeout
      rw [given] at kept
      rw [← kept]
      exact ⟨_, .wait timeout ready _⟩

theorem performAll_ok {calls : List Call} {transport after : Transport σ} {answers : List Answer}
    (done : (performAll calls).runFrom transport = (.ok answers, after)) :
    ∃ taken, ServesAll calls transport.stream answers taken after.stream := by
  induction calls generalizing transport answers with
  | nil =>
      cases done
      exact ⟨[], .nil _⟩
  | cons call calls ih =>
      obtain ⟨answer, middle, given, continued⟩ := Attempt.ok_of_runFrom_bind done
      obtain ⟨others, last, finished, finish⟩ := Attempt.ok_of_runFrom_bind continued
      cases finish
      obtain ⟨taken, first⟩ := perform_ok given
      obtain ⟨more, rest⟩ := ih finished
      exact ⟨taken ++ more, .cons first rest⟩

variable {calm : σ → Prop}

theorem perform_succeeds (works : Socket.Delivering calm) {call : Call} {transport : Transport σ}
    {answer : Answer} {taken rest : Bytes} (quiet : calm transport.socket)
    (fits : ∀ line, .line line = answer → line.length < maxLineLength)
    (served : Serves call transport.stream answer taken rest) :
    ∃ given after, call.perform.runFrom transport = (.ok given, after) ∧ calm after.socket := by
  generalize queue : transport.stream = stream at served
  cases served with
  | read =>
      obtain ⟨bytes, after, done, still⟩ := read_succeeds works taken.length quiet
        (by rw [queue, List.length_append]; omega)
      exact ⟨_, after, Attempt.runFrom_bind_ok done, still⟩
  | readByte =>
      obtain ⟨byte, after, done, still⟩ := readByte_succeeds works quiet (by rw [queue]; nofun)
      exact ⟨_, after, Attempt.runFrom_bind_ok done, still⟩
  | readLine line _ free =>
      obtain ⟨after, done, still⟩ := readLine_succeeds works quiet free (fits line rfl) queue
      exact ⟨_, after, Attempt.runFrom_bind_ok done, still⟩
  | discard =>
      obtain ⟨after, done, still⟩ := discard_succeeds works taken.length quiet
        (by rw [queue, List.length_append]; omega)
      exact ⟨_, after, Attempt.runFrom_bind_ok done, still⟩
  | wait timeout ready =>
      obtain ⟨ready, after, done, still⟩ := wait_succeeds works timeout quiet
      exact ⟨_, after, Attempt.runFrom_bind_ok done, still⟩

theorem performAll_succeeds (works : Socket.Delivering calm) {calls : List Call}
    {transport : Transport σ} {answers : List Answer} {taken rest : Bytes}
    (quiet : calm transport.socket) (fits : LinesFit answers)
    (served : ServesAll calls transport.stream answers taken rest) :
    ∃ given after, (performAll calls).runFrom transport = (.ok given, after) ∧
      calm after.socket := by
  generalize queue : transport.stream = stream at served
  induction served generalizing transport with
  | nil => exact ⟨[], transport, rfl, quiet⟩
  | cons first others ih =>
      subst queue
      obtain ⟨answer, middle, done, still⟩ := perform_succeeds works quiet
        (fun line same => fits line (same ▸ List.mem_cons_self)) first
      obtain ⟨_, again⟩ := perform_ok done
      obtain ⟨given, after, finished, calm_after⟩ := ih still
        (fun line member => fits line (List.mem_cons_of_mem _ member)) (again.rest_unique first)
      refine ⟨answer :: given, after, ?_, calm_after⟩
      rw [performAll, Attempt.runFrom_bind_ok done, Attempt.runFrom_bind_ok finished]
      rfl

/-- Waiting moves nothing, also when it fails, and buffered bytes answer it. -/
theorem wait_keeps (transport : Transport σ) (timeout : Option Nat) :
    (∃ socket, ((wait timeout).runFrom transport).2 = { transport with socket } ∧
      Socket.pending socket = Socket.pending transport.socket) ∧
    (transport.unread ≠ [] → (wait timeout).runFrom transport = (.ok true, transport)) := by
  by_cases empty : transport.unread = []
  · refine ⟨⟨(Socket.wait transport.socket timeout).2, ?_, Socket.pending_wait _ _⟩,
      fun left => absurd empty left⟩
    simp only [wait, hasBuffered, empty, Attempt.runFrom_ofStep]
    rcases Socket.wait transport.socket timeout with ⟨_ | _, after⟩ <;> rfl
  · have answered : (wait timeout).runFrom transport = (.ok true, transport) := by
      simp [wait, hasBuffered, empty]
    rw [answered]
    exact ⟨⟨transport.socket, rfl, rfl⟩, fun _ => rfl⟩

/-- A transport refines the plain list of the bytes in its stream. A series of calls that succeeds
answers as the list does and leaves the rest of it, so that all that was taken, what is buffered
and what the socket still has are the whole of it. On a socket without faults a series succeeds as
soon as the list holds enough for it. -/
theorem performAll_refines_queue (calls : List Call) (transport : Transport σ) :
    (∀ answers after, (performAll calls).runFrom transport = (.ok answers, after) →
      ∃ taken, ServesAll calls transport.stream answers taken after.stream ∧
        transport.stream = taken ++ (after.unread ++ Socket.pending after.socket)) ∧
    (∀ (calm : σ → Prop) (answers : List Answer) (taken rest : Bytes), Socket.Delivering calm →
      calm transport.socket → LinesFit answers →
      ServesAll calls transport.stream answers taken rest →
      ∃ given after, (performAll calls).runFrom transport = (.ok given, after) ∧
        after.stream = rest) ∧
    (∀ timeout,
      (∃ socket, ((wait timeout).runFrom transport).2 = { transport with socket } ∧
        Socket.pending socket = Socket.pending transport.socket) ∧
      (transport.unread ≠ [] → (wait timeout).runFrom transport = (.ok true, transport))) := by
  refine ⟨?_, ?_, wait_keeps transport⟩
  · intro answers after done
    obtain ⟨taken, served⟩ := performAll_ok done
    exact ⟨taken, served, served.queue_eq⟩
  · intro calm answers taken rest works quiet fits served
    obtain ⟨given, after, done, -⟩ := performAll_succeeds works quiet fits served
    obtain ⟨_, again⟩ := performAll_ok done
    exact ⟨given, after, done, again.rest_unique served⟩

/-- A line, a read past the buffer, a wait and a skip on a socket that delivers three bytes at a
time and is interrupted once. -/
theorem performAll_refines_queue_in_pieces :
    let transport := Transport.ofSocketWith 16
      ({ input := Bytes.ofText "+PONG\r\n0123456789abcdefghijklmnopqrstuvwxyz"
         readChunk := 3
         readFaults := [.pass, .interrupted] } : Scripted)
    let calls : List Call := [.readByte, .readLine, .read 20, .wait none, .discard 5, .readByte]
    ∃ given after, (performAll calls).runFrom transport = (.ok given, after) ∧
      after.stream = Bytes.ofText "qrstuvwxyz" := by
  intro transport calls
  have served : ServesAll calls transport.stream
      [.byte 43, .line (Bytes.ofText "PONG"), .bytes (Bytes.ofText "0123456789abcdefghij"),
        .ready true, .done, .byte 112]
      (Bytes.ofText "+PONG\r\n0123456789abcdefghijklmnop") (Bytes.ofText "qrstuvwxyz") := by
    exact .cons (.readByte _ _) (.cons (.readLine (Bytes.ofText "PONG") _ (by decide))
      (.cons (.read (Bytes.ofText "0123456789abcdefghij") _) (.cons (.wait _ _ _)
        (.cons (.discard (Bytes.ofText "klmno") _) (.cons (.readByte _ _) (.nil _))))))
  have calm : Scripted.Faultless transport.socket := by
    constructor <;> simp [transport, Transport.ofSocketWith, Scripted.Harmless]
  have fits : LinesFit [.byte 43, .line (Bytes.ofText "PONG"),
      .bytes (Bytes.ofText "0123456789abcdefghij"), .ready true, .done, .byte 112] := by
    intro line member
    simp only [List.mem_cons, reduceCtorEq, Answer.line.injEq, List.not_mem_nil, or_false,
      false_or] at member
    rw [member]
    decide
  exact (performAll_refines_queue calls transport).2.1 _ _ _ _ Scripted.delivering calm fits served

end RespClient.Transport
