import RespClient.Proofs.PubSub.Notice
import RespClient.Proofs.PubSub.Subscribing
import RespClient.Proofs.Reply.Conversion

/-!
# Listening in subscribe mode

A program waits for a frame, for an event or for a message. What it hears are the
frames that are taken off the stream meanwhile: one at most, unless it looks for a
message, which skips whatever else comes. An error reply is never skipped. It ends
each of the three with a server error, and the connection stays usable.
-/

namespace RespClient

variable {σ : Type} [Socket σ] {timeout : Option Nat} {connection : Connection σ}

namespace Connection

/-- The frame that a wait takes, if it takes one. -/
def heard? (timeout : Option Nat) (connection : Connection σ) : Option Reply :=
  match ((takeFrame timeout).runFrom connection).1 with
  | .ok frame => frame
  | .error _ => none

theorem waitMessage_of_heard {text : String}
    (heard : connection.heard? timeout = some (.error text)) :
    connection.broken = none ∧ ∃ transport, (waitMessage timeout).runFrom connection =
      (.error (.server text), { connection with transport }) := by
  unfold heard? at heard
  rcases takeFrame_cases timeout connection with
    ⟨cause, refused⟩ | ⟨cause, transport, failed⟩ | ⟨transport, -, nothing⟩ |
    ⟨transport, reply, bytes, -, -, usable, took⟩
  · cases refused ▸ heard
  · cases failed ▸ heard
  · cases nothing ▸ heard
  · rw [took] at heard
    obtain rfl := Option.some.inj heard
    exact ⟨usable, transport, by rw [runFrom_waitMessage, took]; rfl⟩

end Connection

namespace Subscriber

/-- What is heard while at most so many frames are looked through for a message. -/
def heardWithin (timeout : Option Nat) : (frames : Nat) → Connection σ → List Reply
  | 0, _ => []
  | frames + 1, connection =>
      (connection.heard? timeout).toList ++
        match (nextEvent timeout).runFrom { connection } with
        | (.ok (some (.message _)), _) => []
        | (.ok (some _), after) => heardWithin timeout frames after.connection
        | _ => []

theorem nextMessageWithin_succ (timeout : Option Nat) (frames : Nat) (held : Subscriber σ) :
    (nextMessageWithin timeout (frames + 1)).runFrom held =
      match (nextEvent timeout).runFrom held with
      | (.ok none, after) => (.ok none, after)
      | (.ok (some (.message message)), after) => (.ok (some message), after)
      | (.ok (some _), after) => (nextMessageWithin timeout frames).runFrom after
      | (.error cause, after) => (.error cause, after) := by
  rw [nextMessageWithin, Attempt.runFrom_bind]
  rcases (nextEvent timeout).runFrom held with ⟨cause | _ | event, after⟩
  · rfl
  · rfl
  · cases event <;> rfl

theorem nextEvent_of_error {cause : ClientError} {after : Connection σ}
    (failed : (Connection.waitMessage timeout).runFrom connection = (.error cause, after)) :
    (nextEvent timeout).runFrom { connection } = (.error cause, { connection := after }) := by
  have waited : (perform (Connection.waitMessage timeout)).runFrom { connection } =
      (.error cause, { connection := after }) := by
    rw [runFrom_perform, failed]
  rw [nextEvent, Attempt.runFrom_bind_error waited]

theorem nextMessageWithin_of_error {cause : ClientError} {after : Connection σ} (frames : Nat)
    (failed : (Connection.waitMessage timeout).runFrom connection = (.error cause, after)) :
    (nextMessageWithin timeout (frames + 1)).runFrom { connection } =
      (.error cause, { connection := after }) := by
  rw [nextMessageWithin_succ, nextEvent_of_error failed]

/-- What every wait keeps is kept while frames are looked through. -/
theorem nextMessageWithin_induct {motive : List Reply → Connection σ → Prop}
    (step : ∀ {heard : List Reply} {connection : Connection σ}, motive heard connection →
      motive (heard ++ (connection.heard? timeout).toList)
        ((Connection.waitMessage timeout).runFrom connection).2)
    (frames : Nat) {heard : List Reply} (start : motive heard connection) :
    motive (heard ++ heardWithin timeout frames connection)
      ((nextMessageWithin timeout frames).runFrom { connection }).2.connection := by
  induction frames generalizing heard connection with
  | zero =>
      rw [heardWithin, List.append_nil]
      exact start
  | succ frames ih =>
      have next := step start
      rw [← nextEvent_state] at next
      rw [heardWithin, nextMessageWithin_succ, ← List.append_assoc]
      rcases asked : (nextEvent timeout).runFrom { connection } with ⟨cause | _ | event, held⟩
      · rw [asked] at next
        rw [List.append_nil]
        exact next
      · rw [asked] at next
        rw [List.append_nil]
        exact next
      · rw [asked] at next
        cases event with
        | message =>
            rw [List.append_nil]
            exact next
        | control => exact ih next
        | unknown => exact ih next

theorem nextMessageWithin_of_heard {text : String} (frames : Nat)
    (heard : .error text ∈ heardWithin timeout frames connection) :
    ∃ last, last.broken = none ∧ (nextMessageWithin timeout frames).runFrom { connection } =
      (.error (.server text), { connection := last }) := by
  induction frames generalizing connection with
  | zero => cases heard
  | succ frames ih =>
      rw [heardWithin] at heard
      rcases List.mem_append.1 heard with first | later
      · obtain ⟨usable, transport, failed⟩ :=
          Connection.waitMessage_of_heard (Option.mem_toList.1 first)
        exact ⟨{ connection with transport }, usable, nextMessageWithin_of_error frames failed⟩
      · rw [nextMessageWithin_succ]
        rcases asked : (nextEvent timeout).runFrom { connection } with ⟨cause | _ | event, held⟩
        · cases asked ▸ later
        · cases asked ▸ later
        · rw [asked] at later
          cases event with
          | message => cases later
          | control => exact ih later
          | unknown => exact ih later

end Subscriber

/-- The ways to listen. -/
inductive Listening where
  | wait
  | event
  | message

namespace Listening

open Subscriber (heardWithin nextEvent nextMessage nextMessageWithin)

def failure (timeout : Option Nat) (connection : Connection σ) : Listening → Option ClientError
  | wait => failureOf ((Connection.waitMessage timeout).runFrom connection).1
  | event => failureOf ((nextEvent timeout).runFrom { connection }).1
  | message => failureOf ((nextMessage timeout).runFrom { connection }).1

def after (timeout : Option Nat) (connection : Connection σ) : Listening → Connection σ
  | wait => ((Connection.waitMessage timeout).runFrom connection).2
  | event => ((nextEvent timeout).runFrom { connection }).2.connection
  | message => ((nextMessage timeout).runFrom { connection }).2.connection

def heard (timeout : Option Nat) (connection : Connection σ) : Listening → List Reply
  | wait | event => (connection.heard? timeout).toList
  | message =>
      heardWithin timeout (({ connection } : Subscriber σ).outstanding + 1) connection

/-! ## Listening comes down to waits -/

theorem message_eq (timeout : Option Nat) (connection : Connection σ) :
    (nextMessage timeout).runFrom { connection } =
      (nextMessageWithin timeout (({ connection } : Subscriber σ).outstanding + 1)).runFrom
        { connection } :=
  Attempt.runFrom_bind_ok (Attempt.runFrom_get _)

/-- What every wait keeps is kept by any way to listen. -/
theorem induct {motive : List Reply → Connection σ → Prop}
    (step : ∀ {heard : List Reply} {connection : Connection σ}, motive heard connection →
      motive (heard ++ (connection.heard? timeout).toList)
        ((Connection.waitMessage timeout).runFrom connection).2)
    (listening : Listening) {heard : List Reply} (start : motive heard connection) :
    motive (heard ++ listening.heard timeout connection) (listening.after timeout connection) := by
  cases listening with
  | wait => exact step start
  | event =>
      rw [after, Subscriber.nextEvent_state]
      exact step start
  | message =>
      rw [after, message_eq]
      exact Subscriber.nextMessageWithin_induct step _ start

/-! ## Error replies -/

/-- A wait that fails makes all ways to listen fail, and nothing else happens. -/
theorem of_error (listening : Listening) {cause : ClientError} {last : Connection σ}
    (failed : (Connection.waitMessage timeout).runFrom connection = (.error cause, last)) :
    listening.failure timeout connection = some cause ∧
      listening.after timeout connection = last := by
  cases listening with
  | wait =>
      rw [failure, after, failed]
      exact ⟨rfl, rfl⟩
  | event =>
      rw [failure, after, Subscriber.nextEvent_of_error failed]
      exact ⟨rfl, rfl⟩
  | message =>
      rw [failure, after, message_eq, Subscriber.nextMessageWithin_of_error _ failed]
      exact ⟨rfl, rfl⟩

/-- An error that is heard is what the caller is told, and the connection goes on. -/
theorem failure_of_heard (listening : Listening) {text : String}
    (heard : .error text ∈ listening.heard timeout connection) :
    listening.failure timeout connection = some (.server text) ∧
      (listening.after timeout connection).broken = none := by
  cases listening with
  | wait | event =>
      obtain ⟨usable, transport, failed⟩ :=
        Connection.waitMessage_of_heard (Option.mem_toList.1 heard)
      obtain ⟨told, same⟩ := of_error _ failed
      exact ⟨told, same ▸ usable⟩
  | message =>
      obtain ⟨last, usable, failed⟩ := Subscriber.nextMessageWithin_of_heard _ heard
      rw [failure, after, message_eq, failed]
      exact ⟨rfl, usable⟩

/-- On a socket that works, an error reply that comes next is told by all ways to listen. It is
taken off the stream, and apart from that the connection is what it was. -/
theorem failure_of_refusal (listening : Listening) {calm : σ → Prop}
    (works : Socket.Delivering calm) (prompt : Socket.Prompt calm)
    (usable : connection.broken = none) (idle : connection.inFlight = 0)
    (quiet : calm connection.transport.socket) (refusal : Refusal) {rest : Bytes}
    (found : connection.transport.stream = (Notice.refusal refusal).bytes ++ rest) :
    listening.failure timeout connection = some (.server refusal.text) ∧
      ∃ transport, transport.stream = rest ∧
        listening.after timeout connection = { connection with transport } := by
  have readable : (Notice.refusal refusal).Readable := nofun
  obtain ⟨transport, left, -, told⟩ := Connection.waitMessage_takes works prompt usable idle quiet
    timeout (Notice.frame readable) found
  obtain ⟨failed, same⟩ := listening.of_error told
  exact ⟨failed, transport, left, same⟩

end Listening

end RespClient
