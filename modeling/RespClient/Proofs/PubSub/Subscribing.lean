import RespClient.Proofs.Connection.Exchange
import RespClient.Proofs.PubSub.Server

/-!
# Subscription commands and pushed frames on a connection

What the two actions of subscribe mode come to, on any socket. A command is refused
without effect, breaks the connection, or is sent and then counted. A wait finds
nothing, breaks the connection, or takes one frame off the stream and accounts for
it. Events are read by waiting.
-/

namespace RespClient

namespace Connection

variable {σ : Type} [Socket σ]

/-- A command whose frame has been written is counted. -/
theorem sendSubscription_ok {command : Command} {connection : Connection σ}
    {transport : Transport σ} {count : Nat}
    (clear : connection.checkNothingPending (.send command.name) = .ok ())
    (written : (Transport.writeMany [command.frame]).runFrom connection.transport =
      (.ok count, transport)) :
    (sendSubscription command).runFrom connection = (.ok (),
      { connection with
        transport
        owedAcks := connection.owedAcks + max command.arguments.size 1
        subscribed := true }) := by
  have sent : (Transport.write command.frame).runFrom connection.transport =
      (.ok (), transport) := Attempt.runFrom_bind_ok written
  rw [sendSubscription, Attempt.runFrom_bind_ok (ensure_ok clear),
    Attempt.runFrom_bind_ok (perform_ok sent)]
  rfl

theorem sendSubscription_cases (command : Command) (connection : Connection σ) :
    (∃ cause, (sendSubscription command).runFrom connection =
      (.error (.usage cause), connection)) ∨
    (∃ cause transport, (sendSubscription command).runFrom connection = (.error (.fatal cause),
      { connection with transport, broken := connection.broken <|> some cause })) ∨
    ∃ transport count, (Transport.writeMany [command.frame]).runFrom connection.transport =
        (.ok count, transport) ∧
      (sendSubscription command).runFrom connection = (.ok (),
        { connection with
          transport
          owedAcks := connection.owedAcks + max command.arguments.size 1
          subscribed := true }) := by
  rcases checkNothingPending_cases (.send command.name) connection with clear | ⟨cause, refused⟩
  · rcases written : (Transport.writeMany [command.frame]).runFrom connection.transport with
      ⟨cause | count, transport⟩
    · have failed : (Transport.write command.frame).runFrom connection.transport =
          (.error cause, transport) := Attempt.runFrom_bind_error written
      rw [sendSubscription, Attempt.runFrom_bind_ok (ensure_ok clear),
        Attempt.runFrom_bind_error (perform_error failed)]
      exact .inr (.inl ⟨cause, transport, rfl⟩)
    · exact .inr (.inr ⟨transport, count, rfl, sendSubscription_ok clear written⟩)
  · exact .inl ⟨cause, Attempt.runFrom_bind_error (ensure_error refused)⟩

theorem sendSubscription_succeeds [Socket.Quiet σ] {calm : σ → Prop}
    (works : Socket.Accepting calm) (command : Command) {connection : Connection σ}
    (usable : connection.broken = none) (idle : connection.inFlight = 0)
    (quiet : calm connection.transport.socket) :
    ∃ transport : Transport σ, transport.stream = connection.transport.stream ∧
      calm transport.socket ∧
      (sendSubscription command).runFrom connection = (.ok (),
        { connection with
          transport
          owedAcks := connection.owedAcks + max command.arguments.size 1
          subscribed := true }) := by
  have clear := checkNothingPending_ok (.send command.name) usable idle
  have kept := Transport.writeMany_stream connection.transport [command.frame]
  obtain ⟨transport, written, still⟩ := Transport.writeMany_succeeds works [command.frame] quiet
  rw [written] at kept
  exact ⟨transport, kept, still, sendSubscription_ok clear written⟩

/-! ## The frame that a wait takes -/

/-- Takes the next frame off the stream, unless none arrives in time. -/
def takeFrame (timeout : Option Nat) : Action σ (Option Reply) := do
  ensure (checkNothingPending .waitForMessages)
  if ← perform (Transport.wait timeout) then
    let frame ← perform Reply.readFrame
    return some frame
  else return none

/-- A wait takes a frame. It hands it on and accounts for it, unless it is an error. -/
theorem runFrom_waitMessage (timeout : Option Nat) (connection : Connection σ) :
    (waitMessage timeout).runFrom connection =
      match (takeFrame timeout).runFrom connection with
      | (.ok none, after) => (.ok none, after)
      | (.ok (some frame), after) => (frame.check.map some, noteAck frame after)
      | (.error cause, after) => (.error cause, after) := by
  rw [waitMessage, takeFrame, Attempt.runFrom_bind, Attempt.runFrom_bind]
  rcases (ensure (checkNothingPending .waitForMessages)).runFrom connection with
    ⟨cause | done, clear⟩
  · rfl
  · dsimp only
    rw [Attempt.runFrom_bind, Attempt.runFrom_bind]
    rcases (perform (Transport.wait timeout)).runFrom clear with ⟨cause | ready, middle⟩
    · rfl
    · cases ready with
      | false => rfl
      | true =>
          simp only [if_true]
          rw [Attempt.runFrom_bind, Attempt.runFrom_bind]
          rcases (perform Reply.readFrame).runFrom middle with ⟨cause | frame, after⟩
          · rfl
          · cases frame <;> rfl

theorem takeFrame_cases (timeout : Option Nat) (connection : Connection σ) :
    (∃ cause, (takeFrame timeout).runFrom connection = (.error (.usage cause), connection)) ∨
    (∃ cause transport, (takeFrame timeout).runFrom connection = (.error (.fatal cause),
      { connection with transport, broken := connection.broken <|> some cause })) ∨
    (∃ transport : Transport σ, transport.stream = connection.transport.stream ∧
      (takeFrame timeout).runFrom connection = (.ok none, { connection with transport })) ∨
    ∃ (transport : Transport σ) (reply : Reply) (bytes : Bytes),
      Reply.Frame (fun _ => True) 0 reply bytes ∧
      connection.transport.stream = bytes ++ transport.stream ∧ connection.broken = none ∧
      (takeFrame timeout).runFrom connection =
        (.ok (some reply), { connection with transport }) := by
  rcases checkNothingPending_cases .waitForMessages connection with clear | ⟨cause, refused⟩
  · have kept := Transport.wait_stream connection.transport timeout
    rw [takeFrame, Attempt.runFrom_bind_ok (ensure_ok clear)]
    rcases waited : (Transport.wait timeout).runFrom connection.transport with
      ⟨cause | ready, middle⟩
    · rw [Attempt.runFrom_bind_error (perform_error waited)]
      exact .inr (.inl ⟨cause, middle, rfl⟩)
    · rw [waited] at kept
      rw [Attempt.runFrom_bind_ok (perform_ok waited)]
      cases ready with
      | false => exact .inr (.inr (.inl ⟨middle, kept, rfl⟩))
      | true =>
          rw [if_pos rfl]
          rcases read : Reply.readFrame.runFrom middle with ⟨cause | reply, last⟩
          · rw [Attempt.runFrom_bind_error (perform_error read)]
            exact .inr (.inl ⟨cause, last, rfl⟩)
          · obtain ⟨bytes, frame, split⟩ := Reply.readFrame_ok read
            rw [Attempt.runFrom_bind_ok (perform_ok read)]
            exact .inr (.inr (.inr ⟨last, reply, bytes, frame, kept.symm.trans split,
              (clear_of_checkNothingPending clear).1, rfl⟩))
  · exact .inl ⟨cause, Attempt.runFrom_bind_error (ensure_error refused)⟩

theorem takeFrame_takes {calm : σ → Prop} (works : Socket.Delivering calm)
    (prompt : Socket.Prompt calm) {connection : Connection σ} (usable : connection.broken = none)
    (idle : connection.inFlight = 0) (quiet : calm connection.transport.socket)
    (timeout : Option Nat) {reply : Reply} {bytes rest : Bytes}
    (frame : Reply.Frame Reply.Short 0 reply bytes)
    (found : connection.transport.stream = bytes ++ rest) :
    ∃ transport : Transport σ, transport.stream = rest ∧ calm transport.socket ∧
      (takeFrame timeout).runFrom connection =
        (.ok (some reply), { connection with transport }) := by
  have clear := checkNothingPending_ok .waitForMessages usable idle
  have left : connection.transport.stream ≠ [] := by
    rw [found]
    exact List.append_ne_nil_of_left_ne_nil frame.ne_nil rest
  obtain ⟨middle, waited, between⟩ := Transport.wait_finds prompt timeout quiet left
  have kept := Transport.wait_stream connection.transport timeout
  rw [waited] at kept
  obtain ⟨transport, read, rest_eq, still⟩ :=
    Reply.readFrame_yields works between frame (kept.trans found)
  refine ⟨transport, rest_eq, still, ?_⟩
  rw [takeFrame, Attempt.runFrom_bind_ok (ensure_ok clear),
    Attempt.runFrom_bind_ok (perform_ok waited), if_pos rfl,
    Attempt.runFrom_bind_ok (perform_ok read)]
  rfl

theorem waitMessage_takes {calm : σ → Prop} (works : Socket.Delivering calm)
    (prompt : Socket.Prompt calm) {connection : Connection σ} (usable : connection.broken = none)
    (idle : connection.inFlight = 0) (quiet : calm connection.transport.socket)
    (timeout : Option Nat) {reply : Reply} {bytes rest : Bytes}
    (frame : Reply.Frame Reply.Short 0 reply bytes)
    (found : connection.transport.stream = bytes ++ rest) :
    ∃ transport : Transport σ, transport.stream = rest ∧ calm transport.socket ∧
      (waitMessage timeout).runFrom connection =
        (reply.check.map some, noteAck reply { connection with transport }) := by
  obtain ⟨transport, left, still, took⟩ :=
    takeFrame_takes works prompt usable idle quiet timeout frame found
  exact ⟨transport, left, still, by rw [runFrom_waitMessage, took]⟩

theorem waitMessage_broken {connection : Connection σ} {reason : FatalError}
    (broken : connection.broken = some reason) (timeout : Option Nat) :
    (waitMessage timeout).runFrom connection = (.error (.usage (.broken reason)), connection) :=
  Attempt.runFrom_bind_error (ensure_error (checkNothingPending_broken .waitForMessages broken))

/-! ## Accounting for a frame -/

omit [Socket σ] in
theorem noteAck_none {reply : Reply} (told : Ack.ofReply? reply = none)
    (connection : Connection σ) : noteAck reply connection = connection := by
  simp only [noteAck, told]

omit [Socket σ] in
theorem noteAck_some {reply : Reply} {ack : Ack} (told : Ack.ofReply? reply = some ack)
    (connection : Connection σ) :
    noteAck reply connection =
      { connection with
        owedAcks := connection.owedAcks - 1
        subscriptions := ack.count
        subscribed := connection.subscribed &&
          !(ack.kind.isUnsubscribe && ack.count = 0 && connection.owedAcks - 1 = 0) } := by
  simp only [noteAck, told]

omit [Socket σ] in
/-- Accounting for a frame concerns the subscriptions alone. -/
theorem noteAck_spares (reply : Reply) (connection : Connection σ) :
    ∃ owedAcks subscriptions subscribed, noteAck reply connection =
      { connection with owedAcks, subscriptions, subscribed } := by
  unfold noteAck
  split <;> exact ⟨_, _, _, rfl⟩

omit [Socket σ] in
theorem noteAck_transport (reply : Reply) (connection : Connection σ) :
    (noteAck reply connection).transport = connection.transport := by
  obtain ⟨_, _, _, noted⟩ := noteAck_spares reply connection
  rw [noted]

/-! ## New input -/

def withSocket (connection : Connection σ) (socket : σ) : Connection σ :=
  { connection with transport := { connection.transport with socket } }

theorem stream_withSocket (connection : Connection σ) {socket : σ} {bytes : Bytes}
    (arrived : Socket.pending socket = Socket.pending connection.transport.socket ++ bytes) :
    (connection.withSocket socket).transport.stream = connection.transport.stream ++ bytes := by
  simp only [withSocket, Transport.stream, arrived, List.append_assoc]

end Connection

namespace Subscriber

variable {σ : Type}

theorem start_clear {connection : Connection σ}
    (clear : connection.checkNothingPending .subscribe = .ok ()) :
    start connection = .ok { connection } := by
  rw [start, clear]
  rfl

theorem start_refused {connection : Connection σ} {cause : ClientError}
    (refused : connection.checkNothingPending .subscribe = .error cause) :
    start connection = .error cause := by
  rw [start, refused]
  rfl

theorem runFrom_perform {α : Type} (action : Connection.Action σ α) (connection : Connection σ) :
    (perform action).runFrom { connection } =
      ((action.runFrom connection).1, { connection := (action.runFrom connection).2 }) := rfl

theorem arguments_size_command (name : String) (targets : List Bytes) :
    (command name targets).arguments.size = targets.length := by
  have pushed : ∀ built : Command,
      (built.args (targets.map .bytes)).arguments.size = built.arguments.size + targets.length := by
    induction targets with
    | nil => exact fun _ => rfl
    | cons target targets ih =>
        intro built
        have rest := ih (built.arg (.bytes target))
        rw [List.length_cons, Nat.add_comm targets.length, ← Nat.add_assoc]
        simpa [Command.args, Command.arg, Argument.bytes?] using rest
  exact (pushed _).trans (Nat.zero_add _)

/-- Making an event of a frame changes nothing. -/
theorem nextEvent_state [Socket σ] (timeout : Option Nat) (connection : Connection σ) :
    ((nextEvent timeout).runFrom { connection }).2.connection =
      ((Connection.waitMessage timeout).runFrom connection).2 := by
  rw [nextEvent, Attempt.runFrom_bind, runFrom_perform]
  rcases (Connection.waitMessage timeout).runFrom connection with ⟨_ | _ | reply, after⟩
  · rfl
  · rfl
  · dsimp only
    rw [Attempt.runFrom_bind, Attempt.runFrom_liftM]
    cases Event.ofReply reply <;> rfl

end Subscriber

namespace SubscriptionCall

variable {σ : Type} [Socket σ]

def name (call : SubscriptionCall) : String :=
  match call.kind with
  | .subscribe => "SUBSCRIBE"
  | .psubscribe => "PSUBSCRIBE"
  | .unsubscribe => "UNSUBSCRIBE"
  | .punsubscribe => "PUNSUBSCRIBE"

def command (call : SubscriptionCall) : Command :=
  Subscriber.command call.name call.targets

theorem arguments_size (call : SubscriptionCall) :
    call.command.arguments.size = call.targets.length :=
  Subscriber.arguments_size_command _ _

theorem perform_sendable {call : SubscriptionCall} (sendable : call.Sendable) :
    (call.perform : Subscriber.Action σ Unit) =
      Subscriber.perform (Connection.sendSubscription call.command) := by
  obtain ⟨kind, targets⟩ := call
  have named : kind.isUnsubscribe = false → targets ≠ [] := by
    intro adding
    rcases sendable with named | leaving
    · exact named
    · exact absurd (adding.symm.trans leaving) nofun
  cases kind with
  | subscribe => exact if_neg (named rfl)
  | psubscribe => exact if_neg (named rfl)
  | unsubscribe => rfl
  | punsubscribe => rfl

theorem perform_succeeds [Socket.Quiet σ] {calm : σ → Prop} (works : Socket.Accepting calm)
    {call : SubscriptionCall} (sendable : call.Sendable) {connection : Connection σ}
    (usable : connection.broken = none) (idle : connection.inFlight = 0)
    (quiet : calm connection.transport.socket) :
    ∃ transport : Transport σ, transport.stream = connection.transport.stream ∧
      calm transport.socket ∧
      call.perform.runFrom { connection } = (.ok (), { connection :=
        { connection with
          transport
          owedAcks := connection.owedAcks + max call.targets.length 1
          subscribed := true } }) := by
  obtain ⟨transport, kept, still, sent⟩ :=
    Connection.sendSubscription_succeeds works call.command usable idle quiet
  refine ⟨transport, kept, still, ?_⟩
  rw [perform_sendable sendable, Subscriber.runFrom_perform, sent, arguments_size]

theorem perform_unsendable {call : SubscriptionCall} (unsendable : ¬call.Sendable) :
    ∃ cause, (call.perform : Subscriber.Action σ Unit) = throw cause := by
  obtain ⟨kind, targets⟩ := call
  have nothing : targets = [] := Decidable.byContradiction fun named => unsendable (.inl named)
  cases kind with
  | subscribe => exact ⟨_, if_pos nothing⟩
  | psubscribe => exact ⟨_, if_pos nothing⟩
  | unsubscribe => exact absurd (.inr rfl) unsendable
  | punsubscribe => exact absurd (.inr rfl) unsendable

/-- A call is refused, or it breaks the connection, or its frame is written. -/
theorem perform_cases (call : SubscriptionCall) (connection : Connection σ) :
    (∃ cause, call.perform.runFrom { connection } = (.error cause, { connection })) ∨
    (∃ (cause : FatalError) (transport : Transport σ), call.perform.runFrom { connection } =
      (.error (.fatal cause), { connection :=
        { connection with transport, broken := connection.broken <|> some cause } })) ∨
    ∃ transport count, call.Sendable ∧
      (Transport.writeMany [call.command.frame]).runFrom connection.transport =
        (.ok count, transport) ∧
      call.perform.runFrom { connection } = (.ok (), { connection :=
        { connection with
          transport
          owedAcks := connection.owedAcks + max call.targets.length 1
          subscribed := true } }) := by
  by_cases sendable : call.Sendable
  · rw [perform_sendable sendable, Subscriber.runFrom_perform, ← arguments_size call]
    rcases Connection.sendSubscription_cases call.command connection with
      ⟨cause, refused⟩ | ⟨cause, transport, failed⟩ | ⟨transport, count, written, sent⟩
    · exact .inl ⟨.usage cause, by rw [refused]⟩
    · exact .inr (.inl ⟨cause, transport, by rw [failed]⟩)
    · exact .inr (.inr ⟨transport, count, sendable, written, by rw [sent]⟩)
  · obtain ⟨cause, refused⟩ := perform_unsendable (σ := σ) sendable
    exact .inl ⟨cause, by rw [refused]; rfl⟩

end SubscriptionCall

end RespClient
