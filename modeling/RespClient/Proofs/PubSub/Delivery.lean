import RespClient.Proofs.Command.Requests
import RespClient.Proofs.PubSub.Listening

/-!
# Pushed frames are delivered

A subscriber asks for events and for messages, in any order. Each question takes frames
off the front of those that have been pushed: one for an event, and for a message as many
as it takes to come to one that is a message or a failure. A frame that fails costs its
own call and no other. Where the frames run out the answer is that there is nothing.
-/

namespace RespClient

variable {σ : Type}

/-! ## What is to be expected -/

namespace Reply

/-- What a pushed frame tells: the error that it is, or what it is classified as. -/
def pushed : Reply → Except ClientError Event
  | .error message => .error (.server message)
  | reply => Event.ofReply reply

theorem pushed_eq (reply : Reply) : reply.pushed = reply.check >>= Event.ofReply := by
  cases reply <;> rfl

theorem ofReply_of_pushed {reply : Reply} {event : Event} (told : reply.pushed = .ok event) :
    Event.ofReply reply = .ok event := by
  cases reply with
  | error message => cases told
  | _ => exact told

theorem pushed_tame (reply : Reply) : Tame reply.pushed := by
  rw [pushed_eq]
  exact reply.check_tame.bind Event.ofReply_tame

/-- A frame that a search for a message passes over. -/
def Skipped (reply : Reply) : Prop :=
  (∃ kind channel count, reply.pushed = .ok (.control kind channel count)) ∨
    ∃ other, reply.pushed = .ok (.unknown other)

/-- A frame that ends a search for a message. -/
def Decisive (reply : Reply) : Prop :=
  (∃ message, reply.pushed = .ok (.message message)) ∨ ∃ cause, reply.pushed = .error cause

theorem skipped_or_decisive (reply : Reply) : reply.Skipped ∨ reply.Decisive := by
  cases told : reply.pushed with
  | error cause => exact .inr (.inr ⟨cause, told⟩)
  | ok event =>
      cases event with
      | message message => exact .inr (.inl ⟨message, told⟩)
      | control kind channel count => exact .inl (.inl ⟨kind, channel, count, told⟩)
      | unknown other => exact .inl (.inr ⟨other, told⟩)

end Reply

/-- A question that a subscriber can ask, with the time that it waits for an answer. -/
inductive Inquiry where
  | event (timeout : Option Nat)
  | message (timeout : Option Nat)

namespace Inquiry

/-- The message that an answer holds. -/
def delivered : Except ClientError (Option Event) → Option Message
  | .ok (some (.message found)) => some found
  | _ => none

/-- The answer to a question, and the frames that it leaves. -/
inductive Answered : Inquiry → List Response → Except ClientError (Option Event) →
    List Response → Prop where
  | event {timeout : Option Nat} (frame : Response) (rest : List Response) :
      Answered (.event timeout) (frame :: rest) (frame.reply.pushed.map some) rest
  | noEvent {timeout : Option Nat} : Answered (.event timeout) [] (.ok none) []
  | message {timeout : Option Nat} {skipped : List Response} {frame : Response}
      (before : ∀ other ∈ skipped, other.reply.Skipped) (decisive : frame.reply.Decisive)
      (rest : List Response) :
      Answered (.message timeout) (skipped ++ frame :: rest) (frame.reply.pushed.map some) rest
  | noMessage {timeout : Option Nat} {skipped : List Response}
      (all : ∀ other ∈ skipped, other.reply.Skipped) :
      Answered (.message timeout) skipped (.ok none) []

/-- The answers to a series of questions, each about the frames that the one before has left. -/
inductive AllAnswered : List Inquiry → List Response → List (Except ClientError (Option Event)) →
    List Response → Prop where
  | nil {frames : List Response} : AllAnswered [] frames [] frames
  | cons {inquiry : Inquiry} {inquiries : List Inquiry} {frames middle rest : List Response}
      {answer : Except ClientError (Option Event)}
      {answers : List (Except ClientError (Option Event))}
      (first : Answered inquiry frames answer middle)
      (others : AllAnswered inquiries middle answers rest) :
      AllAnswered (inquiry :: inquiries) frames (answer :: answers) rest

theorem delivered_of_skipped {reply : Reply} (skipped : reply.Skipped) :
    delivered (reply.pushed.map some) = none := by
  rcases skipped with ⟨kind, channel, count, told⟩ | ⟨other, told⟩ <;> rw [told] <;> rfl

theorem filterMap_delivered_of_skipped {skipped : List Response}
    (all : ∀ frame ∈ skipped, frame.reply.Skipped) :
    skipped.filterMap (fun frame => delivered (frame.reply.pushed.map some)) = [] :=
  List.filterMap_eq_nil_iff.2 fun frame member => delivered_of_skipped (all frame member)

theorem Answered.skip {timeout : Option Nat} {frame : Response} {frames rest : List Response}
    {answer : Except ClientError (Option Event)} (skipped : frame.reply.Skipped)
    (answered : Answered (.message timeout) frames answer rest) :
    Answered (.message timeout) (frame :: frames) answer rest := by
  cases answered with
  | message before decisive =>
      exact .message (List.forall_mem_cons.2 ⟨skipped, before⟩) decisive rest
  | noMessage all => exact .noMessage (List.forall_mem_cons.2 ⟨skipped, all⟩)

/-- The message in an answer is the one message among the frames that have been taken for it. -/
theorem Answered.taken {inquiry : Inquiry} {frames rest : List Response}
    {answer : Except ClientError (Option Event)} (answered : Answered inquiry frames answer rest) :
    ∃ taken, frames = taken ++ rest ∧ Tame answer ∧
      (delivered answer).toList =
        taken.filterMap fun frame => delivered (frame.reply.pushed.map some) := by
  cases answered with
  | event frame =>
      refine ⟨[frame], rfl, frame.reply.pushed_tame.map some, ?_⟩
      rw [List.filterMap_cons]
      cases delivered (frame.reply.pushed.map some) <;> rfl
  | noEvent => exact ⟨[], rfl, rfl, rfl⟩
  | @message _ skipped frame before =>
      refine ⟨skipped ++ [frame], List.append_cons _ _ _, frame.reply.pushed_tame.map some, ?_⟩
      rw [List.filterMap_append, filterMap_delivered_of_skipped before, List.nil_append,
        List.filterMap_cons]
      cases delivered (frame.reply.pushed.map some) <;> rfl
  | noMessage all =>
      exact ⟨frames, (List.append_nil _).symm, rfl, (filterMap_delivered_of_skipped all).symm⟩

theorem AllAnswered.taken {inquiries : List Inquiry} {frames rest : List Response}
    {answers : List (Except ClientError (Option Event))}
    (answered : AllAnswered inquiries frames answers rest) :
    ∃ taken, frames = taken ++ rest ∧ (∀ answer ∈ answers, Tame answer) ∧
      answers.filterMap delivered =
        taken.filterMap fun frame => delivered (frame.reply.pushed.map some) := by
  induction answered with
  | nil => exact ⟨[], rfl, nofun, rfl⟩
  | @cons _ _ _ _ _ answer answers first others ih =>
      obtain ⟨taken, rfl, tame, here⟩ := first.taken
      obtain ⟨more, rfl, tamely, there⟩ := ih
      refine ⟨taken ++ more, (List.append_assoc _ _ _).symm, ?_, ?_⟩
      · exact List.forall_mem_cons.2 ⟨tame, tamely⟩
      · rw [List.filterMap_append, ← here, ← there, List.filterMap_cons]
        cases delivered answer <;> rfl

variable [Socket σ]

def ask : Inquiry → Subscriber.Action σ (Option Event)
  | event timeout => Subscriber.nextEvent timeout
  | message timeout => do
      let found ← Subscriber.nextMessage timeout
      return found.map .message

/-- Questions one after the other, whatever each of them comes to. -/
def askAll : List Inquiry → Subscriber σ →
    List (Except ClientError (Option Event)) × Subscriber σ
  | [], held => ([], held)
  | inquiry :: inquiries, held =>
      let (answer, after) := inquiry.ask.runFrom held
      let (answers, last) := askAll inquiries after
      (answer :: answers, last)

end Inquiry

/-! ## A search that ends by itself -/

namespace Subscriber

variable [Socket σ] {timeout : Option Nat}

theorem outstanding_eq (held : Subscriber σ) :
    held.outstanding = held.connection.transport.stream.length :=
  List.length_append.symm

theorem nextEvent_of_none {connection after : Connection σ}
    (waited : (Connection.waitMessage timeout).runFrom connection = (.ok none, after)) :
    (nextEvent timeout).runFrom { connection } = (.ok none, { connection := after }) := by
  have asked : (perform (Connection.waitMessage timeout)).runFrom { connection } =
      (.ok none, { connection := after }) := by
    rw [runFrom_perform, waited]
  rw [nextEvent, Attempt.runFrom_bind_ok asked]
  rfl

theorem nextEvent_of_reply {connection after : Connection σ} {reply : Reply}
    (waited : (Connection.waitMessage timeout).runFrom connection =
      (reply.check.map some, after)) :
    (nextEvent timeout).runFrom { connection } =
      (reply.pushed.map some, { connection := after }) := by
  rw [Reply.pushed_eq]
  cases checked : reply.check with
  | error cause =>
      rw [checked] at waited
      exact nextEvent_of_error waited
  | ok frame =>
      rw [checked] at waited
      have asked : (perform (Connection.waitMessage timeout)).runFrom { connection } =
          (.ok (some frame), { connection := after }) := by
        rw [runFrom_perform, waited]
        rfl
      rw [nextEvent, Attempt.runFrom_bind_ok asked]
      change Attempt.runFrom (liftM (Event.ofReply frame) >>= fun event => pure (some event)) _ = _
      rw [Attempt.runFrom_bind, Attempt.runFrom_liftM]
      change _ = ((Event.ofReply frame).map some, _)
      cases Event.ofReply frame <;> rfl

/-- An event is what a frame tells that was taken off the stream and accounted for. -/
theorem nextEvent_takes {held after : Subscriber σ} {event : Event}
    (asked : (nextEvent timeout).runFrom held = (.ok (some event), after)) :
    ∃ (transport : Transport σ) (reply : Reply) (bytes : Bytes),
      Reply.Frame (fun _ => True) 0 reply bytes ∧
      held.connection.transport.stream = bytes ++ transport.stream ∧
      reply.pushed = .ok event ∧
      after.connection = Connection.noteAck reply { held.connection with transport } := by
  have waited := Connection.runFrom_waitMessage timeout held.connection
  rcases Connection.takeFrame_cases timeout held.connection with
    ⟨cause, refused⟩ | ⟨cause, transport, failed⟩ | ⟨transport, -, nothing⟩ |
    ⟨transport, reply, bytes, frame, split, -, took⟩
  · rw [refused] at waited
    cases (nextEvent_of_error waited).symm.trans asked
  · rw [failed] at waited
    cases (nextEvent_of_error waited).symm.trans asked
  · rw [nothing] at waited
    cases (nextEvent_of_none waited).symm.trans asked
  · rw [took] at waited
    obtain ⟨told, rfl⟩ := Prod.mk.inj ((nextEvent_of_reply waited).symm.trans asked)
    refine ⟨transport, reply, bytes, frame, split, ?_, rfl⟩
    cases pushed : reply.pushed with
    | error cause =>
        rw [pushed] at told
        cases told
    | ok found =>
        rw [pushed] at told
        cases told
        rfl

/-- An event takes at least one byte off the stream. -/
theorem outstanding_of_nextEvent {held after : Subscriber σ} {event : Event}
    (asked : (nextEvent timeout).runFrom held = (.ok (some event), after)) :
    after.outstanding < held.outstanding := by
  obtain ⟨transport, reply, bytes, frame, split, -, noted⟩ := nextEvent_takes asked
  have filled := List.length_pos_iff.2 frame.ne_nil
  rw [outstanding_eq, outstanding_eq, split, noted, Connection.noteAck_transport,
    List.length_append]
  exact Nat.lt_add_of_pos_left filled

/-- However many more frames a search may look through, it ends where it ends. -/
theorem nextMessageWithin_enough {bound other : Nat} {held : Subscriber σ}
    (enough : held.outstanding < bound) (too : held.outstanding < other) :
    (nextMessageWithin timeout bound).runFrom held =
      (nextMessageWithin timeout other).runFrom held := by
  -- Each event that is passed over takes a byte off what is outstanding and one off both bounds.
  induction bound generalizing other held with
  | zero => exact absurd enough (Nat.not_lt_zero _)
  | succ bound ih =>
      obtain ⟨other, rfl⟩ := Nat.exists_eq_add_one_of_ne_zero (Nat.ne_of_gt (Nat.zero_lt_of_lt too))
      rw [nextMessageWithin_succ, nextMessageWithin_succ]
      rcases asked : (nextEvent timeout).runFrom held with ⟨cause | _ | event, after⟩
      · rfl
      · rfl
      · have less := outstanding_of_nextEvent asked
        have left : after.outstanding < bound := by omega
        have alike := ih left (show after.outstanding < other by omega)
        cases event with
        | message => rfl
        | control => exact alike
        | unknown => exact alike

theorem nextMessage_eq {bound : Nat} {held : Subscriber σ} (enough : held.outstanding < bound) :
    (nextMessageWithin timeout bound).runFrom held = (nextMessage timeout).runFrom held :=
  (nextMessageWithin_enough enough (Nat.lt_succ_self _)).trans
    (Listening.message_eq timeout held.connection).symm

/-- The search asks for events until one of them is a message. -/
theorem nextMessage_loop (timeout : Option Nat) (held : Subscriber σ) :
    (nextMessage timeout).runFrom held =
      match (nextEvent timeout).runFrom held with
      | (.ok none, after) => (.ok none, after)
      | (.ok (some (.message message)), after) => (.ok (some message), after)
      | (.ok (some _), after) => (nextMessage timeout).runFrom after
      | (.error cause, after) => (.error cause, after) := by
  rw [← nextMessage_eq (Nat.lt_succ_self held.outstanding), nextMessageWithin_succ]
  rcases asked : (nextEvent timeout).runFrom held with ⟨cause | _ | event, after⟩
  · rfl
  · rfl
  · have less := outstanding_of_nextEvent asked
    cases event with
    | message => rfl
    | control => exact nextMessage_eq less
    | unknown => exact nextMessage_eq less

/-! ## Answers from the stream -/

/-- A usable subscriber with nothing in flight, which these frames wait for and no others. -/
structure Awaited (calm : σ → Prop) (frames : List Response) (held : Subscriber σ) : Prop where
  usable : held.connection.broken = none
  idle : held.connection.inFlight = 0
  quiet : calm held.connection.transport.socket
  stream : held.connection.transport.stream = wire frames

namespace Awaited

variable {calm : σ → Prop} {frames rest : List Response} {frame : Response} {held : Subscriber σ}

/-- The next frame is the next event. -/
theorem event (works : Socket.Delivering calm) (honest : Socket.Honest calm)
    (awaited : Awaited calm (frame :: rest) held) (timeout : Option Nat) :
    ∃ after, (nextEvent timeout).runFrom held = (frame.reply.pushed.map some, after) ∧
      Awaited calm rest after := by
  obtain ⟨transport, left, still, took⟩ := Connection.waitMessage_takes works honest.prompt
    awaited.usable awaited.idle awaited.quiet timeout frame.frame awaited.stream
  obtain ⟨owedAcks, subscriptions, subscribed, noted⟩ :=
    Connection.noteAck_spares frame.reply { held.connection with transport }
  rw [noted] at took
  exact ⟨_, nextEvent_of_reply took, awaited.usable, awaited.idle, still, left⟩

/-- Without frames there is no event. -/
theorem noEvent (honest : Socket.Honest calm) (awaited : Awaited calm [] held)
    (timeout : Option Nat) :
    ∃ after, (nextEvent timeout).runFrom held = (.ok none, after) ∧ Awaited calm [] after := by
  have clear := Connection.checkNothingPending_ok .waitForMessages awaited.usable awaited.idle
  obtain ⟨transport, waited, exhausted, still⟩ :=
    Transport.wait_exhausted honest timeout awaited.quiet awaited.stream
  have nothing : (Connection.waitMessage timeout).runFrom held.connection =
      (.ok none, { held.connection with transport }) := by
    rw [Connection.waitMessage, Attempt.runFrom_bind_ok (Connection.ensure_ok clear),
      Attempt.runFrom_bind_ok (Connection.perform_ok waited)]
    rfl
  exact ⟨_, nextEvent_of_none nothing, awaited.usable, awaited.idle, still, exhausted⟩

theorem ask_message {timeout : Option Nat} {answer : Except ClientError (Option Message)}
    {after : Subscriber σ} (found : (nextMessage timeout).runFrom held = (answer, after)) :
    (Inquiry.message timeout).ask.runFrom held = (answer.map (·.map .message), after) := by
  rw [Inquiry.ask, Attempt.runFrom_bind, found]
  cases answer <;> rfl

/-- A search passes over what it is to skip and ends with the first frame that decides it, or with
the last frame of all. -/
theorem message (works : Socket.Delivering calm) (honest : Socket.Honest calm)
    (awaited : Awaited calm frames held) (timeout : Option Nat) :
    ∃ answer rest after, (nextMessage timeout).runFrom held = (answer, after) ∧
      (Inquiry.message timeout).Answered frames (answer.map (·.map .message)) rest ∧
      Awaited calm rest after := by
  -- Along the frames, since the search is the same again behind one that is passed over.
  induction frames generalizing held with
  | nil =>
      obtain ⟨after, asked, still⟩ := awaited.noEvent honest timeout
      refine ⟨.ok none, [], after, ?_, .noMessage (List.forall_mem_nil _), still⟩
      rw [nextMessage_loop, asked]
  | cons frame frames ih =>
      obtain ⟨after, asked, still⟩ := awaited.event works honest timeout
      rw [nextMessage_loop, asked]
      rcases frame.reply.skipped_or_decisive with skipped | decisive
      · obtain ⟨answer, rest, last, found, answered, end_still⟩ := ih still
        refine ⟨answer, rest, last, ?_, answered.skip skipped, end_still⟩
        rw [← found]
        rcases skipped with ⟨kind, channel, count, told⟩ | ⟨other, told⟩ <;> rw [told] <;> rfl
      · have answered : (Inquiry.message timeout).Answered ([] ++ frame :: frames)
            (frame.reply.pushed.map some) frames := .message (List.forall_mem_nil _) decisive frames
        rcases decisive with ⟨published, told⟩ | ⟨cause, told⟩
        · rw [told] at answered ⊢
          exact ⟨.ok (some published), frames, after, rfl, answered, still⟩
        · rw [told] at answered ⊢
          exact ⟨.error cause, frames, after, rfl, answered, still⟩

theorem ask (works : Socket.Delivering calm) (honest : Socket.Honest calm)
    (awaited : Awaited calm frames held) (inquiry : Inquiry) :
    ∃ answer rest after, inquiry.ask.runFrom held = (answer, after) ∧
      inquiry.Answered frames answer rest ∧ Awaited calm rest after := by
  cases inquiry with
  | event timeout =>
      cases frames with
      | nil =>
          obtain ⟨after, asked, still⟩ := awaited.noEvent honest timeout
          exact ⟨_, [], after, asked, .noEvent, still⟩
      | cons frame rest =>
          obtain ⟨after, asked, still⟩ := awaited.event works honest timeout
          exact ⟨_, rest, after, asked, .event frame rest, still⟩
  | message timeout =>
      obtain ⟨answer, rest, after, found, answered, still⟩ := awaited.message works honest timeout
      exact ⟨_, rest, after, ask_message found, answered, still⟩

theorem askAll (works : Socket.Delivering calm) (honest : Socket.Honest calm)
    (awaited : Awaited calm frames held) (inquiries : List Inquiry) :
    ∃ answers rest last, Inquiry.askAll inquiries held = (answers, last) ∧
      Inquiry.AllAnswered inquiries frames answers rest ∧ Awaited calm rest last := by
  induction inquiries generalizing frames held with
  | nil => exact ⟨[], frames, held, rfl, .nil, awaited⟩
  | cons inquiry inquiries ih =>
      obtain ⟨answer, middle, after, asked, first, between⟩ := awaited.ask works honest inquiry
      obtain ⟨answers, rest, last, others, answered, still⟩ := ih between
      refine ⟨answer :: answers, rest, last, ?_, .cons first answered, still⟩
      rw [Inquiry.askAll, asked]
      dsimp only
      rw [others]

end Awaited

/-- On a socket that tells truthfully whether there is input, questions for events and for messages
are answered from the frames that have been pushed, in their order and from each frame once. The
messages in the answers are the messages in the frames that have been taken, and the failures are
about these frames alone. However many frames a search for a message is allowed to look through, it
ends by itself if they are more than there are bytes. -/
theorem pushed_frames_delivered {calm : σ → Prop} (works : Socket.Delivering calm)
    (honest : Socket.Honest calm) {connection : Connection σ} (usable : connection.broken = none)
    (idle : connection.inFlight = 0) (quiet : calm connection.transport.socket)
    {frames : List Response} (pushed : connection.transport.stream = wire frames)
    (inquiries : List Inquiry) :
    start connection = .ok { connection } ∧
    (∃ answers last taken rest,
      Inquiry.askAll inquiries { connection } = (answers, ({ connection := last } : Subscriber σ)) ∧
      frames = taken ++ rest ∧ Inquiry.AllAnswered inquiries frames answers rest ∧
      answers.filterMap Inquiry.delivered =
        (taken.filterMap fun frame => Inquiry.delivered (frame.reply.pushed.map some)) ∧
      (∀ answer ∈ answers, ∀ cause, answer = .error cause → cause.concernsReply = true) ∧
      last.transport.stream = wire rest ∧ last.broken = none ∧ last.inFlight = 0) ∧
    ∀ (timeout : Option Nat) (held : Subscriber σ) (bound : Nat), held.outstanding < bound →
      (nextMessageWithin timeout bound).runFrom held = (nextMessage timeout).runFrom held := by
  have awaited : Awaited calm frames { connection } := ⟨usable, idle, quiet, pushed⟩
  obtain ⟨answers, rest, last, asked, answered, still⟩ := awaited.askAll works honest inquiries
  obtain ⟨taken, split, tame, messages⟩ := answered.taken
  refine ⟨?_, ⟨answers, last.connection, taken, rest, asked, split, answered, messages, ?_,
    still.stream, still.usable, still.idle⟩, fun timeout held bound enough => nextMessage_eq enough⟩
  · exact start_clear (Connection.checkNothingPending_ok .subscribe usable idle)
  · rintro answer member cause rfl
    exact tame _ member

/-- A frame that is not known, an error, a message that lacks its payload and one that is whole. The
first event is the frame that is not known, and the error is the second. -/
theorem pushed_frames_delivered_in_pieces :
    let unknown : Response :=
      ⟨.simple "PONG", Reply.headed '+' (Bytes.ofText "PONG"), .simple (by decide) (by decide)⟩
    let refused : Response :=
      ⟨.error "ERR", Reply.headed '-' (Bytes.ofText "ERR"), .error (by decide) (by decide)⟩
    let published (words : List Bytes) (fits : (Request.listed words).Fits) : Response :=
      ⟨_, _, Reply.Frame.of_request (.listed words) fits⟩
    let short := published [Bytes.ofText "message", Bytes.ofText "c"] ⟨by decide, by decide⟩
    let whole := published [Bytes.ofText "message", Bytes.ofText "c", Bytes.crlf]
      ⟨by decide, by decide⟩
    let frames := [unknown, refused, short, whole]
    let connection : Connection Scripted :=
      .ofSocketWith 16 { input := wire frames, readChunk := 3, readFaults := [.interrupted] }
    ∃ answers last, Inquiry.askAll [.event none, .event (some 0), .message none, .message none]
        { connection } = (answers, ({ connection := last } : Subscriber Scripted)) ∧
      (∃ rest others, answers = .ok (some (.unknown (.simple "PONG"))) :: .error (.server "ERR") ::
        others ∧ last.transport.stream = wire rest) ∧ last.broken = none := by
  intro unknown refused published short whole frames connection
  have calm : Scripted.Standing connection.transport.socket := by
    refine ⟨?_, rfl⟩
    constructor <;> simp [connection, Connection.ofSocketWith, Transport.ofSocketWith,
      Scripted.Harmless]
  obtain ⟨-, ⟨answers, last, -, rest, asked, -, answered, -, -, left, unbroken, -⟩, -⟩ :=
    pushed_frames_delivered Scripted.standing_delivering Scripted.standing_honest
      (show connection.broken = none from rfl) rfl calm rfl
      [.event none, .event (some 0), .message none, .message none]
  refine ⟨answers, last, asked, ?_, unbroken⟩
  change Inquiry.AllAnswered _ [unknown, refused, short, whole] _ _ at answered
  cases answered with
  | cons first others =>
      cases first
      cases others with
      | cons second others =>
          cases second
          exact ⟨rest, _, rfl, left⟩

end Subscriber

end RespClient
