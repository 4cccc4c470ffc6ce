import RespClient.Proofs.Command.Requests
import RespClient.Proofs.PubSub.Course
import RespClient.Proofs.Transport.Calls

/-!
# Subscription commands on the wire

In a course a command reaches the server once it has been sent. What the client has
written by then are the frames of the commands that have been sent, in their order and
nothing else, and who reads them gets the commands word by word.
-/

namespace RespClient

variable {σ : Type} [Socket σ]

/-! ## What a wait writes -/

theorem Transport.written_wait (timeout : Option Nat) (transport : Transport (Recorded σ)) :
    ((wait timeout).runFrom transport).2.socket.written = transport.socket.written := by
  have kept := Recorded.written_wait transport.socket timeout
  rw [wait, Attempt.runFrom_ofStep]
  split
  · rfl
  · split
    · next failed =>
        rw [failed] at kept
        exact kept
    · next answered =>
        rw [answered] at kept
        exact kept

theorem Reply.written_readFrame (transport : Transport (Recorded σ)) :
    (readFrame.runFrom transport).2.socket.written = transport.socket.written := by
  let same (socket : Recorded σ) : Prop := socket.written = transport.socket.written
  have kept : ∀ socket room, same socket → same (Socket.read socket room).2 :=
    fun socket room before => (Recorded.written_read socket room).trans before
  exact readFrame_keeps kept (show same transport.socket from rfl)

namespace Connection

omit [Socket σ] in
def written (connection : Connection (Recorded σ)) : Bytes :=
  connection.transport.socket.written

omit [Socket σ] in
theorem written_perform {α : Type} {attempt : Attempt FatalError (Transport (Recorded σ)) α}
    {connection : Connection (Recorded σ)}
    (kept : (attempt.runFrom connection.transport).2.socket.written = connection.written) :
    ((perform attempt).runFrom connection).2.written = connection.written := by
  rw [written, perform_transport]
  exact kept

theorem written_takeFrame (timeout : Option Nat) (connection : Connection (Recorded σ)) :
    ((takeFrame timeout).runFrom connection).2.written = connection.written := by
  have waited := written_perform (Transport.written_wait timeout connection.transport)
  rcases checkNothingPending_cases .waitForMessages connection with clear | ⟨cause, refused⟩
  · rw [takeFrame, Attempt.runFrom_bind_ok (ensure_ok clear), Attempt.runFrom_bind]
    split
    · next ready middle done =>
        rw [done] at waited
        cases ready with
        | false => exact waited
        | true =>
            have read := written_perform (Reply.written_readFrame middle.transport)
            rw [if_pos rfl, Attempt.runFrom_bind]
            split
            · next took =>
                rw [took] at read
                exact read.trans waited
            · next failed =>
                rw [failed] at read
                exact read.trans waited
    · next failed =>
        rw [failed] at waited
        exact waited
  · rw [takeFrame, Attempt.runFrom_bind_error (ensure_error refused)]

theorem written_waitMessage (timeout : Option Nat) (connection : Connection (Recorded σ)) :
    ((waitMessage timeout).runFrom connection).2.written = connection.written := by
  have taken := written_takeFrame timeout connection
  rw [runFrom_waitMessage]
  rcases took : (takeFrame timeout).runFrom connection with ⟨cause | _ | reply, after⟩
  all_goals rw [took] at taken
  · exact taken
  · exact taken
  · rw [written, noteAck_transport]
    exact taken

theorem usable_of_waitMessage {timeout : Option Nat} {connection : Connection σ}
    (usable : ((waitMessage timeout).runFrom connection).2.broken = none) :
    connection.broken = none := by
  cases broken : connection.broken with
  | none => rfl
  | some reason =>
      rw [waitMessage_broken broken] at usable
      exact broken.symm.trans usable

end Connection

/-- Listening writes nothing, and a connection that it leaves usable has been so before. -/
theorem Listening.writes_nothing (listening : Listening) (timeout : Option Nat)
    (connection : Connection (Recorded σ)) :
    (listening.after timeout connection).written = connection.written ∧
      ((listening.after timeout connection).broken = none → connection.broken = none) := by
  let motive (_ : List Reply) (last : Connection (Recorded σ)) : Prop :=
    last.written = connection.written ∧ (last.broken = none → connection.broken = none)
  have step : ∀ {heard : List Reply} {last : Connection (Recorded σ)}, motive heard last →
      motive (heard ++ (last.heard? timeout).toList)
        ((Connection.waitMessage timeout).runFrom last).2 := by
    rintro heard last ⟨written, intact⟩
    exact ⟨(last.written_waitMessage timeout).trans written,
      fun usable => intact (Connection.usable_of_waitMessage usable)⟩
  exact @Listening.induct _ _ timeout connection motive @step listening [] ⟨rfl, id⟩

/-! ## The commands that have been sent -/

namespace SubscriptionCall

/-- What the call is on the wire. -/
def request (call : SubscriptionCall) : Request :=
  .built call.name [.args (call.targets.map .bytes)]

theorem frame_request (call : SubscriptionCall) : call.request.frame = call.command.frame := rfl

theorem words_request (call : SubscriptionCall) :
    call.request.words = Bytes.ofText call.name :: call.targets := by
  have kept : (call.targets.map Argument.bytes).filterMap Argument.bytes? = call.targets := by
    rw [List.filterMap_map]
    exact List.filterMap_some
  rw [request, Request.words, List.flatMap_singleton, BuildStep.words, kept]

/-- A call that succeeds has written its command. -/
theorem perform_ok {call : SubscriptionCall} {connection : Connection (Recorded σ)}
    {subscriber : Subscriber (Recorded σ)}
    (done : call.perform.runFrom { connection } = (.ok (), subscriber)) :
    subscriber.connection.broken = connection.broken ∧
      subscriber.connection.written = connection.written ++ call.command.frame := by
  rcases call.perform_cases connection with
    ⟨cause, refused⟩ | ⟨cause, transport, failed⟩ | ⟨transport, count, -, written, sent⟩
  · cases refused.symm.trans done
  · cases failed.symm.trans done
  · cases sent.symm.trans done
    have frames := Transport.writeMany_written written
    rw [List.flatten_singleton] at frames
    exact ⟨rfl, frames⟩

/-- A call that fails without breaking the connection has changed nothing. -/
theorem perform_error {call : SubscriptionCall} {connection : Connection σ} {cause : ClientError}
    {subscriber : Subscriber σ}
    (failed : call.perform.runFrom { connection } = (.error cause, subscriber))
    (usable : subscriber.connection.broken = none) : subscriber.connection = connection := by
  rcases call.perform_cases connection with
    ⟨cause, refused⟩ | ⟨cause, transport, broke⟩ | ⟨transport, count, -, -, sent⟩
  · cases refused.symm.trans failed
    rfl
  · cases broke.symm.trans failed
    exact absurd usable (Connection.marked_ne_none _ _)
  · cases sent.symm.trans failed

end SubscriptionCall

namespace Dialogue

variable {τ : Type} [Broker τ] {around : Surroundings (Recorded σ) τ}
  {first : Connection (Recorded σ)} {start : τ} {orders : List Order} {heard : List Reply}
  {dialogue : Dialogue (Recorded σ) τ}

omit [Broker τ] in
theorem written_of_arrives {connection : Connection (Recorded σ)} {bytes : Bytes}
    {socket : Recorded σ}
    (arrived : around.recording.arrives connection.transport.socket bytes socket) :
    (connection.withSocket socket).written = connection.written :=
  congrArg (fun calls => calls.reverse.flatMap SocketCall.accepted) arrived.2

/-- A course of which there is a record is a course all the same. -/
theorem Course.unrecorded (course : Course around.recording first start orders heard dialogue) :
    Course around first start orders heard dialogue :=
  course.widen around.recording_within

/-- As long as the connection is not broken, the commands that have been sent have been written, one
after the other, and nothing else has. -/
theorem Course.written (course : Course around.recording first start orders heard dialogue)
    (usable : dialogue.connection.broken = none) :
    dialogue.connection.written =
      first.written ++ orders.flatMap fun order => order.call.command.frame := by
  induction course with
  | opened => rw [List.flatMap_nil, List.append_nil]
  | sent _ order done ih =>
      obtain ⟨kept, more⟩ := SubscriptionCall.perform_ok done
      rw [more, ih (kept.symm.trans usable), List.flatMap_append, List.append_assoc,
        List.flatMap_singleton]
  | failed _ call failed ih =>
      have same := SubscriptionCall.perform_error failed usable
      dsimp only at usable ⊢
      rw [same] at usable ⊢
      exact ih usable
  | @listened _ _ dialogue _ listening timeout ih =>
      obtain ⟨written, intact⟩ := listening.writes_nothing timeout dialogue.connection
      rw [written]
      exact ih (intact usable)
  | served _ _ arrived ih => exact (written_of_arrives arrived).trans (ih usable)
  | published _ _ arrived ih => exact (written_of_arrives arrived).trans (ih usable)

/-- Who reads what has been written since the beginning gets the commands that have been sent, each
as its name and its targets. -/
theorem Course.read_back (course : Course around.recording first start orders heard dialogue)
    (usable : dialogue.connection.broken = none)
    (fits : ∀ order ∈ orders, order.call.request.Fits) {ρ : Type} [Socket ρ] {calm : ρ → Prop}
    (works : Socket.Delivering calm) {reader : Transport ρ} (quiet : calm reader.socket)
    {since rest : Bytes} (written : dialogue.connection.written = first.written ++ since)
    (found : reader.stream = since ++ rest) :
    Transport.Yields calm (Reply.readFrames orders.length) reader
      (orders.map fun order =>
        .array (.bulk (Bytes.ofText order.call.name) :: order.call.targets.map .bulk)) rest := by
  have same : since = (orders.map (·.call.request)).flatMap Request.frame := by
    rw [course.written usable] at written
    simp only [List.flatMap_map, SubscriptionCall.frame_request]
    exact (List.append_cancel_left written).symm
  have fit : ∀ request ∈ orders.map (·.call.request), request.Fits := by
    intro request member
    obtain ⟨order, sent, rfl⟩ := List.mem_map.1 member
    exact fits order sent
  have read := Reply.readFrames_yields works fit quiet (same ▸ found)
  rw [List.length_map, List.map_map] at read
  have words : (Request.asReply ∘ fun order : Order => order.call.request) = fun order =>
      .array (.bulk (Bytes.ofText order.call.name) :: order.call.targets.map .bulk) := by
    funext order
    rw [Function.comp_apply, Request.asReply, SubscriptionCall.words_request, List.map_cons]
  rwa [words] at read

end Dialogue

end RespClient
