import RespClient.Proofs.Connection.Exchange
import RespClient.Proofs.Reply.Conversion
import RespClient.PubSub.Subscriber

/-!
# How connections break

An attempt on a usable connection leaves it broken for the fatal error that it reports,
and usable if it reports none; on a broken connection it changes neither the reason nor
the transport, or is refused from the start. These laws are closed under sequencing.
They hold of every action of connections, and go over to whatever holds a connection.
-/

namespace RespClient

variable {state σ α β : Type}

namespace Connection

def faults (connection : Connection (Recorded σ)) : List IoError :=
  connection.transport.socket.faults

variable {before middle after : Connection (Recorded σ)} {seen : Option FatalError}
  {reason : FatalError}

/-- What becomes of a usable connection while so much is seen of fatal errors. The one that breaks
it accounts for every fault of the socket. -/
structure Marked (seen : Option FatalError) (before after : Connection (Recorded σ)) : Prop where
  broken : after.broken = seen
  faults : after.faults = before.faults ++ (seen.bind FatalError.fault).toList

/-- A broken connection keeps its reason, and its transport is left alone. -/
structure Spared (reason : FatalError) (before after : Connection (Recorded σ)) : Prop where
  broken : after.broken = some reason
  transport : after.transport = before.transport

namespace Marked

theorem of_kept (usable : before.broken = none) (kept : after.broken = before.broken)
    (untouched : after.transport = before.transport) : Marked none before after where
  broken := kept.trans usable
  faults := by
    rw [Connection.faults, untouched]
    exact (List.append_nil _).symm

theorem trans (first : Marked none before middle) (rest : Marked seen middle after) :
    Marked seen before after where
  broken := rest.broken
  faults := by
    rw [rest.faults, first.faults]
    exact congrArg (· ++ _) (List.append_nil _)

theorem spared (first : Marked (some reason) before middle) (rest : Spared reason middle after) :
    Marked (some reason) before after where
  broken := rest.broken
  faults := by
    rw [← first.faults, Connection.faults, rest.transport]
    rfl

end Marked

theorem Spared.trans (first : Spared reason before middle) (rest : Spared reason middle after) :
    Spared reason before after :=
  ⟨rest.broken, rest.transport.trans first.transport⟩

end Connection

open Connection (Marked Spared)

namespace Attempt

variable (held : state → Connection (Recorded σ))

/-- The fatal error that is reported is what breaks a usable connection. -/
def Marks (action : Attempt ClientError state α) : Prop :=
  ∀ ⦃before outcome after⦄, (held before).broken = none →
    action.runFrom before = (outcome, after) →
    Marked (fatalOf outcome) (held before) (held after)

def Spares (action : Attempt ClientError state α) : Prop :=
  ∀ ⦃before outcome after reason⦄, (held before).broken = some reason →
    action.runFrom before = (outcome, after) → Spared reason (held before) (held after)

structure Heeds (action : Attempt ClientError state α) : Prop where
  marks : action.Marks held
  spares : action.Spares held

/-- A broken connection is refused for the reason that it is broken for. -/
def Refuses (action : Attempt ClientError state α) : Prop :=
  ∀ ⦃before reason⦄, (held before).broken = some reason →
    action.runFrom before = (.error (.usage (.broken reason)), before)

variable {held} {action : Attempt ClientError state α} {next : α → Attempt ClientError state β}

namespace Marks

/-- What touches neither the mark nor the transport, and fails mildly if at all. -/
theorem of_kept (harmless : ∀ before, Harmless (action.runFrom before).1)
    (kept : ∀ before,
      (held (action.runFrom before).2).broken = (held before).broken ∧
      (held (action.runFrom before).2).transport = (held before).transport) :
    action.Marks held := by
  intro before outcome after usable ran
  have mild := harmless before
  obtain ⟨same, alike⟩ := kept before
  rw [ran] at mild same alike
  exact (show fatalOf outcome = none from mild) ▸ .of_kept usable same alike

theorem modify {change : state → state}
    (kept : ∀ before,
      (held (change before)).broken = (held before).broken ∧
      (held (change before)).transport = (held before).transport) :
    Marks held (modify change) :=
  .of_kept (fun _ => rfl) kept

theorem bind (first : action.Marks held) (rest : ∀ value, (next value).Marks held) :
    (action >>= next).Marks held := by
  intro before outcome after usable ran
  rcases begun : action.runFrom before with ⟨cause | value, middle⟩
  · rw [runFrom_bind_error begun] at ran
    cases ran
    exact first usable begun
  · rw [runFrom_bind_ok begun] at ran
    have unbroken := first usable begun
    exact unbroken.trans (rest value unbroken.broken ran)

end Marks

namespace Spares

theorem of_refuses (refuses : action.Refuses held) : action.Spares held := by
  intro before outcome after reason broken ran
  cases ran.symm.trans (refuses broken)
  exact ⟨broken, rfl⟩

theorem bind (first : action.Spares held) (rest : ∀ value, (next value).Spares held) :
    (action >>= next).Spares held := by
  intro before outcome after reason broken ran
  rcases begun : action.runFrom before with ⟨cause | value, middle⟩
  · rw [runFrom_bind_error begun] at ran
    cases ran
    exact first broken begun
  · rw [runFrom_bind_ok begun] at ran
    have still := first broken begun
    exact still.trans (rest value still.broken ran)

end Spares

namespace Heeds

theorem of_kept (harmless : ∀ before, Harmless (action.runFrom before).1)
    (kept : ∀ before,
      (held (action.runFrom before).2).broken = (held before).broken ∧
      (held (action.runFrom before).2).transport = (held before).transport) :
    action.Heeds held where
  marks := .of_kept harmless kept
  spares := by
    intro before outcome after reason broken ran
    obtain ⟨same, alike⟩ := kept before
    rw [ran] at same alike
    exact ⟨same.trans broken, alike⟩

theorem of_refuses (refuses : action.Refuses held) (marks : action.Marks held) :
    action.Heeds held :=
  ⟨marks, .of_refuses refuses⟩

theorem lift {outcome : Except ClientError α} (harmless : Harmless outcome) :
    Heeds held (liftM outcome) :=
  .of_kept (fun _ => harmless) fun _ => ⟨rfl, rfl⟩

theorem pure (value : α) : Heeds held (pure value) :=
  .of_kept (fun _ => rfl) fun _ => ⟨rfl, rfl⟩

theorem throw {cause : ClientError} (mild : cause.fatal? = none) :
    Heeds held (throw cause : Attempt ClientError state α) :=
  .of_kept (fun _ => mild) fun _ => ⟨rfl, rfl⟩

theorem get : Heeds held get :=
  .of_kept (fun _ => rfl) fun _ => ⟨rfl, rfl⟩

theorem modify {change : state → state}
    (kept : ∀ before,
      (held (change before)).broken = (held before).broken ∧
      (held (change before)).transport = (held before).transport) :
    Heeds held (modify change) :=
  .of_kept (fun _ => rfl) kept

theorem bind (first : action.Heeds held) (rest : ∀ value, (next value).Heeds held) :
    (action >>= next).Heeds held where
  marks := first.marks.bind fun value => (rest value).marks
  spares := first.spares.bind fun value => (rest value).spares

/-- An action on the connection that is held. -/
theorem within {whole : Attempt ClientError state α} {inner : Connection.Action (Recorded σ) α}
    (heeds : inner.Heeds id)
    (same : ∀ before,
      inner.runFrom (held before) = ((whole.runFrom before).1, held (whole.runFrom before).2)) :
    whole.Heeds held where
  marks := by
    intro before outcome after usable ran
    have done := same before
    rw [ran] at done
    exact heeds.marks usable done
  spares := by
    intro before outcome after reason broken ran
    have done := same before
    rw [ran] at done
    exact heeds.spares broken done

end Heeds

namespace Refuses

theorem bind (refuses : action.Refuses held) (next : α → Attempt ClientError state β) :
    (action >>= next).Refuses held :=
  fun _ _ broken => runFrom_bind_error (refuses broken)

theorem get_bind {next : state → Attempt ClientError state β}
    (refuses : ∀ value, (next value).Refuses held) : (get >>= next).Refuses held := by
  intro before reason broken
  rw [runFrom_bind_ok (runFrom_get before)]
  exact refuses before broken

end Refuses

end Attempt

namespace Connection

open Attempt (Marks Heeds Refuses)
open Transport (Candid)

theorem perform_marks {action : Attempt FatalError (Transport (Recorded σ)) α}
    (candid : Candid action) : Marks id (perform action) := by
  intro before outcome after usable ran
  rcases act : action.runFrom before.transport with ⟨cause | value, transport⟩
  · cases ran.symm.trans (perform_error act)
    refine ⟨?_, candid act⟩
    change (before.broken <|> some cause) = some cause
    rw [show before.broken = none from usable]
    rfl
  · cases ran.symm.trans (perform_ok act)
    exact ⟨usable, candid act⟩

/-- Replies that are out of step are no fault of the socket. -/
theorem abandon_marks (cause : ProtocolError) :
    Marks id (abandon (.protocol cause) : Action (Recorded σ) α) := by
  intro before outcome after usable ran
  cases ran
  refine ⟨?_, (List.append_nil _).symm⟩
  change (before.broken <|> some (.protocol cause)) = some (.protocol cause)
  rw [show before.broken = none from usable]
  rfl

theorem append_heeds (frame : Bytes) : Heeds id (append frame : Action (Recorded σ) Unit) :=
  .modify fun _ => ⟨rfl, rfl⟩

section Checks

variable {check : Connection (Recorded σ) → Except ClientError Unit}

theorem ensure_refuses
    (refuses : ∀ {connection reason}, connection.broken = some reason →
      check connection = .error (.usage (.broken reason))) : Refuses id (ensure check) :=
  fun _ _ broken => ensure_error (refuses broken)

theorem ensure_heeds
    (checks : ∀ connection, check connection = .ok () ∨
      ∃ cause, check connection = .error (.usage cause)) : Heeds id (ensure check) := by
  refine .of_kept (fun connection => ?_) fun _ => ⟨rfl, rfl⟩
  rcases checks connection with passed | ⟨cause, refused⟩
  · rw [ensure_ok passed]
    rfl
  · rw [ensure_error refused]
    rfl

end Checks

theorem noteAck_kept (reply : Reply) (connection : Connection σ) :
    (noteAck reply connection).broken = connection.broken ∧
      (noteAck reply connection).transport = connection.transport := by
  unfold noteAck
  split <;> exact ⟨rfl, rfl⟩

variable [Socket σ]

theorem flush_marks : Marks id (flush : Action (Recorded σ) Unit) := by
  apply Heeds.get.marks.bind
  intro connection
  dsimp only
  split
  · exact (Heeds.pure ()).marks
  · apply Marks.bind
    · exact .modify fun _ => ⟨rfl, rfl⟩
    · exact fun _ => (perform_marks (Transport.writeMany_candid _)).bind fun _ =>
        (Heeds.pure ()).marks

theorem getReply_refuses : Refuses id (getReply : Action (Recorded σ) Reply) :=
  (ensure_refuses checkUsable_broken).bind _

theorem getReply_heeds : Heeds id (getReply : Action (Recorded σ) Reply) := by
  apply Heeds.of_refuses getReply_refuses
  apply (ensure_heeds checkUsable_cases).marks.bind
  intro _
  apply Heeds.get.marks.bind
  intro connection
  split
  · exact (Heeds.throw rfl).marks
  · apply flush_marks.bind
    intro _
    apply Marks.bind
    · exact .modify fun _ => ⟨rfl, rfl⟩
    · exact fun _ => perform_marks Reply.readFrame_candid

theorem getReplies_heeds (count : Nat) :
    Heeds id (getReplies count : Action (Recorded σ) (List Reply)) := by
  induction count with
  | zero => exact .pure []
  | succ count ih => exact getReply_heeds.bind fun reply => ih.bind fun rest => .pure _

theorem discardReplies_heeds (count : Nat) :
    Heeds id (discardReplies count : Action (Recorded σ) Unit) := by
  apply Heeds.get.bind
  intro connection
  split
  · exact .throw rfl
  · rw [dropReplies_eq]
    exact (getReplies_heeds count).bind fun _ => .pure ()

theorem discardAll_heeds : Heeds id (discardAll : Action (Recorded σ) Unit) :=
  Heeds.get.bind fun connection => discardReplies_heeds connection.inFlight

theorem execute_refuses (frame : Bytes) :
    Refuses id (execute frame : Action (Recorded σ) Reply) :=
  fun _ _ broken => execute_broken broken frame

theorem execute_heeds (frame : Bytes) : Heeds id (execute frame : Action (Recorded σ) Reply) := by
  apply (ensure_heeds (checkIdle_cases .execute)).bind
  intro _
  apply (append_heeds frame).bind
  intro _
  exact getReply_heeds.bind fun reply => .lift reply.check_tame.harmless

theorem query_refuses (type : ResultType) (command : Command) :
    Refuses id (query type command : Action (Recorded σ) type.Value) :=
  (execute_refuses command.frame).bind _

theorem query_heeds (type : ResultType) (command : Command) :
    Heeds id (query type command : Action (Recorded σ) type.Value) :=
  (execute_heeds command.frame).bind fun reply => .lift (type.decode_tame reply).harmless

theorem executeInto_refuses (type : ResultType) (frame : Bytes) (current : type.Value) :
    Refuses id (executeInto type frame current : Action (Recorded σ) (type.Value × Bool)) :=
  (execute_refuses frame).bind _

theorem executeInto_heeds (type : ResultType) (frame : Bytes) (current : type.Value) :
    Heeds id (executeInto type frame current : Action (Recorded σ) (type.Value × Bool)) := by
  apply (execute_heeds frame).bind
  intro reply
  split
  · exact .pure _
  · exact (Heeds.lift (type.decode_tame reply).harmless).bind fun value => .pure _

theorem waitMessage_refuses (timeout : Option Nat) :
    Refuses id (waitMessage timeout : Action (Recorded σ) (Option Reply)) :=
  (ensure_refuses (checkNothingPending_broken .waitForMessages)).bind _

theorem waitMessage_heeds (timeout : Option Nat) :
    Heeds id (waitMessage timeout : Action (Recorded σ) (Option Reply)) := by
  apply Heeds.of_refuses (waitMessage_refuses timeout)
  apply (ensure_heeds (checkNothingPending_cases .waitForMessages)).marks.bind
  intro _
  apply (perform_marks (Transport.wait_candid timeout)).bind
  intro ready
  split
  · apply (perform_marks Reply.readFrame_candid).bind
    intro frame
    apply (Heeds.lift frame.check_tame.harmless).marks.bind
    intro reply
    apply Marks.bind
    · exact .modify (noteAck_kept reply)
    · exact fun _ => (Heeds.pure (some reply)).marks
  · exact (Heeds.pure none).marks

theorem sendSubscription_refuses (command : Command) :
    Refuses id (sendSubscription command : Action (Recorded σ) Unit) :=
  (ensure_refuses (checkNothingPending_broken (.send command.name))).bind _

theorem sendSubscription_heeds (command : Command) :
    Heeds id (sendSubscription command : Action (Recorded σ) Unit) := by
  apply Heeds.of_refuses (sendSubscription_refuses command)
  apply (ensure_heeds (checkNothingPending_cases (.send command.name))).marks.bind
  intro _
  apply (perform_marks (Transport.write_candid command.frame)).bind
  intro _
  exact .modify fun _ => ⟨rfl, rfl⟩

end Connection

end RespClient
