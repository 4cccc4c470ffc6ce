import RespClient.Proofs.Connection.Breaking
import RespClient.Proofs.PubSub.Subscribing
import RespClient.Proofs.Session.Calls

/-!
# A fatal error is final

In any run of calls, a connection is broken from the first fatal error on that a call
observes, be it reported or kept by the drop of a batch, and for no other reason. From
then on its reason stays the same, its transport is left alone, and every call that
needs a usable connection is refused with that reason.
-/

namespace RespClient

open Attempt (Marks Heeds Refuses)
open Connection (Marked Spared)

variable {σ α β : Type}

/-! ## Batches -/

namespace Batch

theorem perform_heeds {action : Connection.Action (Recorded σ) β} (heeds : action.Heeds id) :
    Heeds connection (perform action : Action (Recorded σ) α β) :=
  heeds.within fun _ => rfl

theorem append_heeds (frame : Bytes) (decoder : Decoder α) :
    Heeds connection (append frame decoder : Action (Recorded σ) α Nat) := by
  apply Heeds.get.bind
  intro batch
  split
  · exact .throw rfl
  · apply (perform_heeds (Connection.append_heeds frame)).bind
    intro _
    apply Heeds.bind
    · exact .modify fun _ => ⟨rfl, rfl⟩
    · exact fun _ => Heeds.get.bind fun _ => .pure _

theorem takeDecoders_heeds :
    Heeds connection (takeDecoders : Action (Recorded σ) α (List (Decoder α))) := by
  apply Heeds.get.bind
  intro batch
  split
  · exact .throw rfl
  · apply Heeds.bind
    · exact .modify fun _ => ⟨rfl, rfl⟩
    · exact fun _ => .pure _

theorem execResults_marks (count : Nat) (answer : Reply) :
    Marks id (execResults count answer : Connection.Action (Recorded σ) (List Reply)) := by
  unfold execResults
  split
  · split
    · exact (Heeds.pure _).marks
    · exact Connection.abandon_marks _
  · exact (Heeds.throw rfl).marks
  · exact (Heeds.throw rfl).marks
  · exact Connection.abandon_marks _

variable [Socket σ]

theorem replies_heeds (kind : BatchKind) (count : Nat) :
    Heeds id (replies kind count : Connection.Action (Recorded σ) (List Reply)) := by
  cases kind with
  | pipeline => exact Connection.getReplies_heeds count
  | transaction =>
      apply (Connection.append_heeds _).bind
      intro _
      apply (Connection.discardReplies_heeds _).bind
      intro _
      -- On a broken connection no answer to `EXEC` is ever looked at.
      exact .of_refuses (Connection.getReply_refuses.bind _)
        (Connection.getReply_heeds.marks.bind (execResults_marks count))

theorem collect_heeds : Heeds connection (collect : Action (Recorded σ) α (List Reply)) := by
  apply takeDecoders_heeds.bind
  intro decoders
  exact Heeds.get.bind fun _ => perform_heeds (replies_heeds _ _)

theorem discard_heeds : Heeds connection (discard : Action (Recorded σ) α Unit) := by
  apply takeDecoders_heeds.bind
  intro _
  apply Heeds.get.bind
  intro batch
  dsimp only
  split
  · exact (perform_heeds (Connection.append_heeds _)).bind fun _ =>
      perform_heeds Connection.discardAll_heeds
  · exact perform_heeds Connection.discardAll_heeds

/-! ### Dropping a batch -/

theorem ended_marked {batch : Batch (Recorded σ) α} (usable : batch.connection.broken = none) :
    Marked batch.ending batch.connection batch.ended.connection := by
  unfold ending ended
  split
  · exact .of_kept usable rfl rfl
  · exact discard_heeds.marks usable rfl

theorem ended_spared {batch : Batch (Recorded σ) α} {reason : FatalError}
    (broken : batch.connection.broken = some reason) :
    Spared reason batch.connection batch.ended.connection := by
  unfold ended
  split
  · exact ⟨broken, rfl⟩
  · exact discard_heeds.spares broken rfl

end Batch

namespace Connection

variable [Socket σ] {connection : Connection (Recorded σ)}

theorem drained_broken {reason : FatalError} (broken : connection.broken = some reason) :
    connection.drained = connection ∧ connection.draining = none := by
  have hopeless : (connection.isBroken || connection.inFlight = 0) = true := by
    rw [isBroken, broken]
    rfl
  exact ⟨if_pos hopeless, if_pos hopeless⟩

theorem drained_marked (usable : connection.broken = none) :
    Marked connection.draining connection connection.drained := by
  unfold draining drained
  split
  · exact .of_kept usable rfl rfl
  · exact discardAll_heeds.marks usable rfl

end Connection

namespace Batch

variable [Socket σ] {batch : Batch (Recorded σ) α}

theorem release_marked (usable : batch.connection.broken = none) :
    Marked batch.swallowed batch.connection batch.release := by
  have first := ended_marked usable
  rw [release_eq, swallowed]
  cases seen : batch.ending with
  | none =>
      rw [seen] at first
      exact first.trans (Connection.drained_marked first.broken)
  | some cause =>
      rw [seen] at first
      rw [(Connection.drained_broken first.broken).1]
      exact first

theorem release_spared {reason : FatalError} (broken : batch.connection.broken = some reason) :
    Spared reason batch.connection batch.release := by
  have first := ended_spared broken
  rw [release_eq, (Connection.drained_broken first.broken).1]
  exact first

end Batch

/-! ## Subscribers -/

namespace Subscriber

theorem perform_heeds {action : Connection.Action (Recorded σ) α} (heeds : action.Heeds id) :
    Heeds connection (perform action) :=
  heeds.within fun _ => rfl

theorem perform_refuses {action : Connection.Action (Recorded σ) α}
    (refuses : action.Refuses id) : Refuses connection (perform action) := by
  intro before reason broken
  rw [runFrom_perform, refuses broken]

variable [Socket σ]

theorem sendNamed_heeds (name : String) {unnamed : UsageError} (targets : List Bytes) :
    Heeds connection (sendNamed name unnamed targets : Action (Recorded σ) Unit) := by
  unfold sendNamed
  split
  · exact .throw rfl
  · exact perform_heeds (Connection.sendSubscription_heeds _)

theorem sendNamed_refuses (name : String) {unnamed : UsageError} {targets : List Bytes}
    (some : targets ≠ []) :
    Refuses connection (sendNamed name unnamed targets : Action (Recorded σ) Unit) := by
  rw [sendNamed, if_neg some]
  exact perform_refuses (Connection.sendSubscription_refuses _)

theorem nextEvent_refuses (timeout : Option Nat) :
    Refuses connection (nextEvent timeout : Action (Recorded σ) (Option Event)) :=
  (perform_refuses (Connection.waitMessage_refuses timeout)).bind _

theorem nextEvent_heeds (timeout : Option Nat) :
    Heeds connection (nextEvent timeout : Action (Recorded σ) (Option Event)) := by
  apply (perform_heeds (Connection.waitMessage_heeds timeout)).bind
  intro found
  split
  · exact .pure none
  · next reply =>
      exact (Heeds.lift (Event.ofReply_tame reply).harmless).bind fun event => .pure (some event)

theorem nextMessageWithin_heeds (timeout : Option Nat) (frames : Nat) :
    Heeds connection
      (nextMessageWithin timeout frames : Action (Recorded σ) (Option Message)) := by
  induction frames with
  | zero => exact .pure none
  | succ frames ih =>
      apply (nextEvent_heeds timeout).bind
      intro found
      split
      · exact .pure none
      · exact .pure _
      · exact ih

theorem nextMessage_refuses (timeout : Option Nat) :
    Refuses connection (nextMessage timeout : Action (Recorded σ) (Option Message)) :=
  .get_bind fun _ => (nextEvent_refuses timeout).bind _

theorem nextMessage_heeds (timeout : Option Nat) :
    Heeds connection (nextMessage timeout : Action (Recorded σ) (Option Message)) :=
  Heeds.get.bind fun _ => nextMessageWithin_heeds timeout _

end Subscriber

/-! ## Sessions -/

namespace Session

/-- An effect on a session whose connection was this one. -/
structure Effect.Lawful (connection : Connection (Recorded σ)) (effect : Effect (Recorded σ)) :
    Prop where
  marks : connection.broken = none → Marked effect.observed connection effect.after.connection
  spares : ∀ {reason}, connection.broken = some reason →
    Spared reason connection effect.after.connection
  mild : ∀ {cause}, effect.failure = some cause → cause.fatal? = none → effect.observed = none

namespace Effect

variable {state : Type} {back : state → Session (Recorded σ)}
  {action : Attempt ClientError state α}

theorem Lawful.of_heeds (heeds : action.Heeds fun before => (back before).connection)
    (before : state) : (Effect.of back action before).Lawful (back before).connection where
  marks usable := heeds.marks usable rfl
  spares broken := heeds.spares broken rfl
  mild := by
    intro cause failed mild
    change (failureOf (action.runFrom before).1).bind ClientError.fatal? = none
    rw [show failureOf (action.runFrom before).1 = some cause from failed]
    exact mild

/-- Nothing happens to the connection. -/
theorem Lawful.of_kept {connection : Connection (Recorded σ)} {effect : Effect (Recorded σ)}
    (unseen : effect.observed = none)
    (kept : effect.after.connection.broken = connection.broken)
    (untouched : effect.after.connection.transport = connection.transport) :
    effect.Lawful connection where
  marks usable := unseen ▸ .of_kept usable kept untouched
  spares broken := ⟨kept.trans broken, untouched⟩
  mild _ _ := unseen

theorem of_refused {before : state} {reason : FatalError}
    (refuses : action.Refuses fun before => (back before).connection)
    (broken : (back before).connection.broken = some reason) :
    (Effect.of back action before).failure = some (.usage (.broken reason)) := by
  rw [Effect.of, refuses broken]
  rfl

end Effect

variable [Socket σ]

theorem lawful_resolve (batch : Batch (Recorded σ) α) :
    (Call.resolve : Call (.batch batch)).effect.Lawful batch.connection where
  marks usable := by
    have marked := Batch.collect_heeds.marks usable (rfl : Batch.collect.runFrom batch = _)
    change Marked _ _ (Batch.resolve.runFrom batch).2.connection
    rw [Batch.resolve_eq]
    exact marked
  spares broken := by
    have spared := Batch.collect_heeds.spares broken (rfl : Batch.collect.runFrom batch = _)
    change Spared _ _ (Batch.resolve.runFrom batch).2.connection
    rw [Batch.resolve_eq]
    exact spared
  mild := by
    intro cause failed mild
    change failureOf (Batch.resolve.runFrom batch).1 = some cause at failed
    change fatalOf (Batch.collect.runFrom batch).1 = none
    rw [Batch.resolve_eq] at failed
    cases collected : (Batch.collect.runFrom batch).1 with
    | error failure =>
        rw [collected] at failed
        cases failed
        exact mild
    | ok results => rfl

theorem lawful_startBatch (connection : Connection (Recorded σ)) (α : Type) (kind : BatchKind) :
    (Call.startBatch α kind : Call (.free connection)).effect.Lawful connection := by
  change (Effect.opening (batch (α := α)) _ (Batch.start kind _)).Lawful connection
  rcases Connection.checkIdle_cases .startBatch connection with idle | ⟨cause, refused⟩
  · rw [Batch.start_idle kind idle]
    cases kind <;> exact .of_kept rfl rfl rfl
  · rw [Batch.start_refused kind refused]
    exact .of_kept rfl rfl rfl

theorem lawful_startSubscriber (connection : Connection (Recorded σ)) :
    (Call.startSubscriber : Call (.free connection)).effect.Lawful connection := by
  change (Effect.opening subscriber _ (Subscriber.start _)).Lawful connection
  rcases Connection.checkNothingPending_cases .subscribe connection with
    clear | ⟨cause, refused⟩
  · rw [Subscriber.start_clear clear]
    exact .of_kept rfl rfl rfl
  · rw [Subscriber.start_refused refused]
    exact .of_kept rfl rfl rfl

theorem Call.lawful {session : Session (Recorded σ)} (call : Call session) :
    call.effect.Lawful session.connection := by
  cases call with
  | execute frame => exact .of_heeds (Connection.execute_heeds frame) _
  | query type command => exact .of_heeds (Connection.query_heeds type command) _
  | executeInto type frame current =>
      exact .of_heeds (Connection.executeInto_heeds type frame current) _
  | waitMessage timeout => exact .of_heeds (Connection.waitMessage_heeds timeout) _
  | startBatch α kind => exact lawful_startBatch _ α kind
  | startSubscriber => exact lawful_startSubscriber _
  | append frame decoder => exact .of_heeds (Batch.append_heeds frame decoder) _
  | resolve => exact lawful_resolve _
  | discard => exact .of_heeds Batch.discard_heeds _
  | drop => exact ⟨Batch.release_marked, Batch.release_spared, nofun⟩
  | forget => exact .of_kept rfl rfl rfl
  | subscribe channels => exact .of_heeds (Subscriber.sendNamed_heeds _ channels) _
  | psubscribe patterns => exact .of_heeds (Subscriber.sendNamed_heeds _ patterns) _
  | unsubscribe channels =>
      exact .of_heeds (Subscriber.perform_heeds (Connection.sendSubscription_heeds _)) _
  | punsubscribe patterns =>
      exact .of_heeds (Subscriber.perform_heeds (Connection.sendSubscription_heeds _)) _
  | nextEvent timeout => exact .of_heeds (Subscriber.nextEvent_heeds timeout) _
  | nextMessage timeout => exact .of_heeds (Subscriber.nextMessage_heeds timeout) _
  | letGo => exact .of_kept rfl rfl rfl

theorem startBatch_refused {connection : Connection (Recorded σ)} {reason : FatalError}
    (broken : connection.broken = some reason) (α : Type) (kind : BatchKind) :
    (Call.startBatch α kind : Call (.free connection)).effect.failure =
      some (.usage (.broken reason)) := by
  change (Effect.opening (batch (α := α)) connection (Batch.start kind connection)).failure = _
  rw [Batch.start_refused kind (Connection.checkIdle_broken .startBatch broken)]
  rfl

theorem startSubscriber_refused {connection : Connection (Recorded σ)} {reason : FatalError}
    (broken : connection.broken = some reason) :
    (Call.startSubscriber : Call (.free connection)).effect.failure =
      some (.usage (.broken reason)) := by
  change (Effect.opening subscriber connection (Subscriber.start connection)).failure = _
  rw [Subscriber.start_refused (Connection.checkNothingPending_broken .subscribe broken)]
  rfl

theorem Call.refused {session : Session (Recorded σ)} {reason : FatalError}
    (broken : session.connection.broken = some reason) {call : Call session}
    (gated : call.Gated) : call.effect.failure = some (.usage (.broken reason)) := by
  cases call with
  | execute frame => exact Effect.of_refused (Connection.execute_refuses frame) broken
  | query type command => exact Effect.of_refused (Connection.query_refuses type command) broken
  | executeInto type frame current =>
      exact Effect.of_refused (Connection.executeInto_refuses type frame current) broken
  | waitMessage timeout => exact Effect.of_refused (Connection.waitMessage_refuses timeout) broken
  | startBatch α kind => exact startBatch_refused broken α kind
  | startSubscriber => exact startSubscriber_refused broken
  | append | resolve | discard | drop | forget | letGo => exact gated.elim
  | subscribe channels => exact Effect.of_refused (Subscriber.sendNamed_refuses _ gated) broken
  | psubscribe patterns => exact Effect.of_refused (Subscriber.sendNamed_refuses _ gated) broken
  | unsubscribe channels =>
      exact Effect.of_refused
        (Subscriber.perform_refuses (Connection.sendSubscription_refuses _)) broken
  | punsubscribe patterns =>
      exact Effect.of_refused
        (Subscriber.perform_refuses (Connection.sendSubscription_refuses _)) broken
  | nextEvent timeout => exact Effect.of_refused (Subscriber.nextEvent_refuses timeout) broken
  | nextMessage timeout => exact Effect.of_refused (Subscriber.nextMessage_refuses timeout) broken

/-! ## Runs -/

theorem broken_message (reason : FatalError) :
    (ClientError.usage (.broken reason)).message =
      "usage error: connection is broken: " ++ reason.message := by
  have joined : "usage error: " ++ "connection is broken: " =
      "usage error: connection is broken: " := by decide
  rw [← joined, String.append_assoc]
  rfl

variable {start session : Session (Recorded σ)} {seen : Option FatalError}

theorem Run.marked (usable : start.connection.broken = none) (run : Run start seen session) :
    Marked seen start.connection session.connection := by
  induction run with
  | start => exact .of_kept usable rfl rfl
  | @call seen session run call ih =>
      cases seen with
      | none => exact ih.trans (call.lawful.marks ih.broken)
      | some reason => exact ih.spared (call.lawful.spares ih.broken)

theorem Run.spared {reason : FatalError} (broken : start.connection.broken = some reason)
    (run : Run start seen session) : Spared reason start.connection session.connection := by
  induction run with
  | start => exact ⟨broken, rfl⟩
  | call run call ih => exact ih.trans (call.lawful.spares ih.broken)

/-- In a run from a usable session the connection is broken for the first fatal error that a call
observed, which accounts for every fault of its socket; failures that are not fatal are none, and
those of decoders are not observed. Once there is such an error, calls that need a usable connection
are refused with it, and whatever is called, the reason stays and the socket is left alone. -/
theorem fatal_error_is_final (usable : start.connection.broken = none)
    (run : Run start seen session) :
    session.connection.broken = seen ∧
    session.connection.faults =
      start.connection.faults ++ (seen.bind FatalError.fault).toList ∧
    (∀ call : Call session,
      call.effect.after.connection.broken = (seen <|> call.effect.observed) ∧
      ∀ cause, call.effect.failure = some cause → cause.isFatal = false →
        call.effect.observed = none) ∧
    ∀ reason, seen = some reason →
      (∀ call : Call session, call.Gated → ∃ cause, call.effect.failure = some cause ∧
        cause.isUsage = true ∧
        cause.message = "usage error: connection is broken: " ++ reason.message) ∧
      ∀ {more : Option FatalError} {later : Session (Recorded σ)}, Run session more later →
        later.connection.broken = some reason ∧
        later.connection.transport = session.connection.transport := by
  have marked := run.marked usable
  refine ⟨marked.broken, marked.faults, ?_, ?_⟩
  · intro call
    refine ⟨((run.call call).marked usable).broken, ?_⟩
    intro cause failed mild
    apply call.lawful.mild failed
    cases cause with
    | fatal cause => cases mild
    | _ => rfl
  · rintro reason rfl
    constructor
    · intro call gated
      exact ⟨_, Call.refused marked.broken gated, rfl, broken_message reason⟩
    · intro more later further
      have spared := further.spared marked.broken
      exact ⟨spared.broken, spared.transport⟩

theorem fatal_error_is_final_of_failed_wait :
    let start : Session (Recorded Scripted) :=
      .free (.ofSocketWith 16 { socket := { waitFaults := [.failing "reset"] } })
    let reset : FatalError := .connection (Fault.cause "reset")
    let waited := (Call.waitMessage none : Call start).effect.after
    start.connection.broken = none ∧ Run start (some reset) waited ∧
      waited.connection.broken = some reset ∧
      waited.connection.faults = [Fault.cause "reset"] ∧
      ∀ frame : Bytes, ∃ cause,
        (Call.execute frame : Call waited).effect.failure = some cause ∧
        cause.message = "usage error: connection is broken: " ++ reset.message := by
  intro start reset waited
  have run : Run start (some reset) waited := Run.start.call (.waitMessage none)
  obtain ⟨broken, faults, -, final⟩ := fatal_error_is_final rfl run
  obtain ⟨refused, -⟩ := final reset rfl
  refine ⟨rfl, run, broken, faults, ?_⟩
  intro frame
  obtain ⟨cause, failed, -, text⟩ := refused (.execute frame) trivial
  exact ⟨cause, failed, text⟩

end Session

end RespClient
