import RespClient.Proofs.Batch.Counting
import RespClient.Proofs.PubSub.Counting
import RespClient.Proofs.Session.Breaking

/-!
# Where a session can stand

Between operations a connection is broken, or nothing is queued or in flight on it. The
only exception is made by a program that forgets an open batch: what it had queued stays
queued for good, and every call is refused from then on. On the way of an operation no
reply is asked for that is not in flight.
-/

namespace RespClient

open Attempt (Ends Proceeds)
open Connection (Counts Rests)

variable {σ α : Type}

namespace Session

variable [Socket σ]

/-! ## Runs -/

/-- What the decoders of the caller fail with, once every reply has been read. -/
def Call.decoderFailure : {session : Session σ} → Call session → Option ClientError
  | .batch held, resolve =>
      match (Batch.collect.runFrom held).1 with
      | .ok replies => failureOf (decodeReplies held.decoders.toList replies)
      | .error _ => none
  | _, _ => none

omit [Socket σ] in
/-- The frames that a call leaves behind for good, those of an open batch that is forgotten. -/
def Call.leaks : {session : Session σ} → Call session → Array Bytes
  | .batch held, forget => if held.resolved then #[] else held.connection.pending
  | _, _ => #[]

/-- The sessions that a program can get to, and what it has left behind on its way. Between calls it
may also put another socket into a connection that is free. -/
inductive Reached : (leaked : Array Bytes) → Session σ → Prop where
  | fresh (socket : σ) (capacity : Nat) : Reached #[] (.free (.ofSocketWith capacity socket))
  | call {leaked : Array Bytes} {session : Session σ} (reached : Reached leaked session)
      (call : Call session) : Reached (leaked ++ call.leaks) call.effect.after
  | touched {leaked : Array Bytes} {connection : Connection σ}
      (reached : Reached leaked (.free connection)) (socket : σ) :
      Reached leaked
        (.free { connection with transport := { connection.transport with socket } })

omit [Socket σ] in
/-- Where a session stands that has left so much behind. -/
inductive Stands : (leaked : Array Bytes) → Session σ → Prop where
  | free {connection : Connection σ} (rests : connection.Rests) : Stands #[] (.free connection)
  | stuck {leaked : Array Bytes} {connection : Connection σ} (some : leaked ≠ #[])
      (queued : connection.pending = leaked) (counts : connection.Counts leaked.size) :
      Stands leaked (.free connection)
  | queued {α : Type} {held : Batch σ α} (queued : held.Queued) : Stands #[] (.batch held)
  | resolved {α : Type} {held : Batch σ α} (resolved : held.resolved = true)
      (rests : held.connection.Rests) : Stands #[] (.batch held)
  | subscriber {held : Subscriber σ} (rests : held.connection.Rests) :
      Stands #[] (.subscriber held)

variable {leaked : Array Bytes} {session : Session σ}

namespace Stands

omit [Socket σ] in
theorem backed (stands : Stands leaked session) : session.connection.Backed := by
  cases stands with
  | free rests => exact .of_unqueued rests.unqueued
  | stuck some queued counts => exact Nat.le_of_eq (queued ▸ counts.awaited.symm)
  | queued queued => exact Nat.le_of_eq queued.unwritten
  | resolved resolved rests => exact .of_unqueued rests.unqueued
  | subscriber rests => exact .of_unqueued rests.unqueued

omit [Socket σ] in
theorem unleaked (stands : Stands leaked session) (counts : session.connection.Counts 0) :
    leaked = #[] := by
  cases stands with
  | stuck some queued stuck => exact queued.symm.trans counts.unqueued
  | _ => rfl

omit [Socket σ] in
theorem touched {connection : Connection σ} (stands : Stands leaked (.free connection))
    (transport : Transport σ) : Stands leaked (.free { connection with transport }) := by
  cases stands with
  | free rests =>
      refine .free (rests.imp ?_ ?_)
      · exact fun counts => ⟨counts.usable, counts.awaited, counts.backed⟩
      · exact fun abandoned => ⟨abandoned.broken, abandoned.unqueued⟩
  | stuck some queued counts =>
      exact .stuck some queued ⟨counts.usable, counts.awaited, counts.backed⟩

end Stands

/-! ## One call -/

/-- The effect of a call that leaves so much behind: it is refused before anything happened, or it
leads on from a session that has left nothing behind before, and then no usage error comes from
anyone but the decoders of the caller. -/
inductive Effect.Keeps (leaked : Array Bytes) (before : Session σ) (leaks : Array Bytes)
    (decoderFailure : Option ClientError) (effect : Effect σ) : Prop where
  | refused {cause : UsageError} (failed : effect.failure = some (.usage cause))
      (unchanged : effect.after = before) (unleaking : leaks = #[])
  | passed (unleaked : leaked = #[]) (stands : Stands leaks effect.after)
      (unrefused : ∀ cause, effect.failure = some (.usage cause) →
        decoderFailure = some (.usage cause))

namespace Effect.Keeps

variable {state : Type} {held : state → Connection σ} {back : state → Session σ}
  {action : Attempt ClientError state α} {before : state}

omit [Socket σ] in
theorem of_proceeds (stands : Stands leaked (back before))
    (same : (back before).connection = held before)
    (lands : ∀ {after}, (held after).Rests → Stands #[] (back after))
    (proceeds : Proceeds held before (action.runFrom before)) :
    (Effect.of back action before).Keeps leaked (back before) #[] none := by
  unfold Effect.of
  rcases ran : action.runFrom before with ⟨outcome, after⟩
  rw [ran] at proceeds
  cases proceeds with
  | refused => exact .refused rfl rfl rfl
  | ended clear ends =>
      exact .passed (stands.unleaked (same ▸ clear)) (lands ends.rests) fun cause failed =>
        absurd failed (ends.unrefused cause)

omit [Socket σ] in
theorem of_free {connection : Connection σ} {action : Connection.Action σ α}
    (stands : Stands leaked (.free connection))
    (proceeds : Proceeds id connection (action.runFrom connection)) :
    (Effect.of .free action connection).Keeps leaked (.free connection) #[] none :=
  of_proceeds stands rfl .free proceeds

omit [Socket σ] in
theorem of_subscriber {held : Subscriber σ} {action : Subscriber.Action σ α}
    (stands : Stands leaked (.subscriber held))
    (proceeds : Proceeds Subscriber.connection held (action.runFrom held)) :
    (Effect.of .subscriber action held).Keeps leaked (.subscriber held) #[] none :=
  of_proceeds stands rfl .subscriber proceeds

end Effect.Keeps

theorem keeps_startBatch {connection : Connection σ} (stands : Stands leaked (.free connection))
    (α : Type) (kind : BatchKind) :
    (Call.startBatch α kind : Call (.free connection)).effect.Keeps leaked (.free connection) #[]
      none := by
  change (Effect.opening (batch (α := α)) _ (Batch.start kind _)).Keeps _ _ _ _
  rcases Connection.checkIdle_cases .startBatch connection with idle | ⟨cause, refused⟩
  · have counts := Counts.of_clear stands.backed (Connection.clear_of_checkIdle idle)
    rw [Batch.start_idle kind idle]
    exact .passed (stands.unleaked counts) (.queued (Batch.start_queued kind counts)) nofun
  · rw [Batch.start_refused kind refused]
    exact .refused rfl rfl rfl

theorem keeps_startSubscriber {connection : Connection σ}
    (stands : Stands leaked (.free connection)) :
    (Call.startSubscriber : Call (.free connection)).effect.Keeps leaked (.free connection) #[]
      none := by
  change (Effect.opening subscriber _ (Subscriber.start _)).Keeps _ _ _ _
  rcases Connection.checkNothingPending_cases .subscribe connection with
    clear | ⟨cause, refused⟩
  · have counts := Counts.of_clear stands.backed (Connection.clear_of_checkNothingPending clear)
    rw [Subscriber.start_clear clear]
    exact .passed (stands.unleaked counts) (.subscriber (.inl counts)) nofun
  · rw [Subscriber.start_refused refused]
    exact .refused rfl rfl rfl

theorem keeps_append {held : Batch σ α} (stands : Stands leaked (.batch held)) (frame : Bytes)
    (decoder : Decoder α) :
    (Call.append frame decoder : Call (.batch held)).effect.Keeps leaked (.batch held) #[]
      none := by
  change (Effect.of batch (Batch.append frame decoder) held).Keeps _ _ _ _
  cases stands with
  | queued queued =>
      obtain ⟨done, still⟩ := queued.append frame decoder
      rw [Effect.of, done]
      exact .passed rfl (.queued still) (by simp [failureOf])
  | resolved resolved rests =>
      rw [Effect.of, Batch.append, Attempt.runFrom_bind_ok (Attempt.runFrom_get held),
        if_pos resolved]
      exact .refused rfl rfl rfl

theorem keeps_resolve {held : Batch σ α} (stands : Stands leaked (.batch held)) :
    let call : Call (.batch held) := .resolve
    call.effect.Keeps leaked (.batch held) #[] call.decoderFailure := by
  intro call
  cases stands with
  | queued queued =>
      obtain ⟨ends, resolved⟩ := queued.collect_ends
      refine .passed rfl ?_ ?_
      · change Stands #[] (batch (Batch.resolve.runFrom held).2)
        rw [Batch.resolve_eq]
        exact .resolved resolved ends.rests
      · intro cause failed
        change failureOf (Batch.resolve.runFrom held).1 = _ at failed
        rw [Batch.resolve_eq] at failed
        rw [Call.decoderFailure]
        rcases collected : (Batch.collect.runFrom held).1 with other | replies
        · rw [collected] at failed
          exact absurd (collected ▸ failed) (ends.unrefused cause)
        · rw [collected] at failed
          exact failed
  | resolved resolved rests =>
      have refused : Batch.resolve.runFrom held = (.error (.usage .alreadyResolved), held) :=
        Attempt.runFrom_bind_error (Batch.takeDecoders_resolved resolved)
      have failed : failureOf (Batch.resolve.runFrom held).1 = some (.usage .alreadyResolved) := by
        rw [refused]
        rfl
      have kept : batch (Batch.resolve.runFrom held).2 = batch held := by rw [refused]
      exact .refused failed kept rfl

theorem keeps_discard {held : Batch σ α} (stands : Stands leaked (.batch held)) :
    (Call.discard : Call (.batch held)).effect.Keeps leaked (.batch held) #[] none := by
  change (Effect.of batch Batch.discard held).Keeps _ _ _ _
  cases stands with
  | queued queued =>
      obtain ⟨ends, resolved⟩ := queued.discard_ends
      exact .passed rfl (.resolved resolved ends.rests) fun cause failed =>
        absurd failed (ends.unrefused cause)
  | resolved resolved rests =>
      have refused : Batch.discard.runFrom held = (.error (.usage .alreadyResolved), held) :=
        Attempt.runFrom_bind_error (Batch.takeDecoders_resolved resolved)
      rw [Effect.of, refused]
      exact .refused rfl rfl rfl

theorem keeps_drop {held : Batch σ α} (stands : Stands leaked (.batch held)) :
    (Call.drop : Call (.batch held)).effect.Keeps leaked (.batch held) #[] none := by
  cases stands with
  | queued queued => exact .passed rfl (.free queued.release_rests) nofun
  | resolved resolved rests =>
      refine .passed rfl (.free ?_) nofun
      rw [Batch.release_settled resolved rests.broken_or_idle]
      exact rests

/-- What an open batch had queued stays behind if it is forgotten. -/
theorem keeps_forget {held : Batch σ α} (stands : Stands leaked (.batch held)) :
    let call : Call (.batch held) := .forget
    call.effect.Keeps leaked (.batch held) call.leaks none := by
  intro call
  refine .passed ?_ ?_ nofun
  · cases stands <;> rfl
  · change Stands (if held.resolved then #[] else held.connection.pending) (.free held.connection)
    cases stands with
    | queued queued =>
        have counts := queued.counts
        rw [queued.unresolved]
        by_cases nothing : held.connection.pending = #[]
        · have none : held.connection.inFlight = 0 := by rw [← queued.unwritten, nothing]; rfl
          rw [nothing]
          exact .free (.inl ⟨counts.usable, none, Nat.le_of_eq (congrArg Array.size nothing)⟩)
        · exact .stuck nothing rfl ⟨counts.usable, queued.unwritten.symm, Nat.le_refl _⟩
    | resolved resolved rests =>
        rw [resolved]
        exact .free rests

/-- What a call does to a session that stands somewhere. -/
theorem Call.keeps (stands : Stands leaked session) (call : Call session) :
    call.effect.Keeps leaked session call.leaks call.decoderFailure := by
  cases call with
  | execute frame => exact .of_free stands (Connection.execute_proceeds frame stands.backed)
  | query type command =>
      exact .of_free stands (Connection.query_proceeds type command stands.backed)
  | executeInto type frame current =>
      exact .of_free stands (Connection.executeInto_proceeds type frame current stands.backed)
  | waitMessage timeout =>
      exact .of_free stands (Connection.waitMessage_proceeds timeout stands.backed)
  | startBatch α kind => exact keeps_startBatch stands α kind
  | startSubscriber => exact keeps_startSubscriber stands
  | append frame decoder => exact keeps_append stands frame decoder
  | resolve => exact keeps_resolve stands
  | discard => exact keeps_discard stands
  | drop => exact keeps_drop stands
  | forget => exact keeps_forget stands
  | subscribe channels =>
      exact .of_subscriber stands (Subscriber.sendNamed_proceeds _ _ channels stands.backed)
  | psubscribe patterns =>
      exact .of_subscriber stands (Subscriber.sendNamed_proceeds _ _ patterns stands.backed)
  | unsubscribe channels =>
      exact .of_subscriber stands (Subscriber.perform_proceeds
        (Connection.sendSubscription_proceeds _ stands.backed))
  | punsubscribe patterns =>
      exact .of_subscriber stands (Subscriber.perform_proceeds
        (Connection.sendSubscription_proceeds _ stands.backed))
  | nextEvent timeout =>
      exact .of_subscriber stands (Subscriber.nextEvent_proceeds timeout stands.backed)
  | nextMessage timeout =>
      exact .of_subscriber stands (Subscriber.nextMessage_proceeds timeout stands.backed)
  | letGo =>
      cases stands with
      | subscriber rests => exact .passed rfl (.free rests) nofun

/-- The invariant of a run. -/
theorem Reached.stands (reached : Reached leaked session) : Stands leaked session := by
  induction reached with
  | fresh socket capacity => exact .free (.inl ⟨rfl, rfl, Nat.le_refl 0⟩)
  | call reached call ih =>
      cases call.keeps ih with
      | refused failed unchanged unleaking =>
          rw [unchanged, unleaking, Array.append_empty]
          exact ih
      | passed unleaked stands unrefused =>
          rw [unleaked, Array.empty_append]
          exact stands
  | touched reached socket ih => exact ih.touched _

/-! ## Refused calls -/

/-- A usage error, unless it is a decoder of the caller that fails with it, is raised before any
effect: the session is what it was, with every call on its socket that has ever been made. -/
theorem usage_error_changes_nothing {session : Session (Recorded σ)}
    (reached : Reached leaked session) (call : Call session) {cause : UsageError}
    (failed : call.effect.failure = some (.usage cause))
    (own : call.decoderFailure ≠ some (.usage cause)) : call.effect.after = session := by
  cases call.keeps reached.stands with
  | refused failed unchanged unleaking => exact unchanged
  | passed unleaked stands unrefused => exact absurd (unrefused cause failed) own

theorem usage_error_changes_nothing_after_resolving :
    let start : Session (Recorded Scripted) := .free (.ofSocketWith 16 { socket := {} })
    let opened := (Call.startBatch Reply .pipeline : Call start).effect.after
    let resolved := (Call.resolve : Call opened).effect.after
    Reached #[] resolved ∧
      ∀ frame : Bytes,
        let call : Call resolved := .append frame Reply.check
        call.effect.failure = some (.usage .appendAfterResolve) ∧ call.decoderFailure = none ∧
          call.effect.after = resolved := by
  intro start opened resolved
  have begun : Reached #[] opened := (Reached.fresh _ 16).call (.startBatch Reply .pipeline)
  have reached : Reached #[] resolved := begun.call (.resolve : Call opened)
  refine ⟨reached, ?_⟩
  intro frame call
  have failed : call.effect.failure = some (.usage .appendAfterResolve) := rfl
  exact ⟨failed, rfl, usage_error_changes_nothing reached call failed nofun⟩

/-! ## Between operations -/

omit [Socket σ] in
/-- Whether the commands of a batch are being collected. -/
def inBatch : Session σ → Bool
  | batch _ => true
  | _ => false

omit [Socket σ] in
theorem Stands.between (stands : Stands leaked session) (free : session.inBatch = false) :
    session.connection.broken ≠ none ∨
      (session.connection.inFlight = 0 ∧ session.connection.pending = #[]) ∨ leaked ≠ #[] := by
  cases stands with
  | free rests | subscriber rests =>
      rcases rests with counts | abandoned
      · exact .inr (.inl ⟨counts.awaited, counts.unqueued⟩)
      · exact .inl abandoned.broken
  | stuck some queued counts => exact .inr (.inr some)
  | queued => cases free
  | resolved => cases free

theorem Stands.refuses (stands : Stands leaked session) (left : leaked ≠ #[]) :
    session.connection.pending = leaked ∧ session.connection.inFlight = leaked.size ∧
      ∀ call : Call session, (∃ cause, call.effect.failure = some (.usage cause)) ∧
        call.effect.after = session := by
  have refused (call : Call session) : (∃ cause, call.effect.failure = some (.usage cause)) ∧
      call.effect.after = session := by
    cases call.keeps stands with
    | refused failed unchanged unleaking => exact ⟨⟨_, failed⟩, unchanged⟩
    | passed unleaked => exact absurd unleaked left
  cases stands with
  | stuck some queued counts => exact ⟨queued, counts.awaited, refused⟩
  | _ => exact absurd rfl left

variable {session : Session (Recorded σ)}

/-- No more frames are queued than replies are to come. With no batch at hand, the connection is
broken, or it has none of either, or an open batch has been forgotten with frames queued. These stay
where they are, and every call is refused from then on. While a batch is open its connection counts
one reply for each frame, and none of its ends is refused on the way. No step of any call queues
more than is counted, or takes a reply off the count that is not in flight. -/
theorem at_rest_between_operations (reached : Reached leaked session) :
    session.connection.pending.size ≤ session.connection.inFlight ∧
    (session.inBatch = false → session.connection.broken ≠ none ∨
      (session.connection.inFlight = 0 ∧ session.connection.pending = #[]) ∨ leaked ≠ #[]) ∧
    (leaked ≠ #[] →
      session.connection.pending = leaked ∧ session.connection.inFlight = leaked.size ∧
      ∀ call : Call session, (∃ cause, call.effect.failure = some (.usage cause)) ∧
        call.effect.after = session) ∧
    (∀ {α : Type} {held : Batch (Recorded σ) α}, session = .batch held → held.resolved = false →
      held.connection.inFlight = held.kind.opening.length + held.decoders.size ∧
      held.connection.pending.size = held.connection.inFlight ∧
      ∀ cause : UsageError,
        failureOf (Batch.collect.runFrom held).1 ≠ some (.usage cause) ∧
        failureOf (Batch.discard.runFrom held).1 ≠ some (.usage cause)) ∧
    ∀ {connection : Connection (Recorded σ)}, connection.Backed →
      (∀ frame, ((Connection.append frame).runFrom connection).2.Backed) ∧
      (Connection.flush.runFrom connection).2.Backed ∧
      let after := (Connection.getReply.runFrom connection).2
      after.Backed ∧ (after = connection ∨ 0 < connection.inFlight ∧
        (after.broken ≠ none ∧ after.inFlight = connection.inFlight ∨
          after.inFlight + 1 = connection.inFlight)) := by
  have stands := reached.stands
  refine ⟨stands.backed, stands.between, stands.refuses, ?_, ?_⟩
  · rintro α held rfl unresolved
    cases stands with
    | queued queued =>
        refine ⟨queued.counts.awaited, queued.unwritten, ?_⟩
        intro cause
        exact ⟨queued.collect_ends.1.unrefused cause, queued.discard_ends.1.unrefused cause⟩
    | resolved resolved => cases unresolved.symm.trans resolved
  · intro connection backed
    exact ⟨backed.append, Connection.flush_backed connection, Connection.getReply_counts backed⟩

theorem at_rest_after_forgetting :
    let start : Session (Recorded Scripted) := .free (.ofSocketWith 16 { socket := {} })
    let opened := (Call.startBatch Reply .transaction : Call start).effect.after
    let filled := (Call.append [] Reply.check : Call opened).effect.after
    let forgotten := (Call.forget : Call filled).effect.after
    let leaked := #[Command.multi.frame, []]
    Reached leaked forgotten ∧ leaked ≠ #[] ∧ forgotten.inBatch = false ∧
      forgotten.connection.pending = leaked ∧ forgotten.connection.inFlight = 2 ∧
      ∀ frame : Bytes,
        let call : Call forgotten := .execute frame
        (∃ cause, call.effect.failure = some (.usage cause)) ∧ call.effect.after = forgotten := by
  intro start opened filled forgotten leaked
  have begun : Reached #[] opened := (Reached.fresh _ 16).call (.startBatch Reply .transaction)
  have grown : Reached #[] filled := begun.call (.append [] Reply.check : Call opened)
  have reached : Reached leaked forgotten := grown.call (.forget : Call filled)
  have some : leaked ≠ #[] := by simp [leaked]
  obtain ⟨-, -, stuck, -⟩ := at_rest_between_operations reached
  obtain ⟨pending, inFlight, refused⟩ := stuck some
  exact ⟨reached, some, rfl, pending, inFlight, fun frame => refused (.execute frame)⟩

end Session

end RespClient
