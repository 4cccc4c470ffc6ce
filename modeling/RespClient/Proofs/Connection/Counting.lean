import RespClient.Proofs.Connection.Exchange
import RespClient.Proofs.Reply.Conversion
import RespClient.PubSub.Subscriber

/-!
# Counting replies

A usable connection knows how many replies it has not read, and it has no more frames to
write than that. An action checks first whether it may go ahead. If it may not, it is
refused and nothing has happened. If it may, it is not refused on the way either: it
comes out usable, with the replies counted that are still unread, or it breaks the
connection and leaves nothing to be written.
-/

namespace RespClient

variable {state σ α β : Type}

namespace Connection

/-- A usable connection with so many replies unread, those to the frames in its queue among them. -/
structure Counts (unread : Nat) (connection : Connection σ) : Prop where
  usable : connection.broken = none
  awaited : connection.inFlight = unread
  backed : connection.pending.size ≤ unread

/-- No more frames are queued than replies are to come. -/
def Backed (connection : Connection σ) : Prop :=
  connection.pending.size ≤ connection.inFlight

structure Abandoned (connection : Connection σ) : Prop where
  broken : connection.broken ≠ none
  unqueued : connection.pending = #[]

/-- How an operation leaves a connection. -/
def Rests (connection : Connection σ) : Prop :=
  connection.Counts 0 ∨ connection.Abandoned

variable {connection : Connection σ} {unread : Nat}

theorem Counts.unqueued (counts : connection.Counts 0) : connection.pending = #[] :=
  Array.eq_empty_of_size_eq_zero (Nat.le_zero.1 counts.backed)

theorem Counts.queue (counts : connection.Counts unread) (frame : Bytes) :
    (connection.queue frame).Counts (unread + 1) where
  usable := counts.usable
  awaited := congrArg Nat.succ counts.awaited
  backed := by simpa [Connection.queue] using counts.backed

theorem Counts.queueAll (counts : connection.Counts unread) (frames : List Bytes) :
    (frames.foldl Connection.queue connection).Counts (unread + frames.length) := by
  induction frames generalizing unread connection with
  | nil => exact counts
  | cons frame frames ih =>
      have others := ih (counts.queue frame)
      rw [Nat.add_right_comm] at others
      exact others

theorem Rests.unqueued (rests : connection.Rests) : connection.pending = #[] :=
  rests.elim Counts.unqueued Abandoned.unqueued

theorem Backed.of_unqueued (unqueued : connection.pending = #[]) : connection.Backed := by
  rw [Backed, unqueued]
  exact Nat.zero_le _

theorem Rests.broken_or_idle (rests : connection.Rests) :
    connection.broken ≠ none ∨ connection.inFlight = 0 :=
  rests.elim (fun counts => .inr counts.awaited) fun abandoned => .inl abandoned.broken

end Connection

open Connection (Counts Abandoned Rests)

/-! ## Outcomes -/

namespace Attempt

variable (held : state → Connection σ)

/-- It succeeded with so many replies unread, or it broke the connection. -/
inductive Delivers (unread : Nat) : Except ClientError α × state → Prop where
  | done {value : α} {after : state} (counts : (held after).Counts unread) :
      Delivers unread (.ok value, after)
  | broke {cause : FatalError} {after : state} (abandoned : (held after).Abandoned) :
      Delivers unread (.error (.fatal cause), after)

/-- It was not refused. So many replies are unread, unless it broke the connection. -/
inductive Ends (unread : Nat) : Except ClientError α × state → Prop where
  | done {value : α} {after : state} (counts : (held after).Counts unread) :
      Ends unread (.ok value, after)
  | failed {cause : ClientError} {after : state} (mild : cause.fatal? = none)
      (unrefused : cause.isUsage = false) (counts : (held after).Counts unread) :
      Ends unread (.error cause, after)
  | broke {cause : FatalError} {after : state} (abandoned : (held after).Abandoned) :
      Ends unread (.error (.fatal cause), after)

/-- It was refused before anything happened, or it was let through since no reply was unread, and
ended so. -/
inductive Proceeds (before : state) : Except ClientError α × state → Prop where
  | refused {cause : UsageError} : Proceeds before (.error (.usage cause), before)
  | ended {run : Except ClientError α × state} (clear : (held before).Counts 0)
      (ends : Ends held 0 run) : Proceeds before run

variable {held} {unread more : Nat} {before : state}

namespace Delivers

theorem ends {run : Except ClientError α × state} (delivers : Delivers held unread run) :
    Ends held unread run := by
  cases delivers with
  | done counts => exact .done counts
  | broke abandoned => exact .broke abandoned

variable {action : Attempt ClientError state α} {next : α → Attempt ClientError state β}

/-- What is true of a broken connection, and of what is done next, is true of both together. -/
theorem andThen {motive : Except ClientError β × state → Prop}
    (first : Delivers held more (action.runFrom before))
    (broke : ∀ {cause after}, (held after).Abandoned → motive (.error (.fatal cause), after))
    (rest : ∀ value after, (held after).Counts more → motive ((next value).runFrom after)) :
    motive ((action >>= next).runFrom before) := by
  rcases begun : action.runFrom before with ⟨outcome, after⟩
  rw [begun] at first
  cases first with
  | done counts =>
      rw [runFrom_bind_ok begun]
      exact rest _ _ counts
  | broke abandoned =>
      rw [runFrom_bind_error begun]
      exact broke abandoned

theorem bind (first : Delivers held more (action.runFrom before))
    (rest : ∀ value after, (held after).Counts more →
      Delivers held unread ((next value).runFrom after)) :
    Delivers held unread ((action >>= next).runFrom before) :=
  first.andThen .broke rest

theorem bind_ends (first : Delivers held more (action.runFrom before))
    (rest : ∀ value after, (held after).Counts more →
      Ends held unread ((next value).runFrom after)) :
    Ends held unread ((action >>= next).runFrom before) :=
  first.andThen .broke rest

end Delivers

namespace Ends

theorem bind {action : Attempt ClientError state α} {next : α → Attempt ClientError state β}
    (first : Ends held unread (action.runFrom before))
    (rest : ∀ value after, (held after).Counts unread →
      Ends held unread ((next value).runFrom after)) :
    Ends held unread ((action >>= next).runFrom before) := by
  rcases begun : action.runFrom before with ⟨outcome, after⟩
  rw [begun] at first
  cases first with
  | done counts =>
      rw [runFrom_bind_ok begun]
      exact rest _ _ counts
  | failed mild unrefused counts =>
      rw [runFrom_bind_error begun]
      exact .failed mild unrefused counts
  | broke abandoned =>
      rw [runFrom_bind_error begun]
      exact .broke abandoned

theorem rests {run : Except ClientError α × state} (ends : Ends held 0 run) :
    (held run.2).Rests := by
  cases ends with
  | done counts => exact .inl counts
  | failed mild unrefused counts => exact .inl counts
  | broke abandoned => exact .inr abandoned

theorem unrefused {run : Except ClientError α × state} (ends : Ends held unread run)
    (cause : UsageError) : failureOf run.1 ≠ some (.usage cause) := by
  cases ends with
  | done counts => exact nofun
  | failed mild unrefused counts =>
      rintro refused
      cases refused
      cases unrefused
  | broke abandoned => exact nofun

/-- What holds the connection has nothing to do with it. -/
theorem within {run : Except ClientError α × Connection σ} {after : state}
    (ends : Ends id unread run) (same : held after = run.2) :
    Ends held unread (run.1, after) := by
  cases ends with
  | done counts => exact .done (same ▸ counts)
  | failed mild unrefused counts => exact .failed mild unrefused (same ▸ counts)
  | broke abandoned => exact .broke (same ▸ abandoned)

/-- A conversion takes place off the connection. -/
theorem of_tame {outcome : Except ClientError α} (tame : Tame outcome)
    (counts : (held before).Counts unread) :
    Ends held unread ((liftM outcome : Attempt ClientError state α).runFrom before) := by
  cases outcome with
  | ok value => exact .done counts
  | error cause => exact .failed tame.fatal?_eq_none tame.isUsage_eq_false counts

end Ends

theorem Proceeds.bind {action : Attempt ClientError state α}
    {next : α → Attempt ClientError state β}
    (first : Proceeds held before (action.runFrom before))
    (rest : ∀ value after, (held after).Counts 0 → Ends held 0 ((next value).runFrom after)) :
    Proceeds held before ((action >>= next).runFrom before) := by
  rcases begun : action.runFrom before with ⟨outcome, after⟩
  rw [begun] at first
  cases first with
  | refused =>
      rw [runFrom_bind_error begun]
      exact .refused
  | ended clear ends =>
      rw [← begun] at ends
      exact .ended clear (ends.bind rest)

end Attempt

/-! ## Actions -/

namespace Connection

open Attempt (Delivers Ends Proceeds)

variable {connection : Connection σ} {unread : Nat}

theorem Counts.of_clear (backed : connection.Backed)
    (clear : connection.broken = none ∧ connection.inFlight = 0) : connection.Counts 0 :=
  ⟨clear.1, clear.2, clear.2 ▸ backed⟩

theorem ensure_proceeds {check : Connection σ → Except ClientError Unit} {next : Unit → Action σ α}
    (checks : ∀ connection, check connection = .ok () ∨
      ∃ cause, check connection = .error (.usage cause))
    (clears : ∀ {connection}, check connection = .ok () →
      connection.broken = none ∧ connection.inFlight = 0)
    (backed : connection.Backed)
    (ends : connection.Counts 0 → Ends id 0 ((next ()).runFrom connection)) :
    Proceeds id connection ((ensure check >>= next).runFrom connection) := by
  rcases checks connection with passed | ⟨cause, refused⟩
  · rw [Attempt.runFrom_bind_ok (ensure_ok passed)]
    have counts := Counts.of_clear backed (clears passed)
    exact .ended counts (ends counts)
  · rw [Attempt.runFrom_bind_error (ensure_error refused)]
    exact .refused

theorem perform_delivers {action : Attempt FatalError (Transport σ) α}
    (counts : connection.Counts unread) (unqueued : connection.pending = #[]) :
    Delivers id unread ((perform action).runFrom connection) := by
  rcases ran : action.runFrom connection.transport with ⟨cause | value, transport⟩
  · rw [perform_error ran]
    exact .broke ⟨marked_ne_none _ _, unqueued⟩
  · rw [perform_ok ran]
    exact .done ⟨counts.usable, counts.awaited, counts.backed⟩

theorem Backed.append (backed : connection.Backed) (frame : Bytes) :
    ((Connection.append frame).runFrom connection).2.Backed := by
  rw [runFrom_append, Backed, Connection.queue, Array.size_push]
  exact Nat.succ_le_succ backed

theorem perform_counts (action : Attempt FatalError (Transport σ) α) (connection : Connection σ) :
    ((perform action).runFrom connection).2.pending = connection.pending ∧
      ((perform action).runFrom connection).2.inFlight = connection.inFlight := by
  rcases ran : action.runFrom connection.transport with ⟨cause | value, transport⟩
  · rw [perform_error ran]
    exact ⟨rfl, rfl⟩
  · rw [perform_ok ran]
    exact ⟨rfl, rfl⟩

variable [Socket σ]

/-- Writing what is queued leaves nothing queued, and no count changes. -/
theorem flush_outcome (connection : Connection σ) :
    (∃ transport, flush.runFrom connection =
      (.ok (), { connection with transport, pending := #[] })) ∨
    ∃ cause transport, flush.runFrom connection = (.error (.fatal cause),
      { connection with
        transport
        pending := #[]
        broken := connection.broken <|> some cause }) := by
  rw [flush, Attempt.runFrom_bind_ok (Attempt.runFrom_get connection)]
  by_cases nothing : connection.pending.isEmpty
  · have unqueued := Array.isEmpty_iff.1 nothing
    rw [if_pos nothing]
    exact .inl ⟨connection.transport, by rw [← unqueued]; rfl⟩
  · rw [if_neg nothing, Attempt.runFrom_bind_ok (Attempt.runFrom_modify _ connection)]
    rcases written : (Transport.writeMany connection.pending.toList).runFrom
      connection.transport with ⟨cause | count, transport⟩
    · exact .inr ⟨cause, transport, Attempt.runFrom_bind_error (perform_error written)⟩
    · exact .inl ⟨transport, Attempt.runFrom_bind_ok (perform_ok written)⟩

/-- Getting a reply is refused where none is to come. Otherwise writing fails and the count stays,
or a reply is read that has been taken off the count. -/
theorem getReply_cases (connection : Connection σ) :
    ((connection.broken ≠ none ∨ connection.inFlight = 0) ∧
      ∃ cause, getReply.runFrom connection = (.error (.usage cause), connection)) ∨
    (0 < connection.inFlight ∧ ∃ cause after,
      getReply.runFrom connection = (.error (.fatal cause), after) ∧
      after.Abandoned ∧ after.inFlight = connection.inFlight) ∨
    ∃ transport unread, connection.broken = none ∧ connection.inFlight = unread + 1 ∧
      getReply.runFrom connection = (perform Reply.readFrame).runFrom
        { connection with transport, pending := #[], inFlight := unread } := by
  cases usable : connection.broken with
  | some reason =>
      exact .inl ⟨.inl nofun, _,
        Attempt.runFrom_bind_error (ensure_error (checkUsable_broken usable))⟩
  | none =>
      rw [getReply, Attempt.runFrom_bind_ok (ensure_ok (checkUsable_ok usable)),
        Attempt.runFrom_bind_ok (Attempt.runFrom_get connection)]
      cases awaited : connection.inFlight with
      | zero => exact .inl ⟨.inr rfl, _, rfl⟩
      | succ unread =>
          rw [if_neg (Nat.succ_ne_zero unread)]
          rcases flush_outcome connection with ⟨transport, flushed⟩ | ⟨cause, transport, failed⟩
          · rw [Attempt.runFrom_bind_ok flushed, awaited, usable]
            exact .inr (.inr ⟨transport, unread, rfl, rfl, rfl⟩)
          · rw [Attempt.runFrom_bind_error failed]
            exact .inr (.inl ⟨Nat.succ_pos unread, _, _, rfl, ⟨marked_ne_none _ _, rfl⟩, awaited⟩)

theorem flush_backed (connection : Connection σ) : (flush.runFrom connection).2.Backed := by
  rcases flush_outcome connection with ⟨transport, flushed⟩ | ⟨cause, transport, failed⟩
  · rw [flushed]
    exact .of_unqueued rfl
  · rw [failed]
    exact .of_unqueued rfl

/-- A reply that is read has been in flight. -/
theorem getReply_counts (backed : connection.Backed) :
    let after := (getReply.runFrom connection).2
    after.Backed ∧ (after = connection ∨ 0 < connection.inFlight ∧
      (after.broken ≠ none ∧ after.inFlight = connection.inFlight ∨
        after.inFlight + 1 = connection.inFlight)) := by
  rcases getReply_cases connection with
    ⟨-, cause, refused⟩ | ⟨some, cause, after, failed, abandoned, kept⟩ |
    ⟨transport, unread, -, awaited, reads⟩
  · rw [refused]
    exact ⟨backed, .inl rfl⟩
  · rw [failed]
    exact ⟨.of_unqueued abandoned.unqueued, .inr ⟨some, .inl ⟨abandoned.broken, kept⟩⟩⟩
  · rw [reads, awaited]
    obtain ⟨unqueued, taken⟩ := perform_counts Reply.readFrame
      { connection with transport, pending := #[], inFlight := unread }
    exact ⟨.of_unqueued unqueued, .inr ⟨Nat.succ_pos unread, .inr (congrArg Nat.succ taken)⟩⟩

theorem getReply_delivers (counts : connection.Counts (unread + 1)) :
    Delivers id unread (getReply.runFrom connection) := by
  have some := counts.awaited
  rcases getReply_cases connection with
    ⟨broken | nothing, -⟩ | ⟨-, cause, after, failed, abandoned, -⟩ |
    ⟨transport, left, usable, awaited, reads⟩
  · exact absurd counts.usable broken
  · omega
  · rw [failed]
    exact .broke abandoned
  · rw [reads]
    obtain rfl : left = unread := by omega
    exact perform_delivers ⟨usable, rfl, Nat.zero_le _⟩ rfl

theorem getReplies_delivers (count : Nat) (counts : connection.Counts (count + unread)) :
    Delivers id unread ((getReplies count).runFrom connection) := by
  induction count generalizing connection with
  | zero => exact .done (Nat.zero_add unread ▸ counts)
  | succ count ih =>
      rw [Nat.add_right_comm] at counts
      apply (getReply_delivers counts).bind
      intro reply middle between
      exact (ih between).bind fun rest after last => .done last

/-- As many replies as are dropped have to be in flight. -/
theorem discardReplies_delivers (count : Nat) (counts : connection.Counts (count + unread)) :
    Delivers id unread ((discardReplies count).runFrom connection) := by
  rw [discardReplies_eq (counts.awaited ▸ Nat.le_add_right count unread)]
  exact (getReplies_delivers count counts).bind fun replies after last => .done last

theorem discardAll_delivers (counts : connection.Counts unread) :
    Delivers id 0 (discardAll.runFrom connection) := by
  rw [discardAll, Attempt.runFrom_bind_ok (Attempt.runFrom_get connection), counts.awaited]
  exact discardReplies_delivers unread counts

theorem request_ends (frame : Bytes) (counts : connection.Counts 0) :
    Ends id 0 (Attempt.runFrom (do
      append frame
      let reply ← getReply
      reply.check) connection) := by
  rw [Attempt.runFrom_bind_ok (runFrom_append connection frame)]
  apply (getReply_delivers (counts.queue frame)).bind_ends
  exact fun reply after last => .of_tame reply.check_tame last

theorem execute_proceeds (frame : Bytes)
    (backed : connection.Backed) :
    Proceeds id connection ((execute frame).runFrom connection) :=
  ensure_proceeds (checkIdle_cases .execute) clear_of_checkIdle backed (request_ends frame)

/-- Out of subscribe mode, a free connection admits a request. -/
theorem execute_ends (frame : Bytes) (counts : connection.Counts 0)
    (unsubscribed : connection.subscribed = false) :
    Ends id 0 ((execute frame).runFrom connection) := by
  have idle := checkIdle_ok .execute counts.usable counts.awaited unsubscribed
  rw [execute, Attempt.runFrom_bind_ok (ensure_ok idle)]
  exact request_ends frame counts

theorem query_proceeds (type : ResultType) (command : Command)
    (backed : connection.Backed) :
    Proceeds id connection ((query type command).runFrom connection) :=
  (execute_proceeds command.frame backed).bind fun reply _ last =>
    .of_tame (type.decode_tame reply) last

theorem executeInto_proceeds (type : ResultType) (frame : Bytes) (current : type.Value)
    (backed : connection.Backed) :
    Proceeds id connection ((executeInto type frame current).runFrom connection) := by
  apply (execute_proceeds frame backed).bind
  intro reply after last
  split
  · exact .done last
  · exact Ends.bind (.of_tame (type.decode_tame reply) last) fun _ _ behind => .done behind

omit [Socket σ] in
theorem Counts.noteAck (counts : connection.Counts unread) (reply : Reply) :
    (noteAck reply connection).Counts unread := by
  unfold Connection.noteAck
  split
  · exact counts
  · exact ⟨counts.usable, counts.awaited, counts.backed⟩

theorem waitMessage_ends (timeout : Option Nat) (counts : connection.Counts 0) :
    Ends id 0 ((waitMessage timeout).runFrom connection) := by
  have clear := checkNothingPending_ok .waitForMessages counts.usable counts.awaited
  rw [waitMessage, Attempt.runFrom_bind_ok (ensure_ok clear)]
  apply (perform_delivers counts counts.unqueued).bind_ends
  intro ready middle between
  split
  · apply (perform_delivers between between.unqueued).bind_ends
    intro frame read behind
    apply Ends.bind (.of_tame frame.check_tame behind)
    exact fun reply after last => .done (last.noteAck reply)
  · exact .done between

theorem waitMessage_proceeds (timeout : Option Nat)
    (backed : connection.Backed) :
    Proceeds id connection ((waitMessage timeout).runFrom connection) := by
  rcases checkNothingPending_cases .waitForMessages connection with clear | ⟨cause, refused⟩
  · have counts := Counts.of_clear backed (clear_of_checkNothingPending clear)
    exact .ended counts (waitMessage_ends timeout counts)
  · rw [waitMessage, Attempt.runFrom_bind_error (ensure_error refused)]
    exact .refused

theorem sendSubscription_proceeds (command : Command)
    (backed : connection.Backed) :
    Proceeds id connection ((sendSubscription command).runFrom connection) := by
  apply ensure_proceeds (checkNothingPending_cases (.send command.name))
    clear_of_checkNothingPending backed
  intro counts
  apply (perform_delivers counts counts.unqueued).bind_ends
  exact fun sent after last => .done ⟨last.usable, last.awaited, last.backed⟩

end Connection

end RespClient
