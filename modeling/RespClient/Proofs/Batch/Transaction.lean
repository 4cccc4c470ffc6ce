import Mathlib.Data.List.Forall2
import RespClient.Proofs.Batch.Acting
import RespClient.Proofs.Connection.Awaiting

/-!
# What a transaction comes to

The acknowledgements of a transaction are read for their place in the stream alone;
its outcome is a matter of the answer to `EXEC` and of the decoders. Whatever the
answer is, a transaction of some commands takes two responses more than it has
commands, and leaves the connection idle. Only an answer that does not belong to so
many commands breaks it. A transaction that is given up takes as many responses and
never breaks the connection.
-/

namespace RespClient

/-! ## Decoding up to the first failure -/

section Decoding

variable {ι ε β : Type} {convert : ι → Except ε β}

theorem mapM_cons_eq (convert : ι → Except ε β) (item : ι) (items : List ι) :
    (item :: items).mapM convert =
      match convert item with
      | .error cause => .error cause
      | .ok value =>
          match items.mapM convert with
          | .error cause => .error cause
          | .ok values => .ok (value :: values) := by
  rw [List.mapM_cons]
  cases convert item with
  | error cause => rfl
  | ok value => cases items.mapM convert <;> rfl

theorem mapM_eq_ok_iff {items : List ι} {values : List β} :
    items.mapM convert = .ok values ↔
      List.Forall₂ (fun item value => convert item = .ok value) items values := by
  induction items generalizing values with
  | nil =>
      constructor
      · rintro ⟨⟩
        exact .nil
      · rintro ⟨⟩
        rfl
  | cons item items ih =>
      rw [mapM_cons_eq, List.forall₂_cons_left_iff]
      constructor
      · intro done
        split at done
        · cases done
        · next value first =>
            split at done
            · cases done
            · next others rest =>
                cases done
                exact ⟨value, others, first, ih.1 rest, rfl⟩
      · rintro ⟨value, others, first, rest, rfl⟩
        rw [first, ih.2 rest]

/-- A failure is that of the first item that fails. The items behind it play no part. -/
theorem mapM_eq_error_iff {items : List ι} {cause : ε} :
    items.mapM convert = .error cause ↔
      ∃ before item after, items = before ++ item :: after ∧
        (∀ earlier ∈ before, ∃ value, convert earlier = .ok value) ∧
        convert item = .error cause := by
  induction items with
  | nil =>
      constructor
      · rintro ⟨⟩
      · rintro ⟨before, item, after, split, -⟩
        exact absurd split.symm (List.append_ne_nil_of_right_ne_nil _ (List.cons_ne_nil _ _))
  | cons head items ih =>
      rw [mapM_cons_eq]
      constructor
      · intro failed
        split at failed
        · next failing =>
            cases failed
            exact ⟨[], head, items, rfl, nofun, failing⟩
        · next value first =>
            split at failed
            · next failing =>
                cases failed
                obtain ⟨before, item, after, rfl, passed, here⟩ := ih.1 failing
                exact ⟨head :: before, item, after, rfl,
                  List.forall_mem_cons.2 ⟨⟨value, first⟩, passed⟩, here⟩
            · cases failed
      · rintro ⟨before, item, after, split, passed, failing⟩
        cases before with
        | nil =>
            obtain ⟨rfl, -⟩ := List.cons.inj split
            rw [failing]
        | cons earlier before =>
            obtain ⟨rfl, rest⟩ := List.cons.inj split
            obtain ⟨⟨value, first⟩, others⟩ := List.forall_mem_cons.1 passed
            rw [first, ih.2 ⟨before, item, after, rest, others, failing⟩]

end Decoding

namespace Batch

open Connection (Awaits)

variable {σ ω α β : Type}

/-- What a transaction with these decoders comes to, told from the answer to `EXEC`. -/
inductive Concludes (decoders : List (Decoder α)) : Reply → Except ClientError (List α) → Prop where
  | decoded {items : List Reply} {values : List α} (size : items.length = decoders.length)
      (each : List.Forall₂ (fun pair value => pair.1 pair.2 = .ok value) (decoders.zip items)
        values) : Concludes decoders (.array items) (.ok values)
  | undecoded {items : List Reply} {before after : List (Decoder α × Reply)} {decoder : Decoder α}
      {item : Reply} {cause : ClientError} (size : items.length = decoders.length)
      (split : decoders.zip items = before ++ (decoder, item) :: after)
      (passed : ∀ pair ∈ before, ∃ value, pair.1 pair.2 = .ok value)
      (failed : decoder item = .error cause) : Concludes decoders (.array items) (.error cause)
  | aborted :
      Concludes decoders .nil (.error (.server "transaction aborted: a watched key was modified"))
  | refused (message : String) : Concludes decoders (.error message) (.error (.server message))
  | miscounted {items : List Reply} (size : items.length ≠ decoders.length) :
      Concludes decoders (.array items)
        (.error (.fatal (.protocol (.resultCount decoders.length items.length))))
  | unexpected {answer : Reply} (scalar : ∀ items, answer ≠ .array items) (present : answer ≠ .nil)
      (accepted : ∀ message, answer ≠ .error message) :
      Concludes decoders answer (.error (.fatal (.protocol (.execWithoutArray answer.kind))))

/-- What becomes of the owner of decoders that act, told from the answer to `EXEC`. Where the answer
holds no results for them, none of them runs. -/
inductive ActsOn (decoders : List (ActingDecoder ω β)) :
    Reply → ω → Except ClientError (List β) → ω → Prop where
  | ran {items : List Reply} {owner after : ω} {outcome : Except ClientError (List β)}
      (size : items.length = decoders.length)
      (decodes : Decodes (decoders.zip items) owner outcome after) :
      ActsOn decoders (.array items) owner outcome after
  | spared {answer : Reply} {owner : ω} {cause : ClientError}
      (resultless : execOutcome decoders.length answer = .error cause) :
      ActsOn decoders answer owner (.error cause) owner

theorem items_of_execOutcome {count : Nat} {answer : Reply} {items : List Reply}
    (worth : execOutcome count answer = .ok items) :
    answer = .array items ∧ items.length = count := by
  cases answer with
  | array results =>
      rw [execOutcome] at worth
      split at worth
      · next size =>
          cases worth
          exact ⟨rfl, size⟩
      · cases worth
  | _ => cases worth

theorem resolveActing_actsOn [Socket σ] {batch after : Batch σ α} {answer : Reply}
    {decoders : List (ActingDecoder ω β)} (owner : ω)
    (collected : collect.runFrom batch = (execOutcome decoders.length answer, after)) :
    ∃ outcome last, batch.resolveActing decoders owner = (outcome, after, last) ∧
      ActsOn decoders answer owner outcome last := by
  rw [resolveActing, collected]
  cases worth : execOutcome decoders.length answer with
  | error cause => exact ⟨_, _, rfl, .spared worth⟩
  | ok items =>
      obtain ⟨rfl, size⟩ := items_of_execOutcome worth
      exact ⟨_, _, rfl, .ran size (decodes_decodeReplies decoders items owner)⟩

theorem concludes_iff {decoders : List (Decoder α)} {answer : Reply}
    {outcome : Except ClientError (List α)} :
    (execOutcome decoders.length answer >>= decodeReplies decoders) = outcome ↔
      Concludes decoders answer outcome := by
  constructor
  · rintro rfl
    cases answer with
    | array items =>
        rw [execOutcome]
        by_cases size : items.length = decoders.length
        · rw [if_pos size]
          change Concludes decoders _ (decodeReplies decoders items)
          cases result : decodeReplies decoders items with
          | ok values => exact .decoded size (mapM_eq_ok_iff.1 result)
          | error cause =>
              obtain ⟨before, ⟨decoder, item⟩, after, split, passed, failed⟩ :=
                mapM_eq_error_iff.1 result
              exact .undecoded size split passed failed
        · rw [if_neg size]
          exact .miscounted size
    | nil => exact .aborted
    | error message => exact .refused message
    | integer value => exact .unexpected (by simp) (by simp) (by simp)
    | simple text => exact .unexpected (by simp) (by simp) (by simp)
    | bulk bytes => exact .unexpected (by simp) (by simp) (by simp)
  · intro concludes
    cases concludes with
    | decoded size each =>
        rw [execOutcome, if_pos size]
        exact mapM_eq_ok_iff.2 each
    | undecoded size split passed failed =>
        rw [execOutcome, if_pos size]
        exact mapM_eq_error_iff.2 ⟨_, _, _, split, passed, failed⟩
    | aborted => rfl
    | refused message => rfl
    | miscounted size =>
        rw [execOutcome, if_neg size]
        rfl
    | unexpected scalar present accepted =>
        cases answer with
        | array items => exact absurd rfl (scalar items)
        | nil => exact absurd rfl present
        | error message => exact absurd rfl (accepted message)
        | integer | simple | bulk => rfl

/-- Appending commands queues their frames and keeps their decoders. -/
theorem appendAll_open [Socket σ] {batch : Batch σ α} (unresolved : batch.resolved = false)
    (commands : List (Bytes × Decoder α)) :
    batch.appendAll commands =
      { batch with
        connection := (commands.map Prod.fst).foldl Connection.queue batch.connection
        decoders := batch.decoders ++ (commands.map Prod.snd).toArray } := by
  induction commands generalizing batch with
  | nil => simp [appendAll]
  | cons command commands ih =>
      have still : (batch.after (.append command.1 command.2)).resolved = false := by
        rw [after_append unresolved]
        exact unresolved
      change (batch.after (.append command.1 command.2)).appendAll commands = _
      rw [ih still, after_append unresolved]
      simp

variable [Socket σ] [Socket.Quiet σ] {calm : σ → Prop} {rest : Bytes} {acks : List Response}
  {answer : Response} {connection : Connection σ}

theorem transactionReplies_awaits (reads : Socket.Delivering calm)
    (writes : Socket.Accepting calm) {count : Nat} (acknowledged : acks.length = count + 1)
    (awaits : Awaits calm (wire acks ++ (answer.bytes ++ rest)) (count + 1) connection) :
    ∃ middle, Awaits calm rest 0 middle ∧
      (transactionReplies count).runFrom connection =
        (execResults count answer.reply).runFrom middle := by
  have queued := awaits.queue Command.exec.frame
  rw [← acknowledged] at queued
  obtain ⟨between, discarded, still⟩ := queued.discardReplies reads writes
  obtain ⟨middle, done, idle⟩ := still.getReply reads writes
  rw [acknowledged] at discarded
  refine ⟨middle, idle, ?_⟩
  rw [transactionReplies, Attempt.runFrom_bind_ok (Connection.runFrom_append _ _),
    Attempt.runFrom_bind_ok discarded, Attempt.runFrom_bind_ok done]

/-- A transaction collects what the answer to `EXEC` is worth to it. -/
theorem collect_transaction (reads : Socket.Delivering calm) (writes : Socket.Accepting calm)
    {batch : Batch σ α} (unresolved : batch.resolved = false) (kind : batch.kind = .transaction)
    (acknowledged : acks.length = batch.length + 1)
    (filled : Awaits calm (wire acks ++ (answer.bytes ++ rest)) (batch.length + 1)
      batch.connection) :
    ∃ middle broken, Awaits calm rest 0 middle ∧
      collect.runFrom batch = (execOutcome batch.length answer.reply,
        { batch.closed with connection := { middle with broken } }) ∧
      (Fits batch.length answer.reply → broken = none) ∧
      (¬Fits batch.length answer.reply → ∃ cause,
        execOutcome batch.length answer.reply = .error (.fatal (.protocol cause)) ∧
        broken = some (.protocol cause)) := by
  obtain ⟨middle, settled, read⟩ := transactionReplies_awaits reads writes acknowledged filled
  have collects {outcome : Except ClientError (List Reply)} {last : Connection σ}
      (done : (execResults batch.length answer.reply).runFrom middle = (outcome, last)) :
      collect.runFrom batch = (outcome, { batch.closed with connection := last }) := by
    apply collect_run unresolved
    rw [kind]
    exact read.trans done
  rcases execResults_cases batch.length answer.reply middle with
    ⟨fits, kept⟩ | ⟨unfit, cause, wrong, broke⟩
  · exact ⟨middle, middle.broken, settled, collects kept, fun _ => settled.usable,
      fun unfit => absurd fits unfit⟩
  · rw [settled.usable] at broke
    refine ⟨middle, some (.protocol cause), settled, ?_, fun fits => absurd fits unfit,
      fun _ => ⟨cause, wrong, rfl⟩⟩
    rw [wrong]
    exact collects broke

/-- Giving a transaction up takes as many responses as resolving it. -/
theorem discard_transaction (reads : Socket.Delivering calm) (writes : Socket.Accepting calm)
    {batch : Batch σ α} (unresolved : batch.resolved = false) (kind : batch.kind = .transaction)
    (acknowledged : acks.length = batch.length + 1)
    (filled : Awaits calm (wire acks ++ (answer.bytes ++ rest)) (batch.length + 1)
      batch.connection) :
    ∃ last, discard.runFrom batch = (.ok (), { batch.closed with connection := last }) ∧
      Awaits calm rest 0 last := by
  have together : wire acks ++ (answer.bytes ++ rest) = wire (acks ++ [answer]) ++ rest := by
    simp [wire]
  have complete : (acks ++ [answer]).length = batch.length + 1 + 1 := by
    rw [List.length_append, acknowledged]
    rfl
  have queued := filled.queue Command.discard.frame
  rw [together, ← complete] at queued
  obtain ⟨last, done, idle⟩ := queued.discardAll reads writes
  refine ⟨last, discard_run unresolved ?_, idle⟩
  rw [kind]
  exact done

omit [Socket.Quiet σ] in
/-- A transaction on an idle connection, once its commands have been appended. -/
theorem start_transaction {stream : Bytes} (idle : Awaits calm stream 0 connection)
    (commands : List (Bytes × Decoder α)) :
    ∃ opened : Batch σ α, start .transaction connection = .ok opened ∧
      let batch := opened.appendAll commands
      batch.resolved = false ∧ batch.kind = .transaction ∧
        batch.decoders.toList = commands.map Prod.snd ∧ batch.length = commands.length ∧
        Awaits calm stream (commands.length + 1) batch.connection := by
  refine ⟨_, start_idle .transaction (idle.checkIdle .startBatch), ?_⟩
  have queued := (idle.queue Command.multi.frame).queueAll (commands.map Prod.fst)
  rw [List.length_map, Nat.add_comm] at queued
  rw [appendAll_open rfl]
  exact ⟨rfl, rfl, by simp, by simp [length], queued⟩

/-- A transaction of some commands, with a response to `MULTI`, one to each command, and one to what
ends it. Resolving it comes to what the answer to `EXEC` and the decoders tell, whatever the other
responses are; decoders that act on an owner do so up to the first that fails, and not at all
without results. Resolved, discarded or dropped, it has taken exactly these responses off the stream
and leaves nothing in flight. The connection is usable for the next request, unless it was broken
for an answer to `EXEC` that does not belong to so many commands. -/
theorem transaction_concludes (reads : Socket.Delivering calm) (writes : Socket.Accepting calm)
    (commands : List (Bytes × Decoder α)) (acknowledged : acks.length = commands.length + 1)
    (idle : Awaits calm (wire acks ++ (answer.bytes ++ rest)) 0 connection) :
    ∃ opened : Batch σ α, start .transaction connection = .ok opened ∧
      let batch := opened.appendAll commands
      let resolved := batch.after .resolve
      let discarded := batch.after .discard
      (∀ outcome, (resolve.runFrom batch).1 = outcome ↔
        Concludes (commands.map Prod.snd) answer.reply outcome) ∧
      (∀ (ω β : Type) (acting : List (ActingDecoder ω β)) (owner : ω),
        acting.length = commands.length →
        ∃ outcome last, batch.resolveActing acting owner = (outcome, resolved, last) ∧
          ActsOn acting answer.reply owner outcome last) ∧
      (resolved.connection.transport.stream = rest ∧ resolved.connection.inFlight = 0 ∧
        resolved.connection.pending = #[] ∧ resolved.release = resolved.connection) ∧
      (Fits commands.length answer.reply → Awaits calm rest 0 resolved.connection) ∧
      (¬Fits commands.length answer.reply → ∃ cause,
        (resolve.runFrom batch).1 = .error (.fatal (.protocol cause)) ∧
        resolved.connection.broken = some (.protocol cause)) ∧
      ((discard.runFrom batch).1 = .ok () ∧ Awaits calm rest 0 discarded.connection ∧
        discarded.release = discarded.connection ∧ batch.release = discarded.connection) := by
  obtain ⟨opened, started, unresolved, kind, held, size, filled⟩ := start_transaction idle commands
  refine ⟨opened, started, ?_⟩
  intro batch resolved discarded
  rw [← size] at acknowledged filled ⊢
  obtain ⟨middle, broken, settled, collection, kept, broke⟩ :=
    collect_transaction reads writes unresolved kind acknowledged filled
  have resolution := resolve_eq batch
  rw [collection] at resolution
  have last : resolved = { batch.closed with connection := { middle with broken } } :=
    congrArg Prod.snd resolution
  obtain ⟨drained, discharge, spare⟩ :=
    discard_transaction reads writes unresolved kind acknowledged filled
  have given_up : discarded = { batch.closed with connection := drained } :=
    congrArg Prod.snd discharge
  have handed_back : discarded.release = discarded.connection := by
    rw [given_up]
    exact release_settled rfl (.inr spare.awaited)
  refine ⟨?_, ?_, ?_, ?_, ?_, ?_⟩
  · intro outcome
    rw [resolution, ← held]
    exact concludes_iff
  · intro ω β acting owner as_many
    rw [last]
    rw [← as_many] at collection
    exact resolveActing_actsOn owner collection
  · rw [last]
    exact ⟨settled.stream_eq, settled.awaited, settled.nothing_pending,
      release_settled rfl (.inr settled.awaited)⟩
  · intro fits
    rw [last]
    exact { settled with usable := kept fits }
  · intro unfit
    obtain ⟨cause, wrong, marked⟩ := broke unfit
    refine ⟨cause, ?_, ?_⟩
    · rw [resolution, wrong]
      rfl
    · rw [last]
      exact marked
  · refine ⟨?_, ?_, handed_back, ?_⟩
    · rw [discharge]
    · rw [given_up]
      exact spare
    · rw [release_open unresolved]
      exact handed_back

/-- Two commands, one of which is refused when it is queued, and an answer whose second item does
not decode, on a socket that works in small pieces. The next request gets the response behind. -/
theorem transaction_concludes_in_pieces :
    let socket : Scripted :=
      { input := Bytes.ofText "+OK\r\n-ERR\r\n$-1\r\n*2\r\n:1\r\n$-1\r\n:7\r\n"
        readChunk := 3
        writeChunk := 2
        readFaults := [.pass, .interrupted] }
    let request := (Command.named "GET").frame
    let command := (request, ResultType.int64.decode)
    ∃ opened, start .transaction (.ofSocketWith 16 socket) = .ok opened ∧
      let batch := opened.appendAll [command, command]
      (resolve.runFrom batch).1 = .error (.decode (.mismatch .integer .nil)) ∧
      ((Connection.execute request).runFrom (batch.after .resolve).connection).1 =
        .ok (.integer 7) := by
  intro socket request command
  let accepted : Response :=
    ⟨.simple "OK", Reply.headed '+' (Bytes.ofText "OK"), .simple (by decide) (by decide)⟩
  let refused : Response :=
    ⟨.error "ERR", Reply.headed '-' (Bytes.ofText "ERR"), .error (by decide) (by decide)⟩
  let missing : Response :=
    ⟨.nil, Reply.headed '$' (Bytes.ofText "-1"), .noBulk numeral_missing (by decide)⟩
  have one : Reply.Frame Reply.Short 1 (.integer 1) (Reply.headed ':' (Bytes.ofText "1")) :=
    .integer (.unsigned (by decide) (by decide)) (by decide)
  have none : Reply.Frame Reply.Short 1 .nil (Reply.headed '$' (Bytes.ofText "-1")) :=
    .noBulk numeral_missing (by decide)
  let answer : Response :=
    ⟨.array [.integer 1, .nil], Reply.headed '*' (Bytes.ofText "2") ++ _,
      .array (.unsigned (by decide) (by decide)) (by decide) (by decide) (by decide)
        (.cons one (.cons none .nil))⟩
  let seven : Response :=
    ⟨.integer 7, Reply.headed ':' (Bytes.ofText "7"),
      .integer (.unsigned (by decide) (by decide)) (by decide)⟩
  have calm : Scripted.Faultless socket := by
    constructor <;> simp [socket, Scripted.Harmless]
  have idle : Awaits Scripted.Faultless
      (wire [accepted, refused, missing] ++ (answer.bytes ++ (seven.bytes ++ []))) 0
      (.ofSocketWith 16 socket) :=
    ⟨rfl, calm, rfl, rfl, Nat.le_refl 0, rfl⟩
  obtain ⟨opened, started, concludes, -, -, usable, -, -⟩ :=
    transaction_concludes Scripted.delivering Scripted.accepting [command, command] rfl idle
  refine ⟨opened, started, (concludes _).2 ?_, ?_⟩
  · have split : [ResultType.int64.decode, ResultType.int64.decode].zip [.integer 1, .nil] =
        [(ResultType.int64.decode, .integer 1)] ++ (ResultType.int64.decode, Reply.nil) :: [] := rfl
    exact .undecoded rfl split (by simp [ResultType.decode, Reply.toInt64]) rfl
  · obtain ⟨after, done, -⟩ :=
      (usable rfl).execute Scripted.delivering Scripted.accepting request
    rw [done]
    rfl

end Batch

end RespClient
