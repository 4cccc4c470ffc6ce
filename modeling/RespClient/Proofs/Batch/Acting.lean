import RespClient.Proofs.Batch.Settling

/-!
# Decoders that act

A decoder may do something to a state of its owner besides. A batch with such decoders
reads all its replies first, and then lets each decoder have its own, in the order of the
commands, until one of them fails. What the owner looks like in the end tells which of
them have run. Decoders that leave the owner alone make of a batch what decoders without
an owner make of it.
-/

namespace RespClient

/-- A decoder that may change a state of its owner, whether it succeeds or not. -/
abbrev ActingDecoder (ω α : Type) := Reply → Attempt ClientError ω α

/-- A decoder that leaves the owner alone. -/
def Decoder.idle {ω α : Type} (decoder : Decoder α) : ActingDecoder ω α :=
  fun reply => liftM (decoder reply)

variable {σ ω α β : Type}

/-- Decoders take their replies, one after the other, and the owner passes through their hands. The
first one that fails is the last one that runs. -/
inductive Decodes :
    List (ActingDecoder ω β × Reply) → ω → Except ClientError (List β) → ω → Prop where
  | nil {owner : ω} : Decodes [] owner (.ok []) owner
  | failed {decoder : ActingDecoder ω β} {reply : Reply} {others : List (ActingDecoder ω β × Reply)}
      {owner after : ω} {cause : ClientError}
      (fails : (decoder reply).runFrom owner = (.error cause, after)) :
      Decodes ((decoder, reply) :: others) owner (.error cause) after
  | decoded {decoder : ActingDecoder ω β} {reply : Reply}
      {others : List (ActingDecoder ω β × Reply)} {owner middle after : ω} {value : β}
      {outcome : Except ClientError (List β)}
      (decodes : (decoder reply).runFrom owner = (.ok value, middle))
      (rest : Decodes others middle outcome after) :
      Decodes ((decoder, reply) :: others) owner (outcome.map (value :: ·)) after

theorem runFrom_decodeReplies_cons (decoder : ActingDecoder ω β)
    (decoders : List (ActingDecoder ω β)) (reply : Reply) (replies : List Reply) (owner : ω) :
    (decodeReplies (decoder :: decoders) (reply :: replies)).runFrom owner =
      match (decoder reply).runFrom owner with
      | (.ok value, middle) =>
          let (outcome, after) := (decodeReplies decoders replies).runFrom middle
          (outcome.map (value :: ·), after)
      | (.error cause, after) => (.error cause, after) := by
  rw [decodeReplies, List.zip_cons_cons, List.mapM_cons, Attempt.runFrom_bind]
  rcases (decoder reply).runFrom owner with ⟨cause | value, middle⟩
  · rfl
  · dsimp only
    rw [Attempt.runFrom_bind, ← decodeReplies]
    rcases (decodeReplies decoders replies).runFrom middle with ⟨_ | _, _⟩ <;> rfl

/-- That is what decoding comes to. -/
theorem decodes_decodeReplies (decoders : List (ActingDecoder ω β)) (replies : List Reply)
    (owner : ω) :
    Decodes (decoders.zip replies) owner ((decodeReplies decoders replies).runFrom owner).1
      ((decodeReplies decoders replies).runFrom owner).2 := by
  induction decoders generalizing replies owner with
  | nil => exact .nil
  | cons decoder decoders ih =>
      cases replies with
      | nil => exact .nil
      | cons reply replies =>
          rw [runFrom_decodeReplies_cons]
          rcases decoded : (decoder reply).runFrom owner with ⟨cause | value, middle⟩
          · exact .failed decoded
          · exact .decoded decoded (ih replies middle)

theorem decodeReplies_cons (decoder : Decoder β) (decoders : List (Decoder β)) (reply : Reply)
    (replies : List Reply) :
    decodeReplies (decoder :: decoders) (reply :: replies) =
      match decoder reply with
      | .ok value => (decodeReplies decoders replies).map (value :: ·)
      | .error cause => .error cause := by
  rw [decodeReplies, List.zip_cons_cons, List.mapM_cons, ← decodeReplies]
  dsimp only
  cases decoder reply with
  | error cause => rfl
  | ok value => cases (decodeReplies decoders replies : Except ClientError (List β)) <;> rfl

theorem runFrom_decodeReplies_idle (decoders : List (Decoder β)) (replies : List Reply)
    (owner : ω) :
    (decodeReplies (decoders.map Decoder.idle) replies).runFrom owner =
      (decodeReplies decoders replies, owner) := by
  induction decoders generalizing replies with
  | nil => rfl
  | cons decoder decoders ih =>
      cases replies with
      | nil => rfl
      | cons reply replies =>
          rw [List.map_cons, runFrom_decodeReplies_cons, Decoder.idle, Attempt.runFrom_liftM,
            decodeReplies_cons]
          cases decoder reply with
          | error cause => rfl
          | ok value =>
              dsimp only
              rw [ih]

namespace Batch

variable [Socket σ]

/-- Resolves a batch with decoders that act, in the place of its own. -/
def resolveActing (decoders : List (ActingDecoder ω β)) (batch : Batch σ α) (owner : ω) :
    Except ClientError (List β) × Batch σ α × ω :=
  match collect.runFrom batch with
  | (.error cause, after) => (.error cause, after, owner)
  | (.ok replies, after) =>
      let (outcome, owner) := (decodeReplies decoders replies).runFrom owner
      (outcome, after, owner)

/-- With its own decoders, which know of no owner, that is what resolving a batch comes to. -/
theorem resolveActing_idle (batch : Batch σ α) (owner : ω) :
    batch.resolveActing (batch.decoders.toList.map Decoder.idle) owner =
      ((resolve.runFrom batch).1, (resolve.runFrom batch).2, owner) := by
  rw [resolveActing, resolve_eq]
  rcases collect.runFrom batch with ⟨cause | replies, after⟩
  · rfl
  · dsimp only
    rw [runFrom_decodeReplies_idle]
    rfl

end Batch

end RespClient
