import RespClient.Proofs.Transport.Faults
import RespClient.PubSub.Event

/-!
# Conversions are tame

Whatever a reply is converted to, a conversion that fails does so with a server error or
a decode error. The position in the stream is not in doubt then, and the caller has
done nothing wrong.
-/

namespace RespClient

variable {α β : Type}

def ClientError.fatal? : ClientError → Option FatalError
  | fatal cause => some cause
  | _ => none

/-- The fatal error that an outcome reports. -/
def fatalOf (outcome : Except ClientError α) : Option FatalError :=
  (failureOf outcome).bind ClientError.fatal?

def Harmless (outcome : Except ClientError α) : Prop :=
  fatalOf outcome = none

/-- Failures that have to do with the contents of a reply. -/
def ClientError.concernsReply : ClientError → Bool
  | server _ | decode _ => true
  | _ => false

/-- If it fails, then because of what a reply holds. -/
def Tame (outcome : Except ClientError α) : Prop :=
  (failureOf outcome).all ClientError.concernsReply = true

namespace Tame

theorem bind {outcome : Except ClientError α} {next : α → Except ClientError β}
    (first : Tame outcome) (rest : ∀ value, Tame (next value)) :
    Tame (outcome >>= next) := by
  cases outcome with
  | error cause => exact first
  | ok value => exact rest value

theorem map {outcome : Except ClientError α} (tame : Tame outcome) (change : α → β) :
    Tame (outcome.map change) := by
  cases outcome with
  | error cause => exact tame
  | ok value => rfl

theorem mapM {convert : α → Except ClientError β} (tame : ∀ item, Tame (convert item))
    (items : List α) : Tame (items.mapM convert) := by
  induction items with
  | nil => rfl
  | cons item items ih =>
      rw [List.mapM_cons]
      exact (tame item).bind fun _ => ih.bind fun _ => rfl

theorem fatal?_eq_none {cause : ClientError} (tame : Tame (.error cause : Except _ α)) :
    cause.fatal? = none := by
  cases cause <;> first | rfl | cases tame

theorem isUsage_eq_false {cause : ClientError} (tame : Tame (.error cause : Except _ α)) :
    cause.isUsage = false := by
  cases cause <;> first | rfl | cases tame

theorem harmless {outcome : Except ClientError α} (tame : Tame outcome) : Harmless outcome := by
  cases outcome with
  | ok value => rfl
  | error cause => exact tame.fatal?_eq_none

end Tame

namespace Reply

theorem check_tame (reply : Reply) : Tame reply.check := by
  cases reply <;> rfl

theorem mismatch_tame (expected : Expectation) (reply : Reply) :
    Tame (reply.mismatch expected : Except ClientError α) := by
  cases reply <;> rfl

theorem toInt64_tame (reply : Reply) : Tame reply.toInt64 := by
  cases reply <;> rfl

theorem toUInt64_tame (reply : Reply) : Tame reply.toUInt64 := by
  have converted := reply.toInt64_tame
  unfold toUInt64
  split
  · next failed =>
      rw [failed] at converted
      exact converted
  · split <;> rfl

theorem toBool_tame (reply : Reply) : Tame reply.toBool := by
  unfold toBool
  split
  · rfl
  · rfl
  · split
    · rfl
    · exact mismatch_tame _ _

theorem parseFloat_tame (data : Bytes) : Tame (parseFloat data) := by
  unfold parseFloat
  split <;> rfl

theorem toFloat_tame (reply : Reply) : Tame reply.toFloat := by
  cases reply with
  | bulk data => exact parseFloat_tame data
  | simple text => exact parseFloat_tame _
  | _ => rfl

theorem toText_tame (reply : Reply) : Tame reply.toText := by
  unfold toText
  split
  · rfl
  · split <;> rfl
  · exact mismatch_tame _ _

theorem toBytes_tame (reply : Reply) : Tame reply.toBytes := by
  cases reply <;> rfl

theorem toItems_tame (reply : Reply) : Tame reply.toItems := by
  cases reply <;> rfl

end Reply

theorem ResultType.decode_tame (type : ResultType) (reply : Reply) :
    Tame (type.decode reply) := by
  induction type generalizing reply with
  | value => exact reply.check_tame
  | int64 => exact reply.toInt64_tame
  | uint64 => exact reply.toUInt64_tame
  | bool => exact reply.toBool_tame
  | float => exact reply.toFloat_tame
  | string => exact reply.toText_tame
  | bytes => exact reply.toBytes_tame
  | unit => exact reply.check_tame.map _
  | option inner ih => cases reply <;> first | rfl | exact (ih _).map _
  | list inner ih => exact reply.toItems_tame.bind fun items => .mapM ih items
  | attempt inner ih => rfl
  | pair first second one two =>
      apply reply.toItems_tame.bind
      intro items
      split
      · exact (one _).bind fun _ => (two _).bind fun _ => rfl
      · rfl
  | triple first second third one two three =>
      apply reply.toItems_tame.bind
      intro items
      split
      · exact (one _).bind fun _ => (two _).bind fun _ => (three _).bind fun _ => rfl
      · rfl

namespace Event

theorem ofMessage_tame (fields : List Reply) : Tame (ofMessage fields) := by
  unfold ofMessage
  split
  · next channel payload =>
      exact channel.toText_tame.bind fun _ => payload.toBytes_tame.bind fun _ => rfl
  · rfl

theorem ofPatternMessage_tame (fields : List Reply) : Tame (ofPatternMessage fields) := by
  unfold ofPatternMessage
  split
  · next pattern channel payload =>
      exact pattern.toText_tame.bind fun _ => channel.toText_tame.bind fun _ =>
        payload.toBytes_tame.bind fun _ => rfl
  · rfl

theorem ofAck_tame (kind : AckKind) (channel count : Reply) :
    Tame (ofAck kind channel count) :=
  (ResultType.decode_tame _ channel).bind fun _ => count.toUInt64_tame.bind fun _ => rfl

theorem ofReply_tame (reply : Reply) : Tame (ofReply reply) := by
  unfold ofReply
  split
  · split
    · rfl
    · split
      · exact ofMessage_tame _
      split
      · exact ofPatternMessage_tame _
      split
      · exact ofAck_tame _ _ _
      · rfl
  · rfl

end Event

end RespClient
