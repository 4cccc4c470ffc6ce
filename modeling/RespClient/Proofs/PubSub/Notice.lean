import RespClient.Proofs.PubSub.Push

/-!
# What a server says in subscribe mode

Names cross the wire as bytes, which need not be text. A command is answered by
acknowledgements, or by an error reply in the place of all of them, and messages come
in between. A stream that starts with such a frame is read as that frame or not at
all.
-/

namespace RespClient

/-- An error line as a reader accepts it. -/
structure Refusal where
  text : String
  oneLine : Bytes.lineFeed ∉ Bytes.ofText text
  short : Reply.Short (Bytes.ofText text)

/-- The reply answers a command: the others are messages. -/
def Reply.isAnswer : Reply → Bool
  | error _ => true
  | reply => (Ack.ofReply? reply).isSome

inductive Notice where
  | ack (kind : AckKind) (target : Option Bytes) (count : Nat)
  | message (channel payload : Bytes)
  | patternMessage (pattern channel payload : Bytes)
  | refusal (cause : Refusal)

namespace Notice

/-- The fields of a frame that is an array. -/
def fields : Notice → List PushField
  | ack kind target count =>
      [.bulk (Bytes.ofText kind.name), (target.map .bulk).getD .missing, .count count]
  | message channel payload =>
      [.bulk (Bytes.ofText Event.messageName), .bulk channel, .bulk payload]
  | patternMessage pattern channel payload =>
      [.bulk (Bytes.ofText Event.patternMessageName), .bulk pattern, .bulk channel, .bulk payload]
  | refusal _ => []

def bytes : Notice → Bytes
  | refusal cause => Reply.headed '-' (Bytes.ofText cause.text)
  | notice => PushField.arrayBytes notice.fields

def reply : Notice → Reply
  | refusal cause => .error cause.text
  | notice => PushField.arrayReply notice.fields

def Readable (notice : Notice) : Prop :=
  ∀ field ∈ notice.fields, field.Readable

instance (notice : Notice) : Decidable notice.Readable :=
  inferInstanceAs (Decidable (∀ field ∈ notice.fields, field.Readable))

/-- What the frame acknowledges, if anything. -/
def ack? : Notice → Option Ack
  | ack kind _ count => some ⟨kind, count⟩
  | _ => none

def isAnswer : Notice → Bool
  | ack _ _ _ | refusal _ => true
  | message _ _ | patternMessage _ _ _ => false

theorem isAnswer_of_ack? {notice : Notice} (acknowledging : notice.ack? ≠ none) :
    notice.isAnswer = true := by
  cases notice with
  | ack | refusal => rfl
  | message | patternMessage => exact absurd rfl acknowledging

variable {notice : Notice} {allowed : Bytes → Prop}

theorem read_unique {reply : Reply} {bytes rest more : Bytes} (notice : Notice)
    (frame : Reply.Frame allowed 0 reply bytes) (same : bytes ++ rest = notice.bytes ++ more) :
    notice.Readable ∧ reply = notice.reply ∧ rest = more := by
  cases notice with
  | refusal cause => exact ⟨nofun, frame.error_unique cause.oneLine same⟩
  | ack | message | patternMessage => exact PushField.array_unique _ frame same

theorem length_fields_le (notice : Notice) : notice.fields.length ≤ 4 := by
  cases notice <;> simp [fields]

theorem frame (readable : notice.Readable) :
    Reply.Frame Reply.Short 0 notice.reply notice.bytes := by
  have few := notice.length_fields_le
  cases notice with
  | refusal cause => exact .error cause.oneLine cause.short
  | ack | message | patternMessage => exact PushField.array_frame few readable

theorem bytes_ne_nil (notice : Notice) : notice.bytes ≠ [] := by
  cases notice <;> exact List.cons_ne_nil _ _

/-- The client recognises the acknowledgements that it can read, and nothing else. -/
theorem ofReply?_reply (readable : notice.Readable) :
    Ack.ofReply? notice.reply = notice.ack? := by
  cases notice with
  | ack kind target count =>
      have member : PushField.count count ∈ (ack kind target count).fields := by simp [fields]
      exact PushField.ofReply?_ack kind _ (readable _ member)
  | message | patternMessage | refusal => rfl

theorem ack?_of_message (unanswering : notice.isAnswer = false) : notice.ack? = none := by
  cases notice with
  | message | patternMessage => rfl
  | ack | refusal => cases unanswering

theorem isAnswer_reply (readable : notice.Readable) : notice.reply.isAnswer = notice.isAnswer := by
  have recognised := ofReply?_reply readable
  cases notice with
  | ack => exact congrArg Option.isSome recognised
  | message | patternMessage | refusal => rfl

end Notice

/-- The acknowledgements among some frames. -/
def acks (notices : List Notice) : List Ack :=
  notices.filterMap Notice.ack?

theorem acks_append (notices others : List Notice) :
    acks (notices ++ others) = acks notices ++ acks others :=
  List.filterMap_append

theorem acks_singleton (notice : Notice) : acks [notice] = notice.ack?.toList := by
  cases notice <;> rfl

end RespClient
