import RespClient.Reply.Typed

/-!
# Pushed frames

In subscribe mode the server pushes arrays whose first element names what they
are: a published message, or the acknowledgement of a subscription command with
the number of subscriptions that are left. A frame of any other shape is unknown
and is handed on as it is.
-/

namespace RespClient

structure Message where
  channel : String
  payload : Bytes
  /-- The pattern that matched, where the channel was not named itself. -/
  pattern : Option String
deriving DecidableEq

def Message.payloadAs (message : Message) (type : ResultType) : Except ClientError type.Value :=
  type.decode (.bulk message.payload)

inductive AckKind where
  | subscribe
  | unsubscribe
  | psubscribe
  | punsubscribe
deriving DecidableEq

namespace AckKind

def name : AckKind → String
  | subscribe => "subscribe"
  | unsubscribe => "unsubscribe"
  | psubscribe => "psubscribe"
  | punsubscribe => "punsubscribe"

def ofName? (bytes : Bytes) : Option AckKind :=
  [subscribe, unsubscribe, psubscribe, punsubscribe].find? fun kind =>
    Bytes.ofText kind.name = bytes

/-- The kinds that take subscriptions away. -/
def isUnsubscribe : AckKind → Bool
  | unsubscribe | punsubscribe => true
  | subscribe | psubscribe => false

end AckKind

inductive Event where
  | message (message : Message)
  /-- The channel is missing where there was nothing to unsubscribe from. -/
  | control (kind : AckKind) (channel : Option String) (count : Nat)
  | unknown (reply : Reply)
deriving DecidableEq

namespace Event

def messageName : String := "message"

def patternMessageName : String := "pmessage"

def ofMessage : List Reply → Except ClientError Event
  | [channel, payload] => do
      let channel ← channel.toText
      let payload ← payload.toBytes
      return message { channel, payload, pattern := none }
  | fields => throw (.decode (.frameLength messageName (fields.length + 1)))

def ofPatternMessage : List Reply → Except ClientError Event
  | [pattern, channel, payload] => do
      let pattern ← pattern.toText
      let channel ← channel.toText
      let payload ← payload.toBytes
      return message { channel, payload, pattern := some pattern }
  | fields => throw (.decode (.frameLength patternMessageName (fields.length + 1)))

def ofAck (kind : AckKind) (channel count : Reply) : Except ClientError Event := do
  let channel ← ResultType.decode (.option .string) channel
  let count ← count.toUInt64
  return control kind channel count.toNat

def ofReply (reply : Reply) : Except ClientError Event :=
  match reply with
  | .array (first :: fields) =>
      match first.bytes? with
      | none => .ok (unknown reply)
      | some name =>
          if name = Bytes.ofText messageName then ofMessage fields
          else if name = Bytes.ofText patternMessageName then ofPatternMessage fields
          else
            match AckKind.ofName? name, fields with
            | some kind, [channel, count] => ofAck kind channel count
            | _, _ => .ok (unknown reply)
  | _ => .ok (unknown reply)

end Event

/-- What a frame says about subscriptions, if it is an acknowledgement. -/
structure Ack where
  kind : AckKind
  count : Nat
deriving DecidableEq

def Ack.ofReply? : Reply → Option Ack
  | .array [first, _, .integer count] =>
      if count < 0 then none
      else (first.bytes?.bind AckKind.ofName?).map fun kind => ⟨kind, count.toInt.toNat⟩
  | _ => none

end RespClient
