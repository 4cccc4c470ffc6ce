import RespClient.Decimal.Word
import RespClient.Reply.Typed
import RespClient.Transport

/-!
# Reading replies

A reply starts with a type byte. Texts and integers end with their line; a bulk
string announces its length and an array its number of items, and the length `-1`
of either stands for a missing value.
-/

namespace RespClient

/-- The signed decimal text of a 64-bit integer. -/
def parseInteger (line : Bytes) : Except ProtocolError Int64 :=
  match (Bytes.toText? line).bind fun text => Decimal.int64? text.toList with
  | some value => .ok value
  | none => .error (.notAnInteger line)

namespace Reply

variable {σ : Type} [Socket σ]

/-- Reading something off a transport; only the stream itself can make it fail. -/
abbrev Reading (σ α : Type) := Attempt FatalError (Transport σ) α

def protocolFailure {α : Type} (cause : ProtocolError) : Reading σ α :=
  throw (.protocol cause)

def readText : Reading σ String := do
  let line ← Transport.readLine
  match Bytes.toText? line with
  | some text => return text
  | none => protocolFailure .lineNotUtf8

def readInteger : Reading σ Int64 := do
  let line ← Transport.readLine
  match parseInteger line with
  | .ok value => return value
  | .error cause => protocolFailure cause

def readBulk : Reading σ Reply := do
  let length ← readInteger
  if length = -1 then return nil
  else if length < -1 then protocolFailure (.negativeBulkLength length)
  else if maxBulkLength < length.toInt.toNat then protocolFailure (.bulkTooLong length)
  else
    let data ← Transport.read length.toInt.toNat
    let ending ← Transport.read 2
    if ending = Bytes.crlf then return bulk data
    else protocolFailure .bulkUnterminated

/-- Reads `count` items one after the other; those in `taken` came before them, the latest first. -/
def readItems (readItem : Reading σ Reply) (count : Nat) (taken : List Reply) :
    Reading σ (List Reply) :=
  match count with
  | 0 => return taken.reverse
  | count + 1 => do
      let item ← readItem
      readItems readItem count (item :: taken)

/-- An array, whose items are read by `contents` once their number is known. -/
def readArray (contents : Nat → Reading σ (List Reply)) : Reading σ Reply := do
  let count ← readInteger
  if count = -1 then return nil
  else if count < -1 then protocolFailure (.negativeArrayLength count)
  else
    let items ← contents count.toInt.toNat
    return array items

/-- What follows a type byte. -/
def readAfter (contents : Nat → Reading σ (List Reply)) (type : UInt8) : Reading σ Reply := do
  if type = '+'.toUInt8 then return simple (← readText)
  else if type = '-'.toUInt8 then return error (← readText)
  else if type = ':'.toUInt8 then return integer (← readInteger)
  else if type = '$'.toUInt8 then readBulk
  else if type = '*'.toUInt8 then readArray contents
  else protocolFailure (.unknownType type)

def readTyped (contents : Nat → Reading σ (List Reply)) : Reading σ Reply := do
  let type ← Transport.readByte
  readAfter contents type

/-- A reply in which arrays may stand inside each other to the given number of levels. -/
def readNested : (levels : Nat) → Reading σ Reply
  | 0 => readTyped fun _ => protocolFailure .nestedTooDeep
  | levels + 1 => readTyped fun count => readItems (readNested levels) count []

/-- The next reply, a server error included. -/
def readFrame : Reading σ Reply :=
  readNested maxNesting

end Reply

end RespClient
