import RespClient.Decimal.Fraction
import RespClient.Error
import RespClient.Text.Blank

/-!
# Typed results

A result type is a scalar or is built from others as an option, a list, a kept
failure, a pair or a triple. `decode` converts a reply to it. Every type refuses
a server error, except the one that keeps failures as values.
-/

namespace RespClient

inductive ResultType where
  | value
  | int64
  | uint64
  | bool
  | float
  | string
  | bytes
  | unit
  | option (inner : ResultType)
  | list (inner : ResultType)
  | attempt (inner : ResultType)
  | pair (first second : ResultType)
  | triple (first second third : ResultType)
deriving DecidableEq, Inhabited

namespace ResultType

@[reducible] def Value : ResultType → Type
  | value => Reply
  | int64 => Int64
  | uint64 => UInt64
  | bool => Bool
  | float => Float
  | string => String
  | bytes => Bytes
  | unit => Unit
  | option inner => Option inner.Value
  | list inner => List inner.Value
  | attempt inner => Except ClientError inner.Value
  | pair first second => first.Value × second.Value
  | triple first second third => first.Value × second.Value × third.Value

end ResultType

namespace Reply

/-- The reply as the answer to a request: a server error is a failure, and all else is a value. -/
def check : Reply → Except ClientError Reply
  | error message => .error (.server message)
  | reply => .ok reply

def mismatch {α : Type} (expected : Expectation) (reply : Reply) : Except ClientError α :=
  match reply.check with
  | .error failure => .error failure
  | .ok _ => .error (.decode (.mismatch expected reply.kind))

def toInt64 : Reply → Except ClientError Int64
  | integer value => .ok value
  | reply => reply.mismatch .integer

def toUInt64 (reply : Reply) : Except ClientError UInt64 :=
  match reply.toInt64 with
  | .error failure => .error failure
  | .ok value =>
      if value < 0 then .error (.decode (.negativeInteger value)) else .ok value.toUInt64

/-- Nil is false, an integer is true unless it is zero, and the status `OK` is true. -/
def toBool : Reply → Except ClientError Bool
  | nil => .ok false
  | integer value => .ok (value ≠ 0)
  | reply => if reply.isOk then .ok true else reply.mismatch .integerOrOk

def parseFloat (data : Bytes) : Except ClientError Float :=
  match (Bytes.toText? data).bind fun text => Decimal.float? (Text.trim text.toList) with
  | some value => .ok value
  | none => .error (.decode (.notAFloat data))

def toFloat : Reply → Except ClientError Float
  | integer value => .ok value.toFloat
  | bulk data => parseFloat data
  | simple text => parseFloat (Bytes.ofText text)
  | reply => reply.mismatch .number

def toText : Reply → Except ClientError String
  | simple text => .ok text
  | bulk data =>
      match Bytes.toText? data with
      | some text => .ok text
      | none => .error (.decode .bulkNotUtf8)
  | reply => reply.mismatch .string

def toBytes : Reply → Except ClientError Bytes
  | bulk data => .ok data
  | simple text => .ok (Bytes.ofText text)
  | reply => reply.mismatch .string

def toItems : Reply → Except ClientError (List Reply)
  | array items => .ok items
  | reply => reply.mismatch .array

end Reply

namespace ResultType

/-- The items of an array are converted from the left, up to the first failure. -/
def decode : (type : ResultType) → Reply → Except ClientError type.Value
  | value, reply => reply.check
  | int64, reply => reply.toInt64
  | uint64, reply => reply.toUInt64
  | bool, reply => reply.toBool
  | float, reply => reply.toFloat
  | string, reply => reply.toText
  | bytes, reply => reply.toBytes
  | unit, reply => reply.check.map fun _ => ()
  | option _, .nil => .ok none
  | option inner, reply => (inner.decode reply).map some
  | list inner, reply => do
      let items ← reply.toItems
      items.mapM inner.decode
  | attempt inner, reply => .ok (inner.decode reply)
  | pair first second, reply => do
      match ← reply.toItems with
      | [one, two] =>
          let one ← first.decode one
          let two ← second.decode two
          return (one, two)
      | items => throw (.decode (.elementCount 2 items.length))
  | triple first second third, reply => do
      match ← reply.toItems with
      | [one, two, three] =>
          let one ← first.decode one
          let two ← second.decode two
          let three ← third.decode three
          return (one, two, three)
      | items => throw (.decode (.elementCount 3 items.length))

end ResultType

end RespClient
