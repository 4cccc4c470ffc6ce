import RespClient.Decimal.Integer
import RespClient.Limits
import RespClient.Reply.Basic
import RespClient.Text.Quoted

/-!
# Errors

Every failure is a cause of one of six classes. A fatal one leaves the position
in the stream untrustworthy: the socket failed, or the bytes make no sense. The
others leave the connection as usable as it was. The wording of each cause stands
here and nowhere else.
-/

namespace RespClient

open Decimal (showNat showInt)

/-- What a socket reports. -/
inductive IoError where
  | closedByPeer
  | acceptedNothing
  | unavailable
  | refused
  | inputNotUtf8
  | other (text : String)
deriving DecidableEq

def IoError.message : IoError → String
  | closedByPeer => "connection closed by peer"
  | acceptedNothing => "socket accepted no bytes"
  | unavailable => "Resource temporarily unavailable (os error 11)"
  | refused => "Connection refused (os error 111)"
  | inputNotUtf8 => "stream did not contain valid UTF-8"
  | other text => text

inductive ProtocolError where
  | lineWithoutReturn
  | lineTooLong
  | unknownType (byte : UInt8)
  | notAnInteger (line : Bytes)
  | lineNotUtf8
  | negativeBulkLength (length : Int64)
  | bulkTooLong (length : Int64)
  | bulkUnterminated
  | negativeArrayLength (length : Int64)
  | nestedTooDeep
  | execWithoutArray (kind : Reply.Kind)
  | resultCount (expected got : Nat)
  | other (text : String)
deriving DecidableEq

def hexByte (byte : UInt8) : String :=
  String.ofList [Nat.digitChar (byte.toNat / 16), Nat.digitChar (byte.toNat % 16)]

def ProtocolError.message : ProtocolError → String
  | lineWithoutReturn => "line not terminated by CRLF"
  | lineTooLong => "header line exceeds " ++ showNat maxLineLength ++ " bytes"
  | unknownType byte => "unexpected reply type byte 0x" ++ hexByte byte
  | notAnInteger line => "unable to parse " ++ Text.quoteBytes line ++ " as an integer"
  | lineNotUtf8 => "reply line is not valid UTF-8"
  | negativeBulkLength length => "negative bulk string length: " ++ showInt length.toInt
  | bulkTooLong length =>
      "bulk string length " ++ showInt length.toInt ++ " exceeds " ++ showNat maxBulkLength
  | bulkUnterminated => "bulk string not terminated by CRLF"
  | negativeArrayLength length => "negative array length: " ++ showInt length.toInt
  | nestedTooDeep => "arrays nested deeper than " ++ showNat maxNesting
  | execWithoutArray kind => "EXEC returned " ++ kind.name ++ " instead of an array"
  | resultCount expected got =>
      "transaction desync: expected " ++ showNat expected ++ " results, got " ++ showNat got
  | other text => text

inductive FatalError where
  | connection (cause : IoError)
  | protocol (cause : ProtocolError)
deriving DecidableEq

def FatalError.message : FatalError → String
  | connection cause => "connection error: " ++ cause.message
  | protocol cause => "protocol error: " ++ cause.message

/-- What a typed result was looking for. -/
inductive Expectation where
  | integer
  | integerOrOk
  | number
  | string
  | array
deriving DecidableEq

def Expectation.name : Expectation → String
  | integer => "integer"
  | integerOrOk => "integer or OK status"
  | number => "number"
  | string => "string"
  | array => "array"

inductive DecodeError where
  | mismatch (expected : Expectation) (got : Reply.Kind)
  | negativeInteger (value : Int64)
  | notAFloat (bytes : Bytes)
  | bulkNotUtf8
  | elementCount (expected got : Nat)
  | frameLength (name : String) (length : Nat)
  | other (text : String)
deriving DecidableEq

def DecodeError.message : DecodeError → String
  | mismatch expected got => "expected " ++ expected.name ++ ", got " ++ got.name
  | negativeInteger value => "negative integer " ++ showInt value.toInt
  | notAFloat bytes => "unable to parse " ++ Text.quoteBytes bytes ++ " as a float"
  | bulkNotUtf8 => "bulk string is not valid UTF-8"
  | elementCount expected got =>
      "expected array of " ++ showNat expected ++ " elements, got " ++ showNat got
  | frameLength name length => name ++ " frame with " ++ showNat length ++ " elements"
  | other text => text

/-- What a caller tried to do while the connection was not free for it. -/
inductive Activity where
  | execute
  | startBatch
  | subscribe
  | waitForMessages
  | send (command : String)
deriving DecidableEq

def Activity.describe : Activity → String
  | execute => "execute a command"
  | startBatch => "start a batch"
  | subscribe => "subscribe"
  | waitForMessages => "wait for messages"
  | send command => "send " ++ command

inductive UsageError where
  | broken (reason : FatalError)
  | requestsPending (activity : Activity) (count : Nat)
  | inSubscribeMode (activity : Activity)
  | nothingInFlight
  | discardTooMany (count inFlight : Nat)
  | appendAfterResolve
  | alreadyResolved
  | noChannel
  | noPattern
  | other (text : String)
deriving DecidableEq

def UsageError.message : UsageError → String
  | broken reason => "connection is broken: " ++ reason.message
  | requestsPending activity count =>
      "cannot " ++ activity.describe ++ ": " ++ showNat count ++ " requests are pending"
  | inSubscribeMode activity =>
      "cannot " ++ activity.describe ++ ": connection is in subscribe mode"
  | nothingInFlight => "cannot read a reply: no requests in flight"
  | discardTooMany count inFlight =>
      "cannot discard " ++ showNat count ++ " replies: only " ++ showNat inFlight ++
        " requests in flight"
  | appendAfterResolve => "cannot append: batch already resolved"
  | alreadyResolved => "batch already resolved"
  | noChannel => "SUBSCRIBE needs at least one channel"
  | noPattern => "PSUBSCRIBE needs at least one pattern"
  | other text => text

inductive ConfigError where
  | unsupportedScheme (url : String)
  | invalidPort (text : String)
  | missingHost (url : String)
  | invalidDatabase (text : String)
  | databaseOutOfRange (index : Nat)
  | emptyHost
  | usernameWithoutPassword
  | readBufferTooSmall (size : Nat)
  | other (text : String)
deriving DecidableEq

def ConfigError.message : ConfigError → String
  | unsupportedScheme url => "unsupported URL scheme: " ++ url
  | invalidPort text => "invalid port: " ++ Text.quote text
  | missingHost url => "missing host in URL: " ++ url
  | invalidDatabase text => "invalid database index: " ++ Text.quote text
  | databaseOutOfRange index =>
      "invalid database index " ++ showNat index ++ " (must be below " ++
        showNat databaseCount ++ ")"
  | emptyHost => "host must not be empty"
  | usernameWithoutPassword => "username given without a password"
  | readBufferTooSmall size =>
      "read buffer of " ++ showNat size ++ " bytes is below the minimum of " ++
        showNat minReadBuffer
  | other text => text

inductive ClientError where
  | fatal (cause : FatalError)
  | server (message : String)
  | decode (cause : DecodeError)
  | usage (cause : UsageError)
  | config (cause : ConfigError)
deriving DecidableEq

namespace ClientError

def message : ClientError → String
  | fatal cause => cause.message
  | server message => "server error: " ++ message
  | decode cause => "decode error: " ++ cause.message
  | usage cause => "usage error: " ++ cause.message
  | config cause => "configuration error: " ++ cause.message

def isFatal : ClientError → Bool
  | fatal _ => true
  | _ => false

def isServer : ClientError → Bool
  | server _ => true
  | _ => false

def isUsage : ClientError → Bool
  | usage _ => true
  | _ => false

end ClientError

end RespClient
