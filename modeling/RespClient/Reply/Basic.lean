import RespClient.Bytes

/-!
# Replies

The tree of values that one server reply decodes to. A missing value is apart
from an empty string and from an empty array, and a server error stays data until
someone asks for the value it stands in for.
-/

namespace RespClient

inductive Reply where
  | nil
  | integer (value : Int64)
  | simple (text : String)
  | bulk (bytes : Bytes)
  | array (items : List Reply)
  | error (message : String)
deriving Inhabited

namespace Reply

inductive Kind where
  | nil
  | integer
  | simple
  | bulk
  | array
  | error
deriving DecidableEq

def Kind.name : Kind → String
  | .nil => "nil"
  | .integer => "integer"
  | .simple => "simple string"
  | .bulk => "bulk string"
  | .array => "array"
  | .error => "error"

def kind : Reply → Kind
  | nil => .nil
  | integer _ => .integer
  | simple _ => .simple
  | bulk _ => .bulk
  | array _ => .array
  | error _ => .error

def isNil (reply : Reply) : Bool :=
  reply.kind = .nil

def isError (reply : Reply) : Bool :=
  reply.kind = .error

/-- The status reply `OK`. -/
def isOk : Reply → Bool
  | simple text => text = "OK"
  | _ => false

def integer? : Reply → Option Int64
  | integer value => some value
  | _ => none

/-- The bytes of a bulk or simple string. -/
def bytes? : Reply → Option Bytes
  | bulk bytes => some bytes
  | simple text => some (Bytes.ofText text)
  | _ => none

def items? : Reply → Option (List Reply)
  | array items => some items
  | _ => none

mutual

def same : Reply → Reply → Bool
  | nil, nil => true
  | integer first, integer second => first = second
  | simple first, simple second => first = second
  | bulk first, bulk second => first = second
  | array first, array second => sameItems first second
  | error first, error second => first = second
  | _, _ => false

def sameItems : List Reply → List Reply → Bool
  | [], [] => true
  | first :: rest, second :: tail => same first second && sameItems rest tail
  | _, _ => false

end

mutual

theorem same_iff : ∀ first second : Reply, same first second = true ↔ first = second
  | nil, second => by cases second <;> simp [same]
  | integer _, second => by cases second <;> simp [same]
  | simple _, second => by cases second <;> simp [same]
  | bulk _, second => by cases second <;> simp [same]
  | array items, second => by cases second <;> simp [same, sameItems_iff items]
  | error _, second => by cases second <;> simp [same]

theorem sameItems_iff : ∀ first second : List Reply, sameItems first second = true ↔ first = second
  | [], second => by cases second <;> simp [sameItems]
  | first :: rest, second => by
      cases second <;> simp [sameItems, same_iff first, sameItems_iff rest]

end

instance : DecidableEq Reply := fun first second =>
  decidable_of_iff (same first second = true) (same_iff first second)

end Reply

end RespClient
