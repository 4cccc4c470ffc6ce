import RespClient.Decimal.Integer
import RespClient.Reply.Basic

/-!
# Printed replies

A reply is printed for a reader at a terminal. The items of an array stand under
each other behind their right-aligned numbers, so the whole of a nested array is
shifted to the column where its first item starts.
-/

namespace RespClient.Reply

def hexDigits (byte : UInt8) : List Char :=
  [Nat.digitChar (byte.toNat / 16), Nat.digitChar (byte.toNat % 16)]

def escapeByte (byte : UInt8) : List Char :=
  if byte = 0x09 then ['\\', 't']
  else if byte = 0x0d then ['\\', 'r']
  else if byte = 0x0a then ['\\', 'n']
  else if byte = 0x27 ∨ byte = 0x22 ∨ byte = 0x5c then ['\\', Char.ofNat byte.toNat]
  else if 0x20 ≤ byte ∧ byte ≤ 0x7e then [Char.ofNat byte.toNat]
  else '\\' :: 'x' :: hexDigits byte

def padLeft (width : Nat) (chars : List Char) : List Char :=
  List.replicate (width - chars.length) ' ' ++ chars

def lineBreak (index indent : Nat) : List Char :=
  if index = 1 then [] else '\n' :: List.replicate indent ' '

mutual

/-- The printed reply, where `indent` is the column in which it starts. -/
def layout (indent : Nat) : Reply → List Char
  | nil => "(nil)".toList
  | integer value => "(integer) ".toList ++ Decimal.signedDigits value.toInt
  | simple text => text.toList
  | bulk bytes => '"' :: bytes.flatMap escapeByte ++ ['"']
  | error message => "(error) ".toList ++ message.toList
  | array [] => "(empty array)".toList
  | array items => layoutItems indent (Decimal.digits items.length).length 1 items

def layoutItems (indent width index : Nat) : List Reply → List Char
  | [] => []
  | item :: rest =>
      lineBreak index indent ++ padLeft width (Decimal.digits index) ++ ')' :: ' ' ::
        (layout (indent + width + 2) item ++ layoutItems indent width (index + 1) rest)

end

def print (reply : Reply) : String :=
  String.ofList (layout 0 reply)

end RespClient.Reply
