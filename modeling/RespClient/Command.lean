import RespClient.Decimal.Shortest
import RespClient.Bytes

/-!
# Commands

A request is an array of bulk strings: the name of the command and its arguments.
A command is built up by adding arguments; an absent one adds nothing.
-/

namespace RespClient

/-- A type byte, a number and a line end. -/
def header (type : Char) (count : Nat) : Bytes :=
  type.toUInt8 :: (Decimal.digits count).map Char.toUInt8 ++ Bytes.crlf

def encodeBulk (data : Bytes) : Bytes :=
  header '$' data.length ++ data ++ Bytes.crlf

/-- The frame of a request with the given arguments, the name of the command first. -/
def encodeRequest (arguments : List Bytes) : Bytes :=
  header '*' arguments.length ++ arguments.flatMap encodeBulk

/-- A value that can be written as an argument. -/
inductive Argument where
  | bytes (data : Bytes)
  | text (value : String)
  | integer (value : Int)
  | single (value : Float32)
  | double (value : Float)
  | absent

def Argument.bytes? : Argument → Option Bytes
  | .bytes data => some data
  | .text value => some (Bytes.ofText value)
  | .integer value => some ((Decimal.signedDigits value).map Char.toUInt8)
  | .single value => some ((Decimal.Format.single.print value.toBits.toNat).map Char.toUInt8)
  | .double value => some ((Decimal.Format.double.print value.toBits.toNat).map Char.toUInt8)
  | .absent => none

structure Command where
  name : String
  arguments : Array Bytes := #[]

namespace Command

/-- The command of this name, without arguments. -/
def named (name : String) : Command :=
  { name }

def arg (command : Command) (argument : Argument) : Command :=
  match argument.bytes? with
  | some data => { command with arguments := command.arguments.push data }
  | none => command

def args (command : Command) (arguments : List Argument) : Command :=
  arguments.foldl arg command

def argIf (command : Command) (condition : Bool) (argument : Argument) : Command :=
  if condition then command.arg argument else command

/-- How many strings the request has, the name among them. -/
def length (command : Command) : Nat :=
  command.arguments.size + 1

def parts (command : Command) : List Bytes :=
  Bytes.ofText command.name :: command.arguments.toList

def frame (command : Command) : Bytes :=
  encodeRequest command.parts

def multi : Command := named "MULTI"

def exec : Command := named "EXEC"

def discard : Command := named "DISCARD"

end Command

end RespClient
