import RespClient.Cli.Session
import RespClient.Socket.Conversation
import Std.Async.DNS
import Std.Async.TCP
import Std.Async.Timer

/-!
# The program

A session is a function of what the server has sent so far. The program runs it,
sends what it has written and prints what it has printed, and runs it again with
more from the server for as long as it starves.
-/

namespace RespClient.Cli

open Std.Async

abbrev Client := TCP.Socket.Client

/-- The outcome of an action, or nothing if it takes longer than so many milliseconds. -/
def within {α : Type} (limit : Option Nat) (action : Async α) : Async (Option α) :=
  match limit with
  | none => some <$> action
  | some limit =>
      Async.race (some <$> action) do
        sleep (.ofNat limit)
        return none

def failureOf (cause : IO.Error) : IoError :=
  .other (toString cause)

/-- Where nobody listens, there is no such thing to connect to. -/
def connectFailureOf : IO.Error → IoError
  | .noSuchThing _ _ _ => .refused
  | cause => failureOf cause

def socketAddress (port : UInt16) : Std.Net.IPAddr → Std.Net.SocketAddress
  | .v4 addr => .v4 { addr, port }
  | .v6 addr => .v6 { addr, port }

/-- Tries the addresses in order, and gives up with the failure of the last one. -/
def connectToAny (config : Config) (failure : IoError) :
    List Std.Net.IPAddr → Async (Except IoError Client)
  | [] => return .error failure
  | address :: rest => do
      try
        let client ← TCP.Socket.Client.mk
        let connecting := client.connect (socketAddress config.port address)
        match ← within (Config.limit config.connectTimeout) connecting with
        | some _ =>
            if config.noDelay then client.noDelay
            return .ok client
        | none => connectToAny config (.other "connection timed out") rest
      catch cause => connectToAny config (connectFailureOf cause) rest

def connectTo (config : Config) : Async (Except IoError Client) := do
  try
    let addresses ← DNS.getAddrInfo config.host (Decimal.showNat config.port.toNat)
    let failure := IoError.other (config.address ++ " resolved to no addresses")
    connectToAny config failure addresses.toList
  catch cause => return .error (failureOf cause)

def chunkSize : USize := 65536

/-- More bytes from the server, or why there are none. -/
def hear (client : Client) (limit : Option Nat) : Async (Bytes × Peer) := do
  try
    match ← within limit (client.recv? chunkSize.toUInt64) with
    | some (some data) => return (data.toList, .talking)
    | some none => return ([], .gone)
    | none => return ([], .silent)
  catch cause => return ([], .lost (failureOf cause))

/-- All that a stream still holds; the chunks in `taken` came before, the latest first. -/
partial def readAll (stream : IO.FS.Stream) (taken : List ByteArray) : IO Bytes := do
  let chunk ← stream.read chunkSize
  if chunk.isEmpty then return taken.reverse.flatMap ByteArray.toList
  else readAll stream (chunk :: taken)

def printFailure (failure : ClientError) : IO UInt32 := do
  IO.eprintln (report failure)
  return 1

/-- Carries a session on until it ends. `heard` is all that the server has sent; `sent` bytes and
`printed` characters have gone out before. -/
partial def converse (client : Client) (session : Conversation → Session Conversation)
    (heard : Bytes) (peer : Peer) (sent printed : Nat) : IO UInt32 := do
  let state := session { unread := heard, peer }
  let conversation := state.connection.map fun connection => connection.transport.socket
  let written := (conversation.map Conversation.written).getD []
  if sent < written.length then
    (client.send ⟨(written.drop sent).toArray⟩).block
  IO.print (state.output.drop printed)
  (← IO.getStdout).flush
  match conversation.bind Conversation.starved with
  | some limit =>
      let (more, peer) ← (hear client limit).block
      converse client session (heard ++ more) peer written.length state.output.length
  | none =>
      match state.failure with
      | some failure => printFailure failure
      | none => return 0

def carryOut (invocation : Invocation) : IO UInt32 := do
  match invocation.config with
  | .error cause => printFailure (.config cause)
  | .ok config =>
      match ← (connectTo config).block with
      | .error cause => printFailure (.fatal (.connection cause))
      | .ok client =>
          let input ← if invocation.task.readsInput then readAll (← IO.getStdin) [] else pure []
          let session conversation := run (fun _ => .ok conversation) input invocation
          try
            converse client session [] .talking 0 0
          catch cause => printFailure (.fatal (.connection (failureOf cause)))

def programName : String := "resp-client"

def usage : String :=
  "Usage: " ++ programName ++ " [-u URL] [--connect-timeout-ms MS] COMMAND\n\n" ++
    "Commands:\n" ++
    "  exec NAME [ARGUMENT]...              run a single command\n" ++
    "  pipeline                             run the commands on standard input together\n" ++
    "  multi                                run them in one transaction\n" ++
    "  subscribe [-p] [-t MS] CHANNEL...    print the messages of channels or patterns\n"

def program (arguments : List String) : IO UInt32 := do
  match parse arguments with
  | .accepted invocation => carryOut invocation
  | .help =>
      IO.print usage
      return 0
  | .version =>
      IO.println (programName ++ " " ++ version)
      return 0
  | .misuse =>
      IO.eprint usage
      return 2

end RespClient.Cli

def main (arguments : List String) : IO UInt32 :=
  RespClient.Cli.program arguments
