import RespClient.Batch
import RespClient.Cli.Invocation
import RespClient.Config.Url
import RespClient.Connection.Establish
import RespClient.PubSub.Subscriber
import RespClient.Reply.Printer

/-!
# Sessions

Carrying out an invocation: what is printed, how it ends, and the connection that
is left. Output that was printed before a failure stays.
-/

namespace RespClient.Cli

structure Session (σ : Type) where
  output : String
  failure : Option ClientError
  /-- There is none if no stream was opened. -/
  connection : Option (Connection σ)

def Session.exitCode {σ : Type} (session : Session σ) : Nat :=
  if session.failure.isSome then 1 else 0

/-- The line that reports a failure. -/
def report (failure : ClientError) : String :=
  "(error) " ++ failure.message

/-- One command for each line that is not blank, cut into words. -/
def readCommands (input : Bytes) : Except ClientError (List (List Bytes)) :=
  match Bytes.toText? input with
  | none => .error (.fatal (.connection .inputNotUtf8))
  | some text =>
      let lines := (text.toList.splitOn '\n').map Text.words
      .ok ((lines.filter (!·.isEmpty)).map fun words =>
        words.map fun word => Bytes.ofText (String.ofList word))

def printLine (text : String) : String :=
  text ++ "\n"

def printResult (index : Nat) (reply : Reply) : String :=
  printLine (Decimal.showNat index ++ ") " ++ reply.print)

def printResults (replies : List Reply) : String :=
  String.join (replies.mapIdx fun index reply => printResult (index + 1) reply)

/-- Messages are printed as they arrive, and other frames are not printed at all. -/
def printEvent : Event → String
  | .message message =>
      let pattern := match message.pattern with
        | some pattern => pattern ++ " "
        | none => ""
      printLine (pattern ++ message.channel ++ " " ++ Text.Lossy.text message.payload)
  | _ => ""

variable {σ : Type} [Socket σ]

def runExec (arguments : List String) (connection : Connection σ) : Session σ :=
  match (Connection.execute (encodeRequest (arguments.map Bytes.ofText))).runFrom connection with
  | (.ok reply, after) => ⟨printLine reply.print, none, some after⟩
  | (.error failure, after) => ⟨"", some failure, some after⟩

def runBatch (kind : BatchKind) (input : Bytes) (connection : Connection σ) : Session σ :=
  match readCommands input with
  | .error failure => ⟨"", some failure, some connection⟩
  | .ok commands =>
      match (Batch.start kind connection : Except ClientError (Batch σ Reply)) with
      | .error failure => ⟨"", some failure, some connection⟩
      | .ok batch =>
          let action : Batch.Action σ Reply (List Reply) := do
            commands.forM fun command => do
              let _ ← Batch.append (encodeRequest command) .ok
            Batch.resolve
          match action.runFrom batch with
          | (.ok replies, after) => ⟨printResults replies, none, some after.release⟩
          | (.error failure, after) => ⟨"", some failure, some after.release⟩

/-- Prints the events among at most `frames` frames. -/
def listen (timeout : Option Nat) : (frames : Nat) → Subscriber σ → String → Session σ
  | 0, subscriber, output => ⟨output, none, some subscriber.connection⟩
  | frames + 1, subscriber, output =>
      match (Subscriber.nextEvent timeout).runFrom subscriber with
      | (.error failure, after) => ⟨output, some failure, some after.connection⟩
      | (.ok none, after) => ⟨output, none, some after.connection⟩
      | (.ok (some event), after) => listen timeout frames after (output ++ printEvent event)

def runSubscribe (targets : List String) (patterns : Bool) (timeout : Option Nat)
    (connection : Connection σ) : Session σ :=
  match Subscriber.start connection with
  | .error failure => ⟨"", some failure, some connection⟩
  | .ok subscriber =>
      let names := targets.map Bytes.ofText
      let action := if patterns then Subscriber.psubscribe names else Subscriber.subscribe names
      match action.runFrom subscriber with
      | (.error failure, after) => ⟨"", some failure, some after.connection⟩
      | (.ok (), after) => listen timeout (after.outstanding + 1) after ""

def runTask (task : Task) (input : Bytes) (connection : Connection σ) : Session σ :=
  match task with
  | .exec arguments => runExec arguments connection
  | .pipeline => runBatch .pipeline input connection
  | .multi => runBatch .transaction input connection
  | .subscribe targets patterns timeout =>
      runSubscribe targets patterns (Config.limit timeout) connection

def Invocation.config (invocation : Invocation) : Except ConfigError Config := do
  let config ← Config.ofUrl invocation.url
  return { config with connectTimeout := invocation.connectTimeout }

def run (connect : Config → Except IoError σ) (input : Bytes) (invocation : Invocation) :
    Session σ :=
  match invocation.config with
  | .error cause => ⟨"", some (.config cause), none⟩
  | .ok config =>
      match Connection.establish connect config with
      | .unopened failure => ⟨"", some failure, none⟩
      | .opened (.error failure) connection => ⟨"", some failure, some connection⟩
      | .opened (.ok ()) connection => runTask invocation.task input connection

end RespClient.Cli
