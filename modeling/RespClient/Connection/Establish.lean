import RespClient.Config
import RespClient.Connection

/-!
# Establishing a connection

A new connection authenticates if the configuration has a password, and then
selects the database unless it is the first one. Nothing is sent after a step
that failed.
-/

namespace RespClient.Connection

variable {σ : Type} [Socket σ]

def authCommand (username : Option String) (password : String) : Command :=
  let auth := Command.named "AUTH"
  match username with
  | some name => (auth.arg (.text name)).arg (.text password)
  | none => auth.arg (.text password)

def selectCommand (database : UInt8) : Command :=
  (Command.named "SELECT").arg (.integer database.toNat)

def authenticate (config : Config) : Action σ Unit :=
  match config.password with
  | some password => do
      let _ ← execute (authCommand config.username password).frame
  | none => return

def selectDatabase (config : Config) : Action σ Unit := do
  if config.database = 0 then return
  else
    let _ ← execute (selectCommand config.database).frame

def handshake (config : Config) : Action σ Unit := do
  authenticate config
  selectDatabase config

/-- What became of an attempt to connect: no stream was opened, or one was and the handshake on it
ended as told. -/
inductive Establishment (σ : Type) where
  | unopened (cause : ClientError)
  | opened (outcome : Except ClientError Unit) (connection : Connection σ)

def establish (connect : Config → Except IoError σ) (config : Config) : Establishment σ :=
  match config.validate with
  | .error cause => .unopened (.config cause)
  | .ok () =>
      match connect config with
      | .error cause => .unopened (.fatal (.connection cause))
      | .ok socket =>
          let (outcome, connection) :=
            (handshake config).runFrom (ofSocketWith config.readBuffer socket)
          .opened outcome connection

end RespClient.Connection
