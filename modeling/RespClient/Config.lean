import RespClient.Error
import RespClient.Socket.Basic
import RespClient.Text.Cut
import RespClient.Text.Record

/-!
# Configuration

Where to connect, who to be there, and how the stream is set up. A URL names some
of this and the rest keeps its default. The password is never printed.
-/

namespace RespClient

/-- Timeouts are in milliseconds, and zero means none. -/
structure Config where
  host : String := "127.0.0.1"
  port : UInt16 := defaultPort
  database : UInt8 := 0
  username : Option String := none
  password : Option String := none
  connectTimeout : Nat := 0
  readTimeout : Nat := 0
  writeTimeout : Nat := 0
  noDelay : Bool := true
  readBuffer : Nat := defaultReadBuffer
deriving DecidableEq

namespace Config

open Decimal (showNat)

def validate (config : Config) : Except ConfigError Unit :=
  if databaseCount ≤ config.database.toNat then
    .error (.databaseOutOfRange config.database.toNat)
  else if config.host = "" then .error .emptyHost
  else if config.username.isSome ∧ config.password.isNone then .error .usernameWithoutPassword
  else if config.readBuffer < minReadBuffer then .error (.readBufferTooSmall config.readBuffer)
  else .ok ()

def address (config : Config) : String :=
  config.host ++ ":" ++ showNat config.port.toNat

/-- A time limit, where zero stands for none. -/
def limit (milliseconds : Nat) : Option Nat :=
  if milliseconds = 0 then none else some milliseconds

def socketOptions (config : Config) : SocketOptions :=
  { noDelay := config.noDelay
    readTimeout := limit config.readTimeout
    writeTimeout := limit config.writeTimeout }

/-- The printed configuration, which tells only whether there is a password. -/
def print (config : Config) : String :=
  Text.printRecord "Config"
    [⟨"host", Text.quote config.host⟩,
     ⟨"port", showNat config.port.toNat⟩,
     ⟨"database", showNat config.database.toNat⟩,
     ⟨"username", Text.quoteOption config.username⟩,
     ⟨"password", Text.quoteOption (config.password.map fun _ => "[REDACTED]")⟩,
     ⟨"connect_timeout_ms", showNat config.connectTimeout⟩,
     ⟨"read_timeout_ms", showNat config.readTimeout⟩,
     ⟨"write_timeout_ms", showNat config.writeTimeout⟩,
     ⟨"nodelay", Text.showFlag config.noDelay⟩,
     ⟨"read_buffer_size", showNat config.readBuffer⟩]

end Config

end RespClient
