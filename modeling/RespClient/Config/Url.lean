import RespClient.Config

/-!
# Connection URLs

A URL has the form `redis://[[user]:password@]host[:port][/database]`. The last
`@` ends the credentials, so a password may contain any character; without a colon
the credentials are a password alone. `render` writes the URL of what it is given.
-/

namespace RespClient.Config

def scheme : List Char :=
  "redis://".toList

structure Credentials where
  username : Option String
  password : Option String

/-- Without a colon all of it is the password. An empty user name is no user name. -/
def credentials (info : List Char) : Credentials :=
  match Text.cutFirst ':' info with
  | none => ⟨none, some (String.ofList info)⟩
  | some (user, password) =>
      ⟨if user = [] then none else some (String.ofList user), some (String.ofList password)⟩

def parsePort (text : List Char) : Except ConfigError UInt16 :=
  match Decimal.unsigned? text with
  | some value =>
      if value < 65536 then .ok value.toUInt16 else .error (.invalidPort (String.ofList text))
  | none => .error (.invalidPort (String.ofList text))

/-- An empty index stands for the default database. -/
def parseDatabase (text : List Char) : Except ConfigError UInt8 :=
  if text = [] then .ok 0
  else
    match Decimal.unsigned? text with
    | some value =>
        if value < 256 then .ok value.toUInt8
        else .error (.invalidDatabase (String.ofList text))
    | none => .error (.invalidDatabase (String.ofList text))

/-- Cuts at the first separator; without one, everything stands before it. -/
def cutOptional (separator : Char) (text : List Char) : List Char × Option (List Char) :=
  match Text.cutFirst separator text with
  | some (before, after) => (before, some after)
  | none => (text, none)

def ofUrl (url : String) : Except ConfigError Config := do
  let text := url.toList
  if scheme.isPrefixOf text then
    let rest := text.drop scheme.length
    let (account, endpoint) := match Text.cutLast '@' rest with
      | some (info, endpoint) => (credentials info, endpoint)
      | none => (⟨none, none⟩, rest)
    let (hostAndPort, database) := cutOptional '/' endpoint
    let (host, port) := cutOptional ':' hostAndPort
    let port ← match port with
      | some text => parsePort text
      | none => pure defaultPort
    if host = [] then throw (.missingHost url)
    else
      let database ← parseDatabase (database.getD [])
      let config : Config :=
        { host := String.ofList host
          port
          database
          username := account.username
          password := account.password }
      config.validate
      return config
  else throw (.unsupportedScheme url)

/-- The parts of a URL that may be left out, and the host that may not. -/
structure Url where
  username : Option String
  password : Option String
  host : String
  port : Option UInt16
  database : Option UInt8

namespace Url

/-- A user name is written only in front of a password. -/
def renderCredentials (url : Url) : List Char :=
  match url.password with
  | none => []
  | some password => (url.username.getD "").toList ++ ':' :: password.toList ++ ['@']

def render (url : Url) : String :=
  String.ofList <|
    scheme ++ url.renderCredentials ++ url.host.toList ++
      (match url.port with
        | some port => ':' :: Decimal.digits port.toNat
        | none => []) ++
      (match url.database with
        | some database => '/' :: Decimal.digits database.toNat
        | none => [])

end Url

end RespClient.Config
