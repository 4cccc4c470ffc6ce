import RespClient.Cli.Options

/-!
# Invocations

What the command line asks for: a server to connect to, a limit on connecting, and
one of four tasks. An argument list is an invocation, a request for help or for
the version, or a misuse.
-/

namespace RespClient.Cli

inductive Task where
  | exec (arguments : List String)
  | pipeline
  | multi
  /-- A time limit of zero means none. -/
  | subscribe (targets : List String) (patterns : Bool) (timeout : Nat)
deriving DecidableEq

/-- The tasks that take their commands from standard input. -/
def Task.readsInput : Task → Bool
  | pipeline | multi => true
  | exec _ | subscribe _ _ _ => false

structure Invocation where
  url : String
  connectTimeout : Nat
  task : Task
deriving DecidableEq

inductive Parsed (α : Type) where
  | accepted (value : α)
  | help
  | version
  | misuse
deriving DecidableEq

def Parsed.bind {α β : Type} : Parsed α → (α → Parsed β) → Parsed β
  | accepted value, next => next value
  | help, _ => help
  | version, _ => version
  | misuse, _ => misuse

/-- The settings and the operands of one level of the command line. -/
structure Level where
  settings : List (String × String) := []
  operands : List String := []

def Level.value? (level : Level) (long : String) : Option String :=
  level.settings.lookup long

def helpOption : OptionSpec := ⟨"help", some 'h', .none⟩

/-- No option may be given twice, operands are refused where none are taken, and the first word
that asks for help or makes no sense decides. -/
def collect (takesOperands : Bool) : List Word → Level → Parsed Level
  | [], level => .accepted level
  | .invalid :: _, _ => .misuse
  | .operand text :: words, level =>
      if takesOperands then
        collect takesOperands words { level with operands := level.operands ++ [text] }
      else .misuse
  | .setting long value :: words, level =>
      if long = "help" then .help
      else if long = "version" then .version
      else if (level.value? long).isSome then .misuse
      else collect takesOperands words { level with settings := (long, value) :: level.settings }

/-- The words that help can be asked about. -/
def topics : List String := ["exec", "pipeline", "multi", "subscribe", "help"]

/-- Help is about the command line or about one topic. -/
def parseHelp {α : Type} : List String → Parsed α
  | [] => .help
  | [topic] => if topic ∈ topics then .help else .misuse
  | _ => .misuse

def parseTask (name : String) (arguments : List String) : Parsed Task :=
  let level (specs : List OptionSpec) (takesOperands : Bool) : Parsed Level :=
    collect takesOperands (scan (helpOption :: specs) false arguments).1 {}
  if name = "exec" then
    (level [] true).bind fun level =>
      if level.operands = [] then .misuse else .accepted (.exec level.operands)
  else if name = "pipeline" then (level [] false).bind fun _ => .accepted .pipeline
  else if name = "multi" then (level [] false).bind fun _ => .accepted .multi
  else if name = "subscribe" then
    let specs := [⟨"pattern", some 'p', .none⟩, ⟨"timeout-ms", some 't', .number⟩]
    (level specs true).bind fun level =>
      if level.operands = [] then .misuse
      else
        .accepted (.subscribe level.operands (level.value? "pattern").isSome
          (((level.value? "timeout-ms").bind number?).getD 0))
  else if name = "help" then parseHelp arguments
  else .misuse

def topOptions : List OptionSpec :=
  [helpOption, ⟨"version", some 'V', .none⟩, ⟨"url", some 'u', .text⟩,
    ⟨"connect-timeout-ms", none, .number⟩]

def defaultUrl : String := "redis://127.0.0.1:6379"

def defaultConnectTimeout : Nat := 5000

def parse (arguments : List String) : Parsed Invocation :=
  let (words, rest) := scan topOptions true arguments
  (collect false words {}).bind fun level =>
    match rest with
    | [] => .misuse
    | name :: arguments =>
        (parseTask name arguments).bind fun task =>
          .accepted
            { url := (level.value? "url").getD defaultUrl
              connectTimeout :=
                ((level.value? "connect-timeout-ms").bind number?).getD defaultConnectTimeout
              task }

end RespClient.Cli
