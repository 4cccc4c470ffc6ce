import RespClient.Decimal.Integer
import RespClient.Text.Cut

/-!
# Command-line options

Arguments are read from the left. Long options follow two hyphens, letters follow
one and may be joined; a value is attached or is the next argument, which then may
not look like an option. Two hyphens alone turn all that follows into operands.
-/

namespace RespClient.Cli

inductive ValueKind where
  | none
  | text
  | number
deriving DecidableEq

structure OptionSpec where
  long : String
  letter : Option Char
  kind : ValueKind

inductive Word where
  | setting (long value : String)
  | operand (text : String)
  | invalid
deriving DecidableEq

/-- A number of 64 bits. -/
def number? (text : String) : Option Nat :=
  (Decimal.unsigned? text.toList).bind fun value => if value < UInt64.size then some value else none

def OptionSpec.set (spec : OptionSpec) (value : String) : Word :=
  if spec.kind = .number ∧ (number? value).isNone then .invalid else .setting spec.long value

/-- What one argument says: it is an operand, it is complete, or its last option needs a value. -/
inductive Reading where
  | operand
  | words (words : List Word)
  | awaiting (words : List Word) (spec : OptionSpec)

/-- Letters up to the first one that takes a value; what is joined to that letter is the value. -/
def readLetters (specs : List OptionSpec) : List Char → Reading
  | [] => .words []
  | letter :: rest =>
      match specs.find? fun spec => spec.letter = some letter with
      | none => .words [.invalid]
      | some spec =>
          if spec.kind = .none then
            match readLetters specs rest with
            | .words words => .words (.setting spec.long "" :: words)
            | .awaiting words last => .awaiting (.setting spec.long "" :: words) last
            | .operand => .words [.invalid]
          else
            match rest with
            | [] => .awaiting [] spec
            | '=' :: value => .words [spec.set (String.ofList value)]
            | value => .words [spec.set (String.ofList value)]

def readLong (specs : List OptionSpec) (text : List Char) : Reading :=
  let (name, value) := match Text.cutFirst '=' text with
    | some (name, value) => (name, some (String.ofList value))
    | none => (text, none)
  match specs.find? (fun spec => spec.long = String.ofList name), value with
  | none, _ => .words [.invalid]
  | some spec, none =>
      if spec.kind = .none then .words [.setting spec.long ""] else .awaiting [] spec
  | some spec, some value =>
      if spec.kind = .none then .words [.invalid] else .words [spec.set value]

def readArgument (specs : List OptionSpec) (argument : String) : Reading :=
  match argument.toList with
  | '-' :: '-' :: text => readLong specs text
  | ['-'] => .operand
  | '-' :: letters => readLetters specs letters
  | _ => .operand

/-- A hyphen starts an option unless it stands alone. -/
def isValue (argument : String) : Bool :=
  match argument.toList with
  | '-' :: _ :: _ => false
  | _ => true

/-- The words of an argument list, and the arguments from the first operand on if reading stops
there. -/
def scan (specs : List OptionSpec) (stopAtOperand : Bool) : List String → List Word × List String
  | [] => ([], [])
  | argument :: rest =>
      if argument = "--" then
        if stopAtOperand then ([.invalid], []) else (rest.map .operand, [])
      else
        match readArgument specs argument with
        | .operand =>
            if stopAtOperand then ([], argument :: rest)
            else
              let (words, left) := scan specs stopAtOperand rest
              (.operand argument :: words, left)
        | .words words =>
            let (others, left) := scan specs stopAtOperand rest
            (words ++ others, left)
        | .awaiting words spec =>
            match rest with
            | [] => (words ++ [.invalid], [])
            | value :: rest =>
                if isValue value then
                  let (others, left) := scan specs stopAtOperand rest
                  (words ++ spec.set value :: others, left)
                else (words ++ [.invalid], [])

end RespClient.Cli
