import RespClient.Text.Lossy
import RespClient.Text.Unprintable
import RespClient.Text.Extending

/-!
# Quoted text

Text inside messages stands in double quotes. Tab, return, newline, NUL, the
backslash and the quote have two-character escapes; any other character that
would not show, or would join the character before it, is written by its code
point in hexadecimal.
-/

namespace RespClient.Text

namespace Quoted

def hex (code : Nat) : List Char :=
  Nat.toDigits 16 code

def codePoint (char : Char) : List Char :=
  '\\' :: 'u' :: '\x7b' :: hex char.toNat ++ ['\x7d']

def escape (char : Char) : List Char :=
  match char with
  | '\t' => ['\\', 't']
  | '\r' => ['\\', 'r']
  | '\n' => ['\\', 'n']
  | '\x00' => ['\\', '0']
  | '\\' => ['\\', '\\']
  | '"' => ['\\', '"']
  | _ =>
      if ' ' ≤ char ∧ char ≤ '~' then [char]
      else if isExtending char || isUnprintable char then codePoint char
      else [char]

def encode (chars : List Char) : List Char :=
  '"' :: chars.flatMap escape ++ ['"']

end Quoted

def quote (text : String) : String :=
  String.ofList (Quoted.encode text.toList)

/-- Bytes are quoted as the text that lossy decoding reads in them. -/
def quoteBytes (bytes : Bytes) : String :=
  String.ofList (Quoted.encode (Lossy.chars bytes))

/-- An optional text as a field of a printed record. -/
def quoteOption : Option String → String
  | none => "None"
  | some text => "Some(" ++ quote text ++ ")"

end RespClient.Text
