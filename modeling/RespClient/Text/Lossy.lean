import RespClient.Bytes

/-!
# Lossy UTF-8

Bytes that are no UTF-8 still have to be shown. Each well-formed sequence gives
its character, and each longest piece that begins a sequence without finishing
one gives a single replacement character.
-/

namespace RespClient.Text.Lossy

def replacement : Char := '\ufffd'

/-- A sequence whose first bytes have been read. The next byte has to lie between `low` and `high`;
the ones after it may be any continuation byte. -/
structure Sequence where
  value : Nat
  missing : Nat
  low : UInt8 := 0x80
  high : UInt8 := 0xbf

/-- What a byte means where a character starts. -/
inductive Lead where
  | scalar (char : Char)
  | opens (sequence : Sequence)
  | stray

/-- The bounds on the second byte shut out overlong forms, surrogates and values above `10ffff`. -/
def lead (byte : UInt8) : Lead :=
  if byte < 0x80 then .scalar (Char.ofNat byte.toNat)
  else if byte < 0xc2 then .stray
  else if byte < 0xe0 then .opens { value := byte.toNat % 32, missing := 1 }
  else if byte = 0xe0 then .opens { value := 0, missing := 2, low := 0xa0 }
  else if byte = 0xed then .opens { value := 13, missing := 2, high := 0x9f }
  else if byte < 0xf0 then .opens { value := byte.toNat % 16, missing := 2 }
  else if byte = 0xf0 then .opens { value := 0, missing := 3, low := 0x90 }
  else if byte < 0xf4 then .opens { value := byte.toNat % 8, missing := 3 }
  else if byte = 0xf4 then .opens { value := 4, missing := 3, high := 0x8f }
  else .stray

structure State where
  chars : Array Char := #[]
  pending : Option Sequence := none

def State.start (chars : Array Char) (byte : UInt8) : State :=
  match lead byte with
  | .scalar char => { chars := chars.push char }
  | .opens sequence => { chars, pending := some sequence }
  | .stray => { chars := chars.push replacement }

def State.step (state : State) (byte : UInt8) : State :=
  match state.pending with
  | none => State.start state.chars byte
  | some sequence =>
      if sequence.low ≤ byte ∧ byte ≤ sequence.high then
        let value := sequence.value * 64 + byte.toNat % 64
        if sequence.missing ≤ 1 then { chars := state.chars.push (Char.ofNat value) }
        else { state with pending := some { value, missing := sequence.missing - 1 } }
      else State.start (state.chars.push replacement) byte

def State.finish (state : State) : List Char :=
  match state.pending with
  | none => state.chars.toList
  | some _ => (state.chars.push replacement).toList

def chars (bytes : Bytes) : List Char :=
  (bytes.foldl State.step {}).finish

def text (bytes : Bytes) : String :=
  String.ofList (chars bytes)

end RespClient.Text.Lossy
