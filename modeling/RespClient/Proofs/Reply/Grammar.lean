import Mathlib.Algebra.Ring.Int.Defs
import RespClient.Proofs.Reply.Numeral

/-!
# The reply grammar

What a reply looks like on the wire, told without a reader. Every frame starts with
a type byte and a header line; a bulk string goes on with its bytes, whatever they
are, and an array with the frames of its items, one level deeper. The grammar takes
a condition on header lines, for statements that only hold of lines of some kind.
-/

namespace RespClient.Reply

def headed (type : Char) (line : Bytes) : Bytes :=
  type.toUInt8 :: (line ++ Bytes.crlf)

mutual

/-- The frames of a reply at a depth of nesting, with nothing but allowed header lines. -/
inductive Frame (allowed : Bytes → Prop) : Nat → Reply → Bytes → Prop where
  | simple {depth : Nat} {text : String} (free : Bytes.lineFeed ∉ Bytes.ofText text)
      (fits : allowed (Bytes.ofText text)) :
      Frame allowed depth (.simple text) (headed '+' (Bytes.ofText text))
  | error {depth : Nat} {message : String} (free : Bytes.lineFeed ∉ Bytes.ofText message)
      (fits : allowed (Bytes.ofText message)) :
      Frame allowed depth (.error message) (headed '-' (Bytes.ofText message))
  | integer {depth : Nat} {line : Bytes} {value : Int64} (numeral : Numeral line value.toInt)
      (fits : allowed line) : Frame allowed depth (.integer value) (headed ':' line)
  | noBulk {depth : Nat} {line : Bytes} (numeral : Numeral line (-1)) (fits : allowed line) :
      Frame allowed depth .nil (headed '$' line)
  | bulk {depth : Nat} {line data : Bytes} (numeral : Numeral line data.length)
      (short : data.length ≤ maxBulkLength) (fits : allowed line) :
      Frame allowed depth (.bulk data) (headed '$' line ++ (data ++ Bytes.crlf))
  | noArray {depth : Nat} {line : Bytes} (numeral : Numeral line (-1)) (fits : allowed line) :
      Frame allowed depth .nil (headed '*' line)
  | array {depth : Nat} {line body : Bytes} {items : List Reply}
      (numeral : Numeral line items.length) (countable : (items.length : Int) < 2 ^ 63)
      (shallow : depth < maxNesting) (fits : allowed line)
      (contents : Frames allowed (depth + 1) items body) :
      Frame allowed depth (.array items) (headed '*' line ++ body)

/-- The frames of several replies at the same depth, one after the other. -/
inductive Frames (allowed : Bytes → Prop) : Nat → List Reply → Bytes → Prop where
  | nil {depth : Nat} : Frames allowed depth [] []
  | cons {depth : Nat} {item : Reply} {items : List Reply} {bytes more : Bytes}
      (first : Frame allowed depth item bytes) (others : Frames allowed depth items more) :
      Frames allowed depth (item :: items) (bytes ++ more)

end

variable {allowed : Bytes → Prop} {depth : Nat}

theorem Frame.ne_nil {reply : Reply} {bytes : Bytes} (frame : Frame allowed depth reply bytes) :
    bytes ≠ [] := by
  cases frame <;> simp [headed]

end RespClient.Reply
