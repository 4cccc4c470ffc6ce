import RespClient.Proofs.Transport.Lockstep
import RespClient.Reply.Reader

/-!
# What reading a reply is made of

The reader of a reply touches the transport by reading a byte, a line or a number of
bytes, and in no other way; between these it only decides what to read next or gives
up. What is true of the three and survives sequencing is true of the reader.
-/

namespace RespClient.Reply

variable {σ : Type} [Socket σ]

/-- Built up from the three ways to read off a transport. -/
inductive Composed : {α : Type} → Reading σ α → Prop where
  | pure {α : Type} (value : α) : Composed (pure value)
  | fail {α : Type} (cause : ProtocolError) : Composed (protocolFailure (α := α) cause)
  | byte : Composed Transport.readByte
  | bytes (count : Nat) : Composed (Transport.read count)
  | line : Composed Transport.readLine
  | bind {α β : Type} {first : Reading σ α} {next : α → Reading σ β} (begun : Composed first)
      (continued : ∀ value, Composed (next value)) : Composed (first >>= next)

theorem readText_composed : Composed (readText : Reading σ String) := by
  apply Composed.line.bind
  intro line
  cases Bytes.toText? line with
  | none => exact .fail .lineNotUtf8
  | some text => exact .pure text

theorem readInteger_composed : Composed (readInteger : Reading σ Int64) := by
  apply Composed.line.bind
  intro line
  cases parseInteger line with
  | error cause => exact .fail cause
  | ok value => exact .pure value

theorem readBulk_composed : Composed (readBulk : Reading σ Reply) := by
  apply readInteger_composed.bind
  intro length
  split
  · exact .pure nil
  split
  · exact .fail _
  split
  · exact .fail _
  apply (Composed.bytes _).bind
  intro data
  apply (Composed.bytes 2).bind
  intro ending
  split
  · exact .pure _
  · exact .fail _

theorem readItems_composed {readItem : Reading σ Reply} (item : Composed readItem) (count : Nat)
    (taken : List Reply) : Composed (readItems readItem count taken) := by
  induction count generalizing taken with
  | zero => exact .pure _
  | succ count ih => exact item.bind fun reply => ih (reply :: taken)

section Contents

variable {contents : Nat → Reading σ (List Reply)} (items : ∀ count, Composed (contents count))

include items

theorem readArray_composed : Composed (readArray contents) := by
  apply readInteger_composed.bind
  intro count
  split
  · exact .pure nil
  split
  · exact .fail _
  exact (items _).bind fun found => .pure (array found)

theorem readAfter_composed (type : UInt8) : Composed (readAfter contents type) := by
  unfold readAfter
  split
  · exact readText_composed.bind fun text => .pure _
  split
  · exact readText_composed.bind fun text => .pure _
  split
  · exact readInteger_composed.bind fun value => .pure _
  split
  · exact readBulk_composed
  split
  · exact readArray_composed items
  · exact .fail _

theorem readTyped_composed : Composed (readTyped contents) :=
  Composed.byte.bind (readAfter_composed items)

end Contents

theorem readNested_composed (levels : Nat) : Composed (readNested levels : Reading σ Reply) := by
  induction levels with
  | zero => exact readTyped_composed fun _ => .fail .nestedTooDeep
  | succ levels ih => exact readTyped_composed fun count => readItems_composed ih count []

theorem readFrame_composed : Composed (readFrame : Reading σ Reply) :=
  readNested_composed maxNesting

/-! ## Reading in lockstep -/

open Transport (Unaffected)

theorem Composed.unaffected {related : σ → σ → Prop} (works : Socket.Lockstep related) {α : Type}
    {reading : Reading σ α} (composed : Composed reading) : Unaffected related reading := by
  induction composed with
  | pure value => exact fun _ _ alike => ⟨_, _, _, rfl, rfl, alike⟩
  | fail cause => exact fun _ _ alike => ⟨_, _, _, rfl, rfl, alike⟩
  | byte => exact Transport.readByte_unaffected works
  | bytes count => exact Transport.read_unaffected works count
  | line => exact Transport.readLine_unaffected works
  | bind begun continued first next =>
      intro one two alike
      obtain ⟨outcome, after, last, here, there, left⟩ := first alike
      cases outcome with
      | error cause =>
          exact ⟨_, _, _, Attempt.runFrom_bind_error here, Attempt.runFrom_bind_error there, left⟩
      | ok value =>
          rw [Attempt.runFrom_bind_ok here, Attempt.runFrom_bind_ok there]
          exact next value left

theorem readFrame_unaffected {related : σ → σ → Prop} (works : Socket.Lockstep related) :
    Unaffected related readFrame :=
  readFrame_composed.unaffected works

/-- What every read of a socket preserves is preserved by reading a reply. -/
theorem readFrame_keeps {calm : σ → Prop}
    (kept : ∀ socket room, calm socket → calm (Socket.read socket room).2)
    {transport : Transport σ} (quiet : calm transport.socket) :
    calm (readFrame.runFrom transport).2.socket := by
  obtain ⟨outcome, after, last, here, there, left⟩ := readFrame_unaffected
    (Socket.lockstep_self kept) ⟨rfl, rfl, rfl, rfl, quiet⟩
  rw [there]
  exact left.sockets.2

/-! ## Reading that goes well -/

/-- As long as reading goes well, the socket stays without faults. -/
theorem Composed.stays_calm {calm : σ → Prop} (works : Socket.Delivering calm) {α : Type}
    {reading : Reading σ α} (composed : Composed reading) {value : α}
    {transport after : Transport σ} (quiet : calm transport.socket)
    (done : reading.runFrom transport = (.ok value, after)) : calm after.socket := by
  induction composed generalizing transport after with
  | pure value => cases done; exact quiet
  | fail cause => cases done
  | byte => exact Transport.readByte_calm works quiet done
  | bytes count => exact Transport.read_calm works quiet done
  | line => exact Transport.readLine_calm works quiet done
  | bind begun continued first next =>
      obtain ⟨middle, between, done, finished⟩ := Attempt.ok_of_runFrom_bind done
      exact next middle (first quiet done) finished

end RespClient.Reply
