import RespClient.Proofs.Reply.Encoding
import RespClient.PubSub.Event

/-!
# Fields of pushed frames

The frames of subscribe mode as a server writes them: arrays of bulk strings, with a
count at the end of an acknowledgement and a missing target where there was nothing
to leave. A stream that starts with such an array is read as that array or not at
all.
-/

namespace RespClient

inductive PushField where
  | bulk (data : Bytes)
  | missing
  | count (value : Nat)

namespace PushField

def bytes : PushField → Bytes
  | bulk data => encodeBulk data
  | missing => Reply.headed '$' (Bytes.ofText "-1")
  | count value => header ':' value

def reply : PushField → Reply
  | bulk data => .bulk data
  | missing => .nil
  | count value => .integer (Int64.ofInt value)

/-- Within what a reader accepts. -/
def Readable : PushField → Prop
  | bulk data => data.length ≤ maxBulkLength
  | missing => True
  | count value => (value : Int) < 2 ^ 63

instance : DecidablePred Readable
  | bulk data => inferInstanceAs (Decidable (data.length ≤ maxBulkLength))
  | missing => inferInstanceAs (Decidable True)
  | count value => inferInstanceAs (Decidable ((value : Int) < 2 ^ 63))

variable {allowed : Bytes → Prop} {depth : Nat}

theorem read_unique {reply : Reply} {bytes rest more : Bytes} (field : PushField)
    (frame : Reply.Frame allowed depth reply bytes) (same : bytes ++ rest = field.bytes ++ more) :
    field.Readable ∧ reply = field.reply ∧ rest = more := by
  cases field with
  | bulk data => exact frame.bulk_unique same
  | missing => exact ⟨trivial, frame.nil_unique numeral_missing same⟩
  | count value => exact frame.integer_unique same

theorem frame {field : PushField} (readable : field.Readable) :
    Reply.Frame Reply.Short depth field.reply field.bytes := by
  cases field with
  | bulk data => exact .encoded_bulk readable
  | missing => exact .noBulk numeral_missing (by decide)
  | count value => exact .encoded_integer readable

theorem readAll_unique {replies : List Reply} {body rest more : Bytes} (fields : List PushField)
    (frames : Reply.Frames allowed depth replies body) (size : replies.length = fields.length)
    (same : body ++ rest = fields.flatMap PushField.bytes ++ more) :
    (∀ field ∈ fields, field.Readable) ∧ replies = fields.map PushField.reply ∧ rest = more := by
  induction fields generalizing replies body with
  | nil =>
      cases frames with
      | nil => exact ⟨nofun, rfl, same⟩
      | cons => cases size
  | cons field fields ih =>
      cases frames with
      | nil => cases size
      | cons first others =>
          rw [List.flatMap_cons, List.append_assoc, List.append_assoc] at same
          obtain ⟨readable, rfl, left⟩ := read_unique field first same
          obtain ⟨all, rfl, rest_eq⟩ := ih others (Nat.succ.inj size) left
          exact ⟨List.forall_mem_cons.2 ⟨readable, all⟩, rfl, rest_eq⟩

theorem frames {fields : List PushField} (readable : ∀ field ∈ fields, field.Readable) :
    Reply.Frames Reply.Short depth (fields.map PushField.reply)
      (fields.flatMap PushField.bytes) := by
  induction fields with
  | nil => exact .nil
  | cons field fields ih =>
      obtain ⟨first, others⟩ := List.forall_mem_cons.1 readable
      exact .cons (frame first) (ih others)

/-! ### Arrays of fields -/

def arrayBytes (fields : List PushField) : Bytes :=
  header '*' fields.length ++ fields.flatMap PushField.bytes

def arrayReply (fields : List PushField) : Reply :=
  .array (fields.map PushField.reply)

theorem array_unique {reply : Reply} {bytes rest more : Bytes} (fields : List PushField)
    (frame : Reply.Frame allowed 0 reply bytes) (same : bytes ++ rest = arrayBytes fields ++ more) :
    (∀ field ∈ fields, field.Readable) ∧ reply = arrayReply fields ∧ rest = more := by
  rw [arrayBytes, List.append_assoc] at same
  obtain ⟨items, body, rfl, size, contents, left⟩ := frame.array_unique same
  obtain ⟨readable, rfl, rest_eq⟩ := readAll_unique fields contents size left
  exact ⟨readable, rfl, rest_eq⟩

theorem array_frame {fields : List PushField} (few : fields.length ≤ 4)
    (readable : ∀ field ∈ fields, field.Readable) :
    Reply.Frame Reply.Short 0 (arrayReply fields) (arrayBytes fields) := by
  have contents : Reply.Frames Reply.Short 1 _ _ := frames readable
  have range : ((fields.map PushField.reply).length : Int) < 2 ^ 63 := by
    rw [List.length_map]
    omega
  have whole := Reply.Frame.encoded_array range (by decide) contents
  rw [List.length_map] at whole
  exact whole

theorem ofName?_name (kind : AckKind) : AckKind.ofName? (Bytes.ofText kind.name) = some kind := by
  cases kind <;> decide

/-- The fields of an acknowledgement are recognised, whatever the target is. -/
theorem ofReply?_ack (kind : AckKind) (target : PushField) {count : Nat}
    (range : (count : Int) < 2 ^ 63) :
    Ack.ofReply? (arrayReply [.bulk (Bytes.ofText kind.name), target, .count count]) =
      some ⟨kind, count⟩ := by
  have worth := Reply.toInt_ofCount range
  have present : ¬Int64.ofInt count < 0 := by
    intro less
    have below := Int64.lt_iff_toInt_lt.1 less
    rw [worth] at below
    change (count : Int) < 0 at below
    omega
  simp [arrayReply, PushField.reply, Ack.ofReply?, present, Reply.bytes?, ofName?_name, worth]

end PushField

end RespClient
