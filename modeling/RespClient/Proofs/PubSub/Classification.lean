import RespClient.Proofs.PubSub.Agreement

/-!
# Events say what their frames say

An event can be told back: its kind is the name of its frame, and each of its fields is
the text, the bytes or the number that stands in one place of the frame. So a field is
neither lost nor taken for another one. A frame makes no event only if its name calls for
fields that it does not have; a frame by any other name is handed on as it came.
-/

namespace RespClient

/-! ## Fields -/

namespace Reply

/-- A string in UTF-8, bulk or simple. -/
def IsText (reply : Reply) : Prop :=
  ∃ text, reply.bytes? = some (Bytes.ofText text)

/-- What an acknowledgement has in the place of this channel: the name, or nil if there is none. -/
def Names (field : Reply) : Option String → Prop
  | none => field = nil
  | some text => field.bytes? = some (Bytes.ofText text)

/-- A number of subscriptions. -/
def IsCount (reply : Reply) : Prop :=
  ∃ value, reply = integer value ∧ 0 ≤ value

theorem toText_eq_ok_iff {reply : Reply} {text : String} :
    reply.toText = .ok text ↔ reply.bytes? = some (Bytes.ofText text) := by
  cases reply with
  | simple found =>
      constructor
      · rintro ⟨⟩
        rfl
      · intro same
        have decoded := Bytes.toText?_eq_some_iff.2 (Option.some.inj same)
        rw [Bytes.toText?_ofText] at decoded
        exact congrArg Except.ok (Option.some.inj decoded)
  | bulk bytes =>
      rw [bytes?, Option.some.injEq, ← Bytes.toText?_eq_some_iff, toText]
      cases Bytes.toText? bytes <;> simp
  | _ => simp [toText, bytes?, mismatch, check]

theorem toBytes_eq_ok_iff {reply : Reply} {bytes : Bytes} :
    reply.toBytes = .ok bytes ↔ reply.bytes? = some bytes := by
  cases reply <;> simp [toBytes, bytes?, mismatch, check]

theorem decode_channel_eq_ok_iff {field : Reply} {channel : Option String} :
    (ResultType.option .string).decode field = .ok channel ↔ field.Names channel := by
  by_cases missing : field = nil
  · subst missing
    cases channel <;> simp [ResultType.decode, Names, bytes?]
  · have present : (ResultType.option .string).decode field = field.toText.map some := by
      cases field <;> first | rfl | exact absurd rfl missing
    rw [present]
    cases channel with
    | none => cases field.toText <;> simp [Except.map, Names, missing]
    | some text =>
        rw [Names, ← toText_eq_ok_iff]
        cases field.toText <;> simp [Except.map]

theorem exists_names_iff {field : Reply} :
    (∃ channel, field.Names channel) ↔ field = nil ∨ field.IsText := by
  constructor
  · rintro ⟨_ | text, named⟩
    · exact .inl named
    · exact .inr ⟨text, named⟩
  · rintro (missing | ⟨text, named⟩)
    · exact ⟨none, missing⟩
    · exact ⟨some text, named⟩

theorem toUInt64_eq_ok_iff {reply : Reply} {count : UInt64} :
    reply.toUInt64 = .ok count ↔ ∃ value, reply = integer value ∧ value.toInt = count.toNat := by
  constructor
  · intro converted
    obtain ⟨value, rfl, present, worth⟩ := toUInt64_eq_ok converted
    refine ⟨value, rfl, ?_⟩
    have above := Int64.le_iff_toInt_le.1 (Int64.not_lt.1 present)
    change 0 ≤ value.toInt at above
    omega
  · rintro ⟨value, rfl, worth⟩
    have present : ¬value < 0 := by
      rw [Int64.lt_iff_toInt_lt]
      change ¬value.toInt < 0
      omega
    have same : value.toUInt64 = count := by
      apply UInt64.toNat_inj.1
      rw [toNat_count present]
      omega
    rw [toUInt64_integer present, same]

theorem exists_toUInt64_iff {reply : Reply} :
    (∃ count, reply.toUInt64 = .ok count) ↔ reply.IsCount := by
  constructor
  · rintro ⟨count, converted⟩
    obtain ⟨value, same, present, -⟩ := toUInt64_eq_ok converted
    exact ⟨value, same, Int64.not_lt.1 present⟩
  · rintro ⟨value, rfl, present⟩
    exact ⟨_, toUInt64_integer (Int64.not_lt.2 present)⟩

end Reply

/-! ## Frames by their names -/

namespace Event

theorem ofMessage_eq_ok_iff {fields : List Reply} {event : Event} :
    ofMessage fields = .ok event ↔
      ∃ first second channel payload, fields = [first, second] ∧
        first.bytes? = some (Bytes.ofText channel) ∧ second.bytes? = some payload ∧
        event = .message ⟨channel, payload, none⟩ := by
  constructor
  · intro told
    unfold ofMessage at told
    split at told
    · next first second =>
        cases text : first.toText with
        | error cause => rw [text] at told; cases told
        | ok channel =>
            cases data : second.toBytes with
            | error cause => rw [text, data] at told; cases told
            | ok payload =>
                rw [text, data] at told
                cases told
                exact ⟨first, second, channel, payload, rfl, Reply.toText_eq_ok_iff.1 text,
                  Reply.toBytes_eq_ok_iff.1 data, rfl⟩
    · cases told
  · rintro ⟨first, second, channel, payload, rfl, text, data, rfl⟩
    rw [← Reply.toText_eq_ok_iff] at text
    rw [← Reply.toBytes_eq_ok_iff] at data
    rw [ofMessage, text, data]
    rfl

theorem ofPatternMessage_eq_ok_iff {fields : List Reply} {event : Event} :
    ofPatternMessage fields = .ok event ↔
      ∃ first second third pattern channel payload, fields = [first, second, third] ∧
        first.bytes? = some (Bytes.ofText pattern) ∧
        second.bytes? = some (Bytes.ofText channel) ∧ third.bytes? = some payload ∧
        event = .message ⟨channel, payload, some pattern⟩ := by
  constructor
  · intro told
    unfold ofPatternMessage at told
    split at told
    · next first second third =>
        cases glob : first.toText with
        | error cause => rw [glob] at told; cases told
        | ok pattern =>
            cases text : second.toText with
            | error cause => rw [glob, text] at told; cases told
            | ok channel =>
                cases data : third.toBytes with
                | error cause => rw [glob, text, data] at told; cases told
                | ok payload =>
                    rw [glob, text, data] at told
                    cases told
                    exact ⟨first, second, third, pattern, channel, payload, rfl,
                      Reply.toText_eq_ok_iff.1 glob, Reply.toText_eq_ok_iff.1 text,
                      Reply.toBytes_eq_ok_iff.1 data, rfl⟩
    · cases told
  · rintro ⟨first, second, third, pattern, channel, payload, rfl, glob, text, data, rfl⟩
    rw [← Reply.toText_eq_ok_iff] at glob text
    rw [← Reply.toBytes_eq_ok_iff] at data
    rw [ofPatternMessage, glob, text, data]
    rfl

theorem ofReply_message {name : Reply} (named : name.bytes? = some (Bytes.ofText messageName))
    (fields : List Reply) : ofReply (.array (name :: fields)) = ofMessage fields := by
  simp only [ofReply, named, if_true]

theorem ofReply_patternMessage {name : Reply}
    (named : name.bytes? = some (Bytes.ofText patternMessageName)) (fields : List Reply) :
    ofReply (.array (name :: fields)) = ofPatternMessage fields := by
  have other : Bytes.ofText patternMessageName ≠ Bytes.ofText messageName := by decide
  simp only [ofReply, named, if_neg other, if_true]

/-- What becomes of a frame, by the name that it starts with. -/
inductive Sorted : Reply → Except ClientError Event → Prop where
  | message {name : Reply} (named : name.bytes? = some (Bytes.ofText messageName))
      (fields : List Reply) : Sorted (.array (name :: fields)) (ofMessage fields)
  | patternMessage {name : Reply} (named : name.bytes? = some (Bytes.ofText patternMessageName))
      (fields : List Reply) : Sorted (.array (name :: fields)) (ofPatternMessage fields)
  | ack {name : Reply} {kind : AckKind} (named : name.bytes? = some (Bytes.ofText kind.name))
      (channel count : Reply) : Sorted (.array [name, channel, count]) (ofAck kind channel count)
  | unknown (reply : Reply) : Sorted reply (.ok (.unknown reply))

theorem ofReply_sorted (reply : Reply) : Sorted reply (ofReply reply) := by
  unfold ofReply
  split
  · next name fields =>
      split
      · exact .unknown _
      · next bytes found =>
          split
          · next titled => exact .message (titled ▸ found) fields
          split
          · next titled => exact .patternMessage (titled ▸ found) fields
          split
          · next kind channel count recognised =>
              rw [AckKind.ofName?_eq_some_iff] at recognised
              exact .ack (recognised ▸ found) channel count
          · exact .unknown _
  · exact .unknown _

/-! ## Frames that make no event -/

/-- A frame whose name calls for fields that it does not have. -/
inductive Unfit : Reply → Prop where
  | message {name : Reply} {fields : List Reply}
      (named : name.bytes? = some (Bytes.ofText "message"))
      (unfit : ¬∃ channel payload, fields = [channel, payload] ∧ channel.IsText ∧
        payload.bytes? ≠ none) : Unfit (.array (name :: fields))
  | patternMessage {name : Reply} {fields : List Reply}
      (named : name.bytes? = some (Bytes.ofText "pmessage"))
      (unfit : ¬∃ pattern channel payload, fields = [pattern, channel, payload] ∧
        pattern.IsText ∧ channel.IsText ∧ payload.bytes? ≠ none) : Unfit (.array (name :: fields))
  | ack {name channel count : Reply} {kind : AckKind}
      (named : name.bytes? = some (Bytes.ofText kind.name))
      (unfit : ¬((channel = .nil ∨ channel.IsText) ∧ count.IsCount)) :
      Unfit (.array [name, channel, count])

theorem exists_error_iff {ε α : Type} {outcome : Except ε α} :
    (∃ cause, outcome = .error cause) ↔ ¬∃ value, outcome = .ok value := by
  cases outcome <;> simp

theorem ofMessage_fits_iff {fields : List Reply} :
    (∃ event, ofMessage fields = .ok event) ↔
      ∃ channel payload, fields = [channel, payload] ∧ channel.IsText ∧ payload.bytes? ≠ none := by
  simp only [ofMessage_eq_ok_iff]
  constructor
  · rintro ⟨event, first, second, channel, payload, same, text, data, -⟩
    exact ⟨first, second, same, ⟨channel, text⟩, data ▸ Option.some_ne_none payload⟩
  · rintro ⟨first, second, same, ⟨channel, text⟩, data⟩
    obtain ⟨payload, data⟩ := Option.ne_none_iff_exists'.1 data
    exact ⟨_, first, second, channel, payload, same, text, data, rfl⟩

theorem ofPatternMessage_fits_iff {fields : List Reply} :
    (∃ event, ofPatternMessage fields = .ok event) ↔
      ∃ pattern channel payload, fields = [pattern, channel, payload] ∧ pattern.IsText ∧
        channel.IsText ∧ payload.bytes? ≠ none := by
  simp only [ofPatternMessage_eq_ok_iff]
  constructor
  · rintro ⟨event, first, second, third, pattern, channel, payload, same, glob, text, data, -⟩
    exact ⟨first, second, third, same, ⟨pattern, glob⟩, ⟨channel, text⟩,
      data ▸ Option.some_ne_none payload⟩
  · rintro ⟨first, second, third, same, ⟨pattern, glob⟩, ⟨channel, text⟩, data⟩
    obtain ⟨payload, data⟩ := Option.ne_none_iff_exists'.1 data
    exact ⟨_, first, second, third, pattern, channel, payload, same, glob, text, data, rfl⟩

theorem ofAck_fits_iff {kind : AckKind} {channel count : Reply} :
    (∃ event, ofAck kind channel count = .ok event) ↔
      (channel = .nil ∨ channel.IsText) ∧ count.IsCount := by
  rw [← Reply.exists_names_iff, ← Reply.exists_toUInt64_iff]
  constructor
  · rintro ⟨event, told⟩
    obtain ⟨text, number, names, counts, -⟩ := ofAck_eq_ok_iff.1 told
    exact ⟨⟨text, Reply.decode_channel_eq_ok_iff.1 names⟩, ⟨number, counts⟩⟩
  · rintro ⟨⟨text, names⟩, ⟨number, counts⟩⟩
    exact ⟨_, ofAck_eq_ok_iff.2
      ⟨text, number, Reply.decode_channel_eq_ok_iff.2 names, counts, rfl⟩⟩

theorem ofReply_eq_error_iff {reply : Reply} :
    (∃ cause, ofReply reply = .error cause) ↔ Unfit reply := by
  constructor
  · rintro ⟨cause, failed⟩
    have sorted := ofReply_sorted reply
    rw [failed] at sorted
    generalize outcome : (Except.error cause : Except ClientError Event) = result at sorted
    cases sorted with
    | message named fields =>
        exact .message named (ofMessage_fits_iff.not.1 (exists_error_iff.1 ⟨cause, outcome.symm⟩))
    | patternMessage named fields =>
        exact .patternMessage named
          (ofPatternMessage_fits_iff.not.1 (exists_error_iff.1 ⟨cause, outcome.symm⟩))
    | ack named channel count =>
        exact .ack named (ofAck_fits_iff.not.1 (exists_error_iff.1 ⟨cause, outcome.symm⟩))
    | unknown => cases outcome
  · rintro (⟨named, unfit⟩ | ⟨named, unfit⟩ | ⟨named, unfit⟩)
    · rw [ofReply_message named, exists_error_iff, ofMessage_fits_iff]
      exact unfit
    · rw [ofReply_patternMessage named, exists_error_iff, ofPatternMessage_fits_iff]
      exact unfit
    · rw [ofReply_named named, exists_error_iff, ofAck_fits_iff]
      exact unfit

/-! ## Events and their frames -/

theorem ofReply_eq_message_iff {reply : Reply} {channel : String} {payload : Bytes} :
    ofReply reply = .ok (.message ⟨channel, payload, none⟩) ↔
      ∃ name first second, reply = .array [name, first, second] ∧
        name.bytes? = some (Bytes.ofText "message") ∧
        first.bytes? = some (Bytes.ofText channel) ∧ second.bytes? = some payload := by
  constructor
  · intro told
    have sorted := ofReply_sorted reply
    generalize ofReply reply = outcome at told sorted
    cases sorted with
    | message named fields =>
        obtain ⟨first, second, _, _, rfl, text, data, same⟩ := ofMessage_eq_ok_iff.1 told
        cases same
        exact ⟨_, first, second, rfl, named, text, data⟩
    | patternMessage named fields =>
        obtain ⟨_, _, _, _, _, _, _, _, _, _, same⟩ := ofPatternMessage_eq_ok_iff.1 told
        cases same
    | ack =>
        obtain ⟨_, _, _, _, same⟩ := ofAck_eq_ok_iff.1 told
        cases same
    | unknown => cases told
  · rintro ⟨name, first, second, rfl, named, text, data⟩
    rw [ofReply_message named, ofMessage_eq_ok_iff]
    exact ⟨first, second, channel, payload, rfl, text, data, rfl⟩

theorem ofReply_eq_patternMessage_iff {reply : Reply} {pattern channel : String}
    {payload : Bytes} :
    ofReply reply = .ok (.message ⟨channel, payload, some pattern⟩) ↔
      ∃ name first second third, reply = .array [name, first, second, third] ∧
        name.bytes? = some (Bytes.ofText "pmessage") ∧
        first.bytes? = some (Bytes.ofText pattern) ∧
        second.bytes? = some (Bytes.ofText channel) ∧ third.bytes? = some payload := by
  constructor
  · intro told
    have sorted := ofReply_sorted reply
    generalize ofReply reply = outcome at told sorted
    cases sorted with
    | message named fields =>
        obtain ⟨_, _, _, _, _, _, _, same⟩ := ofMessage_eq_ok_iff.1 told
        cases same
    | patternMessage named fields =>
        obtain ⟨first, second, third, _, _, _, rfl, glob, text, data, same⟩ :=
          ofPatternMessage_eq_ok_iff.1 told
        cases same
        exact ⟨_, first, second, third, rfl, named, glob, text, data⟩
    | ack =>
        obtain ⟨_, _, _, _, same⟩ := ofAck_eq_ok_iff.1 told
        cases same
    | unknown => cases told
  · rintro ⟨name, first, second, third, rfl, named, glob, text, data⟩
    rw [ofReply_patternMessage named, ofPatternMessage_eq_ok_iff]
    exact ⟨first, second, third, pattern, channel, payload, rfl, glob, text, data, rfl⟩

theorem ofReply_eq_control_iff {reply : Reply} {kind : AckKind} {channel : Option String}
    {count : Nat} :
    ofReply reply = .ok (.control kind channel count) ↔
      ∃ name field number, reply = .array [name, field, .integer number] ∧
        name.bytes? = some (Bytes.ofText kind.name) ∧ field.Names channel ∧
        number.toInt = count := by
  constructor
  · intro told
    obtain ⟨name, field, number, rfl, named, counted⟩ := of_ofReply_control told
    obtain ⟨text, worth, names, counts, same⟩ := ofAck_eq_ok_iff.1 counted
    cases same
    rw [Reply.decode_channel_eq_ok_iff] at names
    obtain ⟨value, rfl, worth⟩ := Reply.toUInt64_eq_ok_iff.1 counts
    exact ⟨name, field, value, rfl, named, names, worth⟩
  · rintro ⟨name, field, number, rfl, named, names, worth⟩
    rw [ofReply_named named, ofAck_eq_ok_iff]
    have small : count < UInt64.size := by
      have bound := number.toInt_lt
      unfold UInt64.size
      omega
    refine ⟨channel, UInt64.ofNat count, Reply.decode_channel_eq_ok_iff.2 names, ?_, ?_⟩
    · exact Reply.toUInt64_eq_ok_iff.2 ⟨number, rfl, by rw [worth, UInt64.toNat_ofNat_of_lt' small]⟩
    · rw [UInt64.toNat_ofNat_of_lt' small]

theorem eq_of_ofReply_unknown {reply other : Reply} (told : ofReply reply = .ok (.unknown other)) :
    other = reply := by
  have sorted := ofReply_sorted reply
  generalize ofReply reply = outcome at told sorted
  cases sorted with
  | message =>
      obtain ⟨_, _, _, _, _, _, _, same⟩ := ofMessage_eq_ok_iff.1 told
      cases same
  | patternMessage =>
      obtain ⟨_, _, _, _, _, _, _, _, _, _, same⟩ := ofPatternMessage_eq_ok_iff.1 told
      cases same
  | ack =>
      obtain ⟨_, _, _, _, same⟩ := ofAck_eq_ok_iff.1 told
      cases same
  | unknown =>
      cases told
      rfl

/-- Every event can be told back to its frame, and every frame that can be told from an event makes
it: a message by its channel and payload, one for a pattern by these and the pattern, in their
order, and an acknowledgement by its kind, its channel or nil, and its count. What is unknown is the
frame itself. No event is made of exactly the frames that are named as one of these and have other
fields. -/
theorem ofReply_faithful (reply : Reply) :
    (∀ other, ofReply reply = .ok (.unknown other) → other = reply) ∧
    (∀ channel payload, ofReply reply = .ok (.message ⟨channel, payload, none⟩) ↔
      ∃ name first second, reply = .array [name, first, second] ∧
        name.bytes? = some (Bytes.ofText "message") ∧
        first.bytes? = some (Bytes.ofText channel) ∧ second.bytes? = some payload) ∧
    (∀ pattern channel payload,
      ofReply reply = .ok (.message ⟨channel, payload, some pattern⟩) ↔
      ∃ name first second third, reply = .array [name, first, second, third] ∧
        name.bytes? = some (Bytes.ofText "pmessage") ∧
        first.bytes? = some (Bytes.ofText pattern) ∧
        second.bytes? = some (Bytes.ofText channel) ∧ third.bytes? = some payload) ∧
    (∀ kind channel count, ofReply reply = .ok (.control kind channel count) ↔
      ∃ name field number, reply = .array [name, field, .integer number] ∧
        name.bytes? = some (Bytes.ofText kind.name) ∧ field.Names channel ∧
        number.toInt = count) ∧
    ((∃ cause, ofReply reply = .error cause) ↔ Unfit reply) :=
  ⟨fun _ => eq_of_ofReply_unknown, fun _ _ => ofReply_eq_message_iff,
    fun _ _ _ => ofReply_eq_patternMessage_iff, fun _ _ _ => ofReply_eq_control_iff,
    ofReply_eq_error_iff⟩

/-- The name decides first: what would do for a pattern is one field too many for a message. -/
example : ofReply (.array [.simple "message", .bulk [42], .bulk [97], .bulk []]) =
    .error (.decode (.frameLength "message" 4)) := by
  decide

end Event

end RespClient
