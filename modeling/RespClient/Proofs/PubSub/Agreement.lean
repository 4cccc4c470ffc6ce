import RespClient.Proofs.PubSub.Delivery

/-!
# Acknowledgements and events

A frame of subscribe mode is looked at twice: once to account for it if it is an
acknowledgement, and once to make an event of it. The two agree. What becomes an event
of a subscription change is an acknowledgement of the same kind and count, and an
acknowledgement becomes such an event unless its channel is no text. So the number of
subscriptions is the one that the caller was told last.
-/

namespace RespClient

/-! ## Acknowledgements -/

theorem AckKind.ofName?_eq_some_iff {bytes : Bytes} {kind : AckKind} :
    AckKind.ofName? bytes = some kind ↔ bytes = Bytes.ofText kind.name := by
  constructor
  · intro found
    have named := List.find?_some found
    exact (of_decide_eq_true named).symm
  · rintro rfl
    exact PushField.ofName?_name kind

theorem Ack.ofReply?_eq_some_iff {reply : Reply} {ack : Ack} :
    Ack.ofReply? reply = some ack ↔
      ∃ name channel value, reply = .array [name, channel, .integer value] ∧ ¬value < 0 ∧
        name.bytes? = some (Bytes.ofText ack.kind.name) ∧ ack.count = value.toInt.toNat := by
  constructor
  · intro told
    unfold Ack.ofReply? at told
    split at told
    · next name channel value =>
        split at told
        · cases told
        · next present =>
            obtain ⟨kind, named, rfl⟩ := Option.map_eq_some_iff.1 told
            obtain ⟨bytes, found, recognised⟩ := Option.bind_eq_some_iff.1 named
            rw [AckKind.ofName?_eq_some_iff] at recognised
            exact ⟨name, channel, value, rfl, present, recognised ▸ found, rfl⟩
    · cases told
  · obtain ⟨kind, count⟩ := ack
    rintro ⟨name, channel, value, rfl, present, named, rfl⟩
    simp only [Ack.ofReply?, if_neg present, named, Option.bind_some, PushField.ofName?_name,
      Option.map_some]

/-! ## Events -/

namespace Reply

/-- What may stand for a channel in an acknowledgement: nothing, or a text. -/
def isChannel : Reply → Bool
  | nil => true
  | simple _ => true
  | bulk bytes => (Bytes.toText? bytes).isSome
  | _ => false

theorem channel_eq_ok_iff {reply : Reply} :
    (∃ channel, (ResultType.option .string).decode reply = .ok channel) ↔
      reply.isChannel = true := by
  cases reply with
  | bulk bytes =>
      cases text : Bytes.toText? bytes <;>
        simp [isChannel, ResultType.decode, toText, text, Except.map]
  | _ => simp [isChannel, ResultType.decode, toText, mismatch, check, Except.map]

theorem toUInt64_integer {value : Int64} (present : ¬value < 0) :
    (integer value).toUInt64 = .ok value.toUInt64 := by
  simp only [toUInt64, toInt64, if_neg present]

theorem toNat_count {value : Int64} (present : ¬value < 0) :
    value.toUInt64.toNat = value.toInt.toNat := by
  rw [Int64.toNat_toUInt64_of_le (Int64.not_lt.1 present), Int64.toNat_toInt]

theorem toUInt64_eq_ok {reply : Reply} {count : UInt64} (converted : reply.toUInt64 = .ok count) :
    ∃ value, reply = .integer value ∧ ¬value < 0 ∧ count.toNat = value.toInt.toNat := by
  cases reply with
  | integer value =>
      by_cases negative : value < 0
      · simp only [toUInt64, toInt64, if_pos negative] at converted
        cases converted
      · cases (toUInt64_integer negative).symm.trans converted
        exact ⟨value, rfl, negative, toNat_count negative⟩
  | _ => cases converted

end Reply

namespace Event

theorem ofAck_eq_ok_iff {kind : AckKind} {channel count : Reply} {event : Event} :
    ofAck kind channel count = .ok event ↔
      ∃ text number, (ResultType.option .string).decode channel = .ok text ∧
        count.toUInt64 = .ok number ∧ event = .control kind text number.toNat := by
  unfold ofAck
  cases (ResultType.option .string).decode channel with
  | error cause => simp [bind, Except.bind]
  | ok text =>
      cases count.toUInt64 with
      | error cause => simp [bind, Except.bind]
      | ok number => simp [bind, Except.bind, pure, Except.pure, eq_comm]

/-- A frame of three that is named as an acknowledgement is taken for one. -/
theorem ofReply_named {name : Reply} {kind : AckKind}
    (named : name.bytes? = some (Bytes.ofText kind.name)) (channel count : Reply) :
    ofReply (.array [name, channel, count]) = ofAck kind channel count := by
  have ordinary : Bytes.ofText kind.name ≠ Bytes.ofText messageName := by cases kind <;> decide
  have plain : Bytes.ofText kind.name ≠ Bytes.ofText patternMessageName := by
    cases kind <;> decide
  simp only [ofReply, named, if_neg ordinary, if_neg plain, PushField.ofName?_name]

/-- What an acknowledgement is an event of, up to its channel. -/
theorem ofReply_ack {name : Reply} {kind : AckKind} {value : Int64}
    (named : name.bytes? = some (Bytes.ofText kind.name)) (present : ¬value < 0)
    (channel : Reply) :
    ofReply (.array [name, channel, .integer value]) =
      ((ResultType.option .string).decode channel).map
        fun text => control kind text value.toInt.toNat := by
  rw [ofReply_named named, ofAck, Reply.toUInt64_integer present, ← Reply.toNat_count present]
  cases (ResultType.option .string).decode channel <;> rfl

theorem ofMessage_ne_control (fields : List Reply) (kind : AckKind) (channel : Option String)
    (count : Nat) : ofMessage fields ≠ .ok (.control kind channel count) := by
  unfold ofMessage
  split
  · next channel payload =>
      cases channel.toText <;> cases payload.toBytes <;> nofun
  · nofun

theorem ofPatternMessage_ne_control (fields : List Reply) (kind : AckKind)
    (channel : Option String) (count : Nat) :
    ofPatternMessage fields ≠ .ok (.control kind channel count) := by
  unfold ofPatternMessage
  split
  · next pattern channel payload =>
      cases pattern.toText <;> cases channel.toText <;> cases payload.toBytes <;> nofun
  · nofun

/-- A change of subscriptions is told by a frame of three with the name of its kind. -/
theorem of_ofReply_control {reply : Reply} {kind : AckKind} {channel : Option String} {count : Nat}
    (told : ofReply reply = .ok (.control kind channel count)) :
    ∃ name field number, reply = .array [name, field, number] ∧
      name.bytes? = some (Bytes.ofText kind.name) ∧
      ofAck kind field number = .ok (.control kind channel count) := by
  unfold ofReply at told
  split at told
  · next name fields =>
      split at told
      · cases told
      · next bytes found =>
          split at told
          · exact absurd told (ofMessage_ne_control _ _ _ _)
          split at told
          · exact absurd told (ofPatternMessage_ne_control _ _ _ _)
          split at told
          · next recognised =>
              obtain ⟨_, _, _, _, same⟩ := ofAck_eq_ok_iff.1 told
              cases same
              rw [AckKind.ofName?_eq_some_iff] at recognised
              exact ⟨name, _, _, rfl, recognised ▸ found, told⟩
          · cases told
  · cases told

/-- The number of subscriptions that an event reports, if it is a change of them. -/
def count? : Event → Option Nat
  | control _ _ count => some count
  | _ => none

end Event

/-! ## Agreement -/

/-- An acknowledgement that is no event because of its channel, and for no other reason: that is
neither missing nor a text, and with any channel in its place there is an event. -/
def SpoiltByChannel (kind : AckKind) (count : Nat) (reply : Reply) : Prop :=
  ∃ name channel value cause, reply = .array [name, channel, value] ∧ channel.isChannel = false ∧
    (ResultType.option .string).decode channel = .error cause ∧
    Event.ofReply reply = .error cause ∧ cause.concernsReply = true ∧
    ∀ other, other.isChannel = true →
      ∃ text, Event.ofReply (.array [name, other, value]) = .ok (.control kind text count)

theorem ack_of_control {reply : Reply} {kind : AckKind} {channel : Option String} {count : Nat}
    (told : Event.ofReply reply = .ok (.control kind channel count)) :
    Ack.ofReply? reply = some ⟨kind, count⟩ := by
  obtain ⟨name, field, number, rfl, named, counted⟩ := Event.of_ofReply_control told
  obtain ⟨text, converted, -, counts, same⟩ := Event.ofAck_eq_ok_iff.1 counted
  cases same
  obtain ⟨value, rfl, present, worth⟩ := Reply.toUInt64_eq_ok counts
  exact Ack.ofReply?_eq_some_iff.2 ⟨name, field, value, rfl, present, named, worth⟩

theorem control_or_spoilt {reply : Reply} {kind : AckKind} {count : Nat}
    (told : Ack.ofReply? reply = some ⟨kind, count⟩) :
    (∃ channel, Event.ofReply reply = .ok (.control kind channel count)) ∨
      SpoiltByChannel kind count reply := by
  obtain ⟨name, channel, value, rfl, present, named, rfl⟩ := Ack.ofReply?_eq_some_iff.1 told
  have event := Event.ofReply_ack named present
  have tame := ResultType.decode_tame (.option .string) channel
  cases decoded : (ResultType.option .string).decode channel with
  | ok text => exact .inl ⟨text, by rw [event, decoded]; rfl⟩
  | error cause =>
      rw [decoded] at tame
      refine .inr ⟨name, channel, .integer value, cause, rfl, ?_, decoded, ?_, tame, ?_⟩
      · rw [← Bool.not_eq_true, ← Reply.channel_eq_ok_iff]
        rintro ⟨text, found⟩
        cases decoded.symm.trans found
      · rw [event, decoded]
        rfl
      · intro other fitting
        obtain ⟨text, found⟩ := Reply.channel_eq_ok_iff.2 fitting
        exact ⟨text, by rw [event, found]; rfl⟩

theorem ack_of_spoilt {reply : Reply} {kind : AckKind} {count : Nat}
    (spoilt : SpoiltByChannel kind count reply) :
    Ack.ofReply? reply = some ⟨kind, count⟩ := by
  obtain ⟨name, channel, value, cause, rfl, -, -, -, -, others⟩ := spoilt
  obtain ⟨text, told⟩ := others .nil rfl
  obtain ⟨_, _, number, same, present, named, worth⟩ :=
    Ack.ofReply?_eq_some_iff.1 (ack_of_control told)
  cases same
  exact Ack.ofReply?_eq_some_iff.2 ⟨name, channel, number, rfl, present, named, worth⟩

/-- A frame that is no change of subscriptions is no acknowledgement. -/
theorem no_ack_of_event {reply : Reply} {event : Event} (told : Event.ofReply reply = .ok event)
    (other : event.count? = none) : Ack.ofReply? reply = none := by
  cases noted : Ack.ofReply? reply with
  | none => rfl
  | some ack =>
      rcases control_or_spoilt noted with
        ⟨channel, control⟩ | ⟨_, _, _, cause, -, -, -, failed, -⟩
      · cases told.symm.trans control
        cases other
      · cases told.symm.trans failed

/-- A frame is accounted for as an acknowledgement exactly if it is the event of a change of
subscriptions, with that kind and count, or would be if its channel were one. So it is not if it is
another event or does not end with a count. For a subscriber, the event of a change leaves the
number of subscriptions that it reports, and any other event leaves everything as it was. -/
theorem acks_agree_with_events :
    (∀ (reply : Reply) (kind : AckKind) (count : Nat),
      Ack.ofReply? reply = some ⟨kind, count⟩ ↔
        (∃ channel, Event.ofReply reply = .ok (.control kind channel count)) ∨
          SpoiltByChannel kind count reply) ∧
    (∀ (reply : Reply) (event : Event), Event.ofReply reply = .ok event → event.count? = none →
      Ack.ofReply? reply = none) ∧
    (∀ reply : Reply,
      (∀ name channel value, reply = .array [name, channel, .integer value] → value < 0) →
      Ack.ofReply? reply = none) ∧
    ∀ (σ : Type) [Socket σ] (timeout : Option Nat) (held after : Subscriber σ) (event : Event),
      (Subscriber.nextEvent timeout).runFrom held = (.ok (some event), after) →
      (∀ count, event.count? = some count → after.connection.subscriptions = count) ∧
      (event.count? = none →
        after.connection.subscriptions = held.connection.subscriptions ∧
        after.connection.owedAcks = held.connection.owedAcks ∧
        after.connection.subscribed = held.connection.subscribed) := by
  refine ⟨?_, fun _ _ => no_ack_of_event, ?_, ?_⟩
  · intro reply kind count
    constructor
    · exact control_or_spoilt
    · rintro (⟨channel, told⟩ | spoilt)
      · exact ack_of_control told
      · exact ack_of_spoilt spoilt
  · intro reply countless
    cases noted : Ack.ofReply? reply with
    | none => rfl
    | some ack =>
        obtain ⟨name, channel, value, same, present, -⟩ := Ack.ofReply?_eq_some_iff.1 noted
        exact absurd (countless name channel value same) present
  · intro σ _ timeout held after event asked
    obtain ⟨transport, reply, bytes, -, -, pushed, noted⟩ := Subscriber.nextEvent_takes asked
    have told := Reply.ofReply_of_pushed pushed
    rw [noted]
    cases event with
    | control kind channel number =>
        rw [Connection.noteAck_some (ack_of_control told)]
        exact ⟨fun count same => Option.some.inj same, nofun⟩
    | message | unknown =>
        rw [Connection.noteAck_none (no_ack_of_event told rfl)]
        exact ⟨nofun, fun _ => ⟨rfl, rfl, rfl⟩⟩

/-- The acknowledgement of a first subscription, delivered in pieces. -/
theorem acks_agree_with_events_in_pieces :
    let notice : Notice := .ack .subscribe (some (Bytes.ofText "a")) 1
    let held : Subscriber Scripted :=
      { connection := .ofSocketWith 16 { input := notice.bytes, readChunk := 3 } }
    ∃ after, (Subscriber.nextEvent none).runFrom held =
        (.ok (some (.control .subscribe (some "a") 1)), after) ∧
      after.connection.subscriptions = 1 := by
  intro notice held
  have calm : Scripted.Faultless held.connection.transport.socket := by
    constructor <;> simp [held, Connection.ofSocketWith, Transport.ofSocketWith, Scripted.Harmless]
  have readable : notice.Readable := by decide
  have told : Event.ofReply notice.reply = .ok (.control .subscribe (some "a") 1) := by decide
  obtain ⟨transport, -, -, took⟩ := Connection.waitMessage_takes Scripted.delivering
    Scripted.prompt rfl rfl calm none (Notice.frame readable) (List.append_nil _).symm
  have asked := Subscriber.nextEvent_of_reply took
  have pushed : notice.reply.pushed = .ok (.control .subscribe (some "a") 1) := told
  rw [pushed] at asked
  exact ⟨_, asked, (acks_agree_with_events.2.2.2 Scripted none held _ _ asked).1 1 rfl⟩

end RespClient
