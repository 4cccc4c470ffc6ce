import RespClient.Proofs.Batch.Transaction
import RespClient.Proofs.Reply.Conversion

/-!
# Server errors are never data

A type that is built from scalars converts no reply in which a server error stands, however
deep it stands there. The elements of an array are converted from the left, and the first
that fails decides. So a conversion comes to a server error exactly if it meets one, with
everything in front of it converted.
-/

namespace RespClient

/-- This server error stands somewhere in the reply. -/
inductive Reply.Mentions (message : String) : Reply → Prop where
  | here : Mentions message (.error message)
  | inside {items : List Reply} {item : Reply} (member : item ∈ items)
      (deep : Mentions message item) : Mentions message (.array items)

namespace ResultType

def isScalar : ResultType → Bool
  | int64 | uint64 | bool | float | string | bytes => true
  | _ => false

/-- Built from scalars by options, lists and tuples. Neither whole replies nor kept failures are
among these types, for both take a server error inside an array as they find it. -/
def isData : ResultType → Bool
  | option inner | list inner => inner.isData
  | pair first second => first.isData && second.isData
  | triple first second third => first.isData && second.isData && third.isData
  | type => type.isScalar

/-- The types of the elements of an array with so many, if one is converted as a whole. -/
def elements? : ResultType → (count : Nat) → Option (List ResultType)
  | list inner, count => some (List.replicate count inner)
  | pair first second, count => if count = 2 then some [first, second] else none
  | triple first second third, count => if count = 3 then some [first, second, third] else none
  | _, _ => none

def takesArrays : ResultType → Bool
  | list _ | pair _ _ | triple _ _ _ => true
  | _ => false

/-! ## The first failure of several conversions -/

/-- Of conversions that are made in this order, one fails and those in front of it do not. -/
def FailsFirst (conversions : List (ResultType × Reply)) (cause : ClientError) : Prop :=
  ∃ before type item after, conversions = before ++ (type, item) :: after ∧
    (∀ earlier ∈ before, ∃ value, earlier.1.decode earlier.2 = .ok value) ∧
    type.decode item = .error cause

theorem failsFirst_nil {cause : ClientError} : ¬FailsFirst [] cause := by
  rintro ⟨before, type, item, after, split, -⟩
  exact absurd split.symm (List.append_ne_nil_of_right_ne_nil _ (List.cons_ne_nil _ _))

theorem failsFirst_cons {type : ResultType} {item : Reply} {rest : List (ResultType × Reply)}
    {cause : ClientError} :
    FailsFirst ((type, item) :: rest) cause ↔
      type.decode item = .error cause ∨
        (∃ value, type.decode item = .ok value) ∧ FailsFirst rest cause := by
  constructor
  · rintro ⟨before, kind, found, after, split, passed, failing⟩
    cases before with
    | nil =>
        cases split
        exact .inl failing
    | cons earlier before =>
        cases split
        obtain ⟨first, others⟩ := List.forall_mem_cons.1 passed
        exact .inr ⟨first, before, kind, found, after, rfl, others, failing⟩
  · rintro (failing | ⟨first, before, kind, found, after, rfl, others, failing⟩)
    · exact ⟨[], type, item, rest, rfl, nofun, failing⟩
    · exact ⟨(type, item) :: before, kind, found, after, rfl,
        List.forall_mem_cons.2 ⟨first, others⟩, failing⟩

/-- A conversion that is followed by others. -/
theorem bind_eq_error_iff_failsFirst {type : ResultType} {item : Reply}
    {rest : List (ResultType × Reply)} {cause : ClientError} {β : Type}
    {next : type.Value → Except ClientError β}
    (others : ∀ value, next value = .error cause ↔ FailsFirst rest cause) :
    (type.decode item >>= next) = .error cause ↔ FailsFirst ((type, item) :: rest) cause := by
  rw [failsFirst_cons]
  cases type.decode item with
  | error reason => simp [bind, Except.bind]
  | ok value => simpa [bind, Except.bind] using others value

theorem pure_eq_error_iff_failsFirst {β : Type} (value : β) {cause : ClientError} :
    (pure value : Except ClientError β) = .error cause ↔ FailsFirst [] cause :=
  ⟨nofun, fun fails => absurd fails failsFirst_nil⟩

/-- Where one of several conversions fails, there is a first that does. -/
theorem exists_failsFirst {conversions : List (ResultType × Reply)} {type : ResultType}
    {item : Reply} {cause : ClientError} (member : (type, item) ∈ conversions)
    (failing : type.decode item = .error cause) : ∃ first, FailsFirst conversions first := by
  induction conversions with
  | nil => cases member
  | cons head rest ih =>
      obtain ⟨kind, found⟩ := head
      cases converted : kind.decode found with
      | error reason => exact ⟨reason, failsFirst_cons.2 (.inl converted)⟩
      | ok value =>
          rcases List.mem_cons.1 member with same | later
          · cases same
            cases failing.symm.trans converted
          · obtain ⟨first, fails⟩ := ih later
            exact ⟨first, failsFirst_cons.2 (.inr ⟨⟨value, converted⟩, fails⟩)⟩

theorem mapM_eq_error_iff_failsFirst {inner : ResultType} {items : List Reply}
    {cause : ClientError} :
    items.mapM inner.decode = .error cause ↔
      FailsFirst ((List.replicate items.length inner).zip items) cause := by
  induction items with
  | nil => exact pure_eq_error_iff_failsFirst []
  | cons item items ih =>
      rw [List.mapM_cons, List.length_cons, List.replicate_succ, List.zip_cons_cons]
      apply bind_eq_error_iff_failsFirst
      intro value
      rw [← ih]
      cases items.mapM inner.decode <;> simp [bind, Except.bind, pure, Except.pure]

theorem decode_array_eq_error_iff {type : ResultType} {types : List ResultType}
    {items : List Reply} (elements : type.elements? items.length = some types)
    {cause : ClientError} :
    type.decode (.array items) = .error cause ↔ FailsFirst (types.zip items) cause := by
  cases type with
  | list inner =>
      cases elements
      exact mapM_eq_error_iff_failsFirst
  | pair first second =>
      match items with
      | [one, two] =>
          cases elements
          exact bind_eq_error_iff_failsFirst fun value =>
            bind_eq_error_iff_failsFirst fun other => pure_eq_error_iff_failsFirst _
  | triple first second third =>
      match items with
      | [one, two, three] =>
          cases elements
          exact bind_eq_error_iff_failsFirst fun value =>
            bind_eq_error_iff_failsFirst fun other =>
              bind_eq_error_iff_failsFirst fun another => pure_eq_error_iff_failsFirst _
  | _ => cases elements

/-! ## Types of data -/

/-- What holds of the scalars, and of an option and an array if it holds of what is in it, holds of
all types of data. -/
@[elab_as_elim]
theorem data_induction {motive : ResultType → Prop}
    (scalar : ∀ type, type.isScalar = true → motive type)
    (option : ∀ inner, motive inner → motive (.option inner))
    (array : ∀ type, type.takesArrays = true →
      (∀ count types, type.elements? count = some types → ∀ kind ∈ types, motive kind) →
      motive type) :
    ∀ type : ResultType, type.isData = true → motive type := by
  intro type data
  induction type with
  | value | unit | attempt => cases data
  | int64 | uint64 | bool | float | string | bytes => exact scalar _ rfl
  | option inner ih => exact option inner (ih data)
  | list inner ih =>
      apply array _ rfl
      rintro count types ⟨⟩ kind member
      exact List.eq_of_mem_replicate member ▸ ih data
  | pair first second one two =>
      obtain ⟨plain, also⟩ := Bool.and_eq_true_iff.1 data
      apply array _ rfl
      intro count types elements kind member
      obtain ⟨-, ⟨⟩⟩ := Option.ite_none_right_eq_some.1 elements
      simp only [List.mem_cons, List.not_mem_nil, or_false] at member
      rcases member with rfl | rfl
      · exact one plain
      · exact two also
  | triple first second third one two three =>
      obtain ⟨both, last⟩ := Bool.and_eq_true_iff.1 data
      obtain ⟨plain, also⟩ := Bool.and_eq_true_iff.1 both
      apply array _ rfl
      intro count types elements kind member
      obtain ⟨-, ⟨⟩⟩ := Option.ite_none_right_eq_some.1 elements
      simp only [List.mem_cons, List.not_mem_nil, or_false] at member
      rcases member with rfl | rfl | rfl
      · exact one plain
      · exact two also
      · exact three last

/-- Every element of an array that is converted has a type to be converted to. -/
theorem exists_mem_zip {type : ResultType} {types : List ResultType} {items : List Reply}
    (elements : type.elements? items.length = some types) {item : Reply} (member : item ∈ items) :
    ∃ kind, (kind, item) ∈ types.zip items := by
  have enough : items.length ≤ types.length := by
    cases type with
    | list inner =>
        cases elements
        exact Nat.le_of_eq List.length_replicate.symm
    | pair | triple =>
        obtain ⟨count, ⟨⟩⟩ := Option.ite_none_right_eq_some.1 elements
        exact Nat.le_of_eq count
    | _ => cases elements
  rw [← List.map_snd_zip enough] at member
  obtain ⟨⟨kind, _⟩, paired, rfl⟩ := List.mem_map.1 member
  exact ⟨kind, paired⟩

theorem decode_error_of_takesArrays {type : ResultType} (takes : type.takesArrays = true)
    (message : String) : type.decode (.error message) = .error (.server message) := by
  cases type <;> first | rfl | cases takes

theorem decode_error {type : ResultType} (data : type.isData = true) (message : String) :
    type.decode (.error message) = .error (.server message) := by
  refine data_induction ?scalar ?option ?array type data
  case scalar =>
    intro type scalar
    cases type <;> first | rfl | cases scalar
  case option =>
    intro inner ih
    exact congrArg (Except.map some) ih
  case array =>
    exact fun type takes _ => decode_error_of_takesArrays takes message

theorem isData_of_isScalar {type : ResultType} (scalar : type.isScalar = true) :
    type.isData = true := by
  cases type <;> first | exact scalar | cases scalar

theorem decode_scalar_array {type : ResultType} (scalar : type.isScalar = true)
    (items : List Reply) : ∃ cause, type.decode (.array items) = .error (.decode cause) := by
  cases type <;> first | exact ⟨_, rfl⟩ | cases scalar

/-- A scalar finds a server error nowhere but in front of it. -/
theorem eq_error_of_decode_scalar {type : ResultType} (scalar : type.isScalar = true)
    {reply : Reply} {message : String} (failed : type.decode reply = .error (.server message)) :
    reply = .error message := by
  cases reply with
  | error found =>
      cases failed.symm.trans (decode_error (isData_of_isScalar scalar) found)
      rfl
  | array items =>
      obtain ⟨cause, refused⟩ := decode_scalar_array scalar items
      cases failed.symm.trans refused
  | nil => cases type <;> cases failed
  | integer value =>
      cases type with
      | uint64 =>
          simp only [decode, Reply.toUInt64, Reply.toInt64] at failed
          split at failed <;> cases failed
      | _ => first | cases failed | cases scalar
  | simple text =>
      cases type with
      | bool =>
          simp only [decode, Reply.toBool] at failed
          split at failed <;> cases failed
      | float =>
          simp only [decode, Reply.toFloat, Reply.parseFloat] at failed
          split at failed <;> cases failed
      | _ => first | cases failed | cases scalar
  | bulk data =>
      cases type with
      | float =>
          simp only [decode, Reply.toFloat, Reply.parseFloat] at failed
          split at failed <;> cases failed
      | string =>
          simp only [decode, Reply.toText] at failed
          split at failed <;> cases failed
      | _ => first | cases failed | cases scalar

/-- A scalar refuses a server error, and takes another reply only if that has no elements. -/
theorem decode_scalar_cases {type : ResultType} (scalar : type.isScalar = true) (reply : Reply) :
    (∃ message, reply = .error message) ∨
      (∃ cause, type.decode reply = .error (.decode cause)) ∨
      (∃ value, type.decode reply = .ok value) ∧ ∀ message, ¬reply.Mentions message := by
  have tame := type.decode_tame reply
  cases outcome : type.decode reply with
  | error cause =>
      rw [outcome] at tame
      cases cause with
      | decode cause => exact .inr (.inl ⟨cause, rfl⟩)
      | server message => exact .inl ⟨message, eq_error_of_decode_scalar scalar outcome⟩
      | _ => cases tame
  | ok value =>
      refine .inr (.inr ⟨⟨value, rfl⟩, ?_⟩)
      rintro message (_ | _)
      · cases outcome.symm.trans (decode_error (isData_of_isScalar scalar) message)
      · obtain ⟨cause, refused⟩ := decode_scalar_array scalar _
        cases outcome.symm.trans refused

/-- A type of arrays refuses a server error, takes the elements of an array one by one or fails
before it looks at any. -/
theorem decode_array_cases {type : ResultType} (takes : type.takesArrays = true) (reply : Reply) :
    (∃ message, reply = .error message) ∨
      (∃ cause, type.decode reply = .error (.decode cause)) ∨
      ∃ items types, reply = .array items ∧ type.elements? items.length = some types := by
  cases reply with
  | error message => exact .inl ⟨message, rfl⟩
  | array items =>
      cases type with
      | list inner => exact .inr (.inr ⟨items, _, rfl, rfl⟩)
      | pair first second =>
          match items with
          | [one, two] => exact .inr (.inr ⟨_, _, rfl, rfl⟩)
          | [] | [one] | one :: two :: three :: more => exact .inr (.inl ⟨_, rfl⟩)
      | triple first second third =>
          match items with
          | [one, two, three] => exact .inr (.inr ⟨_, _, rfl, rfl⟩)
          | [] | [one] | [one, two] | one :: two :: three :: four :: more =>
              exact .inr (.inl ⟨_, rfl⟩)
      | _ => cases takes
  | nil | integer | simple | bulk =>
      cases type <;> first | exact .inr (.inl ⟨_, rfl⟩) | cases takes

/-! ## Meeting a server error -/

/-- The conversion of a reply comes upon this server error: everything in front of it, in the array
that it stands in and in those around it, is converted. -/
inductive Meets (message : String) : ResultType → Reply → Prop where
  | here {type : ResultType} : Meets message type (.error message)
  | option {inner : ResultType} {reply : Reply} (there : Meets message inner reply) :
      Meets message (.option inner) reply
  | element {type kind : ResultType} {types : List ResultType} {items : List Reply} {item : Reply}
      {before after : List (ResultType × Reply)}
      (elements : type.elements? items.length = some types)
      (split : types.zip items = before ++ (kind, item) :: after)
      (converted : ∀ earlier ∈ before, ∃ value, earlier.1.decode earlier.2 = .ok value)
      (there : Meets message kind item) : Meets message type (.array items)

theorem Meets.mentions {message : String} {type : ResultType} {reply : Reply}
    (meets : Meets message type reply) : reply.Mentions message := by
  induction meets with
  | here => exact .here
  | option there ih => exact ih
  | element elements split converted there ih =>
      have member := split ▸ List.mem_append_right _ List.mem_cons_self
      exact .inside (List.of_mem_zip member).2 ih

theorem option_decode {inner : ResultType} {reply : Reply} (present : reply ≠ .nil) :
    (option inner).decode reply = (inner.decode reply).map some := by
  cases reply <;> first | rfl | exact absurd rfl present

theorem ne_nil_of_mentions {message : String} {reply : Reply}
    (mentions : reply.Mentions message) : reply ≠ .nil := by
  rintro rfl
  cases mentions

/-- A conversion that meets a server error comes to it. -/
theorem decode_of_meets {message : String} {type : ResultType} (data : type.isData = true) :
    ∀ reply, Meets message type reply → type.decode reply = .error (.server message) := by
  refine data_induction ?scalar ?option ?array type data
  case scalar =>
    intro type scalar reply meets
    cases meets with
    | here => exact decode_error (isData_of_isScalar scalar) message
    | option => cases scalar
    | element elements => cases type <;> cases scalar <;> cases elements
  case option =>
    intro inner ih reply meets
    rw [option_decode (ne_nil_of_mentions meets.mentions)]
    cases meets with
    | here => exact congrArg (Except.map some) (ih _ .here)
    | option there => exact congrArg (Except.map some) (ih _ there)
    | element elements => cases elements
  case array =>
    intro type takes ih reply meets
    cases meets with
    | here => exact decode_error_of_takesArrays takes message
    | option => cases takes
    | element elements split converted there =>
        have member := split ▸ List.mem_append_right _ List.mem_cons_self
        have failing := ih _ _ elements _ (List.of_mem_zip member).1 _ there
        exact (decode_array_eq_error_iff elements).2
          ⟨_, _, _, _, split, converted, failing⟩

/-- A conversion that comes to a server error has met it. -/
theorem meets_of_decode {message : String} {type : ResultType} (data : type.isData = true) :
    ∀ reply, type.decode reply = .error (.server message) → Meets message type reply := by
  refine data_induction ?scalar ?option ?array type data
  case scalar =>
    intro type scalar reply failed
    rw [eq_error_of_decode_scalar scalar failed]
    exact .here
  case option =>
    intro inner ih reply failed
    have present : reply ≠ .nil := by
      rintro rfl
      cases failed
    rw [option_decode present] at failed
    cases outcome : inner.decode reply with
    | ok value =>
        rw [outcome] at failed
        cases failed
    | error cause =>
        rw [outcome] at failed
        cases failed
        exact .option (ih reply outcome)
  case array =>
    intro type takes ih reply failed
    rcases decode_array_cases takes reply with
      ⟨found, rfl⟩ | ⟨cause, other⟩ | ⟨items, types, rfl, elements⟩
    · cases failed.symm.trans (decode_error_of_takesArrays takes found)
      exact .here
    · cases failed.symm.trans other
    · obtain ⟨before, kind, item, after, split, converted, failing⟩ :=
        (decode_array_eq_error_iff elements).1 failed
      have member := split ▸ List.mem_append_right _ List.mem_cons_self
      exact .element elements split converted
        (ih _ _ elements _ (List.of_mem_zip member).1 _ failing)

/-- Where a reply holds a server error, no conversion of it is complete. -/
theorem decode_of_mentions {message : String} {type : ResultType} (data : type.isData = true) :
    ∀ reply, Reply.Mentions message reply → ∃ cause, type.decode reply = .error cause := by
  refine data_induction ?scalar ?option ?array type data
  case scalar =>
    intro type scalar reply mentions
    rcases decode_scalar_cases scalar reply with ⟨found, rfl⟩ | ⟨cause, refused⟩ | ⟨-, plain⟩
    · exact ⟨_, decode_error (isData_of_isScalar scalar) found⟩
    · exact ⟨_, refused⟩
    · exact absurd mentions (plain message)
  case option =>
    intro inner ih reply mentions
    obtain ⟨cause, failed⟩ := ih reply mentions
    exact ⟨cause, by rw [option_decode (ne_nil_of_mentions mentions), failed]; rfl⟩
  case array =>
    intro type takes ih reply mentions
    rcases decode_array_cases takes reply with
      ⟨found, rfl⟩ | ⟨cause, other⟩ | ⟨items, types, rfl, elements⟩
    · exact ⟨_, decode_error_of_takesArrays takes found⟩
    · exact ⟨_, other⟩
    · cases mentions with
      | @inside _ item member deep =>
          -- The element that holds the error has a type of its own in the array.
          obtain ⟨kind, paired⟩ := exists_mem_zip elements member
          obtain ⟨cause, failed⟩ := ih _ _ elements kind (List.of_mem_zip paired).1 item deep
          obtain ⟨first, fails⟩ := exists_failsFirst paired failed
          exact ⟨first, (decode_array_eq_error_iff elements).2 fails⟩

/-- A server error in a reply is never converted to data, whatever the reply is converted to and
however deep the error stands in it. A conversion that fails does so for the form of the reply or
with a server error of the reply, and with a server error exactly if it comes upon it once all that
stands in front of it has been converted. -/
theorem decode_refuses_server_errors {type : ResultType} (data : type.isData = true)
    (reply : Reply) :
    (∀ message, reply.Mentions message → ∃ cause, type.decode reply = .error cause) ∧
    (∀ cause, type.decode reply = .error cause →
      (∃ reason, cause = .decode reason) ∨
        ∃ message, cause = .server message ∧ reply.Mentions message) ∧
    ∀ message, type.decode reply = .error (.server message) ↔ Meets message type reply := by
  refine ⟨fun message => decode_of_mentions data reply, ?_, fun message => ?_⟩
  · intro cause failed
    have tame := type.decode_tame reply
    rw [failed] at tame
    cases cause with
    | decode reason => exact .inl ⟨reason, rfl⟩
    | server message => exact .inr ⟨message, rfl, (meets_of_decode data reply failed).mentions⟩
    | _ => cases tame
  · exact ⟨meets_of_decode data reply, decode_of_meets data reply⟩

/-- A server error in the second field of the second pair, behind one that is converted and in front
of one that could not be. -/
theorem decode_refuses_server_errors_in_pairs :
    let type : ResultType := .list (.pair .string (.option .int64))
    let reply : Reply := .array
      [.array [.simple "a", .nil], .array [.bulk [98], .error "ERR b"], .error "ERR c"]
    type.isData = true ∧ reply.Mentions "ERR c" ∧ (∃ cause, type.decode reply = .error cause) ∧
      type.decode reply = .error (.server "ERR b") := by
  intro type reply
  have mentioned : reply.Mentions "ERR c" := .inside (by simp) .here
  have refused := @decode_refuses_server_errors type rfl reply
  have pair : Meets "ERR b" (.pair .string (.option .int64))
      (.array [.bulk [98], .error "ERR b"]) :=
    .element rfl (rfl : _ = [_] ++ _ :: []) (List.forall_mem_singleton.2 ⟨_, rfl⟩) (.option .here)
  have meets : Meets "ERR b" type reply :=
    .element rfl (rfl : _ = [_] ++ _ :: [_]) (List.forall_mem_singleton.2 ⟨_, rfl⟩) pair
  exact ⟨rfl, mentioned, refused.1 _ mentioned, (refused.2.2 _).2 meets⟩

end ResultType

end RespClient
