import RespClient.Proofs.Reply.Composition
import RespClient.Proofs.Reply.Decoding
import RespClient.Proofs.Reply.Footprint
import RespClient.Proofs.Transport.Drawing

/-!
# What reading a reply takes

A header may announce nearly any number of items, so it is no bound on the work that a
reader does. The bound is the stream: every value that was read took a byte off it, and
the first that could not be read is the last that was begun. To say so, the reader is told
once more with a trace of the values that it begins and of its loops over the items of an
array. The trace is instrumentation; the outcome beside it is the reader's own.
-/

namespace RespClient.Reply

variable {σ : Type} [Socket σ]

/-! ## Headers -/

/-- What the front of a value says: all of it, or how many items are to follow. -/
inductive Header where
  | whole (reply : Reply)
  | items (count : Nat)

def headerAfter (type : UInt8) : Reading σ Header := do
  if type = '*'.toUInt8 then
    let count ← readInteger
    if count = -1 then return .whole nil
    else if count < -1 then protocolFailure (.negativeArrayLength count)
    else return .items count.toInt.toNat
  else return .whole (← readAfter (fun _ => return []) type)

def readHeader : Reading σ Header := do
  let type ← Transport.readByte
  headerAfter type

/-- A value is its header and, if it is an array, the items after that. -/
theorem readTyped_eq (contents : Nat → Reading σ (List Reply)) :
    readTyped contents = readHeader >>= fun
      | .whole reply => return reply
      | .items count => return array (← contents count) := by
  rw [readTyped, readHeader, bind_assoc]
  congr 1
  funext type
  rw [headerAfter]
  by_cases star : type = '*'.toUInt8
  · subst star
    have announced : readAfter contents '*'.toUInt8 = readArray contents := rfl
    rw [if_pos rfl, bind_assoc, announced, readArray]
    congr 1
    funext count
    by_cases missing : count = -1
    · rw [if_pos missing, if_pos missing, pure_bind]
    by_cases negative : count < -1
    · rw [if_neg missing, if_neg missing, if_pos negative, if_pos negative]
      rfl
    · rw [if_neg missing, if_neg missing, if_neg negative, if_neg negative, pure_bind]
  · rw [if_neg star, bind_assoc]
    simp only [readAfter, if_neg star, pure_bind, bind_pure]

theorem headerAfter_composed (type : UInt8) : Composed (headerAfter type : Reading σ Header) := by
  unfold headerAfter
  split
  · apply readInteger_composed.bind
    intro count
    split
    · exact .pure _
    split
    · exact .fail _
    · exact .pure _
  · exact (readAfter_composed (fun _ => .pure []) type).bind fun reply => .pure _

theorem Composed.draws {α : Type} {reading : Reading σ α} (composed : Composed reading)
    {before after : Transport σ} {outcome : Except FatalError α}
    (ran : reading.runFrom before = (outcome, after)) : Transport.Draws before after := by
  induction composed generalizing before after with
  | pure value => cases ran; exact .refl before
  | fail cause => cases ran; exact .refl before
  | byte =>
      have drawn := Transport.readByte_draws before
      rwa [ran] at drawn
  | bytes count =>
      have drawn := Transport.read_draws count before
      rwa [ran] at drawn
  | line =>
      have drawn := Transport.readLine_draws before
      rwa [ran] at drawn
  | @bind α β first next begun continued ih more =>
      rcases done : first.runFrom before with ⟨cause | value, middle⟩
      · rw [Attempt.runFrom_bind_error done] at ran
        cases ran
        exact ih done
      · rw [Attempt.runFrom_bind_ok done] at ran
        exact (ih done).trans (more value ran)

/-- How many values may have been begun for nothing: one if the action has failed. -/
def slack {α : Type} : Except FatalError α → Nat
  | .ok _ => 0
  | .error _ => 1

/-- A header that was read was at least a type byte long. -/
theorem readHeader_shortens {before after : Transport σ} {outcome : Except FatalError Header}
    (ran : readHeader.runFrom before = (outcome, after)) :
    1 + after.stream.length ≤ before.stream.length + slack outcome := by
  rw [readHeader, Attempt.runFrom_bind] at ran
  split at ran
  · next type middle taken =>
      have whole := congrArg List.length (Transport.readByte_ok taken)
      have shorter := ((headerAfter_composed type).draws ran).stream_suffix.length_le
      rw [List.length_cons] at whole
      omega
  · next cause middle failed =>
      have shorter := (Composed.byte.draws failed).stream_suffix.length_le
      cases ran
      rw [slack]
      omega

/-! ## The traced reader -/

inductive Step where
  /-- The reading of a value begins, inside so many arrays. -/
  | value (depth : Nat)
  /-- A loop over so many announced items had `unread` bytes before it and began to read `begun`
  of the items. -/
  | loop (announced unread begun : Nat)

def Step.isValue : Step → Bool
  | value _ => true
  | loop .. => false

/-- How many values were begun. -/
def valuesBegun (steps : List Step) : Nat :=
  steps.countP Step.isValue

structure Traced (σ α : Type) where
  steps : List Step
  outcome : Except FatalError α
  after : Transport σ

structure Looped (σ : Type) extends Traced σ (List Reply) where
  begun : Nat

def traceItems (item : Transport σ → Traced σ Reply) (count : Nat) (taken : List Reply)
    (before : Transport σ) : Looped σ :=
  match count with
  | 0 => { steps := [], outcome := .ok taken.reverse, after := before, begun := 0 }
  | count + 1 =>
      let first := item before
      match first.outcome with
      | .error cause =>
          { steps := first.steps, outcome := .error cause, after := first.after, begun := 1 }
      | .ok reply =>
          let rest := traceItems item count (reply :: taken) first.after
          { rest with steps := first.steps ++ rest.steps, begun := rest.begun + 1 }

/-- A reply inside `depth` arrays, in which arrays may stand to so many more levels. -/
def trace (levels depth : Nat) (before : Transport σ) : Traced σ Reply :=
  match readHeader.runFrom before with
  | (.error cause, after) => ⟨[.value depth], .error cause, after⟩
  | (.ok (.whole reply), after) => ⟨[.value depth], .ok reply, after⟩
  | (.ok (.items count), middle) =>
      match levels with
      | 0 => ⟨[.value depth], .error (.protocol .nestedTooDeep), middle⟩
      | levels + 1 =>
          let items := traceItems (trace levels (depth + 1)) count [] middle
          ⟨.value depth :: .loop count middle.stream.length items.begun :: items.steps,
            items.outcome.map array, items.after⟩

omit [Socket σ] in
theorem runFrom_readItems {readItem : Reading σ Reply} {item : Transport σ → Traced σ Reply}
    (same : ∀ before, readItem.runFrom before = ((item before).outcome, (item before).after))
    (count : Nat) (taken : List Reply) (before : Transport σ) :
    (readItems readItem count taken).runFrom before =
      ((traceItems item count taken before).outcome,
        (traceItems item count taken before).after) := by
  induction count generalizing taken before with
  | zero => rfl
  | succ count ih =>
      rw [readItems, Attempt.runFrom_bind, same, traceItems]
      cases (item before).outcome with
      | error cause => rfl
      | ok reply => exact ih (reply :: taken) (item before).after

/-- The traced reader is the reader. -/
theorem runFrom_readNested (levels depth : Nat) (before : Transport σ) :
    (readNested levels).runFrom before =
      ((trace levels depth before).outcome, (trace levels depth before).after) := by
  induction levels generalizing depth before with
  | zero =>
      rw [readNested, readTyped_eq, Attempt.runFrom_bind, trace]
      rcases readHeader.runFrom before with ⟨cause | _ | _, middle⟩ <;> rfl
  | succ levels ih =>
      rw [readNested, readTyped_eq, Attempt.runFrom_bind, trace]
      rcases readHeader.runFrom before with ⟨cause | _ | count, middle⟩
      · rfl
      · rfl
      · have items := runFrom_readItems (ih (depth + 1)) count [] middle
        simp only [Attempt.runFrom_bind, items]
        cases (traceItems (trace levels (depth + 1)) count [] middle).outcome <;> rfl

/-! ## Bounds -/

/-- The bounds on the steps of an action, where values are at most so deep. -/
structure Bounded {α : Type} (deepest : Nat) (before : Transport σ) (traced : Traced σ α) :
    Prop where
  drawn : valuesBegun traced.steps + traced.after.stream.length ≤
    before.stream.length + slack traced.outcome
  loops : ∀ announced unread begun, .loop announced unread begun ∈ traced.steps →
    begun ≤ announced ∧ begun ≤ unread + 1
  shallow : ∀ depth, .value depth ∈ traced.steps → depth ≤ deepest

theorem valuesBegun_value (depth : Nat) (steps : List Step) :
    valuesBegun (.value depth :: steps) = 1 + valuesBegun steps := by
  rw [Nat.add_comm]
  exact List.countP_cons_of_pos rfl

theorem valuesBegun_loop (announced unread begun : Nat) (steps : List Step) :
    valuesBegun (.loop announced unread begun :: steps) = valuesBegun steps :=
  List.countP_cons_of_neg Bool.false_ne_true

theorem valuesBegun_append (first second : List Step) :
    valuesBegun (first ++ second) = valuesBegun first + valuesBegun second :=
  List.countP_append

theorem slack_map {α β : Type} (change : α → β) (outcome : Except FatalError α) :
    slack (outcome.map change) = slack outcome := by
  cases outcome <;> rfl

theorem slack_le {α : Type} (outcome : Except FatalError α) : slack outcome ≤ 1 := by
  cases outcome with
  | error cause => exact Nat.le_refl 1
  | ok value => exact Nat.zero_le 1

theorem traceItems_bounded {deepest : Nat} {item : Transport σ → Traced σ Reply}
    (bounded : ∀ before, Bounded deepest before (item before))
    (begins : ∀ before, 0 < valuesBegun (item before).steps) (count : Nat) (taken : List Reply)
    (before : Transport σ) :
    Bounded deepest before (traceItems item count taken before).toTraced ∧
      (traceItems item count taken before).begun ≤ count ∧
      (traceItems item count taken before).begun ≤
        valuesBegun (traceItems item count taken before).steps := by
  induction count generalizing taken before with
  | zero => exact ⟨⟨Nat.le_of_eq (Nat.zero_add _), nofun, nofun⟩, Nat.le_refl 0, Nat.le_refl 0⟩
  | succ count ih =>
      obtain ⟨drawn, loops, shallow⟩ := bounded before
      have begun := begins before
      rw [traceItems]
      cases outcome : (item before).outcome with
      | error cause =>
          rw [outcome] at drawn
          exact ⟨⟨drawn, loops, shallow⟩, Nat.le_add_left 1 count, begun⟩
      | ok reply =>
          obtain ⟨⟨drawn_rest, loops_rest, shallow_rest⟩, few, counted⟩ :=
            ih (reply :: taken) (item before).after
          rw [outcome, slack] at drawn
          refine ⟨⟨?_, ?_, ?_⟩, Nat.succ_le_succ few, ?_⟩
          · simp only [valuesBegun_append]
            omega
          · intro announced unread begun member
            rcases List.mem_append.1 member with here | later
            · exact loops _ _ _ here
            · exact loops_rest _ _ _ later
          · intro depth member
            rcases List.mem_append.1 member with here | later
            · exact shallow depth here
            · exact shallow_rest depth later
          · simp only [valuesBegun_append]
            omega

theorem trace_begins (levels depth : Nat) (before : Transport σ) :
    0 < valuesBegun (trace levels depth before).steps := by
  have first (steps : List Step) : 0 < valuesBegun (.value depth :: steps) := by
    rw [valuesBegun_value, Nat.add_comm]
    exact Nat.succ_pos _
  unfold trace
  split
  · exact first []
  · exact first []
  · split
    · exact first []
    · exact first _

/-- Where no loop is entered the only step is the value itself. -/
theorem Bounded.alone {α : Type} {before after : Transport σ} {depth deepest : Nat}
    {outcome : Except FatalError α} (fits : depth ≤ deepest)
    (shorter : 1 + after.stream.length ≤ before.stream.length + slack outcome) :
    Bounded deepest before ⟨[.value depth], outcome, after⟩ where
  drawn := shorter
  loops := by
    intro announced unread begun member
    cases List.mem_singleton.1 member
  shallow := by
    intro below member
    cases List.mem_singleton.1 member
    exact fits

theorem trace_bounded (levels depth : Nat) (before : Transport σ) :
    Bounded (depth + levels) before (trace levels depth before) := by
  induction levels generalizing depth before with
  | zero =>
      unfold trace
      split
      · next ran => exact .alone (Nat.le_refl _) (readHeader_shortens ran)
      · next ran => exact .alone (Nat.le_refl _) (readHeader_shortens ran)
      · next ran =>
          have shorter := readHeader_shortens ran
          exact .alone (Nat.le_refl _) (Nat.le_succ_of_le shorter)
  | succ levels ih =>
      unfold trace
      split
      · next ran => exact .alone (Nat.le_add_right _ _) (readHeader_shortens ran)
      · next ran => exact .alone (Nat.le_add_right _ _) (readHeader_shortens ran)
      · next count middle ran =>
          have shorter := readHeader_shortens ran
          obtain ⟨⟨drawn, loops, shallow⟩, few, counted⟩ :=
            traceItems_bounded (ih (depth + 1)) (trace_begins levels (depth + 1)) count [] middle
          have one := slack_le (traceItems (trace levels (depth + 1)) count [] middle).outcome
          rw [slack] at shorter
          refine ⟨?_, ?_, ?_⟩
          · simp only [valuesBegun_value, valuesBegun_loop, slack_map]
            omega
          · intro announced unread begun member
            rcases List.mem_cons.1 member with same | inside
            · cases same
            rcases List.mem_cons.1 inside with same | inside
            · cases same
              exact ⟨few, by omega⟩
            · exact loops _ _ _ inside
          · intro below member
            rcases List.mem_cons.1 member with same | inside
            · cases same
              exact Nat.le_add_right _ _
            rcases List.mem_cons.1 inside with same | inside
            · cases same
            · rw [← Nat.succ_add_eq_add_succ]
              exact shallow _ inside

/-- Reading a reply is proportional to what there is to read, whatever its headers announce. The
traced reader comes to what the reader comes to. It begins at most one value more than the stream
has bytes, and the same holds of every loop over the items of an array and the bytes in front of
it; no value is deeper than the limit. A reply that was read has at most as many values and bytes
of strings as bytes were taken for it, and no array stands in it deeper than the limit. -/
theorem readFrame_proportional (transport : Transport σ) :
    let traced := trace maxNesting 0 transport
    readFrame.runFrom transport = (traced.outcome, traced.after) ∧
    valuesBegun traced.steps ≤ transport.stream.length + 1 ∧
    (∀ announced unread begun, .loop announced unread begun ∈ traced.steps →
      begun ≤ announced ∧ begun ≤ unread + 1) ∧
    (∀ depth, .value depth ∈ traced.steps → depth ≤ maxNesting) ∧
    (∀ reply, traced.outcome = .ok reply →
      ∃ bytes, transport.stream = bytes ++ traced.after.stream ∧
        footprint (values reply) ≤ bytes.length ∧
        ∀ item ∈ values reply, ∀ levels, Nests item levels → levels ≤ maxNesting) := by
  intro traced
  have same : readFrame.runFrom transport = (traced.outcome, traced.after) :=
    runFrom_readNested maxNesting 0 transport
  have bounds : Bounded (0 + maxNesting) transport traced := trace_bounded maxNesting 0 transport
  rw [Nat.zero_add] at bounds
  have drawn := bounds.drawn
  have one := slack_le traced.outcome
  refine ⟨same, by omega, bounds.loops, bounds.shallow, ?_⟩
  intro reply finished
  rw [finished] at same
  obtain ⟨bytes, frame, split⟩ := readFrame_ok same
  refine ⟨bytes, split, frame.footprint_le, ?_⟩
  intro item member levels nests
  obtain ⟨below, part, -, inner⟩ := frame.of_mem_values member
  exact Nat.le_trans (Nat.le_add_left levels below) (nests.within inner)

end RespClient.Reply
