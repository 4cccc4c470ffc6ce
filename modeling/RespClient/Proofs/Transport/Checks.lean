import RespClient.Attempt
import RespClient.Error

/-!
# Checked operations

An operation on numbers, bytes or lists that is not defined everywhere is checked before
it is done, and a check that fails halts whatever it is a part of.
-/

namespace RespClient

inductive Check where
  | subtraction
  | slice
  | split
  | copy
  | index
  | refill

/-- Why an operation has not succeeded. -/
inductive Halt where
  | failed (cause : FatalError)
  | violated (check : Check)

abbrev Guarded (state α : Type) := Attempt Halt state α

namespace Guarded

variable {state ι : Type}

def require (sound : Prop) [Decidable sound] (check : Check) : Guarded state Unit :=
  if sound then return () else throw (.violated check)

def subtract (whole part : Nat) : Guarded state Nat := do
  require (part ≤ whole) .subtraction
  return whole - part

def slice (items : List ι) (first last : Nat) : Guarded state (List ι) := do
  require (first ≤ last ∧ last ≤ items.length) .slice
  return (items.take last).drop first

def split (bytes : Bytes) (middle : Nat) : Guarded state (Bytes × Bytes) := do
  require (middle ≤ bytes.length) .split
  return (bytes.take middle, bytes.drop middle)

/-- What the target holds once the source has been copied over all of it. -/
def copy (target source : Bytes) : Guarded state Bytes := do
  require (target.length = source.length) .copy
  return source

def index (items : List ι) (position : Nat) : Guarded state ι :=
  match items[position]? with
  | some item => return item
  | none => throw (.violated .index)

section Passed

variable (before : state)

theorem runFrom_require {sound : Prop} [Decidable sound] {check : Check} (holds : sound) :
    (require sound check).runFrom before = (.ok (), before) := by
  rw [require, if_pos holds]
  rfl

theorem runFrom_subtract {whole part : Nat} (fits : part ≤ whole) :
    (subtract whole part).runFrom before = (.ok (whole - part), before) :=
  Attempt.runFrom_bind_ok (runFrom_require before fits)

theorem runFrom_slice {items : List ι} {first last : Nat} (ordered : first ≤ last)
    (within : last ≤ items.length) :
    (slice items first last).runFrom before = (.ok ((items.take last).drop first), before) :=
  Attempt.runFrom_bind_ok (runFrom_require before ⟨ordered, within⟩)

theorem runFrom_split {bytes : Bytes} {middle : Nat} (within : middle ≤ bytes.length) :
    (split bytes middle).runFrom before =
      (.ok (bytes.take middle, bytes.drop middle), before) :=
  Attempt.runFrom_bind_ok (runFrom_require before within)

theorem runFrom_copy {target source : Bytes} (same : target.length = source.length) :
    (copy target source).runFrom before = (.ok source, before) :=
  Attempt.runFrom_bind_ok (runFrom_require before same)

theorem runFrom_index {items : List ι} {position : Nat} {item : ι}
    (there : items[position]? = some item) :
    (index items position).runFrom before = (.ok item, before) := by
  rw [index, there]
  rfl

end Passed

section Passes

variable {before after : state}

theorem subtract_ok {whole part rest : Nat}
    (done : (subtract whole part).runFrom before = (.ok rest, after)) :
    part ≤ whole ∧ rest = whole - part ∧ after = before := by
  unfold subtract require at done
  split at done
  · next fits =>
      cases done
      exact ⟨fits, rfl, rfl⟩
  · cases done

theorem slice_ok {items part : List ι} {first last : Nat}
    (done : (slice items first last).runFrom before = (.ok part, after)) :
    first ≤ last ∧ last ≤ items.length ∧ part = (items.take last).drop first ∧ after = before := by
  unfold slice require at done
  split at done
  · next sound =>
      cases done
      exact ⟨sound.1, sound.2, rfl, rfl⟩
  · cases done

theorem index_ok {items : List ι} {position : Nat} {item : ι}
    (done : (index items position).runFrom before = (.ok item, after)) :
    items[position]? = some item ∧ after = before := by
  unfold index at done
  split at done
  · next there =>
      cases done
      exact ⟨there, rfl⟩
  · cases done

end Passes

end Guarded

end RespClient
