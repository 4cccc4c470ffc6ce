/-!
# Attempts

An operation on a state that can fail and leaves a state behind in either case.
-/

namespace RespClient

abbrev Attempt (ε state α : Type) := ExceptT ε (StateM state) α

namespace Attempt

variable {ε state α β : Type}

/-- The attempt that a function from states to outcomes describes. -/
def ofStep (step : state → Except ε α × state) : Attempt ε state α :=
  ExceptT.mk fun before => step before

def runFrom (attempt : Attempt ε state α) (before : state) : Except ε α × state :=
  ExceptT.run attempt before

@[simp] theorem runFrom_ofStep (step : state → Except ε α × state) (before : state) :
    (ofStep step).runFrom before = step before := rfl

@[simp] theorem runFrom_pure (value : α) (before : state) :
    runFrom (pure value : Attempt ε state α) before = (.ok value, before) := rfl

@[simp] theorem runFrom_throw (cause : ε) (before : state) :
    runFrom (throw cause : Attempt ε state α) before = (.error cause, before) := rfl

@[simp] theorem runFrom_get (before : state) :
    runFrom (get : Attempt ε state state) before = (.ok before, before) := rfl

@[simp] theorem runFrom_modify (change : state → state) (before : state) :
    runFrom (modify change : Attempt ε state PUnit) before = (.ok ⟨⟩, change before) := rfl

@[simp] theorem runFrom_liftM (outcome : Except ε α) (before : state) :
    runFrom (liftM outcome : Attempt ε state α) before = (outcome, before) := rfl

theorem runFrom_bind (first : Attempt ε state α) (next : α → Attempt ε state β)
    (before : state) :
    (first >>= next).runFrom before =
      match first.runFrom before with
      | (.ok value, after) => (next value).runFrom after
      | (.error cause, after) => (.error cause, after) := by
  simp only [runFrom, ExceptT.run, bind, ExceptT.bind, ExceptT.mk, StateT.bind]
  cases first before with
  | mk outcome after => cases outcome <;> rfl

theorem runFrom_bind_ok {first : Attempt ε state α} {next : α → Attempt ε state β}
    {before middle : state} {value : α} (done : first.runFrom before = (.ok value, middle)) :
    (first >>= next).runFrom before = (next value).runFrom middle := by
  rw [runFrom_bind, done]

theorem runFrom_bind_error {first : Attempt ε state α} {next : α → Attempt ε state β}
    {before after : state} {cause : ε} (failed : first.runFrom before = (.error cause, after)) :
    (first >>= next).runFrom before = (.error cause, after) := by
  rw [runFrom_bind, failed]

/-- A sequence of two attempts succeeds only if both do. -/
theorem ok_of_runFrom_bind {first : Attempt ε state α} {next : α → Attempt ε state β}
    {before after : state} {result : β}
    (done : (first >>= next).runFrom before = (.ok result, after)) :
    ∃ value middle, first.runFrom before = (.ok value, middle) ∧
      (next value).runFrom middle = (.ok result, after) := by
  rw [runFrom_bind] at done
  split at done
  · next value middle first_done => exact ⟨value, middle, first_done, done⟩
  · cases done

/-- It fails if one of them does. -/
theorem error_of_runFrom_bind {first : Attempt ε state α} {next : α → Attempt ε state β}
    {before after : state} {cause : ε}
    (failed : (first >>= next).runFrom before = (.error cause, after)) :
    first.runFrom before = (.error cause, after) ∨
      ∃ value middle, first.runFrom before = (.ok value, middle) ∧
        (next value).runFrom middle = (.error cause, after) := by
  rw [runFrom_bind] at failed
  split at failed
  · next value middle done => exact .inr ⟨value, middle, done, failed⟩
  · next earlier middle first_failed =>
      cases failed
      exact .inl first_failed

end Attempt

end RespClient
