import RespClient.Proofs.Transport.Checks
import RespClient.Proofs.Transport.Sending

/-!
# Where a send has come to

Between its writes a send keeps a place among its frames: the index of one of them and
an offset into it. The send is told once more on such places, and here each index, slice
and subtraction is checked. No check is ever violated, and the send comes to what it
comes to on the slices that are left.
-/

namespace RespClient

/-- Empty slices do not matter to what is taken off the front. -/
theorem dropBytes_filter_nonempty (count : Nat) (slices : List Bytes) :
    (dropBytes count (slices.filter (!·.isEmpty))).filter (!·.isEmpty) =
      (dropBytes count slices).filter (!·.isEmpty) := by
  induction slices generalizing count with
  | nil => rfl
  | cons slice rest ih =>
      cases slice with
      | nil => simpa [dropBytes] using ih count
      | cons byte bytes =>
          rw [List.filter_cons_of_pos rfl, dropBytes, dropBytes]
          cases left : (byte :: bytes).drop count with
          | nil => exact ih _
          | cons first others => simp

/-- A place among frames. -/
structure Cursor where
  index : Nat := 0
  offset : Nat := 0

namespace Cursor

open Guarded

variable {σ state : Type} {frames : List Bytes}

/-- What is to be sent from this place on. -/
def left (cursor : Cursor) (frames : List Bytes) : List Bytes :=
  match frames.drop cursor.index with
  | [] => []
  | frame :: others => frame.drop cursor.offset :: others

/-- The offset is one into the frame at the index. -/
def Within (cursor : Cursor) (frames : List Bytes) : Prop :=
  ∀ frame, frames[cursor.index]? = some frame → cursor.offset ≤ frame.length

/-- The slices that a write is offered. -/
def offer (cursor : Cursor) (frames : List Bytes) : Guarded state (List Bytes) := do
  let frame ← Guarded.index frames cursor.index
  let first ← slice frame cursor.offset frame.length
  let others ← slice frames (cursor.index + 1) frames.length
  return (first :: others).filter (!·.isEmpty)

/-- The place behind so many more bytes. -/
def advance (frames : List Bytes) (cursor : Cursor) (written : Nat) : Guarded state Cursor :=
  if _more : cursor.index < frames.length then do
    let frame ← Guarded.index frames cursor.index
    let here ← subtract frame.length cursor.offset
    if written < here then return { cursor with offset := cursor.offset + written }
    else
      let beyond ← subtract written here
      advance frames { index := cursor.index + 1 } beyond
  else return cursor
termination_by frames.length - cursor.index

theorem left_at (cursor : Cursor) {frame : Bytes} (there : frames[cursor.index]? = some frame) :
    cursor.left frames = frame.drop cursor.offset :: frames.drop (cursor.index + 1) := by
  obtain ⟨inside, rfl⟩ := List.getElem?_eq_some_iff.1 there
  rw [left, List.drop_eq_getElem_cons inside]

theorem left_over {cursor : Cursor} (outside : frames.length ≤ cursor.index) :
    cursor.left frames = [] := by
  rw [left, List.drop_eq_nil_of_le outside]

theorem left_frame (frames : List Bytes) (index : Nat) :
    ({ index } : Cursor).left frames = frames.drop index := by
  rw [left]
  cases frames.drop index <;> rfl

theorem within_frame (frames : List Bytes) (index : Nat) : ({ index } : Cursor).Within frames :=
  fun _ _ => Nat.zero_le _

/-! ## Checks that are passed -/

theorem offer_ok {cursor : Cursor} {slices : List Bytes} {before after : state}
    (done : (cursor.offer frames).runFrom before = (.ok slices, after)) :
    slices = (cursor.left frames).filter (!·.isEmpty) := by
  unfold offer at done
  obtain ⟨frame, _, found, rest⟩ := Attempt.ok_of_runFrom_bind done
  obtain ⟨first, _, sliced, rest⟩ := Attempt.ok_of_runFrom_bind rest
  obtain ⟨others, _, behind, last⟩ := Attempt.ok_of_runFrom_bind rest
  obtain ⟨-, -, rfl, -⟩ := slice_ok sliced
  obtain ⟨-, -, rfl, -⟩ := slice_ok behind
  cases last
  rw [left_at cursor (index_ok found).1, List.take_length, List.take_length]

theorem runFrom_offer {cursor : Cursor} (within : cursor.Within frames)
    (more : cursor.index < frames.length) (before : state) :
    (cursor.offer frames).runFrom before =
      (.ok ((cursor.left frames).filter (!·.isEmpty)), before) := by
  have there := List.getElem?_eq_getElem more
  rw [offer, Attempt.runFrom_bind_ok (runFrom_index before there),
    Attempt.runFrom_bind_ok (runFrom_slice before (within _ there) (Nat.le_refl _)),
    Attempt.runFrom_bind_ok (runFrom_slice before more (Nat.le_refl _)), left_at cursor there,
    List.take_length, List.take_length]
  rfl

theorem advance_ok {cursor next : Cursor} {written : Nat} {before after : state}
    (done : (advance frames cursor written).runFrom before = (.ok next, after)) :
    next.left frames = dropBytes written (cursor.left frames) := by
  fun_induction @advance state frames cursor written generalizing before with
  | case1 cursor written more ih =>
      obtain ⟨frame, _, found, rest⟩ := Attempt.ok_of_runFrom_bind done
      obtain ⟨here, _, counted, rest⟩ := Attempt.ok_of_runFrom_bind rest
      obtain ⟨there, -⟩ := index_ok found
      obtain ⟨-, rfl, -⟩ := subtract_ok counted
      rw [left_at cursor there, dropBytes, List.drop_drop]
      split at rest
      · next inside =>
          cases rest
          have some : frame.drop (cursor.offset + written) ≠ [] := by
            rw [Ne, List.drop_eq_nil_iff]
            omega
          rw [left_at { cursor with offset := cursor.offset + written } there]
          split
          · next none => exact absurd none some
          · rfl
      · next past =>
          obtain ⟨beyond, _, counted, rest⟩ := Attempt.ok_of_runFrom_bind rest
          obtain ⟨-, rfl, -⟩ := subtract_ok counted
          have none : frame.drop (cursor.offset + written) = [] := by
            rw [List.drop_eq_nil_iff]
            omega
          rw [none, List.length_drop, ih (frame.length - cursor.offset) _ rest, left_frame]
  | case2 cursor written outside =>
      cases done
      rw [left_over (Nat.le_of_not_lt outside)]
      rfl

theorem advance_passes {cursor : Cursor} (within : cursor.Within frames) (written : Nat)
    (before : state) :
    ∃ next, (advance frames cursor written).runFrom before = (.ok next, before) ∧
      next.Within frames := by
  fun_induction @advance state frames cursor written with
  | case1 cursor written more ih =>
      have there := List.getElem?_eq_getElem more
      rw [Attempt.runFrom_bind_ok (runFrom_index before there),
        Attempt.runFrom_bind_ok (runFrom_subtract before (within _ there))]
      split
      · next inside =>
          refine ⟨_, rfl, fun frame found => ?_⟩
          cases there.symm.trans found
          dsimp only
          omega
      · next past =>
          rw [Attempt.runFrom_bind_ok (runFrom_subtract before (Nat.le_of_not_lt past))]
          exact ih (frames[cursor.index].length - cursor.offset) _ (within_frame frames _)
  | case2 cursor written outside => exact ⟨cursor, rfl, within⟩

/-! ## The send -/

variable [Socket σ]

/-- Sends the frames from this place on. -/
def sendFrom (frames : List Bytes) (socket : σ) (cursor : Cursor) : Except Halt Unit × σ :=
  if cursor.index < frames.length then
    match _offered : (cursor.offer frames).runFrom socket with
    | (.error halt, after) => (.error halt, after)
    | (.ok [], after) => (.ok (), after)
    | (.ok (slice :: slices), _) =>
        match _acceptance : Socket.write socket (slice :: slices) with
        | (.accepted 0, after) => (.error (.failed (.connection .acceptedNothing)), after)
        | (.accepted (count + 1), after) =>
            match _advanced : (advance frames cursor (count + 1)).runFrom after with
            | (.error halt, after) => (.error halt, after)
            | (.ok next, after) => sendFrom frames after next
        | (.interrupted, after) => sendFrom frames after cursor
        | (.failed cause, after) => (.error (.failed (.connection cause)), after)
  else (.ok (), socket)
termination_by (totalLength (cursor.left frames), Socket.patience socket)
decreasing_by
  · have offered := offer_ok _offered
    have some := Transport.totalLength_offer_pos offered.symm
    rw [offered, totalLength_filter_nonempty] at some
    apply Prod.Lex.left
    rw [advance_ok _advanced, totalLength_dropBytes]
    omega
  · exact Prod.Lex.right _ (Socket.write_interrupted _acceptance)

def send (frames : List Bytes) : Guarded σ Unit :=
  .ofStep fun socket => sendFrom frames socket {}

section Step

variable {cursor : Cursor} {socket : σ} (within : cursor.Within frames)

include within

theorem sendFrom_done (nothing : (cursor.left frames).filter (!·.isEmpty) = []) :
    sendFrom frames socket cursor = (.ok (), socket) := by
  rw [sendFrom]
  split
  · next more =>
      have offered := runFrom_offer within more socket
      rw [nothing] at offered
      split
      · next failed => cases failed.symm.trans offered
      · next none => cases none.symm.trans offered; rfl
      · next some => cases some.symm.trans offered
  · rfl

/-- One write, and the place behind what it has accepted. -/
theorem sendFrom_step {slice : Bytes} {slices : List Bytes}
    (offer : (cursor.left frames).filter (!·.isEmpty) = slice :: slices) :
    sendFrom frames socket cursor =
      match Socket.write socket (slice :: slices) with
      | (.accepted 0, after) => (.error (.failed (.connection .acceptedNothing)), after)
      | (.accepted (count + 1), after) =>
          match (advance frames cursor (count + 1)).runFrom after with
          | (.error halt, after) => (.error halt, after)
          | (.ok next, after) => sendFrom frames after next
      | (.interrupted, after) => sendFrom frames after cursor
      | (.failed cause, after) => (.error (.failed (.connection cause)), after) := by
  have more : cursor.index < frames.length := by
    refine Nat.lt_of_not_le fun outside => ?_
    rw [left_over outside] at offer
    cases offer
  have offered := runFrom_offer within more socket
  rw [offer] at offered
  rw [sendFrom, if_pos more]
  split
  · next failed => cases failed.symm.trans offered
  · next none => cases none.symm.trans offered
  · next some =>
      cases some.symm.trans offered
      split
      · next nothing => rw [nothing]
      · next accepted =>
          rw [accepted]
          dsimp only
          split
          · next violated => rw [violated]
          · next reached => rw [reached]
      · next interrupted => rw [interrupted]
      · next failed => rw [failed]

end Step

/-- From any place on no check is violated, and the send is one of the slices that are left. -/
theorem sendFrom_eq {cursor : Cursor} {slices : List Bytes} (within : cursor.Within frames)
    (socket : σ)
    (same : slices.filter (!·.isEmpty) = (cursor.left frames).filter (!·.isEmpty)) :
    sendFrom frames socket cursor =
      ((Transport.sendAll socket slices).1.mapError fun cause => .failed (.connection cause),
        (Transport.sendAll socket slices).2) := by
  fun_induction Transport.sendAll socket slices generalizing cursor with
  | case1 socket slices nothing =>
      exact sendFrom_done within (same.symm.trans nothing)
  | case2 socket slices slice others offer after nothing =>
      rw [sendFrom_step within (same.symm.trans offer), nothing]
      rfl
  | case3 socket slices slice others offer count after accepted ih =>
      obtain ⟨next, reached, still⟩ := advance_passes within (count + 1) after
      rw [sendFrom_step within (same.symm.trans offer), accepted]
      dsimp only
      rw [reached]
      refine ih still ?_
      rw [advance_ok reached, ← dropBytes_filter_nonempty _ (cursor.left frames), ← same, offer]
  | case4 socket slices slice others offer after interrupted ih =>
      rw [sendFrom_step within (same.symm.trans offer), interrupted]
      exact ih within same
  | case5 socket slices slice others offer cause after failed =>
      rw [sendFrom_step within (same.symm.trans offer), failed]
      rfl

theorem runFrom_send (frames : List Bytes) (socket : σ) :
    (send frames).runFrom socket =
      ((Transport.sendAll socket frames).1.mapError fun cause => .failed (.connection cause),
        (Transport.sendAll socket frames).2) :=
  sendFrom_eq (within_frame frames 0) socket (by rw [left_frame, List.drop_zero])

end Cursor

end RespClient
