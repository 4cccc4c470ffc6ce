import RespClient.Transport

/-!
# Sending frames

A list of frames is offered to the socket as a list of slices. After each call
the offer is what is left once the accepted bytes are taken off its front, until
nothing is left; then the socket is flushed once.
-/

namespace RespClient

/-- The slices without their first `count` bytes. -/
def dropBytes : (count : Nat) → List Bytes → List Bytes
  | _, [] => []
  | count, slice :: rest =>
      match slice.drop count with
      | [] => dropBytes (count - slice.length) rest
      | left => left :: rest

theorem totalLength_dropBytes (count : Nat) (slices : List Bytes) :
    totalLength (dropBytes count slices) = totalLength slices - count := by
  induction slices generalizing count with
  | nil => simp [dropBytes, totalLength]
  | cons slice rest ih =>
      have left : (slice.drop count).length = slice.length - count := List.length_drop
      unfold dropBytes
      split
      · next gone =>
          rw [gone, List.length_nil] at left
          rw [ih]
          simp only [totalLength]
          omega
      · next some =>
          have kept : slice.drop count ≠ [] := some
          have count_lt : count < slice.length := by
            simpa using kept
          simp only [totalLength, left]
          omega

theorem totalLength_filter_nonempty (slices : List Bytes) :
    totalLength (slices.filter (!·.isEmpty)) = totalLength slices := by
  induction slices with
  | nil => rfl
  | cons slice rest ih => cases slice <;> simp [totalLength, ih]

namespace Transport

variable {σ : Type} [Socket σ]

def sendAll (socket : σ) (frames : List Bytes) : Except IoError Unit × σ :=
  match _offer : frames.filter (!·.isEmpty) with
  | [] => (.ok (), socket)
  | slice :: slices =>
      match _acceptance : Socket.write socket (slice :: slices) with
      | (.accepted 0, after) => (.error .acceptedNothing, after)
      | (.accepted (count + 1), after) => sendAll after (dropBytes (count + 1) (slice :: slices))
      | (.interrupted, after) => sendAll after frames
      | (.failed cause, after) => (.error cause, after)
termination_by (totalLength frames, Socket.patience socket)
decreasing_by
  · have total := totalLength_filter_nonempty frames
    have member : slice ∈ frames.filter (!·.isEmpty) := _offer ▸ List.mem_cons_self
    have filled : 0 < slice.length := by
      have nonempty := (List.mem_filter.1 member).2
      cases slice with
      | nil => cases nonempty
      | cons byte bytes => exact Nat.succ_pos _
    apply Prod.Lex.left
    rw [totalLength_dropBytes, ← total, _offer]
    simp only [totalLength]
    omega
  · exact Prod.Lex.right _ (Socket.write_interrupted _acceptance)

/-- Sends the frames in order and reports how many bytes they are. -/
def writeMany (frames : List Bytes) : Attempt FatalError (Transport σ) Nat :=
  .ofStep fun transport =>
    match sendAll transport.socket frames with
    | (.error cause, after) => (.error (.connection cause), { transport with socket := after })
    | (.ok (), after) =>
        match Socket.flush after with
        | (.error cause, flushed) =>
            (.error (.connection cause), { transport with socket := flushed })
        | (.ok (), flushed) => (.ok (totalLength frames), { transport with socket := flushed })

def write (frame : Bytes) : Attempt FatalError (Transport σ) Unit := do
  let _ ← writeMany [frame]

end Transport

end RespClient
