import RespClient.Proofs.Reply.Verdict

/-!
# Verdicts are final

A reply that has been read is read again from the bytes that it took, whatever follows
them. It needs every one of them: a stream that breaks off before their end is found to
end, and is never taken for a shorter reply or for a malformed one. A malformed frame
stays malformed. Of all that a reader can say, only that the stream has ended may be
something else once more has come.
-/

namespace RespClient.Reply

variable {depth : Nat} {stream more : Bytes}

/-! ## Limits that hold of a stream hold of its parts -/

theorem LineFits.of_append (fits : LineFits (stream ++ more)) : LineFits stream := by
  rintro line rest free rfl
  exact fits line (rest ++ more) free (List.append_assoc _ _ _)

theorem HeaderAt.append {rest : Bytes} (header : HeaderAt depth stream rest) (more : Bytes) :
    HeaderAt depth (stream ++ more) (rest ++ more) := by
  induction header with
  | own typed rest => exact .own typed (rest ++ more)
  | item numeral countable shallow contents missing inside ih =>
      rw [List.append_assoc, List.append_assoc]
      exact .item numeral countable shallow contents missing ih

theorem HeadersFit.of_append (fits : HeadersFit depth (stream ++ more)) :
    HeadersFit depth stream :=
  fun _ header => (fits _ (header.append more)).of_append

theorem HeadersFit.short {type : Char} {line : Bytes} (typed : type ∈ ['+', '-', ':', '$', '*'])
    (free : Bytes.lineFeed ∉ line) (fits : HeadersFit depth (headed type line)) : Short line := by
  have header : LineFits (line ++ Bytes.crlf) := fits _ (.own typed _)
  have within := header _ [] (Bytes.free_return free) (by simp [Bytes.crlf])
  rw [List.length_append] at within
  exact Nat.lt_of_succ_le within

mutual

/-- Where the header lines that a reader comes to are within their limit, those of a frame are. -/
theorem Frame.short {depth : Nat} {reply : Reply} {bytes : Bytes}
    (frame : Frame (fun _ => True) depth reply bytes) (fits : HeadersFit depth bytes) :
    Frame Short depth reply bytes := by
  cases frame with
  | simple free => exact .simple free (fits.short (by simp) free)
  | error free => exact .error free (fits.short (by simp) free)
  | integer numeral => exact .integer numeral (fits.short (by simp) numeral.free)
  | noBulk numeral => exact .noBulk numeral (fits.short (by simp) numeral.free)
  | bulk numeral small => exact .bulk numeral small (fits.of_append.short (by simp) numeral.free)
  | noArray numeral => exact .noArray numeral (fits.short (by simp) numeral.free)
  | array numeral countable shallow _ contents =>
      refine .array numeral countable shallow (fits.of_append.short (by simp) numeral.free)
        (contents.short ?_)
      rintro found body more frames few rfl rest reached
      exact fits rest (.item numeral countable shallow frames few reached)

theorem Frames.short {depth : Nat} {items : List Reply} {bytes : Bytes}
    (frames : Frames (fun _ => True) depth items bytes)
    (fits : ItemsFit depth items.length bytes) : Frames Short depth items bytes := by
  cases frames with
  | nil => exact .nil
  | @cons _ item _ bytes _ first others =>
      have here : HeadersFit depth _ := fits [] [] _ .nil (Nat.succ_pos _) rfl
      refine .cons (first.short here.of_append) (others.short ?_)
      rintro found body more frames few rfl
      exact fits (item :: found) (bytes ++ body) more (.cons first frames)
        (Nat.succ_lt_succ few) (List.append_assoc _ _ _).symm

end

/-! ## What was read, and what is left of it -/

variable {σ τ : Type} [Socket σ] [Socket τ] {calm : σ → Prop} {still : τ → Prop}

theorem readFrame_short {transport after : Transport σ} {reply : Reply}
    (fits : HeadersFit 0 transport.stream)
    (done : readFrame.runFrom transport = (.ok reply, after)) :
    ∃ bytes, Frame Short 0 reply bytes ∧ HeadersFit 0 bytes ∧
      transport.stream = bytes ++ after.stream := by
  obtain ⟨bytes, frame, split⟩ := readFrame_ok done
  rw [split] at fits
  exact ⟨bytes, frame.short fits.of_append, fits.of_append, split⟩

/-- A stream that breaks off inside a frame is found to end. -/
theorem readFrame_cut (works : Socket.Delivering calm) (ends : Socket.Ending calm)
    {transport : Transport σ} {reply : Reply} {missing : Bytes} (quiet : calm transport.socket)
    (frame : Frame Short 0 reply (transport.stream ++ missing)) (lacking : missing ≠ [])
    (fits : HeadersFit 0 (transport.stream ++ missing)) :
    (readFrame.runFrom transport).1 = .error (.connection .closedByPeer) := by
  -- The run is compared with one on the whole frame, which leaves nothing.
  let whole := Transport.ofSocket ({ input := transport.stream ++ missing } : Scripted)
  have silent : Scripted.Faultless whole.socket := Scripted.faultless_of_input _
  obtain ⟨last, done, nothing, -⟩ := readFrame_yields Scripted.delivering silent frame
    (List.append_nil _).symm
  have foretold := readFrame_stable works ends Scripted.delivering Scripted.ending fits transport
    whole quiet silent rfl rfl
  rw [done] at foretold
  generalize readFrame.runFrom transport = outcome at foretold
  cases foretold with
  | value quiet silent left =>
      rw [nothing] at left
      exact absurd (List.append_eq_nil_iff.1 left.symm).2 lacking
  | ended => rfl

/-- What is read off a stream whose header lines are within their limit. A reply is read again from
the bytes that it took, whatever comes after them, and from no fewer: a stream that breaks off
before their end has ended, and that is all that is found. A malformed frame stays what it is with
more bytes behind it. So only the end of a stream can be something else once more has come. -/
theorem readFrame_final (works : Socket.Delivering calm) (ends : Socket.Ending calm)
    (delivers : Socket.Delivering still) (closes : Socket.Ending still) {transport : Transport σ}
    (quiet : calm transport.socket) (fits : HeadersFit 0 transport.stream) :
    (∀ reply after, readFrame.runFrom transport = (.ok reply, after) →
      ∃ bytes, transport.stream = bytes ++ after.stream ∧
        ∀ other : Transport τ, still other.socket →
          (∀ rest, other.stream = bytes ++ rest →
            ∃ last, readFrame.runFrom other = (.ok reply, last) ∧ last.stream = rest) ∧
          ∀ missing, missing ≠ [] → bytes = other.stream ++ missing →
            (readFrame.runFrom other).1 = .error (.connection .closedByPeer)) ∧
    ∀ (other : Transport τ) (extra : Bytes), still other.socket →
      other.stream = transport.stream ++ extra → HeadersFit 0 other.stream →
      (∀ cause, (readFrame.runFrom transport).1 = .error (.protocol cause) →
        (readFrame.runFrom other).1 = .error (.protocol cause)) ∧
      ((readFrame.runFrom other).1 ≠ (readFrame.runFrom transport).1 →
        (readFrame.runFrom transport).1 = .error (.connection .closedByPeer)) := by
  constructor
  · intro reply after done
    obtain ⟨bytes, frame, within, split⟩ := readFrame_short fits done
    refine ⟨bytes, split, fun other silent => ⟨?_, ?_⟩⟩
    · intro rest found
      obtain ⟨last, again, left, -⟩ := readFrame_yields delivers silent frame found
      exact ⟨last, again, left⟩
    · rintro missing lacking rfl
      exact readFrame_cut delivers closes silent frame lacking within
  · intro other extra silent longer others_fit
    rw [longer] at others_fit
    have foretold := readFrame_stable works ends delivers closes others_fit transport other quiet
      silent rfl longer
    generalize readFrame.runFrom transport = outcome at foretold
    generalize readFrame.runFrom other = result at foretold
    cases foretold with
    | value => exact ⟨nofun, fun differs => absurd rfl differs⟩
    | malformed => exact ⟨fun _ same => same, fun differs => absurd rfl differs⟩
    | ended => exact ⟨nofun, fun _ => rfl⟩

/-- An array that is delivered in pieces with another frame behind it, and the same bytes broken off
ahead of their last line feed. -/
theorem readFrame_final_in_pieces :
    let bytes := Bytes.ofText "*2\r\n$3\r\na\r\n\r\n:7\r\n"
    let whole := Transport.ofSocketWith 16
      ({ input := bytes ++ Bytes.ofText "+OK", readChunk := 5
         readFaults := [.pass, .interrupted] } : Scripted)
    let cut := Transport.ofSocket ({ input := bytes.dropLast } : Scripted)
    ∃ after, readFrame.runFrom whole =
        (.ok (array [bulk (Bytes.ofText "a\r\n"), integer 7]), after) ∧
      (readFrame.runFrom cut).1 = .error (.connection .closedByPeer) := by
  intro bytes whole cut
  have calm : Scripted.Faultless whole.socket := by
    constructor <;> simp [whole, Transport.ofSocketWith, Scripted.Harmless]
  have silent : Scripted.Faultless cut.socket := by
    constructor <;> simp [cut, Transport.ofSocket, Transport.ofSocketWith, Scripted.Harmless]
  have short : whole.stream.length ≤ maxLineLength := by decide
  have bulkFrame : Frame Short 1 (bulk (Bytes.ofText "a\r\n"))
      (headed '$' (Bytes.ofText "3") ++ (Bytes.ofText "a\r\n" ++ Bytes.crlf)) :=
    .bulk (.unsigned (by decide) (by decide)) (by decide) (by decide)
  have integerFrame : Frame Short 1 (integer 7) (headed ':' (Bytes.ofText "7")) :=
    .integer (.unsigned (by decide) (by decide)) (by decide)
  have frame : Frame Short 0 (array [bulk (Bytes.ofText "a\r\n"), integer 7])
      (headed '*' (Bytes.ofText "2") ++ _) :=
    .array (.unsigned (by decide) (by decide)) (by decide) (by decide) (by decide)
      (.cons bulkFrame (.cons integerFrame .nil))
  have found : whole.stream = _ ++ Bytes.ofText "+OK" := rfl
  obtain ⟨after, done, left, -⟩ := readFrame_yields Scripted.delivering calm frame found
  refine ⟨after, done, ?_⟩
  obtain ⟨taken, split, again⟩ := (readFrame_final Scripted.delivering Scripted.ending
    Scripted.delivering Scripted.ending calm
    fun rest header => (HeaderIn.first header).lineFits short).1 _ after done
  have same : bytes = taken := by
    rw [left] at split
    exact List.append_cancel_right split
  exact (again cut silent).2 [Bytes.lineFeed] (List.cons_ne_nil _ _) (same ▸ rfl)

end RespClient.Reply
