import RespClient.Transport

/-!
# The stream behind a transport

What a transport has yet to hand out is the unread part of its buffer followed by
what its socket may still deliver. An operation that succeeds takes what it
returns, or skips, off the front of that stream. How the bytes are divided between
buffer and socket leaves no trace in it.
-/

namespace RespClient.Transport

variable {σ : Type}

theorem take_unread {transport : Transport σ} {count : Nat}
    (short : count - (transport.unread.take count).length ≠ 0) :
    transport.unread.take count = transport.unread := by
  apply List.take_of_length_le
  rw [List.length_take] at short
  omega

/-- A buffer that ends before the line does holds no line feed. -/
theorem unread_free {transport : Transport σ}
    (ends : transport.unread.drop transport.unread.firstLine.length = []) :
    Bytes.lineFeed ∉ transport.unread := by
  have absent := Bytes.lineFeed_not_mem_firstLine transport.unread
  rwa [Bytes.firstLine_eq (List.drop_eq_nil_iff.1 ends)] at absent

variable [Socket σ]

def stream (transport : Transport σ) : Bytes :=
  transport.unread ++ Socket.pending transport.socket

theorem receive_ok {socket after : σ} {room : Nat} {first : UInt8} {rest : Bytes}
    (delivered : receive socket room = (.ok (first, rest), after)) :
    rest.length < room ∧ Socket.pending socket = first :: rest ++ Socket.pending after := by
  fun_induction receive socket room with
  | case1 => cases delivered
  | case2 socket first rest next delivery =>
      cases delivered
      exact Socket.read_received delivery
  | case3 socket next interrupted ih =>
      rw [← (Socket.read_interrupted interrupted).1]
      exact ih delivered
  | case4 => cases delivered

theorem pending_receive_error {socket after : σ} {room : Nat} {cause : IoError}
    (failed : receive socket room = (.error cause, after)) :
    Socket.pending after = Socket.pending socket := by
  fun_induction receive socket room with
  | case1 socket next delivery =>
      cases failed
      exact (Socket.read_received delivery).2.symm
  | case2 => cases failed
  | case3 socket next interrupted ih =>
      rw [← (Socket.read_interrupted interrupted).1]
      exact ih failed
  | case4 socket cause next failure =>
      cases failed
      exact Socket.read_failed failure

/-- A gathering that succeeds brings in as much as is missing, and none brings in more than there
is room for. -/
theorem gather_bytes (socket : σ) (room missing : Nat) (taken : Bytes) (fits : missing ≤ room) :
    ∃ more, (gather socket room missing taken).bytes = taken.reverse ++ more ∧
      Socket.pending socket = more ++ Socket.pending (gather socket room missing taken).socket ∧
      more.length ≤ room ∧
      ((gather socket room missing taken).outcome = .ok () → missing ≤ more.length) := by
  fun_induction gather socket room missing taken with
  | case1 => exact ⟨[], by simp⟩
  | case2 socket room missing taken lacking cause after failed =>
      exact ⟨[], by simp, by simp [pending_receive_error failed], Nat.zero_le _, nofun⟩
  | case3 socket room missing taken lacking first rest after delivered size ih =>
      obtain ⟨bound, pending⟩ := receive_ok delivered
      obtain ⟨more, bytes, left, length, enough⟩ := ih (by omega)
      refine ⟨first :: rest ++ more, ?_, ?_, ?_, ?_⟩
      · rw [bytes]
        simp
      · rw [pending, left, List.append_assoc]
      · simp only [List.length_append, List.length_cons]
        omega
      · intro complete
        have rest_enough := enough complete
        simp only [List.length_append, List.length_cons]
        omega

theorem skip_ok {socket after : σ} {capacity remaining : Nat}
    (skipped : skip socket capacity remaining = (.ok (), after)) :
    ∃ dropped, dropped.length = remaining ∧
      Socket.pending socket = dropped ++ Socket.pending after := by
  fun_induction skip socket capacity remaining with
  | case1 =>
      cases skipped
      exact ⟨[], rfl, rfl⟩
  | case2 => cases skipped
  | case3 socket remaining lacking first rest next delivered ih =>
      obtain ⟨bound, pending⟩ := receive_ok delivered
      obtain ⟨dropped, length, left⟩ := ih skipped
      refine ⟨first :: rest ++ dropped, ?_, ?_⟩
      · simp only [List.length_append, List.length_cons]
        omega
      · rw [pending, left, List.append_assoc]

theorem stream_advance (transport : Transport σ) (count : Nat) :
    transport.stream = transport.unread.take count ++ (transport.advance count).stream := by
  simp [stream, advance, ← List.append_assoc]

theorem stream_refilled (transport : Transport σ) (socket : σ) (bytes : Bytes) :
    (transport.refilled socket bytes).stream = bytes ++ Socket.pending socket := rfl

theorem read_ok {transport after : Transport σ} {count : Nat} {bytes : Bytes}
    (done : (read count).runFrom transport = (.ok bytes, after)) :
    bytes.length = count ∧ transport.stream = bytes ++ after.stream := by
  simp only [read, Attempt.runFrom_ofStep] at done
  split at done
  · next buffered =>
      cases done
      refine ⟨?_, stream_advance transport count⟩
      rw [List.length_take] at buffered ⊢
      omega
  · next short =>
      rw [take_unread short] at done short
      split at done
      · obtain ⟨more, collected, left, length, enough⟩ :=
          gather_bytes transport.socket (count - transport.unread.length)
            (count - transport.unread.length) [] (Nat.le_refl _)
        rw [List.reverse_nil, List.nil_append] at collected
        split at done
        · cases done
        · next complete =>
            cases done
            have missing := enough complete
            rw [collected, stream_refilled, List.nil_append, List.length_append]
            refine ⟨by omega, ?_⟩
            rw [List.append_assoc, ← left, stream]
      · next fits =>
          obtain ⟨more, collected, left, length, enough⟩ :=
            gather_bytes transport.socket transport.capacity
              (count - transport.unread.length) [] (Nat.le_of_not_lt fits)
          rw [List.reverse_nil, List.nil_append] at collected
          split at done
          · cases done
          · next complete =>
              cases done
              have missing := enough complete
              have refilled := stream_advance
                (transport.refilled
                  (gather transport.socket transport.capacity
                    (count - transport.unread.length) []).socket more)
                (count - transport.unread.length)
              rw [stream_refilled, ← left] at refilled
              rw [collected, List.length_append, List.length_take]
              refine ⟨by omega, ?_⟩
              rw [List.append_assoc, stream, refilled]
              rfl

theorem readByte_ok {transport after : Transport σ} {byte : UInt8}
    (done : readByte.runFrom transport = (.ok byte, after)) :
    transport.stream = byte :: after.stream := by
  simp only [readByte, Attempt.runFrom_ofStep] at done
  split at done
  · next first rest buffered =>
      cases done
      simp [stream, advance, buffered]
  · next empty =>
      split at done
      · cases done
      · next delivered =>
          cases done
          simp [stream, advance, refilled, empty, (receive_ok delivered).2]

theorem endLine_ok {taken line : Bytes} (closed : endLine taken = .ok line) :
    taken.reverse = line ++ [Bytes.carriageReturn] := by
  cases taken with
  | nil => cases closed
  | cons last taken =>
      simp only [endLine] at closed
      split at closed
      · next returned =>
          cases closed
          rw [returned, List.reverse_cons]
      · cases closed

theorem continueLine_ok {transport after : Transport σ} {room : Nat} {taken line : Bytes}
    (free : Bytes.lineFeed ∉ taken)
    (done : continueLine transport room taken = (.ok line, after)) :
    Bytes.lineFeed ∉ line ∧
      taken.reverse ++ transport.stream = line ++ Bytes.crlf ++ after.stream := by
  fun_induction continueLine transport room taken with
  | case1 transport room taken before feed rest cut_off =>
      have ends : before.length < transport.unread.length := by
        have length := congrArg List.length cut_off
        rw [List.length_drop, List.length_cons] at length
        omega
      obtain ⟨closed, rfl⟩ := Prod.mk.inj done
      have whole := endLine_ok closed
      rw [List.reverseAux_eq, List.reverse_append, List.reverse_reverse] at whole
      have absent : Bytes.lineFeed ∉ taken.reverse ++ before := by
        simp [free, before, Bytes.lineFeed_not_mem_firstLine]
      have cut : transport.stream =
          before ++ Bytes.lineFeed :: (transport.advance (before.length + 1)).stream := by
        have split := congrArg (· ++ Socket.pending transport.socket)
          (Bytes.eq_firstLine_append ends)
        simpa [stream, advance] using split
      refine ⟨fun member => absent (whole ▸ List.mem_append_left _ member), ?_⟩
      rw [cut, ← List.append_assoc, whole]
      simp [Bytes.crlf]
  | case2 => cases done
  | case3 => cases done
  | case4 transport room taken before ends fits first rest next delivered ih =>
      have absent : Bytes.lineFeed ∉ transport.unread.reverseAux taken := by
        simp [free, unread_free ends]
      obtain ⟨clean, whole⟩ := ih absent done
      refine ⟨clean, ?_⟩
      rw [← whole]
      simp [stream, refilled, (receive_ok delivered).2]

/-- A line is read together with its line end, which is not part of it. -/
theorem readLine_ok {transport after : Transport σ} {line : Bytes}
    (done : readLine.runFrom transport = (.ok line, after)) :
    Bytes.lineFeed ∉ line ∧ transport.stream = line ++ Bytes.crlf ++ after.stream :=
  continueLine_ok List.not_mem_nil done

theorem discard_ok {transport after : Transport σ} {count : Nat}
    (done : (discard count).runFrom transport = (.ok (), after)) :
    ∃ dropped, dropped.length = count ∧ transport.stream = dropped ++ after.stream := by
  simp only [discard, Attempt.runFrom_ofStep] at done
  split at done
  · next buffered =>
      cases done
      refine ⟨_, ?_, stream_advance transport count⟩
      rw [List.length_take] at buffered ⊢
      omega
  · next short =>
      rw [take_unread short] at done short
      split at done
      · cases done
      · next skipped =>
          cases done
          obtain ⟨dropped, length, left⟩ := skip_ok skipped
          refine ⟨transport.unread ++ dropped, ?_, ?_⟩
          · rw [List.length_append]
            omega
          · rw [stream_refilled, List.nil_append, List.append_assoc, ← left, stream]

theorem wait_stream (transport : Transport σ) (timeout : Option Nat) :
    ((wait timeout).runFrom transport).2.stream = transport.stream := by
  have kept := Socket.pending_wait transport.socket timeout
  simp only [wait, Attempt.runFrom_ofStep]
  split
  · rfl
  · split
    · next waited =>
        rw [waited] at kept
        simp only [stream, kept]
    · next waited =>
        rw [waited] at kept
        simp only [stream, kept]

end RespClient.Transport
