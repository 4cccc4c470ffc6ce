import RespClient.Proofs.Reply.Decoding
import RespClient.Proofs.Transport.Ending

/-!
# The stream decides what is read

Two transports in front of the same bytes give the same replies and the same errors,
whatever their buffers and however the bytes come in. This holds as long as no header
line that is ended at all is longer than its limit: whether such a line is refused
depends on where a buffer happens to end.

The proof compares a run with one on a stream that goes on with more bytes. A value
and a malformed frame are the same in both; only the end of the stream can be
something else once more has come. Two runs on the same stream are the case in which
nothing more comes.
-/

namespace RespClient.Reply

open Transport (Yields readByte readLine)

/-! ## Header lines within their limit -/

/-- If a line ends in this stream, it is within the limit together with its return. -/
def LineFits (stream : Bytes) : Prop :=
  ∀ line rest, Bytes.lineFeed ∉ line → stream = line ++ Bytes.lineFeed :: rest →
    line.length ≤ maxLineLength

/-- A reader of a frame at this depth comes to a header line where `rest` is left of the stream. -/
inductive HeaderAt : Nat → Bytes → Bytes → Prop where
  | own {depth : Nat} {type : Char} (typed : type ∈ ['+', '-', ':', '$', '*']) (rest : Bytes) :
      HeaderAt depth (type.toUInt8 :: rest) rest
  | item {depth count : Nat} {line body more rest : Bytes} {items : List Reply}
      (numeral : Numeral line count) (countable : (count : Int) < 2 ^ 63)
      (shallow : depth < maxNesting) (contents : Frames (fun _ => True) (depth + 1) items body)
      (missing : items.length < count)
      (inside : HeaderAt (depth + 1) more rest) :
      HeaderAt depth (headed '*' line ++ (body ++ more)) rest

/-- The same for a reader of one frame after the other. -/
inductive HeaderIn : Bytes → Bytes → Prop where
  | first {stream rest : Bytes} (here : HeaderAt 0 stream rest) : HeaderIn stream rest
  | later {reply : Reply} {bytes more rest : Bytes} (frame : Frame (fun _ => True) 0 reply bytes)
      (there : HeaderIn more rest) : HeaderIn (bytes ++ more) rest

def HeadersFit (depth : Nat) (stream : Bytes) : Prop :=
  ∀ rest, HeaderAt depth stream rest → LineFits rest

theorem HeaderAt.length_le {depth : Nat} {stream rest : Bytes}
    (header : HeaderAt depth stream rest) : rest.length ≤ stream.length := by
  induction header with
  | own => exact Nat.le_succ _
  | item numeral countable shallow contents missing inside ih =>
      rw [List.length_append, List.length_append]
      omega

theorem HeaderIn.length_le {stream rest : Bytes} (header : HeaderIn stream rest) :
    rest.length ≤ stream.length := by
  induction header with
  | first here => exact here.length_le
  | later frame there ih =>
      rw [List.length_append]
      omega

/-- A stream within the limit of header lines has none beyond it. -/
theorem HeaderIn.lineFits {stream rest : Bytes} (header : HeaderIn stream rest)
    (short : stream.length ≤ maxLineLength) : LineFits rest := by
  rintro line tail - rfl
  have inside := header.length_le
  rw [List.length_append] at inside
  omega

/-! ## A run and the same run with more bytes -/

variable {σ τ : Type} [Socket σ] [Socket τ] {calm : σ → Prop} {still : τ → Prop} {extra : Bytes}
  {α β : Type}

/-- What the outcome of a run says about the outcome of a run with `extra` bytes behind its
stream. -/
inductive Foretells (calm : σ → Prop) (still : τ → Prop) (extra : Bytes) {α : Type} :
    Except FatalError α × Transport σ → Except FatalError α × Transport τ → Prop where
  | value {value : α} {after : Transport σ} {last : Transport τ} (quiet : calm after.socket)
      (silent : still last.socket) (left : last.stream = after.stream ++ extra) :
      Foretells calm still extra (.ok value, after) (.ok value, last)
  | malformed {cause : ProtocolError} {after : Transport σ} {last : Transport τ} :
      Foretells calm still extra (.error (.protocol cause), after) (.error (.protocol cause), last)
  | ended {after : Transport σ} {outcome : Except FatalError α × Transport τ}
      (final : extra = [] → outcome.1 = .error (.connection .closedByPeer)) :
      Foretells calm still extra (.error (.connection .closedByPeer), after) outcome

/-- On a given stream one reading foretells the other. -/
def Stable (calm : σ → Prop) (still : τ → Prop) (extra : Bytes) (reading : Reading σ α)
    (again : Reading τ α) (stream : Bytes) : Prop :=
  ∀ (transport : Transport σ) (extended : Transport τ), calm transport.socket →
    still extended.socket → transport.stream = stream → extended.stream = stream ++ extra →
    Foretells calm still extra (reading.runFrom transport) (again.runFrom extended)

namespace Stable

variable {stream : Bytes}

theorem pure (value : α) :
    Stable calm still extra (pure value : Reading σ α) (pure value : Reading τ α) stream := by
  rintro transport extended quiet silent rfl same
  exact .value quiet silent same

theorem fail (cause : ProtocolError) :
    Stable calm still extra (protocolFailure cause : Reading σ α)
      (protocolFailure cause : Reading τ α) stream := by
  intro transport extended _ _ _ _
  exact .malformed

theorem bind {reading : Reading σ α} {again : Reading τ α} {next : α → Reading σ β}
    {nextAgain : α → Reading τ β} (first : Stable calm still extra reading again stream)
    (others : ∀ (value : α) (transport after : Transport σ), transport.stream = stream →
      reading.runFrom transport = (.ok value, after) →
      Stable calm still extra (next value) (nextAgain value) after.stream) :
    Stable calm still extra (reading >>= next) (again >>= nextAgain) stream := by
  intro transport extended quiet silent here there
  have foretold := first transport extended quiet silent here there
  rw [Attempt.runFrom_bind, Attempt.runFrom_bind]
  generalize ran : reading.runFrom transport = outcome at foretold
  generalize again.runFrom extended = longer at foretold
  cases foretold with
  | value quiet silent left => exact others _ transport _ here ran _ _ quiet silent rfl left
  | malformed => exact .malformed
  | ended final =>
      apply Foretells.ended
      intro nothing
      obtain ⟨result, last⟩ := longer
      cases final nothing
      rfl

end Stable

theorem Foretells.of_yields {reading : Reading σ α} {again : Reading τ α}
    {transport : Transport σ} {extended : Transport τ} {value : α} {rest : Bytes}
    (first : Yields calm reading transport value rest)
    (second : Yields still again extended value (rest ++ extra)) :
    Foretells calm still extra (reading.runFrom transport) (again.runFrom extended) := by
  obtain ⟨after, done, left, quiet⟩ := first
  obtain ⟨last, finished, rest_left, silent⟩ := second
  rw [done, finished]
  exact .value quiet silent (by rw [rest_left, left])

theorem Foretells.of_ended {reading : Reading σ α} {again : Reading τ α}
    {transport : Transport σ} {extended : Transport τ}
    (first : (reading.runFrom transport).1 = .error (.connection .closedByPeer))
    (second : extra = [] → (again.runFrom extended).1 = .error (.connection .closedByPeer)) :
    Foretells calm still extra (reading.runFrom transport) (again.runFrom extended) := by
  rcases ran : reading.runFrom transport with ⟨outcome, after⟩
  rw [ran] at first
  cases first
  exact .ended second

theorem Foretells.of_malformed {reading : Reading σ α} {again : Reading τ α}
    {transport : Transport σ} {extended : Transport τ} {cause : ProtocolError}
    (first : (reading.runFrom transport).1 = .error (.protocol cause))
    (second : (again.runFrom extended).1 = .error (.protocol cause)) :
    Foretells calm still extra (reading.runFrom transport) (again.runFrom extended) := by
  rcases ran : reading.runFrom transport with ⟨outcome, after⟩
  rcases rerun : again.runFrom extended with ⟨result, last⟩
  rw [ran] at first
  rw [rerun] at second
  cases first
  cases second
  exact .malformed

section Reading

variable (works : Socket.Delivering calm) (ends : Socket.Ending calm)
  (delivers : Socket.Delivering still) (closes : Socket.Ending still)
  {depth : Nat} {stream : Bytes}

include works ends delivers closes

theorem readByte_stable : Stable calm still extra readByte readByte stream := by
  intro transport extended quiet silent here there
  cases stream with
  | cons byte rest =>
      exact .of_yields (Transport.readByte_yields works quiet here)
        (Transport.readByte_yields delivers silent there)
  | nil =>
      apply Foretells.of_ended (Transport.readByte_ends works ends quiet here)
      rintro rfl
      exact Transport.readByte_ends delivers closes silent there

theorem read_stable (count : Nat) :
    Stable calm still extra (Transport.read count) (Transport.read count) stream := by
  intro transport extended quiet silent here there
  by_cases enough : count ≤ stream.length
  · have size := List.length_take_of_le enough
    rw [← List.take_append_drop count stream] at here there
    rw [List.append_assoc] at there
    have first := Transport.read_yields works quiet here
    have second := Transport.read_yields delivers silent there
    rw [size] at first second
    exact .of_yields first second
  · have few : stream.length < count := Nat.lt_of_not_le enough
    apply Foretells.of_ended (Transport.read_ends works ends quiet (here ▸ few))
    rintro rfl
    rw [List.append_nil] at there
    exact Transport.read_ends delivers closes silent (there ▸ few)

/-- A line is found in both streams, or it is open in the first and may be ended by what comes. -/
theorem readLine_stable (fits : LineFits (stream ++ extra)) :
    Stable calm still extra readLine readLine stream := by
  intro transport extended quiet silent here there
  by_cases ended : Bytes.lineFeed ∈ stream
  · obtain ⟨line, rest, rfl, free⟩ := List.eq_append_cons_of_mem ended
    rw [List.append_assoc] at fits there
    have short := fits line (rest ++ extra) free rfl
    have first := Transport.readLine_finds works quiet free short here
    have second := Transport.readLine_finds delivers silent free short there
    cases closed : Transport.endLine line.reverse with
    | ok text => exact .of_yields (first.1 text closed) (second.1 text closed)
    | error cause =>
        obtain rfl := Transport.endLine_error closed
        exact .of_malformed (first.2 _ closed) (second.2 _ closed)
  · have first := Transport.readLine_endless works ends quiet (here ▸ ended)
    rw [here] at first
    by_cases long : maxLineLength < stream.length
    · rw [if_pos long] at first
      -- A line that is too long already cannot be ended by what comes.
      have endless : Bytes.lineFeed ∉ stream ++ extra := by
        intro member
        obtain ⟨line, rest, split, free⟩ := List.eq_append_cons_of_mem member
        have short := fits line rest free split
        obtain ⟨tail, rfl, -⟩ := Bytes.append_of_free ended split
        rw [List.length_append] at short
        omega
      have second := Transport.readLine_endless delivers closes silent (there ▸ endless)
      have longer : maxLineLength < (stream ++ extra).length := by
        rw [List.length_append]
        omega
      rw [there, if_pos longer] at second
      exact .of_malformed first second
    · rw [if_neg long] at first
      apply Foretells.of_ended first
      rintro rfl
      rw [List.append_nil] at there
      have second := Transport.readLine_endless delivers closes silent (there ▸ ended)
      rwa [there, if_neg long] at second

theorem readText_stable (fits : LineFits (stream ++ extra)) :
    Stable calm still extra readText readText stream := by
  apply (readLine_stable works ends delivers closes fits).bind
  intro line transport after _ _
  cases Bytes.toText? line with
  | none => exact .fail _
  | some text => exact .pure text

theorem readInteger_stable (fits : LineFits (stream ++ extra)) :
    Stable calm still extra readInteger readInteger stream := by
  apply (readLine_stable works ends delivers closes fits).bind
  intro line transport after _ _
  cases parseInteger line with
  | error cause => exact .fail cause
  | ok value => exact .pure value

theorem readBulk_stable (fits : LineFits (stream ++ extra)) :
    Stable calm still extra readBulk readBulk stream := by
  apply (readInteger_stable works ends delivers closes fits).bind
  intro length transport after _ _
  by_cases missing : length = -1
  · rw [if_pos missing, if_pos missing]
    exact .pure nil
  rw [if_neg missing, if_neg missing]
  by_cases negative : length < -1
  · rw [if_pos negative, if_pos negative]
    exact .fail _
  rw [if_neg negative, if_neg negative]
  by_cases long : maxBulkLength < length.toInt.toNat
  · rw [if_pos long, if_pos long]
    exact .fail _
  rw [if_neg long, if_neg long]
  apply (read_stable works ends delivers closes _).bind
  intro data _ _ _ _
  apply (read_stable works ends delivers closes 2).bind
  intro ending _ _ _ _
  by_cases terminated : ending = Bytes.crlf
  · rw [if_pos terminated, if_pos terminated]
    exact .pure _
  · rw [if_neg terminated, if_neg terminated]
    exact .fail _

/-- The headers of the items that are missing from an array of `count` are within their limit. -/
def ItemsFit (depth count : Nat) (stream : Bytes) : Prop :=
  ∀ found body more, Frames (fun _ => True) depth found body → found.length < count →
    stream = body ++ more → HeadersFit depth more

omit works ends delivers closes in
theorem readItems_stable {readItem : Reading σ Reply} {readAgain : Reading τ Reply}
    (item_ok : ∀ {transport after : Transport σ} {reply : Reply},
      readItem.runFrom transport = (.ok reply, after) →
      ∃ bytes, Frame (fun _ => True) depth reply bytes ∧ transport.stream = bytes ++ after.stream)
    (item_stable : ∀ {rest : Bytes}, HeadersFit depth (rest ++ extra) →
      Stable calm still extra readItem readAgain rest)
    {count : Nat} (taken : List Reply) (fits : ItemsFit depth count (stream ++ extra)) :
    Stable calm still extra (readItems readItem count taken) (readItems readAgain count taken)
      stream := by
  induction count generalizing taken stream with
  | zero => exact .pure _
  | succ count ih =>
      apply (item_stable (fits [] [] _ .nil (Nat.succ_pos count) rfl)).bind
      intro item transport after here read
      obtain ⟨bytes, frame, split⟩ := item_ok read
      apply ih
      intro found body more frames missing rest
      apply fits (item :: found) (bytes ++ body) more (.cons frame frames)
        (Nat.succ_lt_succ missing)
      rw [← here, split, List.append_assoc, rest, List.append_assoc]

theorem readArray_stable {contents : Nat → Reading σ (List Reply)}
    {contentsAgain : Nat → Reading τ (List Reply)}
    (contents_stable : ∀ {count : Nat} {rest : Bytes},
      (depth < maxNesting → ItemsFit (depth + 1) count (rest ++ extra)) →
      Stable calm still extra (contents count) (contentsAgain count) rest)
    (fits : HeadersFit depth ('*'.toUInt8 :: (stream ++ extra))) :
    Stable calm still extra (readArray contents) (readArray contentsAgain) stream := by
  have header : LineFits (stream ++ extra) := fits _ (.own (by simp) _)
  apply (readInteger_stable works ends delivers closes header).bind
  intro count transport after here read
  obtain ⟨line, numeral, split⟩ := readInteger_ok read
  by_cases missing : count = -1
  · rw [if_pos missing, if_pos missing]
    exact .pure nil
  rw [if_neg missing, if_neg missing]
  by_cases negative : count < -1
  · rw [if_pos negative, if_pos negative]
    exact .fail _
  rw [if_neg negative, if_neg negative]
  have range := count.toInt_lt
  rw [← length_nonneg missing negative] at numeral range
  refine Stable.bind (contents_stable ?_) fun items _ _ _ _ => .pure _
  intro shallow found body more frames few rest inside reached
  apply fits
  have item := HeaderAt.item numeral range shallow frames few reached
  rw [← rest] at item
  rw [← here, split]
  simpa [headed] using item

theorem readAfter_stable {contents : Nat → Reading σ (List Reply)}
    {contentsAgain : Nat → Reading τ (List Reply)}
    (contents_stable : ∀ {count : Nat} {rest : Bytes},
      (depth < maxNesting → ItemsFit (depth + 1) count (rest ++ extra)) →
      Stable calm still extra (contents count) (contentsAgain count) rest)
    {type : UInt8} (fits : HeadersFit depth (type :: (stream ++ extra))) :
    Stable calm still extra (readAfter contents type) (readAfter contentsAgain type) stream := by
  unfold readAfter
  by_cases plus : type = '+'.toUInt8
  · rw [if_pos plus, if_pos plus]
    subst plus
    exact (readText_stable works ends delivers closes (fits _ (.own (by simp) _))).bind
      fun text _ _ _ _ => .pure _
  rw [if_neg plus, if_neg plus]
  by_cases minus : type = '-'.toUInt8
  · rw [if_pos minus, if_pos minus]
    subst minus
    exact (readText_stable works ends delivers closes (fits _ (.own (by simp) _))).bind
      fun text _ _ _ _ => .pure _
  rw [if_neg minus, if_neg minus]
  by_cases colon : type = ':'.toUInt8
  · rw [if_pos colon, if_pos colon]
    subst colon
    exact (readInteger_stable works ends delivers closes (fits _ (.own (by simp) _))).bind
      fun value _ _ _ _ => .pure _
  rw [if_neg colon, if_neg colon]
  by_cases dollar : type = '$'.toUInt8
  · rw [if_pos dollar, if_pos dollar]
    subst dollar
    exact readBulk_stable works ends delivers closes (fits _ (.own (by simp) _))
  rw [if_neg dollar, if_neg dollar]
  by_cases star : type = '*'.toUInt8
  · rw [if_pos star, if_pos star]
    subst star
    exact readArray_stable works ends delivers closes contents_stable fits
  rw [if_neg star, if_neg star]
  exact .fail _

theorem readTyped_stable {contents : Nat → Reading σ (List Reply)}
    {contentsAgain : Nat → Reading τ (List Reply)}
    (contents_stable : ∀ {count : Nat} {rest : Bytes},
      (depth < maxNesting → ItemsFit (depth + 1) count (rest ++ extra)) →
      Stable calm still extra (contents count) (contentsAgain count) rest)
    (fits : HeadersFit depth (stream ++ extra)) :
    Stable calm still extra (readTyped contents) (readTyped contentsAgain) stream := by
  apply (readByte_stable works ends delivers closes).bind
  intro type transport after here read
  apply readAfter_stable works ends delivers closes contents_stable
  rwa [← here, Transport.readByte_ok read] at fits

theorem readNested_stable {levels : Nat} (deep : depth + levels = maxNesting)
    (fits : HeadersFit depth (stream ++ extra)) :
    Stable calm still extra (readNested levels) (readNested levels) stream := by
  induction levels generalizing depth stream with
  | zero => exact readTyped_stable works ends delivers closes (fun _ => .fail _) fits
  | succ levels ih =>
      have below : depth + 1 + levels = maxNesting := by omega
      apply readTyped_stable works ends delivers closes _ fits
      intro count rest items_fit
      exact readItems_stable (readNested_ok below) (ih below) []
        (items_fit (by omega))

theorem readFrame_stable (fits : HeadersFit 0 (stream ++ extra)) :
    Stable calm still extra readFrame readFrame stream :=
  readNested_stable works ends delivers closes (Nat.zero_add _) fits

end Reading

/-! ## One frame after the other -/

/-- What at most `calls` readings come to, one after the other up to the first that fails. Each
reply stands with the number of bytes taken so far, where `consumed` have been taken before. -/
def outcomes : (calls consumed : Nat) → Transport σ → List (Except FatalError (Reply × Nat))
  | 0, _, _ => []
  | calls + 1, consumed, transport =>
      match readFrame.runFrom transport with
      | (.error cause, _) => [.error cause]
      | (.ok reply, after) =>
          let total := consumed + (transport.stream.length - after.stream.length)
          .ok (reply, total) :: outcomes calls total after

/-- Two transports in front of the same stream come to the same replies, the same first error and
the same numbers of bytes, whatever their buffers and sockets make of it on the way, unless the
reader comes to a header line that ends beyond its limit. -/
theorem outcomes_eq_of_stream_eq (works : Socket.Delivering calm) (ends : Socket.Ending calm)
    (delivers : Socket.Delivering still) (closes : Socket.Ending still) {transport : Transport σ}
    {other : Transport τ} (quiet : calm transport.socket) (silent : still other.socket)
    (same : other.stream = transport.stream)
    (fits : ∀ rest, HeaderIn transport.stream rest → LineFits rest) (calls consumed : Nat) :
    outcomes calls consumed transport = outcomes calls consumed other := by
  induction calls generalizing consumed transport other with
  | zero => rfl
  | succ calls ih =>
      have here : HeadersFit 0 (transport.stream ++ []) := by
        rw [List.append_nil]
        exact fun rest header => fits rest (.first header)
      have foretold := readFrame_stable works ends delivers closes here transport other quiet
        silent rfl (same.trans (List.append_nil _).symm)
      rw [outcomes, outcomes]
      generalize ran : readFrame.runFrom transport = outcome at foretold
      generalize readFrame.runFrom other = result at foretold
      cases foretold with
      | @value reply after last quiet silent left =>
          rw [List.append_nil] at left
          obtain ⟨bytes, frame, split⟩ := readFrame_ok ran
          have later : ∀ rest, HeaderIn after.stream rest → LineFits rest := by
            intro rest header
            apply fits
            rw [split]
            exact .later frame header
          dsimp only
          rw [same, left, ih quiet silent left later]
      | malformed => rfl
      | ended final =>
          obtain ⟨outcome, last⟩ := result
          cases final rfl
          rfl

/-- A stream whose third frame is cut off, delivered byte by byte with an interruption into a small
buffer, and all at once into a larger one. -/
theorem outcomes_eq_in_pieces :
    let input := Bytes.ofText "*2\r\n$5\r\nhe\r\nl\r\n:-7\r\n-ERR\r\n$20\r\nabc"
    let pieces := Transport.ofSocketWith 16
      ({ input, readChunk := 1, readFaults := [.pass, .interrupted] } : Scripted)
    let whole := Transport.ofSocketWith 4096 ({ input } : Scripted)
    outcomes 3 0 pieces = outcomes 3 0 whole := by
  intro input pieces whole
  have calm : Scripted.Faultless pieces.socket := by
    constructor <;> simp [pieces, Transport.ofSocketWith, Scripted.Harmless]
  have silent : Scripted.Faultless whole.socket := by
    constructor <;> simp [whole, Transport.ofSocketWith, Scripted.Harmless]
  have short : pieces.stream.length ≤ maxLineLength := by decide
  exact outcomes_eq_of_stream_eq Scripted.delivering Scripted.ending Scripted.delivering
    Scripted.ending calm silent rfl (fun rest header => header.lineFits short) 3 0

end RespClient.Reply
