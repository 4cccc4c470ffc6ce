import Mathlib.Algebra.Ring.Nat
import Mathlib.Data.List.Induction
import RespClient.Proofs.Reply.Encoding

/-!
# Requests read back

A request is a list of words, given as such or built up from a name. Its frame holds the
words with their lengths and nothing else, so that the reader gets the words back from a
stream of frames, whatever bytes are in them, and takes no more than is theirs. Two
requests that start alike on the wire are the same.
-/

namespace RespClient

/-! ## The words of a request -/

/-- One step in building up a command. -/
inductive BuildStep where
  | arg (argument : Argument)
  | args (arguments : List Argument)
  | argIf (condition : Bool) (argument : Argument)

namespace BuildStep

def apply (command : Command) : BuildStep → Command
  | arg argument => command.arg argument
  | args arguments => command.args arguments
  | argIf condition argument => command.argIf condition argument

/-- What a step adds to the words of a command. -/
def words : BuildStep → List Bytes
  | arg argument => argument.bytes?.toList
  | args arguments => arguments.filterMap Argument.bytes?
  | argIf true argument => argument.bytes?.toList
  | argIf false _ => []

end BuildStep

inductive Request where
  | listed (words : List Bytes)
  | built (name : String) (steps : List BuildStep)

namespace Request

def frame : Request → Bytes
  | listed words => encodeRequest words
  | built name steps => (steps.foldl BuildStep.apply (Command.named name)).frame

def words : Request → List Bytes
  | listed words => words
  | built name steps => Bytes.ofText name :: steps.flatMap BuildStep.words

/-- The reply that a reader takes the request for. -/
def asReply (request : Request) : Reply :=
  .array (request.words.map .bulk)

/-- Within the limits of the reader. -/
structure Fits (request : Request) : Prop where
  short : ∀ word ∈ request.words, word.length ≤ maxBulkLength
  countable : request.words.length < 2 ^ 63

end Request

theorem Command.parts_arg (command : Command) (argument : Argument) :
    (command.arg argument).parts = command.parts ++ argument.bytes?.toList := by
  cases written : argument.bytes? <;> simp [Command.arg, Command.parts, written]

theorem Command.parts_args (command : Command) (arguments : List Argument) :
    (command.args arguments).parts = command.parts ++ arguments.filterMap Argument.bytes? := by
  induction arguments generalizing command with
  | nil => exact (List.append_nil _).symm
  | cons argument arguments ih =>
      change ((command.arg argument).args arguments).parts = _
      rw [ih, Command.parts_arg, List.append_assoc]
      cases written : argument.bytes? <;> simp [written]

theorem BuildStep.parts_apply (command : Command) (step : BuildStep) :
    (step.apply command).parts = command.parts ++ step.words := by
  cases step with
  | arg argument => exact command.parts_arg argument
  | args arguments => exact command.parts_args arguments
  | argIf condition argument =>
      cases condition with
      | true => exact command.parts_arg argument
      | false => exact (List.append_nil _).symm

theorem BuildStep.parts_foldl (steps : List BuildStep) (command : Command) :
    (steps.foldl BuildStep.apply command).parts =
      command.parts ++ steps.flatMap BuildStep.words := by
  induction steps generalizing command with
  | nil => exact (List.append_nil _).symm
  | cons step steps ih =>
      rw [List.foldl_cons, ih, step.parts_apply, List.append_assoc, List.flatMap_cons]

/-- A request is written as the list of its words. -/
theorem Request.frame_eq (request : Request) : request.frame = encodeRequest request.words := by
  cases request with
  | listed words => rfl
  | built name steps => exact congrArg encodeRequest (BuildStep.parts_foldl steps _)

/-! ## The decimal text of an integer -/

theorem digitsValue_concat (digits : Bytes) (digit : UInt8) :
    digitsValue (digits ++ [digit]) = 10 * digitsValue digits + (digit.toNat - 48) := by
  rw [digitsValue, List.foldl_append]
  rfl

theorem digitsValue_lt {digits : Bytes} (decimal : ∀ digit ∈ digits, IsDigit digit) :
    digitsValue digits < 10 ^ digits.length := by
  induction digits using List.reverseRecOn with
  | nil => exact Nat.one_pos
  | append_singleton digits digit ih =>
      have bound := (decimal digit (by simp)).2
      have earlier := ih fun other member => decimal other (List.mem_append_left _ member)
      rw [digitsValue_concat, List.length_append, List.length_singleton, Nat.pow_succ]
      omega

theorem length_digits_le {digits : Bytes} (filled : digits ≠ [])
    (decimal : ∀ digit ∈ digits, IsDigit digit) :
    (Decimal.digits (digitsValue digits)).length ≤ digits.length :=
  (Nat.length_toDigits_le_iff (by decide) (List.length_pos_iff.2 filled)).2 (digitsValue_lt decimal)

theorem Numeral.length_signedDigits_le {line : Bytes} {value : Int} (numeral : Numeral line value) :
    (Decimal.signedDigits value).length ≤ line.length := by
  cases numeral with
  | unsigned filled decimal => exact length_digits_le filled decimal
  | plus filled decimal => exact Nat.le_succ_of_le (length_digits_le filled decimal)
  | @minus digits filled decimal =>
      have bound := length_digits_le filled decimal
      cases worth : digitsValue digits with
      | zero => exact Nat.succ_le_succ (Nat.zero_le digits.length)
      | succ value =>
          rw [worth] at bound
          exact Nat.succ_le_succ bound

/-- An integer is written as the shortest of its texts. -/
theorem Argument.integer_text (value : Int) :
    ∃ text, (Argument.integer value).bytes? = some text ∧ Numeral text value ∧
      ∀ other, Numeral other value → text.length ≤ other.length := by
  refine ⟨_, rfl, numeral_signedDigits value, fun other numeral => ?_⟩
  rw [List.length_map]
  exact numeral.length_signedDigits_le

/-! ## Two requests on the wire -/

theorem header_inj {type : Char} {count other : Nat} {rest more : Bytes}
    (same : header type count ++ rest = header type other ++ more) :
    count = other ∧ rest = more := by
  rw [header_eq, header_eq] at same
  have first := numeral_digits count
  have second := numeral_digits other
  obtain ⟨lines, left⟩ := Reply.headed_inj first.free second.free same
  exact ⟨Int.ofNat.inj (first.unique (lines ▸ second)), left⟩

theorem encodeBulk_inj {first second rest more : Bytes}
    (same : encodeBulk first ++ rest = encodeBulk second ++ more) :
    first = second ∧ rest = more := by
  simp only [encodeBulk, List.append_assoc] at same
  obtain ⟨size, left⟩ := header_inj same
  obtain ⟨rfl, tails⟩ := List.append_inj left size
  exact ⟨rfl, List.append_cancel_left tails⟩

/-- As many bulk strings as there are others are these if they start alike. -/
theorem flatMap_encodeBulk_inj {first second : List Bytes} {rest more : Bytes}
    (size : first.length = second.length)
    (same : first.flatMap encodeBulk ++ rest = second.flatMap encodeBulk ++ more) :
    first = second := by
  induction first generalizing second with
  | nil => exact (List.length_eq_zero_iff.1 size.symm).symm
  | cons word first ih =>
      obtain ⟨other, second, rfl⟩ := List.exists_cons_of_length_eq_add_one size.symm
      simp only [List.flatMap_cons, List.append_assoc] at same
      obtain ⟨rfl, others⟩ := encodeBulk_inj same
      rw [ih (Nat.succ.inj size) others]

/-- No request is the beginning of another one. -/
theorem encodeRequest_inj {first second : List Bytes}
    (starts : encodeRequest first <+: encodeRequest second) : first = second := by
  obtain ⟨rest, same⟩ := starts
  rw [encodeRequest, encodeRequest, List.append_assoc] at same
  obtain ⟨size, bodies⟩ := header_inj same
  rw [← List.append_nil (second.flatMap encodeBulk)] at bodies
  exact flatMap_encodeBulk_inj size bodies

/-! ## Reading the words back -/

namespace Reply

variable {σ : Type} [Socket σ] {calm : σ → Prop}

theorem Frames.encoded_bulks {depth : Nat} {words : List Bytes}
    (short : ∀ word ∈ words, word.length ≤ maxBulkLength) :
    Frames Short depth (words.map .bulk) (words.flatMap encodeBulk) := by
  induction words with
  | nil => exact .nil
  | cons word words ih =>
      exact .cons (.encoded_bulk (short word List.mem_cons_self))
        (ih fun other member => short other (List.mem_cons_of_mem _ member))

/-- A request within the limits is a frame of the grammar. -/
theorem Frame.of_request (request : Request) (fits : request.Fits) :
    Frame Short 0 request.asReply request.frame := by
  have range : ((request.words.map Reply.bulk).length : Int) < 2 ^ 63 := by
    have countable := fits.countable
    rw [List.length_map]
    omega
  have shallow : 0 < maxNesting := by decide
  have frame := Frame.encoded_array range shallow (Frames.encoded_bulks fits.short)
  rw [List.length_map] at frame
  rw [request.frame_eq]
  exact frame

/-- So many replies, one after the other. -/
def readFrames : (count : Nat) → Reading σ (List Reply)
  | 0 => return []
  | count + 1 => do
      let reply ← readFrame
      let rest ← readFrames count
      return reply :: rest

theorem readFrames_yields (works : Socket.Delivering calm) {requests : List Request}
    (fits : ∀ request ∈ requests, request.Fits) {rest : Bytes} {transport : Transport σ}
    (quiet : calm transport.socket)
    (found : transport.stream = requests.flatMap Request.frame ++ rest) :
    Transport.Yields calm (readFrames requests.length) transport
      (requests.map Request.asReply) rest := by
  induction requests generalizing transport with
  | nil => exact .pure [] quiet found
  | cons request requests ih =>
      rw [List.flatMap_cons, List.append_assoc] at found
      apply (readFrame_yields works quiet (.of_request request (fits request List.mem_cons_self))
        found).bind
      intro middle left still
      apply (ih (fun other member => fits other (List.mem_cons_of_mem _ member)) still left).bind
      intro after last calmly
      exact .pure _ calmly last

/-- The requests that begin and end a transaction are words of their own. -/
theorem Frame.of_control {command : Command}
    (control : command ∈ [Command.multi, .exec, .discard]) :
    Frame Short 0 (.array [.bulk (Bytes.ofText command.name)]) command.frame := by
  simp only [List.mem_cons, List.not_mem_nil, or_false] at control
  rcases control with rfl | rfl | rfl
  · exact Frame.of_request (.built "MULTI" []) ⟨by decide, by decide⟩
  · exact Frame.of_request (.built "EXEC" []) ⟨by decide, by decide⟩
  · exact Frame.of_request (.built "DISCARD" []) ⟨by decide, by decide⟩

/-- Requests within the limits are read back, one by one and word by word, off any stream that
starts with their frames, and what comes after them stays. Without any limit, a frame tells its
words and is not the beginning of another one. An integer is a word that has its value and no more
characters than it takes. -/
theorem requests_read_back (works : Socket.Delivering calm) :
    (∀ (requests : List Request) (rest : Bytes) (transport : Transport σ),
      (∀ request ∈ requests, request.Fits) → calm transport.socket →
      transport.stream = requests.flatMap Request.frame ++ rest →
      Transport.Yields calm (readFrames requests.length) transport
        (requests.map fun request => .array (request.words.map .bulk)) rest) ∧
    (∀ first second : List Bytes, encodeRequest first = encodeRequest second → first = second) ∧
    (∀ first second : Request, first.frame <+: second.frame →
      first.words = second.words ∧ first.frame = second.frame) ∧
    (∀ value : Int, ∃ text, (Argument.integer value).bytes? = some text ∧ Numeral text value ∧
      ∀ other, Numeral other value → text.length ≤ other.length) ∧
    Command.multi.frame = Bytes.ofText "*1\r\n$5\r\nMULTI\r\n" ∧
    Command.exec.frame = Bytes.ofText "*1\r\n$4\r\nEXEC\r\n" ∧
    Command.discard.frame = Bytes.ofText "*1\r\n$7\r\nDISCARD\r\n" ∧
    ∀ command ∈ [Command.multi, .exec, .discard], ∀ (rest : Bytes) (transport : Transport σ),
      calm transport.socket → transport.stream = command.frame ++ rest →
      Transport.Yields calm readFrame transport
        (.array [.bulk (Bytes.ofText command.name)]) rest := by
  refine ⟨fun requests rest transport fits quiet found =>
      readFrames_yields works fits quiet found, ?_, ?_, Argument.integer_text,
    by decide, by decide, by decide, fun command control rest transport quiet found =>
      readFrame_yields works quiet (.of_control control) found⟩
  · intro first second same
    exact encodeRequest_inj (same ▸ List.prefix_refl _)
  · intro first second starts
    have same : first.words = second.words := by
      rw [first.frame_eq, second.frame_eq] at starts
      exact encodeRequest_inj starts
    exact ⟨same, by rw [first.frame_eq, second.frame_eq, same]⟩

/-- A command with a line end in an argument, and a request without words. -/
theorem requests_read_back_in_pieces :
    let requests : List Request :=
      [.built "SET" [.arg (.bytes Bytes.crlf), .argIf false (.text "NX"),
        .args [.integer (-10), .absent]], .listed []]
    let transport := Transport.ofSocketWith 16
      ({ input := requests.flatMap Request.frame ++ Bytes.ofText "*1"
         readChunk := 5
         readFaults := [.pass, .interrupted] } : Scripted)
    ∃ after, (readFrames 2).runFrom transport =
        (.ok [.array [.bulk (Bytes.ofText "SET"), .bulk Bytes.crlf, .bulk (Bytes.ofText "-10")],
          .array []], after) ∧
      after.stream = Bytes.ofText "*1" := by
  intro requests transport
  have fits : ∀ request ∈ requests, request.Fits := by
    intro request member
    simp only [requests, List.mem_cons, List.not_mem_nil, or_false] at member
    rcases member with rfl | rfl
    · exact ⟨by decide, by decide⟩
    · exact ⟨by decide, by decide⟩
  have calm : Scripted.Faultless transport.socket := by
    constructor <;> simp [transport, Transport.ofSocketWith, Scripted.Harmless]
  obtain ⟨after, done, left, -⟩ := (requests_read_back Scripted.delivering).1 requests
    (Bytes.ofText "*1") transport fits calm rfl
  exact ⟨after, done, left⟩

end Reply

end RespClient
