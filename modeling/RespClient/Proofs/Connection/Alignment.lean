import RespClient.Proofs.Batch.Settling

/-!
# Requests and replies stay aligned

A program that uses a connection for single requests and for batches may end its
batches in any way and go on after any failure. As long as the connection is not
broken, nothing is queued or in flight between two operations, and the stream has
been read exactly as far as the responses to the requests made so far.
-/

namespace RespClient

/-- What a program does with a connection between two moments at which nothing holds it. -/
inductive Operation where
  | execute (frame : Bytes)
  | query (type : ResultType) (command : Command)
  | executeInto (type : ResultType) (frame : Bytes) (current : type.Value)
  | batch {α : Type} (kind : BatchKind) (calls : List (BatchCall α))

namespace Operation

variable {σ : Type} [Socket σ]

/-- The connection after an operation. A batch is dropped after its last call. -/
def run (connection : Connection σ) : Operation → Connection σ
  | execute frame => ((Connection.execute frame).runFrom connection).2
  | query type command => ((Connection.query type command).runFrom connection).2
  | executeInto type frame current =>
      ((Connection.executeInto type frame current).runFrom connection).2
  | @batch α kind calls =>
      match (Batch.start kind connection : Except ClientError (Batch σ α)) with
      | .ok opened => (calls.foldl Batch.after opened).release
      | .error _ => connection

/-- The frames that an operation on a usable connection sends. -/
def requests : Operation → List Bytes
  | execute frame => [frame]
  | query _ command => [command.frame]
  | executeInto _ frame _ => [frame]
  | batch kind calls => kind.opening ++ Batch.requests kind calls

/-- There is a response for every request, and they make sense for the operation. -/
def Served (responses : List Response) (operation : Operation) : Prop :=
  operation.requests.length ≤ responses.length ∧
    match operation with
    | batch kind calls => Batch.Accepts kind responses 0 calls
    | _ => True

def runAll (connection : Connection σ) (operations : List Operation) : Connection σ :=
  operations.foldl run connection

/-- The same for operations one after the other. -/
def ServedAll : (responses : List Response) → List Operation → Prop
  | _, [] => True
  | responses, operation :: operations =>
      operation.Served responses ∧
        ServedAll (responses.drop operation.requests.length) operations

theorem run_broken {connection : Connection σ} (broken : connection.broken ≠ none)
    (operation : Operation) : operation.run connection = connection := by
  obtain ⟨reason, marked⟩ := Option.ne_none_iff_exists'.1 broken
  cases operation with
  | execute frame => rw [run, Connection.execute_broken marked]
  | query type command => rw [run, Connection.query_state, Connection.execute_broken marked]
  | executeInto type frame current =>
      rw [run, Connection.executeInto_state, Connection.execute_broken marked]
  | batch kind calls =>
      rw [run, Batch.start_refused kind (Connection.checkIdle_broken .startBatch marked)]

theorem runAll_broken {connection : Connection σ} (broken : connection.broken ≠ none)
    (operations : List Operation) : runAll connection operations = connection := by
  induction operations with
  | nil => rfl
  | cons operation operations ih =>
      rw [runAll, List.foldl_cons, run_broken broken]
      exact ih

theorem ServedAll.enough {responses : List Response} {operations : List Operation}
    (served : ServedAll responses operations) :
    (operations.flatMap Operation.requests).length ≤ responses.length := by
  induction operations generalizing responses with
  | nil => exact Nat.zero_le _
  | cons operation operations ih =>
      obtain ⟨⟨first, -⟩, others⟩ := served
      have rest := ih others
      rw [List.length_drop] at rest
      rw [List.flatMap_cons, List.length_append]
      omega

section InStep

open Connection (InStep)

variable [Socket.Quiet σ] {calm : σ → Prop} {responses : List Response} {requests : List Bytes}
  {connection : Connection (Recorded σ)}

theorem run_settles (reads : Socket.Delivering calm) (writes : Socket.Accepting calm)
    (sync : InStep calm responses requests 0 connection) (operation : Operation) :
    (operation.Served responses →
      InStep calm (responses.drop operation.requests.length) (requests ++ operation.requests) 0
        (operation.run connection)) ∧
    (¬operation.Served responses → (operation.run connection).broken ≠ none) := by
  cases operation with
  | execute frame => exact Connection.execute_settles reads writes sync frame
  | query type command =>
      rw [run, Connection.query_state]
      exact Connection.execute_settles reads writes sync command.frame
  | executeInto type frame current =>
      rw [run, Connection.executeInto_state]
      exact Connection.execute_settles reads writes sync frame
  | @batch α kind calls =>
      obtain ⟨opened, started, open_batch⟩ : ∃ opened : Batch (Recorded σ) α, _ :=
        Batch.start_open kind sync
      have settles := open_batch.release reads writes calls
      rw [List.append_assoc, Nat.add_zero, ← List.length_append] at settles
      rw [run, started]
      exact settles

/-- Every operation is run on what the ones before it have left, and a broken connection stays
broken. -/
theorem runAll_settles (reads : Socket.Delivering calm) (writes : Socket.Accepting calm)
    (sync : InStep calm responses requests 0 connection) (operations : List Operation) :
    (ServedAll responses operations →
      InStep calm (responses.drop (operations.flatMap Operation.requests).length)
        (requests ++ operations.flatMap Operation.requests) 0 (runAll connection operations)) ∧
    (¬ServedAll responses operations → (runAll connection operations).broken ≠ none) := by
  induction operations generalizing connection responses requests with
  | nil =>
      rw [List.flatMap_nil, List.append_nil]
      constructor
      · exact fun _ => sync
      · exact fun wrong => absurd trivial wrong
  | cons operation operations ih =>
      obtain ⟨kept, broke⟩ := run_settles reads writes sync operation
      by_cases served : operation.Served responses
      · obtain ⟨others, failing⟩ := ih (kept served)
        rw [List.flatMap_cons, List.length_append, ← List.drop_drop, ← List.append_assoc]
        constructor
        · rintro ⟨-, all⟩
          exact others all
        · intro wrong
          apply failing
          exact fun all => wrong ⟨served, all⟩
      · have broken := broke served
        constructor
        · rintro ⟨first, -⟩
          exact absurd first served
        · intro
          rw [runAll, List.foldl_cons, ← runAll, runAll_broken broken]
          exact broken

omit [Socket.Quiet σ] in
theorem fresh_inStep {socket : σ} (quiet : calm socket)
    (sent : Socket.pending socket = wire responses) (capacity : Nat) :
    InStep calm responses [] 0 (.ofSocketWith capacity { socket }) where
  usable := rfl
  quiet := quiet
  stream := sent
  written := rfl
  awaited := rfl
  backed := Nat.le_refl 0
  unsubscribed := rfl

/-- A server answers each request with one response. After any run of operations on a fresh
connection to it the connection is broken, or nothing is queued or in flight, everything that the
operations had to send has been written, and exactly the responses to it have been taken off the
stream. It is broken only if responses are missing or an answer to `EXEC` does not fit its
commands. So the next operation finds the responses to its own requests. -/
theorem runAll_stays_aligned (reads : Socket.Delivering calm) (writes : Socket.Accepting calm)
    {socket : σ} (quiet : calm socket) (sent : Socket.pending socket = wire responses)
    (capacity : Nat) (operations : List Operation) :
    let connection := runAll (.ofSocketWith capacity ({ socket } : Recorded σ)) operations
    let requests := operations.flatMap Operation.requests
    (connection.broken = none ↔ ServedAll responses operations) ∧
    (connection.broken = none →
      (connection.inFlight = 0 ∧ connection.pending = #[] ∧ connection.subscribed = false) ∧
      connection.transport.socket.written = requests.flatten ∧
      requests.length ≤ responses.length ∧
      wire responses =
        wire (responses.take requests.length) ++ connection.transport.stream ∧
      (∀ frame response, responses[requests.length]? = some response →
        ((Connection.execute frame).runFrom connection).1 = response.reply.check) ∧
      ∀ (α : Type) (kind : BatchKind) (commands : List (Bytes × Decoder α)) (taken : List Response)
        (rest : List Response) (batch : Batch (Recorded σ) α),
        responses.drop requests.length = taken ++ rest →
        taken.length = kind.opening.length + commands.length + kind.committing.length →
        Batch.start kind connection = .ok batch →
        (Batch.resolve.runFrom (batch.appendAll commands)).1 =
          kind.results commands.length taken >>= decodeReplies (commands.map Prod.snd)) := by
  intro connection requests
  obtain ⟨kept, broke⟩ :=
    runAll_settles reads writes (fresh_inStep quiet sent capacity) operations
  have served_iff : connection.broken = none ↔ ServedAll responses operations := by
    constructor
    · intro usable
      exact Classical.byContradiction fun wrong => broke wrong usable
    · exact fun served => (kept served).usable
  refine ⟨served_iff, fun usable => ?_⟩
  have served := served_iff.1 usable
  have sync := kept served
  rw [List.nil_append] at sync
  have written := sync.written
  rw [sync.nothing_pending] at written
  refine ⟨⟨sync.awaited, sync.nothing_pending, sync.unsubscribed⟩, ?_, served.enough, ?_, ?_, ?_⟩
  · exact (List.append_nil _).symm.trans written
  · rw [sync.stream, wire, wire, wire, ← List.flatMap_append, List.take_append_drop]
  · intro frame response found
    obtain ⟨inside, same⟩ := List.getElem?_eq_some_iff.1 found
    rw [List.drop_eq_getElem_cons inside, same] at sync
    obtain ⟨after, done, -⟩ := Connection.execute_inStep reads writes sync frame
    rw [done]
  · intro α kind commands taken rest batch split complete started
    obtain ⟨opened, same, open_batch⟩ : ∃ opened : Batch (Recorded σ) α, _ :=
      Batch.start_open kind sync
    cases same.symm.trans started
    obtain ⟨filled, held⟩ := open_batch.appendAll commands
    rw [split, Nat.zero_add] at filled
    have nothing := Array.eq_empty_of_size_eq_zero open_batch.size
    rw [nothing, List.nil_append] at held
    rw [filled.resolve_outcome reads writes complete, held]

/-- A pipeline that is dropped, one of whose requests is refused, and a transaction that is
resolved, on a socket that works in small pieces and is interrupted now and then. -/
theorem runAll_stays_aligned_in_pieces :
    let socket : Scripted :=
      { input := Bytes.ofText "-ERR\r\n$-1\r\n+OK\r\n+QUEUED\r\n*1\r\n:1\r\n:7\r\n"
        readChunk := 3
        writeChunk := 2
        readFaults := [.pass, .interrupted]
        writeFaults := [.interrupted] }
    let request := (Command.named "GET").frame
    let append := BatchCall.append request ResultType.int64.decode
    let operations : List Operation :=
      [.batch .pipeline [append, append], .batch .transaction [append, .resolve]]
    let connection := runAll (.ofSocketWith 16 ({ socket } : Recorded Scripted)) operations
    connection.broken = none ∧ connection.inFlight = 0 ∧
      ((Connection.execute request).runFrom connection).1 = .ok (.integer 7) := by
  intro socket request append operations connection
  let refused : Response :=
    ⟨.error "ERR", Reply.headed '-' (Bytes.ofText "ERR"), .error (by decide) (by decide)⟩
  let missing : Response :=
    ⟨.nil, Reply.headed '$' (Bytes.ofText "-1"), .noBulk numeral_missing (by decide)⟩
  let accepted : Response :=
    ⟨.simple "OK", Reply.headed '+' (Bytes.ofText "OK"), .simple (by decide) (by decide)⟩
  let queued : Response :=
    ⟨.simple "QUEUED", Reply.headed '+' (Bytes.ofText "QUEUED"), .simple (by decide) (by decide)⟩
  have one : Reply.Frame Reply.Short 1 (.integer 1) (Reply.headed ':' (Bytes.ofText "1")) :=
    .integer (.unsigned (by decide) (by decide)) (by decide)
  let committed : Response :=
    ⟨.array [.integer 1], Reply.headed '*' (Bytes.ofText "1") ++ _,
      .array (.unsigned (by decide) (by decide)) (by decide) (by decide) (by decide)
        (.cons one .nil)⟩
  let seven : Response :=
    ⟨.integer 7, Reply.headed ':' (Bytes.ofText "7"),
      .integer (.unsigned (by decide) (by decide)) (by decide)⟩
  have calm : Scripted.Faultless socket := by
    constructor <;> simp [socket, Scripted.Harmless]
  obtain ⟨served, aligned⟩ := runAll_stays_aligned Scripted.delivering Scripted.accepting calm
    (show Socket.pending socket =
      wire [refused, missing, accepted, queued, committed, seven] from rfl) 16 operations
  have fits : BatchKind.transaction.Accepts 1 [accepted, queued, committed, seven] := by
    intro _ answer same
    cases same
    rfl
  have usable := served.2
    ⟨⟨Nat.le_add_left 2 4, trivial⟩, ⟨Nat.le_add_left 3 1, fits⟩, trivial⟩
  obtain ⟨⟨idle, -, -⟩, -, -, -, next, -⟩ := aligned usable
  exact ⟨usable, idle, next request seven rfl⟩

end InStep

end Operation

end RespClient
