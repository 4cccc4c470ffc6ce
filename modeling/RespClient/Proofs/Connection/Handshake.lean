import RespClient.Connection.Establish
import RespClient.Proofs.Batch.Pipelining
import RespClient.Proofs.Reply.Encoding
import RespClient.Proofs.Reply.Failing

/-!
# The handshake

A connection is opened by a series of requests: the credentials, if there are any, and
the database, unless it is the first one. Each of them is made only if the one before it
was granted. What becomes of the series is told by the stream that the server answers
with: where it starts with one reply after the other the requests are granted up to the
first error, and where it has a flaw the connection breaks.
-/

namespace RespClient

/-- What a request comes to in front of this stream, and what it leaves of it. -/
inductive Heard (stream : Bytes) : Except ClientError Bytes → Prop where
  | granted {reply : Reply} {bytes rest : Bytes}
      (frame : Reply.Frame (fun _ => True) 0 reply bytes) (split : stream = bytes ++ rest)
      (fine : reply.isError = false) : Heard stream (.ok rest)
  | refused {message : String} {bytes rest : Bytes}
      (frame : Reply.Frame (fun _ => True) 0 (.error message) bytes)
      (split : stream = bytes ++ rest) : Heard stream (.error (.server message))
  | flawed {cause : FatalError} (flaw : Reply.Flaw 0 stream cause) :
      Heard stream (.error (.fatal cause))

/-- Which requests of a series are made in front of this stream, and what they come to. -/
inductive Converses : List Bytes → Bytes → Bytes → Except ClientError Bytes → Prop where
  | done {stream : Bytes} : Converses [] stream [] (.ok stream)
  | next {request stream rest sent : Bytes} {requests : List Bytes}
      {outcome : Except ClientError Bytes} (granted : Heard stream (.ok rest))
      (others : Converses requests rest sent outcome) :
      Converses (request :: requests) stream (request ++ sent) outcome
  | last {request stream : Bytes} {requests : List Bytes} {cause : ClientError}
      (refused : Heard stream (.error cause)) :
      Converses (request :: requests) stream request (.error cause)

variable {σ : Type} [Socket σ] {calm : σ → Prop}

/-! ## The stream decides -/

/-- What the reading of its reply says about a request. -/
def finding : Except FatalError Reply × Transport σ → Except ClientError Bytes
  | (.ok reply, after) => reply.check.map fun _ => after.stream
  | (.error cause, _) => .error (.fatal cause)

theorem heard_finding (works : Socket.Delivering calm) (ends : Socket.Ending calm)
    {transport : Transport σ} (quiet : calm transport.socket) :
    Heard transport.stream (finding (Reply.readFrame.runFrom transport)) := by
  rcases ran : Reply.readFrame.runFrom transport with ⟨cause | reply, after⟩
  · exact .flawed (Reply.readFrame_flawed works ends quiet ran)
  · obtain ⟨bytes, frame, split⟩ := Reply.readFrame_ok ran
    cases reply with
    | error message => exact .refused frame split
    | _ => exact .granted frame split rfl

theorem Heard.eq_finding (works : Socket.Delivering calm) (ends : Socket.Ending calm)
    {transport : Transport σ} (quiet : calm transport.socket)
    (fits : Reply.HeadersFit 0 transport.stream) {outcome : Except ClientError Bytes}
    (heard : Heard transport.stream outcome) :
    outcome = finding (Reply.readFrame.runFrom transport) := by
  obtain ⟨found, failed⟩ := Reply.readFrame_verdict works ends quiet fits
  cases heard with
  | @granted reply bytes rest frame split fine =>
      obtain ⟨after, done, left⟩ := (found reply rest).1 ⟨bytes, frame, split⟩
      rw [done]
      cases reply with
      | error message => cases fine
      | _ => exact congrArg Except.ok left.symm
  | @refused message bytes rest frame split =>
      obtain ⟨after, done, -⟩ := (found (.error message) rest).1 ⟨bytes, frame, split⟩
      rw [done]
      rfl
  | @flawed cause flaw =>
      have fails := (failed cause).1 flaw
      rcases ran : Reply.readFrame.runFrom transport with ⟨outcome, after⟩
      rw [Reply.Fails, ran] at fails
      cases fails
      rfl

theorem Heard.unique {stream : Bytes} (fits : Reply.HeadersFit 0 stream)
    {outcome other : Except ClientError Bytes} (heard : Heard stream outcome)
    (again : Heard stream other) : outcome = other := by
  -- Both are what a reader finds that has nothing but this stream.
  let transport := Transport.ofSocket ({ input := stream } : Scripted)
  have silent : Scripted.Faultless transport.socket := Scripted.faultless_of_input stream
  have only {result : Except ClientError Bytes} (heard : Heard transport.stream result) :=
    heard.eq_finding Scripted.delivering Scripted.ending silent fits
  exact (only heard).trans (only again).symm

theorem Converses.unique {requests : List Bytes} {stream sent more : Bytes}
    {outcome other : Except ClientError Bytes}
    (fits : ∀ rest, Reply.HeaderIn stream rest → Reply.LineFits rest)
    (converses : Converses requests stream sent outcome)
    (again : Converses requests stream more other) : sent = more ∧ outcome = other := by
  have here : Reply.HeadersFit 0 stream := fun rest header => fits rest (.first header)
  induction converses generalizing more other with
  | done => cases again; exact ⟨rfl, rfl⟩
  | next granted others ih =>
      cases again with
      | next also rest =>
          cases granted.unique here also
          cases granted with
          | granted frame split fine =>
              subst split
              have later := fun tail header => fits tail (.later frame header)
              obtain ⟨rfl, rfl⟩ := ih later rest fun tail header => later tail (.first header)
              exact ⟨rfl, rfl⟩
      | last refused => cases granted.unique here refused
  | last refused =>
      cases again with
      | next also rest => cases refused.unique here also
      | last also =>
          cases refused.unique here also
          exact ⟨rfl, rfl⟩

/-! ## Requests in series -/

namespace Connection

/-- Makes the requests up to the first that fails. -/
def requestAll : List Bytes → Action σ Unit
  | [] => pure ()
  | frame :: frames => do
      let _ ← execute frame
      requestAll frames

variable (reads : Socket.Delivering calm) (writes : Socket.Accepting calm)
  (ends : Socket.Ending calm) [Socket.Quiet σ] {connection : Connection (Recorded σ)}

include reads writes ends

/-- A request to a server that sends this stream is written, and it comes to what is heard. -/
theorem execute_heard (ready : connection.Ready)
    (quiet : calm connection.transport.socket.socket) (frame : Bytes) :
    ∃ outcome after, (execute frame).runFrom connection = (outcome, after) ∧
      after.transport.socket.written = connection.transport.socket.written ++ frame ∧
      Heard connection.transport.stream (outcome.map fun _ => after.transport.stream) ∧
      ∀ reply, outcome = .ok reply → after.Ready ∧ calm after.transport.socket.socket := by
  obtain ⟨sent, wrote, still⟩ :=
    Transport.writeMany_succeeds (Recorded.accepting writes) [frame] quiet
  have written := Transport.writeMany_written wrote
  rw [List.flatten_singleton] at written
  have stream := Transport.writeMany_stream connection.transport [frame]
  rw [wrote] at stream
  have heard := heard_finding (Recorded.delivering reads) (Recorded.ending ends) still
  have kept := Reply.readFrame_keeps (fun (recorded : Recorded σ) room same =>
    (Recorded.written_read recorded room).trans same) (Eq.refl sent.socket.written)
  rw [execute_sent ready wrote, ← written, ← stream]
  rcases ran : Reply.readFrame.runFrom sent with ⟨cause | reply, read⟩
  · rw [ran] at heard kept
    exact ⟨_, _, Attempt.runFrom_bind_error (perform_error ran), kept, heard, nofun⟩
  · rw [ran] at heard kept
    refine ⟨reply.check, _, Attempt.runFrom_bind_ok (perform_ok ran), kept, heard, ?_⟩
    intro reply granted
    exact ⟨ready.withTransport read, Reply.readFrame_composed.stays_calm
      (Recorded.delivering reads) still ran⟩

/-- A series of requests to a server that sends this stream: those that are made are written, and
they come to what is heard. If all are granted, the connection is ready for more. -/
theorem requestAll_converses (requests : List Bytes) (ready : connection.Ready)
    (quiet : calm connection.transport.socket.socket) :
    ∃ outcome after sent, (requestAll requests).runFrom connection = (outcome, after) ∧
      after.transport.socket.written = connection.transport.socket.written ++ sent ∧
      Converses requests connection.transport.stream sent
        (outcome.map fun _ => after.transport.stream) ∧
      (outcome = .ok () → after.Ready) := by
  induction requests generalizing connection with
  | nil => exact ⟨.ok (), connection, [], rfl, (List.append_nil _).symm, .done, fun _ => ready⟩
  | cons request requests ih =>
      obtain ⟨outcome, middle, done, written, heard, granted⟩ :=
        execute_heard reads writes ends ready quiet request
      cases outcome with
      | error cause =>
          exact ⟨.error cause, middle, request, Attempt.runFrom_bind_error done, written,
            .last heard, nofun⟩
      | ok reply =>
          obtain ⟨ready, still⟩ := granted reply rfl
          obtain ⟨outcome, after, sent, others, more, converses, stands⟩ := ih ready still
          refine ⟨outcome, after, request ++ sent, ?_, ?_, .next heard converses, stands⟩
          · exact (Attempt.runFrom_bind_ok done).trans others
          · rw [more, written, List.append_assoc]

omit reads writes ends

/-! ## Opening a connection -/

/-- The requests by which a connection is opened. -/
def greeting (config : Config) : List Bytes :=
  (match config.password with
    | some password =>
        [encodeRequest ((["AUTH"] ++ config.username.toList ++ [password]).map Bytes.ofText)]
    | none => []) ++
  if config.database = 0 then []
  else [encodeRequest [Bytes.ofText "SELECT", numberLine config.database.toNat]]

theorem authCommand_frame (username : Option String) (password : String) :
    (authCommand username password).frame =
      encodeRequest ((["AUTH"] ++ username.toList ++ [password]).map Bytes.ofText) := by
  cases username <;> rfl

theorem selectCommand_frame (database : UInt8) :
    (selectCommand database).frame =
      encodeRequest [Bytes.ofText "SELECT", numberLine database.toNat] := rfl

omit [Socket.Quiet σ] in
/-- The handshake makes the requests of the greeting. -/
theorem handshake_eq (config : Config) :
    (handshake config : Action σ Unit) = requestAll (greeting config) := by
  unfold handshake authenticate selectDatabase greeting
  cases config.password <;> by_cases first : config.database = 0 <;>
    simp [first, requestAll, authCommand_frame, selectCommand_frame]

omit [Socket σ] [Socket.Quiet σ] in
theorem ready_ofSocketWith (readBuffer : Nat) (socket : σ) :
    (ofSocketWith readBuffer socket).Ready :=
  ⟨rfl, rfl, rfl⟩

/-- An invalid configuration is refused without a socket. With a valid one the requests of the
greeting are made on the new socket, up to the first that is not granted, and the attempt comes to
what is heard: the connection is ready behind the replies, or it fails for the first refusal or
flaw. Where the header lines are within their limit, the stream decides what is sent and what the
outcome is. -/
theorem establish_converses (reads : Socket.Delivering calm) (writes : Socket.Accepting calm)
    (ends : Socket.Ending calm) (config : Config) :
    (∀ cause, config.validate = .error cause →
      ∀ connect : Config → Except IoError σ,
        establish connect config = .unopened (.config cause)) ∧
    (config.validate = .ok () →
      ∀ (connect : Config → Except IoError (Recorded σ)) (socket : σ),
        connect config = .ok { socket } → calm socket →
        ∃ outcome connection, establish connect config = .opened outcome connection ∧
          (outcome = .ok () → connection.Ready) ∧
          Converses (greeting config) (Socket.pending socket) connection.transport.socket.written
            (outcome.map fun _ => connection.transport.stream) ∧
          ((∀ rest, Reply.HeaderIn (Socket.pending socket) rest → Reply.LineFits rest) →
            ∀ sent result, Converses (greeting config) (Socket.pending socket) sent result →
              sent = connection.transport.socket.written ∧
                result = outcome.map fun _ => connection.transport.stream)) := by
  constructor
  · intro cause invalid connect
    rw [establish, invalid]
  · intro valid connect socket connected quiet
    obtain ⟨outcome, connection, sent, ran, written, converses, stands⟩ :=
      requestAll_converses reads writes ends (greeting config)
        (ready_ofSocketWith config.readBuffer ({ socket } : Recorded σ)) quiet
    obtain rfl : connection.transport.socket.written = sent := written
    refine ⟨outcome, connection, ?_, stands, converses, ?_⟩
    · rw [establish, valid, connected]
      dsimp only
      rw [handshake_eq, ran]
    · intro fits sent result again
      exact again.unique fits converses

/-- A server that delivers in pieces grants both requests and goes on with another reply. -/
theorem establish_converses_in_pieces :
    let config : Config :=
      { host := "cache", username := some "ann", password := some "s3cret", database := 3 }
    let socket : Scripted :=
      { input := Bytes.ofText "+OK\r\n+OK\r\n:7", readChunk := 3, writeChunk := 5
        readFaults := [.pass, .interrupted] }
    ∃ connection : Connection (Recorded Scripted),
      establish (fun _ => .ok { socket }) config = .opened (.ok ()) connection ∧
        connection.Ready ∧ connection.transport.stream = Bytes.ofText ":7" ∧
        connection.transport.socket.written = Bytes.ofText
          "*3\r\n$4\r\nAUTH\r\n$3\r\nann\r\n$6\r\ns3cret\r\n*2\r\n$6\r\nSELECT\r\n$1\r\n3\r\n" := by
  intro config socket
  have calm : socket.Faultless := by
    constructor <;> simp [socket, Scripted.Harmless]
  obtain ⟨-, opens⟩ := establish_converses Scripted.delivering Scripted.accepting
    Scripted.ending config
  obtain ⟨outcome, connection, ran, stands, -, decides⟩ :=
    opens (by decide) (fun _ => .ok { socket }) socket rfl calm
  have short : (Socket.pending socket).length ≤ maxLineLength := by decide
  have granted : Reply.Frame (fun _ => True) 0 (.simple "OK")
      (Reply.headed '+' (Bytes.ofText "OK")) := .simple (by decide) trivial
  have expected : Converses (greeting config) (Socket.pending socket)
      (encodeRequest (["AUTH", "ann", "s3cret"].map Bytes.ofText) ++
        (encodeRequest [Bytes.ofText "SELECT", numberLine 3] ++ []))
      (.ok (Bytes.ofText ":7")) :=
    .next (.granted granted rfl rfl) (.next (.granted granted rfl rfl) .done)
  obtain ⟨sent, result⟩ := decides (fun rest header => header.lineFits short) _ _ expected
  cases outcome with
  | error cause => cases result
  | ok done =>
      exact ⟨connection, ran, stands rfl, (Except.ok.inj result).symm, sent.symm.trans (by decide)⟩

end Connection

end RespClient
