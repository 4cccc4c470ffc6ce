import RespClient.Cli.Session
import RespClient.Proofs.Config.RoundTrip

/-!
# What is told of a password

A configuration is printed without its password, and what is wrong with a URL is told by
quoting the part that is wrong. So URLs that differ in their passwords show the same,
with one exception: a URL whose port can be read and whose host is missing is repeated as
a whole, the password in it.
-/

namespace RespClient.Config

/-- The URL of an endpoint behind a user and a password. -/
def guardedUrl (user password endpoint : String) : String :=
  "redis://" ++ user ++ ":" ++ password ++ "@" ++ endpoint

/-- Two readings of URLs that show the same. What is accepted differs in the password at most and
is printed alike, and what is refused is refused in the same words. -/
def Veiled : Except ConfigError Config → Except ConfigError Config → Prop
  | .ok one, .ok other => { one with password := other.password } = other ∧ one.print = other.print
  | .error one, .error other =>
      (ClientError.config one).message = (ClientError.config other).message
  | _, _ => False

/-- An endpoint without a host in front of its port, if it has one, which can be read. -/
def Hostless (endpoint : String) : Prop :=
  ∃ port database place, endpoint.toList = behind ':' port ++ behind '/' database ∧
    '/' ∉ behind ':' port ∧ Port port place

/-! ## The parts of a URL with a password -/

theorem toList_guardedUrl (user password endpoint : String) :
    (guardedUrl user password endpoint).toList =
      scheme ++ (ahead (some (user.toList ++ ':' :: password.toList)) ++ endpoint.toList) := by
  simp only [guardedUrl, String.toList_append, ahead, List.append_assoc, List.singleton_append]
  rfl

theorem guardedUrl_inj {user endpoint first second : String}
    (same : guardedUrl user first endpoint = guardedUrl user second endpoint) :
    first = second := by
  have chars := congrArg String.toList same
  simp only [toList_guardedUrl, ahead, List.append_cancel_left_eq, List.append_cancel_right_eq,
    List.cons.injEq, true_and] at chars
  exact String.toList_inj.1 chars

theorem missingHost_message_inj {one other : String}
    (same : (ClientError.config (.missingHost one)).message =
      (ClientError.config (.missingHost other)).message) : one = other := by
  have whole : "configuration error: " ++ ("missing host in URL: " ++ one) =
      "configuration error: " ++ ("missing host in URL: " ++ other) := same
  exact (String.append_right_inj _).1 ((String.append_right_inj _).1 whole)

/-- Of a user without a name nothing is kept. -/
def nameOf (user : String) : Option String :=
  if user.toList = [] then none else some user

variable {user endpoint : String} (plain : ':' ∉ user.toList) (last : '@' ∉ endpoint.toList)

include plain last

theorem ofUrl_guardedUrl (password : String) {host : List Char} {port database : Option (List Char)}
    (parts : endpoint.toList = host ++ behind ':' port ++ behind '/' database)
    (no_path : '/' ∉ host ++ behind ':' port) (no_port : ':' ∉ host) :
    ofUrl (guardedUrl user password endpoint) =
      ofParts (guardedUrl user password endpoint) ⟨nameOf user, some password⟩ host port
        (database.getD []) := by
  have divided : Divided (guardedUrl user password endpoint).toList
      (some (user.toList ++ ':' :: password.toList)) host port database :=
    { whole := by rw [toList_guardedUrl, parts]
      no_account := parts ▸ last
      no_path
      no_port }
  have read := ofUrl_of_divided divided
  rwa [String.ofList_toList, account, credentials_append plain, String.ofList_toList,
    String.ofList_toList] at read

/-- A password in front of no host is repeated. -/
theorem ofUrl_hostless (hostless : Hostless endpoint) (password : String) :
    ofUrl (guardedUrl user password endpoint) =
      .error (.missingHost (guardedUrl user password endpoint)) := by
  obtain ⟨port, database, place, parts, no_path, placed⟩ := hostless
  have read := ofUrl_guardedUrl plain last password parts no_path List.not_mem_nil
  rw [read, ofParts, placed.readPort_eq]
  rfl

omit plain last

theorem Veiled.refl : (outcome : Except ConfigError Config) → Veiled outcome outcome
  | .ok _ => ⟨rfl, rfl⟩
  | .error _ => rfl

/-- The password has no part in what is read behind it. -/
theorem ofParts_veiled {url other first second : String} {name : Option String}
    {host database : List Char} {port : Option (List Char)}
    (told : host ≠ [] ∨ ∀ place, ¬ Port port place) :
    Veiled (ofParts url ⟨name, some first⟩ host port database)
      (ofParts other ⟨name, some second⟩ host port database) := by
  unfold ofParts
  rcases placed : readPort port with cause | place
  · exact rfl
  have filled : host ≠ [] := by
    refine told.resolve_right fun unread => ?_
    cases port with
    | none => exact unread defaultPort .default
    | some text => cases placed.symm.trans (readPort_of_unread unread)
  rcases indexed : parseDatabase database with cause | index
  · simp only [filled, if_false, bind, Except.bind]
    exact rfl
  have unseen : (configured ⟨name, some second⟩ host place index).validate =
      (configured ⟨name, some first⟩ host place index).validate := rfl
  simp only [filled, if_false, bind, Except.bind, unseen]
  cases (configured ⟨name, some first⟩ host place index).validate with
  | error cause => exact rfl
  | ok valid => exact ⟨rfl, rfl⟩

/-- URLs that differ in their passwords show the same, unless they have no host and a port that can
be read. Such a URL is refused with all of it in the message, and this is what the command line
reports. A printed configuration never depends on its password. -/
theorem ofUrl_veils_password_iff (user endpoint first second : String) (plain : ':' ∉ user.toList)
    (last : '@' ∉ endpoint.toList) :
    (Veiled (ofUrl (guardedUrl user first endpoint)) (ofUrl (guardedUrl user second endpoint)) ↔
      first = second ∨ ¬ Hostless endpoint) ∧
    (Hostless endpoint → ∀ (σ : Type) [Socket σ] (connect : Config → Except IoError σ)
      (input : Bytes) (timeout : Nat) (task : Cli.Task),
      ∃ failure, Cli.run connect input ⟨guardedUrl user first endpoint, timeout, task⟩ =
          ⟨"", some failure, none⟩ ∧
        Cli.report failure = "(error) configuration error: missing host in URL: " ++
          guardedUrl user first endpoint) ∧
    ∀ config : Config, { config with password := some first }.print =
      { config with password := some second }.print := by
  refine ⟨⟨?_, ?_⟩, ?_, fun config => rfl⟩
  · intro veiled
    by_cases hostless : Hostless endpoint
    · have refused := ofUrl_hostless plain last hostless
      rw [refused first, refused second] at veiled
      exact .inl (guardedUrl_inj (missingHost_message_inj veiled))
    · exact .inr hostless
  · rintro (rfl | hosted)
    · exact .refl _
    · obtain ⟨place, database, split, no_path⟩ := exists_behind '/' endpoint.toList
      obtain ⟨host, port, rfl, no_port⟩ := exists_behind ':' place
      have parts (password : String) := ofUrl_guardedUrl plain last password split no_path no_port
      rw [parts first, parts second]
      apply ofParts_veiled
      by_cases empty : host = []
      · subst empty
        exact .inr fun place placed => hosted ⟨port, database, place, split, no_path, placed⟩
      · exact .inl empty
  · intro hostless σ _ connect input timeout task
    have refused : Cli.Invocation.config ⟨guardedUrl user first endpoint, timeout, task⟩ =
        .error (.missingHost (guardedUrl user first endpoint)) := by
      rw [Cli.Invocation.config, ofUrl_hostless plain last hostless first]
      rfl
    refine ⟨.config (.missingHost (guardedUrl user first endpoint)), ?_, rfl⟩
    rw [Cli.run, refused]

/-- A port that cannot be read is told without what stands in front of it, although the host is
missing. -/
theorem ofUrl_veils_password_with_bad_port :
    ':' ∉ "user".toList ∧ '@' ∉ ":70000".toList ∧
      guardedUrl "user" "swordfish" ":70000" = "redis://user:swordfish@:70000" ∧
      ofUrl (guardedUrl "user" "swordfish" ":70000") = .error (.invalidPort "70000") ∧
      Veiled (ofUrl (guardedUrl "user" "swordfish" ":70000"))
        (ofUrl (guardedUrl "user" "hunter2" ":70000")) := by
  have plain : ':' ∉ "user".toList := by decide
  have last : '@' ∉ ":70000".toList := by decide
  have refused : ofUrl (guardedUrl "user" "swordfish" ":70000") = .error (.invalidPort "70000") :=
    rfl
  have told : ¬ Hostless ":70000" := by
    intro hostless
    cases refused.symm.trans (ofUrl_hostless plain last hostless "swordfish")
  have veiled := ofUrl_veils_password_iff "user" ":70000" "swordfish" "hunter2" plain last
  exact ⟨plain, last, by decide, refused, veiled.1.2 (.inr told)⟩

/-- Without a host the message has the password in it, and is another one for another password. -/
theorem missing_host_tells_password :
    ofUrl "redis://user:swordfish@" = .error (.missingHost "redis://user:swordfish@") ∧
      ofUrl "redis://user:[REDACTED]@" = .error (.missingHost "redis://user:[REDACTED]@") ∧
      ¬ Veiled (ofUrl "redis://user:swordfish@") (ofUrl "redis://user:[REDACTED]@") := by
  have refused : ofUrl "redis://user:swordfish@" =
      .error (.missingHost "redis://user:swordfish@") := rfl
  have again : ofUrl "redis://user:[REDACTED]@" =
      .error (.missingHost "redis://user:[REDACTED]@") := rfl
  refine ⟨refused, again, ?_⟩
  rw [refused, again]
  intro veiled
  exact absurd (missingHost_message_inj veiled) (by decide)

end RespClient.Config
