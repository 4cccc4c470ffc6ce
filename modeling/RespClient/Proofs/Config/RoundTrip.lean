import RespClient.Config.Url

/-!
# URLs and what they configure

A URL divides in one way only: the last at sign ends the credentials, the first slash
behind it the host and port, the first colon in these the host. So what is written as a
URL is read back part by part, whatever the password holds, and what is read can be
written again. A text that is no URL is refused for the first of its parts that is wrong.
-/

namespace RespClient.Config

/-! ## The parts of a URL -/

/-- An optional part behind its separator. -/
def behind (separator : Char) : Option (List Char) → List Char
  | some part => separator :: part
  | none => []

/-- Optional credentials and the sign that ends them. -/
def ahead : Option (List Char) → List Char
  | some info => info ++ ['@']
  | none => []

/-- The text is a URL of these parts. What is meant for one part has the separators of the others
in it only where they cannot be mistaken for them. -/
structure Divided (text : List Char) (info : Option (List Char)) (host : List Char)
    (port database : Option (List Char)) : Prop where
  whole : text = scheme ++ (ahead info ++ (host ++ behind ':' port ++ behind '/' database))
  no_account : '@' ∉ host ++ behind ':' port ++ behind '/' database
  no_path : '/' ∉ host ++ behind ':' port
  no_port : ':' ∉ host

/-- Whom the credentials name, if there are any. -/
def account : Option (List Char) → Credentials
  | some info => credentials info
  | none => ⟨none, none⟩

theorem cutOptional_behind {separator : Char} {before : List Char} (free : separator ∉ before)
    (after : Option (List Char)) :
    cutOptional separator (before ++ behind separator after) = (before, after) := by
  cases after with
  | none => rw [behind, List.append_nil, cutOptional, Text.cutFirst_eq_none_iff.2 free]
  | some after => rw [behind, cutOptional, Text.cutFirst_append separator before after free]

theorem exists_behind (separator : Char) (text : List Char) :
    ∃ before after, text = before ++ behind separator after ∧ separator ∉ before := by
  by_cases member : separator ∈ text
  · obtain ⟨before, after, split, free⟩ := List.eq_append_cons_of_mem member
    exact ⟨before, some after, split, free⟩
  · exact ⟨text, none, (List.append_nil text).symm, member⟩

theorem exists_ahead (text : List Char) :
    ∃ info rest, text = ahead info ++ rest ∧ '@' ∉ rest := by
  by_cases member : '@' ∈ text
  · obtain ⟨after, before, split, free⟩ :=
      List.eq_append_cons_of_mem (List.mem_reverse.2 member)
    refine ⟨some before.reverse, after.reverse, ?_, mt List.mem_reverse.1 free⟩
    rw [← List.reverse_reverse text, split]
    simp [ahead]
  · exact ⟨none, text, rfl, member⟩

/-- Every text of the scheme is a URL of some parts. -/
theorem exists_divided {text : List Char} (named : scheme <+: text) :
    ∃ info host port database, Divided text info host port database := by
  obtain ⟨rest, rfl⟩ := named
  obtain ⟨info, endpoint, rfl, no_account⟩ := exists_ahead rest
  obtain ⟨place, database, rfl, no_path⟩ := exists_behind '/' endpoint
  obtain ⟨host, port, rfl, no_port⟩ := exists_behind ':' place
  exact ⟨info, host, port, database, rfl, no_account, no_path, no_port⟩

/-! ## What the parts configure -/

def readPort : Option (List Char) → Except ConfigError UInt16
  | some text => parsePort text
  | none => .ok defaultPort

/-- The configuration that a URL of these parts stands for. -/
def configured (account : Credentials) (host : List Char) (port : UInt16) (database : UInt8) :
    Config :=
  { host := String.ofList host
    port
    database
    username := account.username
    password := account.password }

def ofParts (url : String) (account : Credentials) (host : List Char)
    (port : Option (List Char)) (database : List Char) : Except ConfigError Config := do
  let port ← readPort port
  if host = [] then throw (.missingHost url)
  else
    let database ← parseDatabase database
    let config := configured account host port database
    config.validate
    return config

theorem ofUrl_of_divided {text host : List Char} {info port database : Option (List Char)}
    (divided : Divided text info host port database) :
    ofUrl (String.ofList text) =
      ofParts (String.ofList text) (account info) host port (database.getD []) := by
  have place : cutOptional '/' (host ++ behind ':' port ++ behind '/' database) =
      (host ++ behind ':' port, database) := cutOptional_behind divided.no_path database
  have name : cutOptional ':' (host ++ behind ':' port) = (host, port) :=
    cutOptional_behind divided.no_port port
  have named : scheme.isPrefixOf text = true := by
    rw [List.isPrefixOf_iff_prefix, divided.whole]
    exact List.prefix_append ..
  have rest : text.drop scheme.length =
      ahead info ++ (host ++ behind ':' port ++ behind '/' database) := by
    rw [divided.whole, List.drop_left]
  unfold ofUrl ofParts
  simp only [String.toList_ofList, named, if_true, rest]
  cases info with
  | none =>
      rw [ahead, List.nil_append, Text.cutLast_eq_none_iff.2 divided.no_account]
      simp only [place, name]
      cases port <;> rfl
  | some info =>
      rw [ahead, List.append_assoc, List.singleton_append,
        Text.cutLast_append '@' info _ divided.no_account]
      simp only [place, name]
      cases port <;> rfl

theorem ofUrl_of_not_scheme {text : String} (other : ¬ scheme <+: text.toList) :
    ofUrl text = .error (.unsupportedScheme text) := by
  unfold ofUrl
  rw [← List.isPrefixOf_iff_prefix] at other
  simp only [other]
  rfl

/-! ## Whom the credentials name -/

theorem credentials_append {user password : List Char} (free : ':' ∉ user) :
    credentials (user ++ ':' :: password) =
      ⟨if user = [] then none else some (String.ofList user), some (String.ofList password)⟩ := by
  rw [credentials, Text.cutFirst_append ':' user password free]

theorem credentials_of_not_mem {info : List Char} (free : ':' ∉ info) :
    credentials info = ⟨none, some (String.ofList info)⟩ := by
  rw [credentials, Text.cutFirst_eq_none_iff.2 free]

theorem ofList_ne_empty {chars : List Char} (filled : chars ≠ []) : String.ofList chars ≠ "" := by
  rwa [Ne, ← String.toList_eq_nil_iff, String.toList_ofList]

/-- A user can be named only in front of a password and by a name without a colon. -/
theorem account_guarded {info : Option (List Char)} {name : String}
    (named : (account info).username = some name) :
    (account info).password.isSome = true ∧ name ≠ "" ∧ ':' ∉ name.toList := by
  cases info with
  | none => cases named
  | some info =>
      by_cases member : ':' ∈ info
      · obtain ⟨user, password, rfl, free⟩ := List.eq_append_cons_of_mem member
        rw [account, credentials_append free] at named ⊢
        by_cases anonymous : user = []
        · simp only [anonymous, if_true] at named
          cases named
        · simp only [anonymous, if_false] at named
          cases named
          exact ⟨rfl, ofList_ne_empty anonymous, by rwa [String.toList_ofList]⟩
      · rw [account, credentials_of_not_mem member] at named
        cases named

/-! ## What the parts are read as -/

/-- A port is left out or written in decimal. -/
inductive Port : Option (List Char) → UInt16 → Prop where
  | default : Port none defaultPort
  | written {text : List Char} {value : Nat} (digits : Decimal.unsigned? text = some value)
      (fits : value < 65536) : Port (some text) value.toUInt16

/-- An index is left out, empty or written in decimal. -/
inductive Index : List Char → UInt8 → Prop where
  | default : Index [] 0
  | written {text : List Char} {value : Nat} (digits : Decimal.unsigned? text = some value)
      (fits : value < 256) : Index text value.toUInt8

theorem Port.readPort_eq {text : Option (List Char)} {port : UInt16} (read : Port text port) :
    readPort text = .ok port := by
  cases read with
  | default => rfl
  | written digits fits => simp only [readPort, parsePort, digits, fits, if_true]

theorem readPort_of_unread {text : List Char} (unread : ∀ port, ¬ Port (some text) port) :
    readPort (some text) = .error (.invalidPort (String.ofList text)) := by
  rw [readPort, parsePort]
  split
  · next value digits => rw [if_neg fun fits => unread _ (.written digits fits)]
  · rfl

theorem Index.parseDatabase_eq {text : List Char} {index : UInt8} (read : Index text index) :
    parseDatabase text = .ok index := by
  cases read with
  | default => rfl
  | written digits fits =>
      have filled : text ≠ [] := by rintro rfl; cases digits
      simp only [parseDatabase, filled, digits, fits, if_true, if_false]

theorem parseDatabase_of_unread {text : List Char} (unread : ∀ index, ¬ Index text index) :
    parseDatabase text = .error (.invalidDatabase (String.ofList text)) := by
  unfold parseDatabase
  split
  · next empty => exact absurd (empty ▸ .default) (unread 0)
  · split
    · next value digits => rw [if_neg fun fits => unread _ (.written digits fits)]
    · rfl

/-- Of what a URL configures, only the index may be out of range. -/
theorem validate_configured (info : Option (List Char)) {host : List Char} (filled : host ≠ [])
    (port : UInt16) (index : UInt8) :
    (configured (account info) host port index).validate =
      if databaseCount ≤ index.toNat then .error (.databaseOutOfRange index.toNat)
      else .ok () := by
  have someone := ofList_ne_empty filled
  have secret : ¬ ((account info).username.isSome = true ∧
      (account info).password.isNone = true) := by
    rintro ⟨user, silent⟩
    obtain ⟨name, named⟩ := Option.isSome_iff_exists.1 user
    have password := (account_guarded named).1
    rw [Option.isNone_iff_eq_none.1 silent] at password
    cases password
  have buffered : ¬ defaultReadBuffer < minReadBuffer := by decide
  simp only [validate, configured, someone, secret, buffered, if_false]

/-! ## What a text is read as -/

/-- The outcome of reading a text as a URL. Of what is wrong with it, the first in this order is
told. -/
inductive Read (text : String) : Except ConfigError Config → Prop where
  | unsupportedScheme (other : ¬ scheme <+: text.toList) :
      Read text (.error (.unsupportedScheme text))
  | invalidPort {info database : Option (List Char)} {host port : List Char}
      (divided : Divided text.toList info host (some port) database)
      (unread : ∀ value, ¬ Port (some port) value) :
      Read text (.error (.invalidPort (String.ofList port)))
  | missingHost {info port database : Option (List Char)} {place : UInt16}
      (divided : Divided text.toList info [] port database) (placed : Port port place) :
      Read text (.error (.missingHost text))
  | invalidDatabase {info port : Option (List Char)} {host database : List Char} {place : UInt16}
      (divided : Divided text.toList info host port (some database)) (placed : Port port place)
      (filled : host ≠ []) (unread : ∀ value, ¬ Index database value) :
      Read text (.error (.invalidDatabase (String.ofList database)))
  | databaseOutOfRange {info port database : Option (List Char)} {host : List Char}
      {place : UInt16} {index : UInt8}
      (divided : Divided text.toList info host port database) (placed : Port port place)
      (filled : host ≠ []) (indexed : Index (database.getD []) index)
      (beyond : databaseCount ≤ index.toNat) :
      Read text (.error (.databaseOutOfRange index.toNat))
  | accepted {info port database : Option (List Char)} {host : List Char}
      {place : UInt16} {index : UInt8}
      (divided : Divided text.toList info host port database) (placed : Port port place)
      (filled : host ≠ []) (indexed : Index (database.getD []) index)
      (known : index.toNat < databaseCount) :
      Read text (.ok (configured (account info) host place index))

/-- Every text is read as something. -/
theorem exists_read (text : String) : ∃ outcome, Read text outcome := by
  by_cases named : scheme <+: text.toList
  · obtain ⟨info, host, port, database, divided⟩ := exists_divided named
    by_cases placed : ∃ place, Port port place
    · obtain ⟨place, placed⟩ := placed
      by_cases filled : host = []
      · subst filled
        exact ⟨_, .missingHost divided placed⟩
      · by_cases indexed : ∃ index, Index (database.getD []) index
        · obtain ⟨index, indexed⟩ := indexed
          rcases Nat.lt_or_ge index.toNat databaseCount with known | beyond
          · exact ⟨_, .accepted divided placed filled indexed known⟩
          · exact ⟨_, .databaseOutOfRange divided placed filled indexed beyond⟩
        · cases database with
          | none => exact absurd ⟨0, .default⟩ indexed
          | some database =>
              exact ⟨_, .invalidDatabase divided placed filled (not_exists.1 indexed)⟩
    · cases port with
      | none => exact absurd ⟨defaultPort, .default⟩ placed
      | some port => exact ⟨_, .invalidPort divided (not_exists.1 placed)⟩
  · exact ⟨_, .unsupportedScheme named⟩

theorem Read.ofUrl_eq {text : String} {outcome : Except ConfigError Config}
    (read : Read text outcome) : ofUrl text = outcome := by
  have parts {host : List Char} {info port database : Option (List Char)}
      (divided : Divided text.toList info host port database) :
      ofUrl text = ofParts text (account info) host port (database.getD []) := by
    simpa only [String.ofList_toList] using ofUrl_of_divided divided
  cases read with
  | unsupportedScheme other => exact ofUrl_of_not_scheme other
  | invalidPort divided unread => rw [parts divided, ofParts, readPort_of_unread unread]; rfl
  | missingHost divided placed => rw [parts divided, ofParts, placed.readPort_eq]; rfl
  | invalidDatabase divided placed filled unread =>
      simp only [parts divided, ofParts, placed.readPort_eq, filled, Option.getD_some,
        parseDatabase_of_unread unread, bind, Except.bind, if_false]
  | databaseOutOfRange divided placed filled indexed beyond =>
      simp only [parts divided, ofParts, placed.readPort_eq, filled, indexed.parseDatabase_eq,
        validate_configured _ filled, beyond, bind, Except.bind, if_false, if_true]
  | accepted divided placed filled indexed known =>
      simp only [parts divided, ofParts, placed.readPort_eq, filled, indexed.parseDatabase_eq,
        validate_configured _ filled, Nat.not_le_of_lt known, bind, Except.bind, if_false]
      rfl

theorem ofUrl_eq_iff_read {text : String} {outcome : Except ConfigError Config} :
    ofUrl text = outcome ↔ Read text outcome := by
  constructor
  · rintro rfl
    obtain ⟨outcome, read⟩ := exists_read text
    rwa [read.ofUrl_eq]
  · exact Read.ofUrl_eq

/-! ## What is written as a URL -/

/-- The parts can be told apart once they are written. -/
structure Url.WellFormed (url : Url) : Prop where
  filled : url.host ≠ ""
  plain : '@' ∉ url.host.toList ∧ ':' ∉ url.host.toList ∧ '/' ∉ url.host.toList
  known : ∀ index ∈ url.database, index.toNat < databaseCount
  guarded : ∀ name ∈ url.username, url.password.isSome = true ∧ name ≠ "" ∧ ':' ∉ name.toList

/-- What the parts say, and the defaults for what they leave out. -/
def Url.config (url : Url) : Config :=
  { host := url.host
    port := url.port.getD defaultPort
    database := url.database.getD 0
    username := url.username
    password := url.password }

/-- A URL that leaves out neither the port nor the database. -/
def Url.ofConfig (config : Config) : Url :=
  { username := config.username
    password := config.password
    host := config.host
    port := some config.port
    database := some config.database }

/-- The credentials as they are written. -/
def Url.info (url : Url) : Option (List Char) :=
  url.password.map fun password => (url.username.getD "").toList ++ ':' :: password.toList

theorem digits_free {separator : Char} (other : separator.isDigit = false) (value : Nat) :
    separator ∉ Decimal.digits value := fun member =>
  Bool.noConfusion (other.symm.trans
    (List.all_eq_true.1 (Decimal.all_isDigit_digits value) separator member))

theorem not_mem_behind {separator sign : Char} (other : sign ≠ separator)
    {part : Option (List Char)} (free : ∀ text ∈ part, sign ∉ text) :
    sign ∉ behind separator part := by
  cases part with
  | none => exact List.not_mem_nil
  | some text => exact List.not_mem_cons_of_ne_of_not_mem other (free text rfl)

theorem Url.toList_render (url : Url) :
    url.render.toList = scheme ++ (ahead url.info ++
      (url.host.toList ++ behind ':' (url.port.map fun port => Decimal.digits port.toNat) ++
        behind '/' (url.database.map fun index => Decimal.digits index.toNat))) := by
  rw [render, String.toList_ofList]
  cases password : url.password <;> cases port : url.port <;> cases database : url.database <;>
    simp [renderCredentials, info, ahead, behind, password]

theorem Url.WellFormed.divided {url : Url} (formed : url.WellFormed) :
    Divided url.render.toList url.info url.host.toList
      (url.port.map fun port => Decimal.digits port.toNat)
      (url.database.map fun index => Decimal.digits index.toNat) := by
  have written {part : Type} {separator sign : Char} (other : sign ≠ separator)
      (letter : sign.isDigit = false) (value : part → Nat) (given : Option part) :
      sign ∉ behind separator (given.map fun item => Decimal.digits (value item)) := by
    refine not_mem_behind other ?_
    rintro text member
    obtain ⟨item, -, rfl⟩ := Option.map_eq_some_iff.1 member
    exact digits_free letter _
  obtain ⟨no_at, no_colon, no_slash⟩ := formed.plain
  refine ⟨url.toList_render, ?_, ?_, no_colon⟩
  · simp only [List.mem_append, not_or]
    exact ⟨⟨no_at, written (by decide) (by decide) _ _⟩, written (by decide) (by decide) _ _⟩
  · simp only [List.mem_append, not_or]
    exact ⟨no_slash, written (by decide) (by decide) _ _⟩

theorem Url.WellFormed.account_info {url : Url} (formed : url.WellFormed) :
    account url.info = ⟨url.username, url.password⟩ := by
  obtain ⟨username, password, host, port, database⟩ := url
  cases password with
  | none =>
      cases username with
      | none => rfl
      | some name => cases (formed.guarded name rfl).1
  | some password =>
      cases username with
      | none =>
          rw [info, Option.map_some, account]
          exact (credentials_append List.not_mem_nil).trans (by simp)
      | some name =>
          obtain ⟨-, filled, free⟩ := formed.guarded name rfl
          rw [info, Option.map_some, account]
          refine (credentials_append free).trans ?_
          simp [filled]

theorem Port.of_digits (port : UInt16) :
    Port (some (Decimal.digits port.toNat)) port := by
  simpa using Port.written (Decimal.unsigned?_digits port.toNat) port.toNat_lt

theorem Index.of_digits (index : UInt8) : Index (Decimal.digits index.toNat) index := by
  simpa using Index.written (Decimal.unsigned?_digits index.toNat) index.toNat_lt

theorem Url.WellFormed.read {url : Url} (formed : url.WellFormed) :
    Read url.render (.ok url.config) := by
  have placed : Port (url.port.map fun port => Decimal.digits port.toNat)
      (url.port.getD defaultPort) := by
    cases url.port with
    | none => exact .default
    | some port => exact .of_digits port
  have indexed : Index ((url.database.map fun index => Decimal.digits index.toNat).getD [])
      (url.database.getD 0) := by
    cases url.database with
    | none => exact .default
    | some index => exact .of_digits index
  have known : (url.database.getD 0).toNat < databaseCount := by
    cases given : url.database with
    | none => decide
    | some index => exact formed.known index given
  have filled : url.host.toList ≠ [] := by
    rw [Ne, String.toList_eq_nil_iff]
    exact formed.filled
  have read := Read.accepted formed.divided placed filled indexed known
  rwa [formed.account_info, configured, String.ofList_toList] at read

/-- Every URL of what was accepted can be read back. -/
theorem Read.wellFormed {text : String} {url : Url} (read : Read text (.ok url.config)) :
    url.WellFormed := by
  obtain ⟨username, password, host, port, database⟩ := url
  generalize same : Except.ok (Url.config ⟨username, password, host, port, database⟩) = outcome
    at read
  cases read with
  | @accepted info _ _ host _ index divided placed filled indexed known =>
      simp only [Url.config, configured, Except.ok.injEq, Config.mk.injEq] at same
      obtain ⟨rfl, -, rfl, rfl, rfl, -⟩ := same
      have no_account : '@' ∉ host := fun member =>
        divided.no_account (List.mem_append_left _ (List.mem_append_left _ member))
      have no_path : '/' ∉ host := fun member => divided.no_path (List.mem_append_left _ member)
      refine ⟨ofList_ne_empty filled, ?_, ?_, fun name named => account_guarded named⟩
      · rw [String.toList_ofList]
        exact ⟨no_account, divided.no_port, no_path⟩
      · rintro index rfl
        exact known
  | _ => cases same

/-- A URL is read back as what it was written for, whatever is accepted can be written, and what
is refused is refused for the first part that is wrong. -/
theorem ofUrl_round_trips :
    (∀ url : Url, url.WellFormed → ofUrl url.render = .ok url.config) ∧
      (∀ text config, ofUrl text = .ok config →
        config.validate = .ok () ∧ (Url.ofConfig config).config = config ∧
          ∀ url : Url, url.config = config → url.WellFormed ∧ ofUrl url.render = .ok config) ∧
      ∀ text outcome, ofUrl text = outcome ↔ Read text outcome := by
  refine ⟨fun url formed => formed.read.ofUrl_eq, ?_, fun text outcome => ofUrl_eq_iff_read⟩
  intro text config accepted
  have read := ofUrl_eq_iff_read.1 accepted
  refine ⟨?_, ?_, ?_⟩
  · cases read with
    | accepted divided placed filled indexed known =>
        rw [validate_configured _ filled, if_neg (Nat.not_le_of_lt known)]
  · cases read with
    | accepted => rfl
  · rintro url rfl
    exact ⟨read.wellFormed, read.wellFormed.read.ofUrl_eq⟩

theorem ofUrl_round_trips_with_separators :
    let url : Url := ⟨some "a@b/c", some "p@s:s/w", "cache", none, some 7⟩
    url.render = "redis://a@b/c:p@s:s/w@cache/7" ∧ url.WellFormed ∧
      ofUrl url.render = .ok
        { host := "cache", database := 7, username := some "a@b/c", password := some "p@s:s/w" } ∧
      (Url.ofConfig url.config).render = "redis://a@b/c:p@s:s/w@cache:6379/7" ∧
      ofUrl (Url.ofConfig url.config).render = .ok url.config := by
  intro url
  have formed : url.WellFormed := by
    refine ⟨by decide, by decide, ?_, ?_⟩
    · rintro index ⟨⟩
      decide
    · rintro name ⟨⟩
      decide
  have read := ofUrl_round_trips.1 url formed
  obtain ⟨-, same, written⟩ := ofUrl_round_trips.2.1 url.render url.config read
  exact ⟨by decide, formed, read, by decide, (written (.ofConfig url.config) same).2⟩

end RespClient.Config
