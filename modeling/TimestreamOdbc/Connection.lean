import TimestreamOdbc.DsnConfig

/-!
# Connections

`Connection`: its configuration, its query client, the provider of its credentials and the run time
information about it, through any history of connection attempts and releases.

An attempt with a connection string parses it straight into the configuration of the connection,
and both kinds of attempt write the configuration before the first check.  So an attempt uses what
earlier ones left behind wherever neither the string nor the data source name gives a value, and one
that fails leaves its own attributes behind.
-/

namespace TimestreamOdbc

/-! ## The service -/

/-- What a provider of credentials answers. -/
structure CredentialsAnswer (κ : Type) where
  credentials : κ
  expiredOrEmpty : Bool
  errInfo : String

/-- A query client: its credentials and the settings that come from the configuration. -/
structure QueryClient (κ : Type) where
  credentials : κ
  region : Text
  connectTimeoutMs : Int32
  requestTimeoutMs : Int32
  maxConnections : Int32
  maxRetries : Option Int32
  endpoint : Option Text

/-- What one connection attempt finds outside of the connection: the machine, the providers of
credentials and the answer of the service to the query `SELECT 1`. -/
structure World (κ : Type) extends Machine where
  samlCredentials : Configuration → CredentialsAnswer κ
  profileCredentials : Text → CredentialsAnswer κ
  staticCredentials : Text → Text → Text → CredentialsAnswer κ
  query : QueryClient κ → Option (String × String)

/-- `Connection`. The provider of credentials is known by the configuration it was made for. -/
structure Connection (κ : Type) where
  config : Configuration
  queryClient : Option (QueryClient κ)
  samlCredProvider : Option Configuration
  /-- `SQL_USER_NAME` and `SQL_DATA_SOURCE_NAME`, once they were updated. -/
  info : Option (Text × Text)

variable {κ : Type}

namespace Connection

/-- A new connection. -/
def new : Connection κ :=
  { config := .new, queryClient := none, samlCredProvider := none, info := none }

/-- `Close`. -/
def close (c : Connection κ) : Connection κ :=
  { c with queryClient := none, samlCredProvider := none }

/-- The credentials that `TryRestoreConnection` gets. -/
def credentials (world : World κ) (cfg : Configuration) : CredentialsAnswer κ :=
  match cfg.getAuthType with
  | .okta | .aad => world.samlCredentials cfg
  | .awsProfile => world.profileCredentials cfg.getProfileName
  | .iam => world.staticCredentials cfg.getDSNUserName cfg.getDSNPassword cfg.getSessionToken

/-- The provider that `TryRestoreConnection` makes for the credentials, if any. -/
def samlProvider (cfg : Configuration) (c : Connection κ) : Option Configuration :=
  match cfg.getAuthType with
  | .okta | .aad => some cfg
  | .awsProfile | .iam => c.samlCredProvider

/-- The client that `TryRestoreConnection` makes. -/
def queryClientFor (credentials : κ) (cfg : Configuration) : QueryClient κ :=
  { credentials
    region := cfg.getRegion
    connectTimeoutMs := cfg.getConnectionTimeout
    requestTimeoutMs := cfg.getReqTimeout
    maxConnections := cfg.getMaxConnections
    maxRetries := if 0 < cfg.getMaxRetryCountClient then some cfg.getMaxRetryCountClient else none
    endpoint := if cfg.getEndpoint ≠ [] then some cfg.getEndpoint else none }

/-- `TryRestoreConnection`: the error, if any, and the connection after it. -/
def tryRestoreConnection (world : World κ) (cfg : Configuration) (c : Connection κ) :
    Option String × Connection κ :=
  let answer := credentials world cfg
  let c := { c with samlCredProvider := samlProvider cfg c }
  if answer.expiredOrEmpty then
    (some (if answer.errInfo = "" then "Empty or expired credentials" else answer.errInfo), c.close)
  else
    let client := queryClientFor answer.credentials cfg
    let c := { c with queryClient := some client }
    match world.query client with
    | some (exceptionName, message) => (some (exceptionName ++ ": " ++ message), c.close)
    | none => (none, { c with info := some (c.config.getDSNUserName, c.config.getDsn) })

/-- `InternalEstablish` with a configuration, after the given records were added: the result, all
records and the connection after it. -/
def establishConfiguration (world : World κ) (cfg : Configuration)
    (records : List DiagnosticRecord) (c : Connection κ) :
    SqlResult × List DiagnosticRecord × Connection κ :=
  let c := { c with config := cfg }
  if c.queryClient.isSome then
    (.aiError, records ++ [statusRecord .s08002AlreadyConnected "Already connected."], c)
  else
    match c.config.validate with
    | some record => (.aiError, records ++ [record], c)
    | none =>
      match c.tryRestoreConnection world cfg with
      | (some err, c) =>
        (.aiError, records ++ [statusRecord .s08001CannotConnect
          ("Failed to establish connection to Timestream.\n" ++ err)], c)
      | (none, c) => (if records = [] then .aiSuccess else .aiSuccessWithInfo, records, c)

/-- The configuration that `InternalEstablish` makes of a connection string. -/
def readConnectionString (machine : Machine) (connectStr : Text) (cfg : Configuration) :
    Configuration × List DiagnosticRecord :=
  let (cfg, records) :=
    ConnectionStringParser.parseConnectionString machine.isValidDirectory connectStr cfg
  match cfg .dsn with
  | some dsn => (cfg.readDsnConfiguration machine dsn, records)
  | none => (cfg, records)

/-- The input of an attempt: a connection string (`SQLDriverConnect`) or a configuration
(`SQLConnect`). -/
inductive Attempt where
  | connectStr (connectStr : Text)
  | configuration (cfg : Configuration)

/-- `Establish`. -/
def establish (world : World κ) (attempt : Attempt) (c : Connection κ) :
    SqlResult × List DiagnosticRecord × Connection κ :=
  match attempt with
  | .connectStr connectStr =>
    let (cfg, records) := readConnectionString world.toMachine connectStr c.config
    { c with config := cfg }.establishConfiguration world cfg records
  | .configuration cfg => c.establishConfiguration world cfg []

/-- `Release`. -/
def release (c : Connection κ) : SqlResult × List DiagnosticRecord × Connection κ :=
  if c.queryClient.isNone then
    (.aiSuccessWithInfo, [statusRecord .s08003NotConnected "Connection is not open."], c.close)
  else (.aiSuccess, [], c.close)

/-- A call on a connection, with what it finds outside of it. -/
inductive Call (κ : Type) where
  | establish (world : World κ) (attempt : Attempt)
  | release

/-- The connection after a call. -/
def call (c : Connection κ) : Call κ → Connection κ
  | .establish world attempt => (c.establish world attempt).2.2
  | .release => c.release.2.2

/-- The connection after a history of calls. -/
def history (calls : List (Call κ)) : Connection κ := calls.foldl call .new

/-! ## What an attempt makes of its input -/

/-- The value that a connection string gives to an attribute: that of the leftmost segment with a
valid one. -/
def given (machine : Machine) (connectStr : Text) (a : Attr) : Option a.Value :=
  ((connectStr.rdropWhile fun c => c = '\x00').splitOn ';').findSome?
    (ConnectionStringParser.assigned machine.isValidDirectory a)

/-- The value that the data source name in a connection string gives to an attribute. -/
def dsnGiven (machine : Machine) (connectStr : Text) (a : Attr) : Option a.Value :=
  match given machine connectStr .dsn with
  | some dsn => machine.readDsnValue dsn a
  | none => none

/-- The values of a connection string over those of a configuration. -/
def overlay (machine : Machine) (connectStr : Text) (cfg : Configuration) : Configuration :=
  fun a => (given machine connectStr a).or (cfg a)

/-- The configuration that an attempt on a connection with the given one comes to: the values of
the connection string over those that are there, completed from the data source name. -/
def effective (machine : Machine) (attempt : Attempt) (cfg : Configuration) : Configuration :=
  match attempt with
  | .configuration cfg' => cfg'
  | .connectStr connectStr =>
    match overlay machine connectStr cfg .dsn with
    | none => overlay machine connectStr cfg
    | some dsn => fun a =>
      if (overlay machine connectStr cfg).isSet a then overlay machine connectStr cfg a
      else (machine.readDsnValue dsn a).or (overlay machine connectStr cfg a)

/-- Reading a connection string comes to the values of its leftmost valid segments over those that
were there. -/
lemma readConnectionString_eq (machine : Machine) (connectStr : Text) (cfg : Configuration) :
    (readConnectionString machine connectStr cfg).1 =
      effective machine (.connectStr connectStr) cfg := by
  have hoverlay : (ConnectionStringParser.parseConnectionString machine.isValidDirectory connectStr
      cfg).1 = overlay machine connectStr cfg := by
    refine Configuration.ext fun a => ?_
    unfold ConnectionStringParser.parseConnectionString ConnectionStringParser.parseAttributes
    rw [ConnectionStringParser.parseLoop_eq, ConnectionStringParser.handleSegments_apply]
    rfl
  unfold readConnectionString effective
  dsimp only
  rw [hoverlay]
  cases overlay machine connectStr cfg .dsn with
  | none => rfl
  | some dsn =>
    refine Configuration.ext fun a => ?_
    exact Configuration.readDsnConfiguration_apply machine dsn (overlay machine connectStr cfg) a

/-- Nothing stands in the way of an attempt that uses this configuration: the connection has no
client, the configuration is complete, there are credentials and the service answers. -/
structure Accepted (world : World κ) (cfg : Configuration) (c : Connection κ) : Prop where
  noClient : c.queryClient = none
  complete : cfg.validate = none
  notExpired : (credentials world cfg).expiredOrEmpty = false
  answers : world.query (queryClientFor (credentials world cfg).credentials cfg) = none

/-- A connection without a client has no provider of credentials either. -/
def Closed (c : Connection κ) : Prop := c.queryClient = none → c.samlCredProvider = none

/-- An attempt that nothing stands in the way of does not return an error. -/
lemma establishConfiguration_of_accepted {world : World κ} {cfg : Configuration}
    {c : Connection κ} (h : Accepted world cfg c) (records : List DiagnosticRecord) :
    (c.establishConfiguration world cfg records).1 ≠ .aiError ∧
      (c.establishConfiguration world cfg records).2.2.config = cfg ∧
      Closed (c.establishConfiguration world cfg records).2.2 := by
  unfold establishConfiguration tryRestoreConnection
  simp only [h.noClient, h.complete, h.notExpired, h.answers, Option.isSome_none,
    Bool.false_eq_true, if_false]
  refine ⟨?_, trivial, fun hnone => by cases hnone⟩
  split <;> simp

/-- Any other attempt returns an error, and has written the configuration. -/
lemma establishConfiguration_of_not_accepted {world : World κ} {cfg : Configuration}
    {c : Connection κ} (hclosed : Closed c) (h : ¬ Accepted world cfg c)
    (records : List DiagnosticRecord) :
    (c.establishConfiguration world cfg records).1 = .aiError ∧
      (c.establishConfiguration world cfg records).2.2 = { c with config := cfg } := by
  unfold establishConfiguration
  dsimp only
  by_cases hclient : c.queryClient.isSome = true
  · rw [if_pos hclient]
    exact ⟨rfl, rfl⟩
  rw [if_neg hclient]
  have hnone : c.queryClient = none := by simpa using hclient
  cases hvalidate : cfg.validate with
  | some record => exact ⟨rfl, rfl⟩
  | none =>
    have hclose : ∀ provider client,
        ({ c with config := cfg, samlCredProvider := provider, queryClient := client } :
          Connection κ).close = { c with config := cfg } := by
      intro provider client
      simp [close, hnone, hclosed hnone]
    dsimp only
    unfold tryRestoreConnection
    dsimp only
    by_cases hexpired : (credentials world cfg).expiredOrEmpty = true
    · rw [if_pos hexpired]
      exact ⟨rfl, hclose _ _⟩
    · rw [if_neg hexpired]
      cases hquery : world.query (queryClientFor (credentials world cfg).credentials cfg) with
      | some error => exact ⟨rfl, hclose _ _⟩
      | none => exact absurd ⟨hnone, hvalidate, by simpa using hexpired, hquery⟩ h

/-- What an attempt does depends on the configuration it comes to. -/
lemma establish_eq (world : World κ) (attempt : Attempt) (c : Connection κ) :
    ∃ records, c.establish world attempt =
      c.establishConfiguration world (effective world.toMachine attempt c.config) records := by
  cases attempt with
  | configuration cfg => exact ⟨[], rfl⟩
  | connectStr connectStr =>
    refine ⟨(readConnectionString world.toMachine connectStr c.config).2, ?_⟩
    rw [← readConnectionString_eq]
    rfl

/-! ## Histories -/

/-- Every call leaves a connection without a client without a provider of credentials. -/
lemma closed_call {c : Connection κ} (h : Closed c) (call : Call κ) : Closed (c.call call) := by
  cases call with
  | release =>
    change Closed c.release.2.2
    unfold release
    split
    · exact fun _ => rfl
    · exact fun _ => rfl
  | establish world attempt =>
    obtain ⟨records, heq⟩ := establish_eq world attempt c
    change Closed (c.establish world attempt).2.2
    rw [heq]
    by_cases haccept : Accepted world (effective world.toMachine attempt c.config) c
    · exact (establishConfiguration_of_accepted haccept records).2.2
    · rw [(establishConfiguration_of_not_accepted h haccept records).2]
      exact h

/-- After every history a connection without a client has no provider of credentials. -/
lemma closed_history (calls : List (Call κ)) : Closed (history calls) := by
  suffices h : ∀ c : Connection κ, Closed c → Closed (calls.foldl call c) from h new fun _ => rfl
  induction calls with
  | nil => exact fun c h => h
  | cons call calls ih => exact fun c h => ih (c.call call) (closed_call h call)

/-- The attempt uses the configuration that it would use on a new connection. -/
def UsesOwnInput (world : World κ) (attempt : Attempt) (c : Connection κ) : Prop :=
  (c.establish world attempt).2.2.config = (new.establish world attempt).2.2.config

/-- If the attempt returns an error, the connection is as before. -/
def FailureChangesNothing (world : World κ) (attempt : Attempt) (c : Connection κ) : Prop :=
  (c.establish world attempt).1 = .aiError → (c.establish world attempt).2.2 = c

/-- An attempt leaves the configuration it came to. -/
lemma establish_config (world : World κ) (attempt : Attempt) {c : Connection κ} (h : Closed c) :
    (c.establish world attempt).2.2.config = effective world.toMachine attempt c.config := by
  obtain ⟨records, heq⟩ := establish_eq world attempt c
  rw [heq]
  by_cases haccept : Accepted world (effective world.toMachine attempt c.config) c
  · exact (establishConfiguration_of_accepted haccept records).2.1
  · rw [(establishConfiguration_of_not_accepted h haccept records).2]

/-- A failing attempt changes nothing exactly when it succeeds or comes to the configuration that
is there already. -/
lemma failureChangesNothing_iff (world : World κ) (attempt : Attempt) {c : Connection κ}
    (h : Closed c) :
    FailureChangesNothing world attempt c ↔
      Accepted world (effective world.toMachine attempt c.config) c ∨
        effective world.toMachine attempt c.config = c.config := by
  obtain ⟨records, heq⟩ := establish_eq world attempt c
  unfold FailureChangesNothing
  rw [heq]
  by_cases haccept : Accepted world (effective world.toMachine attempt c.config) c
  · have hne := (establishConfiguration_of_accepted haccept records).1
    exact iff_of_true (fun herror => absurd herror hne) (.inl haccept)
  · obtain ⟨herror, hafter⟩ := establishConfiguration_of_not_accepted h haccept records
    rw [herror, hafter, or_iff_right haccept]
    constructor
    · intro hc
      exact congrArg Connection.config (hc rfl)
    · intro hc _
      rw [hc]

/-- What the connection has from before does not show in an attempt with a connection string: each
attribute that is set is given by the string, or has the value that the data source name of the
string gives, or is an empty profile name in the place of which the data source name gives one. -/
def Covered (machine : Machine) (attempt : Attempt) (cfg : Configuration) : Prop :=
  match attempt with
  | .configuration _ => True
  | .connectStr connectStr => ∀ a, cfg a = none ∨ (given machine connectStr a).isSome ∨
      cfg a = dsnGiven machine connectStr a ∨
        cfg.isSet a = false ∧ (dsnGiven machine connectStr a).isSome

/-- The data source name is not read from the store. -/
lemma dsnGiven_dsn (machine : Machine) (connectStr : Text) :
    dsnGiven machine connectStr .dsn = none := by
  unfold dsnGiven
  cases given machine connectStr .dsn <;> rfl

/-- An attribute that the connection string does not give comes from the data source name or stays
as it was, when the data source name is that of the string. -/
lemma effective_of_not_given {machine : Machine} {connectStr : Text} {cfg : Configuration}
    (hdsn : overlay machine connectStr cfg .dsn = given machine connectStr .dsn) {a : Attr}
    (ha : given machine connectStr a = none) :
    effective machine (.connectStr connectStr) cfg a =
      if cfg.isSet a then cfg a else (dsnGiven machine connectStr a).or (cfg a) := by
  have hoverlay : overlay machine connectStr cfg a = cfg a := by
    rw [overlay, ha, Option.none_or]
  unfold effective dsnGiven
  dsimp only
  rw [hdsn]
  cases given machine connectStr .dsn with
  | none =>
    rw [Option.none_or, ite_self]
    exact hoverlay
  | some dsn =>
    dsimp only
    rw [Configuration.isSet_congr hoverlay, hoverlay]

/-- An attribute that the connection string gives does not depend on what was there, when the data
source name is that of the string. -/
lemma effective_of_given {machine : Machine} {connectStr : Text} {cfg cfg' : Configuration}
    (hdsn : overlay machine connectStr cfg .dsn = given machine connectStr .dsn)
    (hdsn' : overlay machine connectStr cfg' .dsn = given machine connectStr .dsn) {a : Attr}
    {v : a.Value} (ha : given machine connectStr a = some v) :
    effective machine (.connectStr connectStr) cfg a =
      effective machine (.connectStr connectStr) cfg' a := by
  have hoverlay : ∀ cfg, overlay machine connectStr cfg a = some v := fun cfg => by
    rw [overlay, ha, Option.some_or]
  unfold effective
  dsimp only
  rw [hdsn, hdsn']
  cases given machine connectStr .dsn with
  | none => exact (hoverlay cfg).trans (hoverlay cfg').symm
  | some dsn =>
    dsimp only
    rw [hoverlay, hoverlay,
      Configuration.isSet_congr ((hoverlay cfg).trans (hoverlay cfg').symm)]

/-- The data source name an attempt comes to is that of the string or the one that was there. -/
lemma effective_dsn (machine : Machine) (connectStr : Text) (cfg : Configuration) :
    effective machine (.connectStr connectStr) cfg .dsn = overlay machine connectStr cfg .dsn := by
  unfold effective
  dsimp only
  cases hdsn : overlay machine connectStr cfg .dsn with
  | none => exact hdsn
  | some dsn =>
    dsimp only
    rw [hdsn]
    exact ite_self _

/-- An attempt comes to what it comes to on a new connection exactly when nothing from before
shows. -/
lemma effective_eq_new_iff (machine : Machine) (attempt : Attempt) (cfg : Configuration) :
    effective machine attempt cfg = effective machine attempt .new ↔
      Covered machine attempt cfg := by
  cases attempt with
  | configuration cfg' => exact iff_of_true rfl trivial
  | connectStr connectStr =>
    have hnew : overlay machine connectStr .new .dsn = given machine connectStr .dsn :=
      Option.or_none
    have hunset : ∀ a, Configuration.new.isSet a = false := fun a =>
      Configuration.isSet_of_none rfl
    constructor
    · intro heq a
      have hdsn : overlay machine connectStr cfg .dsn = given machine connectStr .dsn := by
        rw [← hnew, ← effective_dsn, ← effective_dsn, heq]
      cases ha : given machine connectStr a with
      | some v => exact .inr (.inl rfl)
      | none =>
        have hvalue := congrFun heq a
        rw [effective_of_not_given hdsn ha, effective_of_not_given hnew ha,
          hunset a] at hvalue
        simp only [Bool.false_eq_true, if_false, Configuration.new, Option.or_none] at hvalue
        cases hset : cfg.isSet a with
        | true =>
          rw [hset, if_pos rfl] at hvalue
          exact .inr (.inr (.inl hvalue))
        | false =>
          rw [hset] at hvalue
          cases hgiven : dsnGiven machine connectStr a with
          | none =>
            rw [hgiven] at hvalue
            exact .inl hvalue
          | some v => exact .inr (.inr (.inr ⟨rfl, rfl⟩))
    · intro hcovered
      have hdsn : overlay machine connectStr cfg .dsn = given machine connectStr .dsn := by
        unfold overlay
        rcases hcovered .dsn with h | h | h | ⟨-, h⟩
        · rw [h, Option.or_none]
        · exact Option.or_of_isSome h
        · rw [h, dsnGiven_dsn, Option.or_none]
        · rw [dsnGiven_dsn] at h
          cases h
      refine Configuration.ext fun a => ?_
      cases ha : given machine connectStr a with
      | some v => exact effective_of_given hdsn hnew ha
      | none =>
        rw [effective_of_not_given hdsn ha, effective_of_not_given hnew ha,
          hunset a]
        simp only [Bool.false_eq_true, if_false, Configuration.new, Option.or_none]
        rcases hcovered a with h | h | h | ⟨hset, h⟩
        · rw [Configuration.isSet_of_none h, h]
          exact Option.or_none
        · rw [ha] at h
          cases h
        · rw [h]
          cases dsnGiven machine connectStr a <;> simp
        · rw [hset]
          exact Option.or_of_isSome h

/-- After every history of attempts and releases, whatever they found outside of the connection:
the next attempt uses its own input only and, if it fails, changes nothing, exactly when nothing
from before shows in it and it succeeds or comes to the configuration that is there already. -/
theorem establish_independent_iff (calls : List (Call κ)) (world : World κ) (attempt : Attempt) :
    UsesOwnInput world attempt (history calls) ∧
        FailureChangesNothing world attempt (history calls) ↔
      Covered world.toMachine attempt (history calls).config ∧
        (Accepted world (effective world.toMachine attempt (history calls).config)
            (history calls) ∨
          effective world.toMachine attempt (history calls).config = (history calls).config) := by
  have hclosed := closed_history calls
  unfold UsesOwnInput
  rw [establish_config world attempt hclosed,
    establish_config world attempt (c := new) fun _ => rfl,
    failureChangesNothing_iff world attempt hclosed]
  exact and_congr_left' (effective_eq_new_iff world.toMachine attempt (history calls).config)

/-- A world without data source names in which every credential is refused. -/
def refusingWorld : World Unit :=
  let refused : CredentialsAnswer Unit := ⟨(), true, ""⟩
  { isValidDirectory := fun _ => false, dsnStore := fun _ _ => none, uninitialised := 0
    samlCredentials := fun _ => refused, profileCredentials := fun _ => refused
    staticCredentials := fun _ _ _ => refused, query := fun _ => none }

/-- A refused attempt leaves its user name behind, and the next attempt uses it. -/
theorem not_independent_after_refusal :
    ¬ FailureChangesNothing refusingWorld (.connectStr "uid=alice".toList) new ∧
      ¬ UsesOwnInput refusingWorld (.connectStr [])
        (history [.establish refusingWorld (.connectStr "uid=alice".toList)]) := by
  have hrefused : ∀ cfg (c : Connection Unit), ¬ Accepted refusingWorld cfg c := by
    intro cfg c h
    have hexpired := h.notExpired
    unfold credentials at hexpired
    split at hexpired <;> cases hexpired
  constructor
  · rw [failureChangesNothing_iff _ _ fun _ => rfl, or_iff_right (hrefused _ _)]
    intro heq
    exact absurd (congrFun heq .uid) (by decide)
  · unfold UsesOwnInput
    rw [establish_config _ _ (closed_history _), establish_config _ _ fun _ => rfl]
    intro heq
    have hconfig : (history [.establish refusingWorld (.connectStr "uid=alice".toList)]).config =
        effective refusingWorld.toMachine (.connectStr "uid=alice".toList) .new :=
      establish_config refusingWorld (.connectStr "uid=alice".toList) (c := new) fun _ => rfl
    rw [hconfig] at heq
    exact absurd (congrFun heq .uid) (by decide)

end Connection

end TimestreamOdbc
