import TimestreamOdbc.Connection
import TimestreamOdbc.Descriptor

/-!
# Connection attributes

What `Connection` keeps for its attributes, how they are set and read, and what
`SQL_ATTR_CONNECTION_DEAD` tells about the connection.
-/

namespace TimestreamOdbc

/-- `StatementAttributes`: what a connection passes on to the statements it creates. -/
structure StatementAttributes where
  bindType : ℕ
  concurrency : ℕ
  cursorType : ℕ
  retrieveData : ℕ
  rowsetSize : ℕ
  rowArraySize : ℕ
  deriving DecidableEq, Repr

/-- The members of a connection that are attributes, and the level of the logger of the process. -/
structure ConnectionOptions where
  autoCommit : Bool
  metadataId : Bool
  stmtAttr : StatementAttributes
  logLevel : ℤ
  deriving DecidableEq, Repr

/-! ## Codes -/

/-- The attributes of a connection. -/
def sqlAttrConnectionDead : ℤ := 1209
def sqlAttrConnectionTimeout : ℤ := 113
def sqlAttrAutocommit : ℤ := 102
def sqlAttrMetadataId : ℤ := 10014
def sqlAttrAutoIpd : ℤ := 10001
def sqlAttrAsyncEnable : ℤ := 4
def sqlAttrAnsiApp : ℤ := 115
def sqlAttrTslogDebug : ℤ := 65536
def sqlLoginTimeout : ℤ := 103

/-- `SQL_CD_TRUE`, `SQL_CD_FALSE`, `SQL_AUTOCOMMIT_ON` and `SQL_AUTOCOMMIT_OFF`. -/
def sqlCdTrue : ℤ := 1
def sqlCdFalse : ℤ := 0
def sqlAutocommitOn : ℤ := 1
def sqlAutocommitOff : ℤ := 0

/-- The record of an attribute that is not supported. -/
def attributeNotSupported : CallReply :=
  .error .sHYC00OptionalFeatureNotImplemented "Specified attribute is not supported."

/-- A pointer argument as the code casts it to a `SQLUINTEGER`. -/
def toSqlUinteger (value : ℤ) : ℤ := value % 2 ^ 32

namespace ConnectionOptions

/-- The options of a new connection. -/
def new (logLevel : ℤ) : ConnectionOptions where
  autoCommit := true
  metadataId := false
  -- `SQL_RD_OFF` is among the values that a statement refuses
  stmtAttr := ⟨0, 1, 0, 0, 1, 1⟩
  logLevel := logLevel

/-! ## Setting -/

/-- `Connection::InternalSetAttribute`. -/
def setAttribute (attr value : ℤ) (o : ConnectionOptions) : CallReply × ConnectionOptions :=
  if attr = sqlAttrConnectionDead then
    (.error .sHY092OptionTypeOutOfRange "Attribute is read only.", o)
  else if attr = sqlAttrAutocommit then
    if toSqlUinteger value ≠ sqlAutocommitOn ∧ toSqlUinteger value ≠ sqlAutocommitOff then
      (attributeNotSupported, o)
    else (.success, { o with autoCommit := toSqlUinteger value = sqlAutocommitOn })
  else if attr = sqlAttrMetadataId then
    if toSqlUinteger value ≠ 1 ∧ toSqlUinteger value ≠ 0 then
      (.error .sHY024InvalidAttributeValue "Invalid argument value", o)
    else (.success, { o with metadataId := toSqlUinteger value = 1 })
  else if attr = sqlAttrAnsiApp then
    (.error .sHY000GeneralError "Same behavior for ANSI and Unicode applications.", o)
  else if attr = sqlAttrTslogDebug then (.success, { o with logLevel := value })
  else if attr = sqlLoginTimeout then (.success, o)
  else (attributeNotSupported, o)

end ConnectionOptions

namespace Connection

variable {κ : Type}

/-! ## Reading -/

/-- `Connection::InternalGetAttribute`: the reply, and the values that are written to the buffer, one
after the other. -/
def internalGetAttribute (attr : ℤ) (buf : Bool) (c : Connection κ) (o : ConnectionOptions) :
    CallReply × List ℤ :=
  if !buf then (.error .sHY009InvalidUseOfNullPointer "Data buffer is null.", [])
  else if attr = sqlAttrConnectionDead then
    -- this case goes on with the next one, for the timeout
    (.success, [if c.queryClient.isSome then sqlCdFalse else sqlCdTrue, 0])
  else if attr = sqlAttrConnectionTimeout then (.success, [0])
  else if attr = sqlAttrAutocommit then
    (.success, [if o.autoCommit then sqlAutocommitOn else sqlAutocommitOff])
  else if attr = sqlAttrMetadataId then (.success, [if o.metadataId then 1 else 0])
  else if attr = sqlAttrAutoIpd then (.success, [0])
  else if attr = sqlAttrAsyncEnable then (.success, [0])
  else if attr = sqlAttrTslogDebug then (.success, [toSqlUinteger o.logLevel])
  else (attributeNotSupported, [])

/-- What the application finds in its buffer. -/
def readAttribute (attr : ℤ) (c : Connection κ) (o : ConnectionOptions) : Option ℤ :=
  (internalGetAttribute attr true c o).2.getLast?

/-! ## What is reported about a connection -/

/-- A call that succeeds. -/
def Succeeds (result : SqlResult) : Prop := result = .aiSuccess ∨ result = .aiSuccessWithInfo

/-- The last successful attempt of a history has not been released. -/
def IsOpen (calls : List (Call κ)) : Prop :=
  ∃ before world attempt after, calls = before ++ .establish world attempt :: after ∧
    Succeeds ((history before).establish world attempt).1 ∧ Call.release ∉ after

/-- The life cycle of a connection: it has a query client when the last successful attempt was not
released, an attempt that fails without a client leaves neither a client nor a provider, and one
made with a client leaves the client. -/
structure KeepsLifeCycle (calls : List (Call κ)) : Prop where
  client : (history calls).queryClient.isSome ↔ IsOpen calls
  failed : ∀ (world : World κ) attempt, (history calls).queryClient = none →
    ¬ Succeeds ((history calls).establish world attempt).1 →
      ((history calls).establish world attempt).2.2.queryClient = none ∧
        ((history calls).establish world attempt).2.2.samlCredProvider = none
  connected : ∀ (world : World κ) attempt client, (history calls).queryClient = some client →
    ((history calls).establish world attempt).2.2.queryClient = some client

/-- The life cycle is reported too: the attribute reads `SQL_CD_TRUE` when there is no client. -/
structure ReportsLifeCycle (calls : List (Call κ)) (o : ConnectionOptions) : Prop
    extends KeepsLifeCycle calls where
  dead : readAttribute sqlAttrConnectionDead (history calls) o = some sqlCdTrue ↔
    (history calls).queryClient = none

/-! ## Attempts and clients -/

section Attempts

variable {c : Connection κ} {world : World κ} {attempt : Attempt}

/-- An attempt that is accepted succeeds and leaves a client. -/
lemma establish_of_accepted
    (h : Accepted world (effective world.toMachine attempt c.config) c) :
    Succeeds (c.establish world attempt).1 ∧
      (c.establish world attempt).2.2.queryClient.isSome = true := by
  obtain ⟨records, heq⟩ := establish_eq world attempt c
  rw [heq]
  unfold establishConfiguration tryRestoreConnection
  simp only [h.noClient, h.complete, h.notExpired, h.answers, Option.isSome_none,
    Bool.false_eq_true, if_false, Option.isSome_some, and_true]
  split
  · exact .inl rfl
  · exact .inr rfl

/-- Any other attempt fails and leaves the client and the provider as they were. -/
lemma establish_of_not_accepted (hclosed : Closed c)
    (h : ¬ Accepted world (effective world.toMachine attempt c.config) c) :
    ¬ Succeeds (c.establish world attempt).1 ∧
      (c.establish world attempt).2.2.queryClient = c.queryClient ∧
      (c.establish world attempt).2.2.samlCredProvider = c.samlCredProvider := by
  obtain ⟨records, heq⟩ := establish_eq world attempt c
  rw [heq]
  obtain ⟨herror, hafter⟩ := establishConfiguration_of_not_accepted hclosed h records
  rw [herror, hafter]
  refine ⟨?_, rfl, rfl⟩
  rintro (hresult | hresult) <;> cases hresult

/-- With a client an attempt fails. -/
lemma not_accepted_of_client {client : QueryClient κ} (h : c.queryClient = some client)
    (cfg : Configuration) : ¬ Accepted world cfg c := by
  intro haccept
  have hnone := haccept.noClient
  rw [h] at hnone
  cases hnone

end Attempts

/-- One more call. -/
lemma history_append (calls : List (Call κ)) (last : Call κ) :
    history (calls ++ [last]) = (history calls).call last := by
  simp [history]

/-- A release closes a connection. -/
lemma not_isOpen_release (calls : List (Call κ)) : ¬ IsOpen (calls ++ [.release]) := by
  rintro ⟨before, world, attempt, after, heq, -, hafter⟩
  rcases List.eq_nil_or_concat after with rfl | ⟨after, last, rfl⟩
  · have hlast := (List.append_inj' heq rfl).2
    cases hlast
  · rw [List.concat_eq_append, ← List.cons_append, ← List.append_assoc] at heq
    have hlast := (List.append_inj' heq rfl).2
    obtain rfl := (List.cons.inj hlast).1
    exact hafter (by simp)

/-- An attempt opens a connection, or leaves it open. -/
lemma isOpen_establish (calls : List (Call κ)) (world : World κ) (attempt : Attempt) :
    IsOpen (calls ++ [.establish world attempt]) ↔
      Succeeds ((history calls).establish world attempt).1 ∨ IsOpen calls := by
  constructor
  · rintro ⟨before, world', attempt', after, heq, hsucceeds, hafter⟩
    rcases List.eq_nil_or_concat after with rfl | ⟨after, last, rfl⟩
    · obtain ⟨rfl, hlast⟩ := List.append_inj' heq rfl
      obtain ⟨rfl, rfl⟩ := Call.establish.inj (List.cons.inj hlast).1
      exact .inl hsucceeds
    · rw [List.concat_eq_append, ← List.cons_append, ← List.append_assoc] at heq
      obtain ⟨rfl, -⟩ := List.append_inj' heq rfl
      refine .inr ⟨before, world', attempt', after, rfl, hsucceeds, fun hmem => hafter ?_⟩
      rw [List.concat_eq_append]
      exact List.mem_append_left _ hmem
  · rintro (hsucceeds | ⟨before, world', attempt', after, rfl, hsucceeds, hafter⟩)
    · exact ⟨calls, world, attempt, [], rfl, hsucceeds, List.not_mem_nil⟩
    · refine ⟨before, world', attempt', after ++ [.establish world attempt], by simp, hsucceeds, ?_⟩
      rintro hmem
      rcases List.mem_append.mp hmem with hmem | hmem
      · exact hafter hmem
      · cases List.mem_singleton.mp hmem

/-- A connection has a client exactly when it is open. -/
lemma isSome_queryClient_history (calls : List (Call κ)) :
    (history calls).queryClient.isSome ↔ IsOpen calls := by
  induction calls using List.reverseRecOn with
  | nil =>
    refine iff_of_false (by simp [history, new]) ?_
    rintro ⟨before, world, attempt, after, heq, -⟩
    simp at heq
  | append_singleton calls last ih =>
    rw [history_append]
    cases last with
    | release =>
      refine iff_of_false ?_ (not_isOpen_release calls)
      change ¬ (history calls).release.2.2.queryClient.isSome = true
      unfold release
      split <;> simp [close]
    | establish world attempt =>
      rw [isOpen_establish, ← ih]
      change ((history calls).establish world attempt).2.2.queryClient.isSome = true ↔ _
      by_cases haccept : Accepted world
          (effective world.toMachine attempt (history calls).config) (history calls)
      · obtain ⟨hsucceeds, hclient⟩ := establish_of_accepted haccept
        exact iff_of_true hclient (.inl hsucceeds)
      · obtain ⟨hfails, hclient, -⟩ := establish_of_not_accepted (closed_history calls) haccept
        rw [hclient, or_iff_right hfails]

/-- Every history keeps the life cycle. -/
lemma keepsLifeCycle_history (calls : List (Call κ)) : KeepsLifeCycle calls where
  client := isSome_queryClient_history calls
  failed world attempt hnone hfails := by
    have hnot : ¬ Accepted world
        (effective world.toMachine attempt (history calls).config) (history calls) :=
      fun haccept => hfails (establish_of_accepted haccept).1
    obtain ⟨-, hclient, hprovider⟩ := establish_of_not_accepted (closed_history calls) hnot
    rw [hclient, hprovider]
    exact ⟨hnone, closed_history calls hnone⟩
  connected world attempt client hsome := by
    have hnot : ¬ Accepted world
        (effective world.toMachine attempt (history calls).config) (history calls) :=
      not_accepted_of_client hsome _
    rw [(establish_of_not_accepted (closed_history calls) hnot).2.1, hsome]

/-! ## The attribute -/

/-- The attribute always reads `SQL_CD_FALSE`, the value that the timeout has. -/
lemma readAttribute_connectionDead (c : Connection κ) (o : ConnectionOptions) :
    readAttribute sqlAttrConnectionDead c o = some 0 := rfl

/-- After every history the life cycle is kept, and it is reported exactly when there is a client. -/
theorem reportsLifeCycle_iff (calls : List (Call κ)) (o : ConnectionOptions) :
    ReportsLifeCycle calls o ↔ (history calls).queryClient.isSome := by
  have hdead : ¬ readAttribute sqlAttrConnectionDead (history calls) o = some sqlCdTrue := by
    rw [readAttribute_connectionDead]
    decide
  rw [Option.isSome_iff_ne_none]
  constructor
  · intro h hnone
    exact hdead (h.dead.mpr hnone)
  · intro hclient
    exact ⟨keepsLifeCycle_history calls, iff_of_false hdead hclient⟩

/-- A connection that was never established does not read as dead. -/
theorem not_reportsLifeCycle_new :
    ¬ ∀ (calls : List (Call Unit)) (o : ConnectionOptions), ReportsLifeCycle calls o := by
  intro h
  have hdead := (h [] (.new 0)).dead.mpr rfl
  rw [readAttribute_connectionDead] at hdead
  exact absurd hdead (by decide)

end Connection

end TimestreamOdbc
