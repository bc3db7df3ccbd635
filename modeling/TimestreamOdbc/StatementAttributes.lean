import TimestreamOdbc.ConnectionAttributes
import TimestreamOdbc.Handles
import TimestreamOdbc.Query.ColumnListing
import TimestreamOdbc.Query.RowVisibility

/-!
# Statement attributes

What the statements of an application make of each other's attributes: how an attribute is set and
read, how `SQLSetConnectOption` sets the attributes of a connection, and what the catalog functions
return.  Most attributes are kept by the statement, some of them by its descriptors as well, and
`SQL_ATTR_METADATA_ID` by the connection, for all of its statements.
-/

namespace TimestreamOdbc

open TransitionSystem

/-! ## Codes -/

/-- The attributes of a statement. -/
def sqlAttrCursorSensitivity : ℤ := -2
def sqlAttrCursorScrollable : ℤ := -1
def sqlAttrRowBindType : ℤ := 5
def sqlAttrCursorType : ℤ := 6
def sqlAttrConcurrency : ℤ := 7
def sqlRowsetSize : ℤ := 9
def sqlAttrRetrieveData : ℤ := 11
def sqlAttrRowNumber : ℤ := 14
def sqlAttrEnableAutoIpd : ℤ := 15
def sqlAttrParamBindOffsetPtr : ℤ := 17
def sqlAttrParamBindType : ℤ := 18
def sqlAttrRowBindOffsetPtr : ℤ := 23
def sqlAttrRowOperationPtr : ℤ := 24
def sqlAttrRowStatusPtr : ℤ := 25
def sqlAttrRowsFetchedPtr : ℤ := 26
def sqlAttrRowArraySize : ℤ := 27
def sqlAttrAppRowDesc : ℤ := 10010
def sqlAttrAppParamDesc : ℤ := 10011
def sqlAttrImpRowDesc : ℤ := 10012
def sqlAttrImpParamDesc : ℤ := 10013

/-- `SQL_NONSCROLLABLE`, `SQL_INSENSITIVE` and `SQL_IS_UINTEGER`. -/
def sqlNonscrollable : ℕ := 0
def sqlInsensitive : ℕ := 1
def sqlIsUinteger : ℤ := -5

/-- The options that set an attribute of the later statements of a connection. -/
def sqlBindType : ℕ := 5
def sqlCursorType : ℕ := 6
def sqlConcurrency : ℕ := 7
def sqlRowsetSizeOption : ℕ := 9
def sqlRetrieveData : ℕ := 11

/-- `SQL_QUERY_TIMEOUT`, `SQL_MAX_ROWS`, `SQL_NOSCAN`, `SQL_MAX_LENGTH`, `SQL_ASYNC_ENABLE` and
`SQL_KEYSET_SIZE`: the options of a statement that are ignored. -/
def ignoredStmtOptions : List ℕ := [0, 1, 2, 3, 4, 8]

/-- `SQL_SIMULATE_CURSOR` and `SQL_USE_BOOKMARKS`. -/
def unsupportedStmtOptions : List ℕ := [10, 12]

/-- `SQL_ACCESS_MODE`, `SQL_LOGIN_TIMEOUT`, `SQL_TRANSLATE_DLL`, `SQL_TRANSLATE_OPTION`,
`SQL_TXN_ISOLATION`, `SQL_CURRENT_QUALIFIER`, `SQL_QUIET_MODE` and `SQL_PACKET_SIZE`: the options of a
connection that are ignored. -/
def ignoredConnectOptions : List ℕ := [101, 103, 106, 107, 108, 109, 111, 112]

/-! ## Options of a connection -/

namespace ConnectionOptions

/-- The reply to an option that is ignored. -/
def optionIgnored : CallReply :=
  ⟨.aiSuccessWithInfo, [statusRecord .s01000GeneralWarning "Specified attribute is ignored."]⟩

/-- `Connection::InternalSetStmtAttribute`: an attribute for the statements that are allocated
later. -/
def internalSetStmtAttribute (option value : ℕ) (o : ConnectionOptions) :
    CallReply × ConnectionOptions :=
  let refused (message : String) : CallReply × ConnectionOptions :=
    (.error .sHYC00OptionalFeatureNotImplemented message, o)
  if option = sqlBindType then
    if (value : ℤ) ≠ sqlBindByColumn then refused "Only binding by column is currently supported"
    else (.success, { o with stmtAttr := { o.stmtAttr with bindType := value } })
  else if option = sqlConcurrency then
    if value ≠ sqlConcurReadOnly then refused "Only read-only cursors are supported"
    else (.success, { o with stmtAttr := { o.stmtAttr with concurrency := value } })
  else if option = sqlCursorType then
    if value ≠ sqlCursorForwardOnly then refused "Only forward cursors are currently supported"
    else (.success, { o with stmtAttr := { o.stmtAttr with cursorType := value } })
  else if option = sqlRetrieveData then
    if value ≠ sqlRdOn then refused "SQLFetch can only retrieve data after it positions the cursor"
    else (.success, { o with stmtAttr := { o.stmtAttr with retrieveData := value } })
  else if option = sqlRowsetSizeOption then
    (.success, { o with stmtAttr := { o.stmtAttr with rowsetSize := value } })
  else if option ∈ ignoredStmtOptions then (optionIgnored, o)
  else refused "Specified attribute is not supported"

/-- `Connection::InternalSetConnectOption`. -/
def internalSetConnectOption (option value : ℕ) (o : ConnectionOptions) :
    CallReply × ConnectionOptions :=
  if option ∈ [sqlBindType, sqlConcurrency, sqlCursorType, sqlRetrieveData, sqlRowsetSizeOption] ++
      ignoredStmtOptions ++ unsupportedStmtOptions then
    o.internalSetStmtAttribute option value
  else if option ∈ ignoredConnectOptions then (optionIgnored, o)
  else o.setAttribute option value

/-- The attributes of later statements are no option of the catalog functions. -/
lemma metadataId_internalSetStmtAttribute (option value : ℕ) (o : ConnectionOptions) :
    (o.internalSetStmtAttribute option value).2.metadataId = o.metadataId := by
  unfold internalSetStmtAttribute
  split_ifs <;> rfl

/-- Only `SQL_ATTR_METADATA_ID` sets it. -/
lemma metadataId_setAttribute {attr : ℤ} (h : attr ≠ sqlAttrMetadataId) (value : ℤ)
    (o : ConnectionOptions) : (o.setAttribute attr value).2.metadataId = o.metadataId := by
  unfold setAttribute
  rw [if_neg h]
  split_ifs <;> rfl

/-- The option sets it only under the code of the attribute. -/
lemma metadataId_internalSetConnectOption {option : ℕ} (h : (option : ℤ) ≠ sqlAttrMetadataId)
    (value : ℕ) (o : ConnectionOptions) :
    (o.internalSetConnectOption option value).2.metadataId = o.metadataId := by
  unfold internalSetConnectOption
  split_ifs
  · exact metadataId_internalSetStmtAttribute option value o
  · rfl
  · exact metadataId_setAttribute h value o

end ConnectionOptions

/-! ## Attributes of a statement -/

/-- The value of an attribute: a number, or an address or null. -/
inductive AttributeValue where
  | number (value : ℕ)
  | pointer (address : Option ℕ)
  deriving DecidableEq, Repr

/-- What `SQLGetStmtAttr` gives: its reply, the value it writes to the buffer, and the length it
writes where the application has a place for it. -/
structure AttributeRead where
  reply : CallReply
  value : Option AttributeValue
  valueLen : Option ℤ
  deriving DecidableEq, Repr

/-- An attribute with the value it is set to; the descriptor of the rows is one of them. -/
inductive StatementSetting where
  | attribute (attr : StatementAttribute)
  | appRowDesc (desc : Option DescriptorId)
  deriving DecidableEq, Repr

/-- The identifier of an attribute. -/
def StatementAttribute.attr : StatementAttribute → ℤ
  | concurrency _ => sqlAttrConcurrency
  | cursorType _ => sqlAttrCursorType
  | metadataId _ => sqlAttrMetadataId
  | retrieveData _ => sqlAttrRetrieveData
  | paramBindType _ => sqlAttrParamBindType
  | rowsetSize _ => sqlRowsetSize
  | rowArraySize _ => sqlAttrRowArraySize
  | paramBindOffsetPtr _ => sqlAttrParamBindOffsetPtr
  | rowBindOffsetPtr _ => sqlAttrRowBindOffsetPtr
  | rowBindType _ => sqlAttrRowBindType
  | rowOperationPtr _ => sqlAttrRowOperationPtr
  | rowStatusPtr _ => sqlAttrRowStatusPtr
  | rowsFetchedPtr _ => sqlAttrRowsFetchedPtr
  | unsupported attr => attr

/-- The value that an attribute is set to. -/
def StatementAttribute.value : StatementAttribute → AttributeValue
  | concurrency value | cursorType value | metadataId value | retrieveData value
  | paramBindType value | rowsetSize value | rowArraySize value | rowBindType value => .number value
  | paramBindOffsetPtr value | rowBindOffsetPtr value | rowOperationPtr value
  | rowStatusPtr value | rowsFetchedPtr value => .pointer value
  | unsupported _ => .pointer none

namespace StatementSetting

/-- The identifier of the attribute. -/
def attr : StatementSetting → ℤ
  | .attribute attr => attr.attr
  | .appRowDesc _ => sqlAttrAppRowDesc

/-- The value it is set to. -/
def value : StatementSetting → AttributeValue
  | .attribute attr => attr.value
  | .appRowDesc desc => .pointer desc

/-- The call that sets it. -/
def call (stmt : StatementId) : StatementSetting → HandleCall
  | .attribute attr => .setStmtAttr stmt attr
  | .appRowDesc desc => .setAppRowDesc stmt desc

/-- What `InternalSetAttribute` of a statement makes of the options of its connection. -/
def forward (o : ConnectionOptions) : StatementSetting → ConnectionOptions
  | .attribute (.metadataId value) =>
    if value ≠ sqlTrue ∧ value ≠ sqlFalse then o else (o.setAttribute sqlAttrMetadataId value).2
  | _ => o

/-- What reading the attribute has to give after a set that succeeded. A null descriptor stands for
the implicit one, and two of the attributes are not read. -/
def readBack (ds : StatementDescriptors) : StatementSetting → Option AttributeValue
  | .appRowDesc none => some (.pointer (some ds.ardi))
  | .attribute (.paramBindOffsetPtr _) | .attribute (.rowOperationPtr _) => none
  | setting => some setting.value

end StatementSetting

namespace Statement

variable {δ γ : Type}

/-- `InternalGetAttribute`, with the attribute that the connection keeps. -/
def internalGetAttribute (attr : ℤ) (buf metadataId : Bool)
    (s : Statement (Query (WholeQuery δ γ))) : AttributeRead :=
  let number (value : ℕ) : AttributeRead := ⟨.success, some (.number value), none⟩
  let size (value : ℕ) : AttributeRead := ⟨.success, some (.number value), some sqlIsUinteger⟩
  let pointer (address : Option ℕ) : AttributeRead :=
    ⟨.success, some (.pointer address), some sqlIsPointer⟩
  if !buf then ⟨.error .sHY000GeneralError "Data buffer is NULL.", none, none⟩
  else if attr = sqlAttrAppRowDesc then pointer (some s.descriptors.ard)
  else if attr = sqlAttrImpRowDesc then pointer (some s.descriptors.ird)
  else if attr = sqlAttrAppParamDesc then pointer (some s.descriptors.apdi)
  else if attr = sqlAttrImpParamDesc then pointer (some s.descriptors.ipdi)
  else if attr = sqlAttrConcurrency then number sqlConcurReadOnly
  else if attr = sqlAttrCursorScrollable then number sqlNonscrollable
  else if attr = sqlAttrCursorSensitivity then number sqlInsensitive
  else if attr = sqlAttrCursorType then number sqlCursorForwardOnly
  else if attr = sqlAttrEnableAutoIpd then number sqlFalse
  else if attr = sqlAttrMetadataId then number (if metadataId then sqlTrue else sqlFalse)
  else if attr = sqlAttrRetrieveData then number sqlRdOn
  else if attr = sqlRowsetSize then size s.rowsetSize
  else if attr = sqlAttrRowArraySize then size s.rowArraySize
  else if attr = sqlAttrRowBindType then number sqlBindByColumn.toNat
  else if attr = sqlAttrRowsFetchedPtr then pointer s.rowsFetched
  else if attr = sqlAttrRowNumber then
    match s.currentQuery with
    | none =>
      ⟨⟨.aiSuccess, [statusRecord .s24000InvalidCursorState
        "Cursor is not in the open state, cannot determine row number"]⟩, some (.number 0), none⟩
    | some query => number query.rowNumber
  else if attr = sqlAttrRowStatusPtr then pointer s.rowStatuses
  else if attr = sqlAttrParamBindType then number sqlParamBindByColumn
  else if attr = sqlAttrRowBindOffsetPtr then pointer s.columnBindOffset
  else ⟨attributeNotSupported, none, none⟩

end Statement

/-! ## Catalog functions -/

/-- A catalog function with its arguments, and what it finds. -/
inductive CatalogFunction where
  | tables (C : Catalog) (A : TableArguments)
  | columns (C : Catalog) (before : Text → Text → ColumnTexts) (A : ColumnArguments)
  | typeInfo (types : List ScalarType)
  | unsupported (functionName : String)

namespace CatalogFunction

variable {δ γ : Type}

/-- The reply of a call that makes no query. -/
def refused : CatalogFunction → Option CallReply
  | .columns _ _ A =>
    if A.catalog = some [] ∧ A.schema = some [] then
      some ⟨.aiSuccessWithInfo, [statusRecord .s01000GeneralWarning
        "catalogName and schemaName are empty strings."]⟩
    else none
  | _ => none

/-- The query that is made. -/
def query (metadataId : Bool) : CatalogFunction → Option (Query (WholeQuery δ γ))
  | .tables C A =>
    (C.makeRequestGetTablesMeta metadataId A).map fun listing => .tables (.new fun _ => listing)
  | .columns C before A =>
    (C.executeColumns before metadataId A).map fun listing => .columns (.new fun _ => listing)
  | .typeInfo types => some (.typeInfo (.new types))
  | .unsupported functionName => some (.unsupported functionName)

end CatalogFunction

/-! ## Sessions -/

/-- The handles of an application and the options of its connections. -/
structure AttributeSession (δ γ : Type) where
  handles : Handles (Query (WholeQuery δ γ))
  options : ConnectionId → ConnectionOptions

/-- The calls on the attributes and the catalog functions. -/
inductive AttributeCall where
  | setStmtAttr (stmt : StatementId) (setting : StatementSetting)
  | setConnectOption (connection : ConnectionId) (option value : ℕ)
  | getStmtAttr (stmt : StatementId) (attr : ℤ) (buf : Bool)
  | catalog (stmt : StatementId) (function : CatalogFunction)

/-- What a call gives: its reply, what it reads, or its reply with the query that delivers the rows of
a catalog function. -/
inductive AttributeReply (δ γ : Type) where
  | call (reply : CallReply)
  | read (read : AttributeRead)
  | catalog (reply : CallReply) (query : Option (Query (WholeQuery δ γ)))

/-- The calls that read a statement: its attributes and the results of its catalog functions. -/
def AttributeCall.Observes (stmt : StatementId) : AttributeCall → Prop
  | getStmtAttr stmt' _ _ | catalog stmt' _ => stmt' = stmt
  | _ => False

namespace AttributeSession

variable {δ γ : Type} (P : Platform)

/-- The connection of a statement. -/
def connection (ses : AttributeSession δ γ) (stmt : StatementId) : Option ConnectionId :=
  (ses.handles.statements stmt).map HeldStatement.connection

/-- A catalog function of a statement, with the options of its connection. -/
def performCatalog (metadataId : Bool) (function : CatalogFunction)
    (s : Statement (Query (WholeQuery δ γ))) :
    Option (AttributeReply δ γ × Statement (Query (WholeQuery δ γ))) :=
  match function.refused with
  | some reply => some (.catalog reply none, s)
  | none =>
    (function.query metadataId).bind fun query =>
      (s.internalExecuteMetaQuery (Query.whole P) query).map fun (reply, s) =>
        (.catalog reply s.currentQuery, s)

/-- A call. It gives nothing when it does not return or follows a pointer to nothing. -/
def perform (ses : AttributeSession δ γ) :
    AttributeCall → Option (AttributeReply δ γ × AttributeSession δ γ)
  | .setStmtAttr stmt setting =>
    (ses.handles.statements stmt).bind fun held =>
      match ses.handles.perform (Query.whole P) (setting.call stmt) with
      | some (.returned reply handles) =>
        some (.call reply,
          { handles
            options := Function.update ses.options held.connection
              (setting.forward (ses.options held.connection)) })
      | _ => none
  | .setConnectOption connection option value =>
    let set := (ses.options connection).internalSetConnectOption option value
    some (.call set.1, { ses with options := Function.update ses.options connection set.2 })
  | .getStmtAttr stmt attr buf =>
    (ses.handles.statements stmt).map fun held =>
      (.read (held.statement.internalGetAttribute attr buf (ses.options held.connection).metadataId),
        ses)
  | .catalog stmt function =>
    (ses.handles.statements stmt).bind fun held =>
      (performCatalog P (ses.options held.connection).metadataId function held.statement).map
        fun (reply, s) => (reply, { ses with handles := ses.handles.updateStatement stmt fun _ => s })

/-- What a call gives. -/
def reply (ses : AttributeSession δ γ) (call : AttributeCall) : Option (AttributeReply δ γ) :=
  (ses.perform P call).map Prod.fst

/-- The session after a call. -/
def step (ses : AttributeSession δ γ) (call : AttributeCall) : Option (AttributeSession δ γ) :=
  (ses.perform P call).map Prod.snd

/-- `SQL_ATTR_METADATA_ID` of a connection. -/
def setMetadataId (connection : ConnectionId) (metadataId : Bool) (ses : AttributeSession δ γ) :
    AttributeSession δ γ :=
  { ses with
    options := Function.update ses.options connection
      { ses.options connection with metadataId } }

/-! ## What isolation is -/

/-- Every statement has its own attributes: setting one of them changes nothing of what another
statement gives, and a set that succeeds is read back. -/
structure IsolatesStatements (ses : AttributeSession δ γ) : Prop where
  others : ∀ {stmt setting reply ses'},
    ses.perform P (.setStmtAttr stmt setting) = some (.call reply, ses') →
      ∀ {other}, other ≠ stmt → ∀ {call : AttributeCall}, call.Observes other →
        ses'.reply P call = ses.reply P call
  own : ∀ {stmt setting reply ses'},
    ses.perform P (.setStmtAttr stmt setting) = some (.call reply, ses') →
      reply.result = .aiSuccess →
        ∃ read, ses'.reply P (.getStmtAttr stmt setting.attr true) = some (.read read) ∧
          read.value = some setting.value

/-- The calls that leave a statement alone: they are on other statements, and do not set
`SQL_ATTR_METADATA_ID` of its connection. -/
def Leaves (ses : AttributeSession δ γ) (other : StatementId) : AttributeCall → Prop
  | .setStmtAttr stmt setting => stmt ≠ other ∧
    (setting.attr = sqlAttrMetadataId → ses.connection stmt ≠ ses.connection other)
  | .setConnectOption connection option _ =>
    (option : ℤ) = sqlAttrMetadataId → ses.connection other ≠ some connection
  | .getStmtAttr _ _ _ => True
  | .catalog stmt _ => stmt ≠ other

/-- The statements have their own attributes but for `SQL_ATTR_METADATA_ID`, which those of a
connection share. -/
structure SharesMetadataId (ses : AttributeSession δ γ) : Prop where
  isolated : ∀ {other calls ses'}, run (step P) ses calls = some ses' →
    (∀ call ∈ calls, ses.Leaves other call) → ∀ {call : AttributeCall}, call.Observes other →
      ses'.reply P call = ses.reply P call
  shared : ∀ {stmt value reply ses'},
    ses.perform P (.setStmtAttr stmt (.attribute (.metadataId value))) = some (.call reply, ses') →
      reply.result = .aiSuccess → ∃ connection, ses.connection stmt = some connection ∧
        ses' = ses.setMetadataId connection (value = sqlTrue) ∧
        ∀ {other}, ses.connection other = some connection →
          ses'.reply P (.getStmtAttr other sqlAttrMetadataId true) =
              some (.read ⟨.success, some (.number value), none⟩) ∧
            (∀ {attr buf}, attr ≠ sqlAttrMetadataId →
              ses'.reply P (.getStmtAttr other attr buf) =
                ses.reply P (.getStmtAttr other attr buf)) ∧
            ∀ {function}, ses'.reply P (.catalog other function) =
              (ses.handles.statements other).bind fun held =>
                (performCatalog P (value = sqlTrue) function held.statement).map Prod.fst
  refused : ∀ {stmt setting reply ses'},
    ses.perform P (.setStmtAttr stmt setting) = some (.call reply, ses') →
      reply.result ≠ .aiSuccess → ses' = ses
  own : ∀ {stmt setting reply ses' held},
    ses.perform P (.setStmtAttr stmt setting) = some (.call reply, ses') →
      reply.result = .aiSuccess → ses.handles.statements stmt = some held →
        ∃ read, ses'.reply P (.getStmtAttr stmt setting.attr true) = some (.read read) ∧
          read.value = setting.readBack held.statement.descriptors ∧
          (read.reply = .success ∨ read.value = none ∧ read.reply = attributeNotSupported)

end AttributeSession

/-! ## What a set makes of the statements -/

namespace StatementSetting

/-- The values that are supported. -/
def Supported : StatementSetting → Prop
  | .attribute (.concurrency value) => value = sqlConcurReadOnly
  | .attribute (.cursorType value) => value = sqlCursorForwardOnly
  | .attribute (.metadataId value) => value = sqlTrue ∨ value = sqlFalse
  | .attribute (.retrieveData value) => value = sqlRdOn
  | .attribute (.paramBindType value) => value = sqlParamBindByColumn
  | .attribute (.rowBindType value) => (value : ℤ) = sqlBindByColumn
  | .attribute (.unsupported _) => False
  | _ => True

variable {Q : Type}

/-- The statement with the attribute. -/
def apply (s : Statement Q) : StatementSetting → Statement Q
  | .attribute (.rowsetSize value) => { s with rowsetSize := value }
  | .attribute (.rowArraySize value) => { s with rowArraySize := value }
  | .attribute (.rowBindOffsetPtr value) => { s with columnBindOffset := value }
  | .attribute (.rowStatusPtr value) => { s with rowStatuses := value }
  | .attribute (.rowsFetchedPtr value) => { s with rowsFetched := value }
  | .appRowDesc desc => s.setArd (desc.getD s.descriptors.ardi)
  | _ => s

/-- Only a supported `SQL_ATTR_METADATA_ID` reaches the connection. -/
lemma forward_of_attr_ne {setting : StatementSetting} (h : setting.attr ≠ sqlAttrMetadataId)
    (o : ConnectionOptions) : setting.forward o = o := by
  rcases setting with attr | desc
  · cases attr with
    | metadataId value => exact absurd rfl h
    | _ => rfl
  · rfl

end StatementSetting

namespace Handles

variable {Q : Type} {h h' : Handles Q} {stmt : StatementId} {held : HeldStatement Q}
  {reply : CallReply}

/-- A statement that is updated. -/
lemma statements_updateStatement (hstmt : h.statements stmt = some held)
    (f : Statement Q → Statement Q) : (h.updateStatement stmt f).statements =
      Function.update h.statements stmt (some { held with statement := f held.statement }) := by
  rw [updateStatement, hstmt]
  rfl

/-- A header that is set leaves the statements as they are. -/
lemma statements_setHeader {desc : DescriptorId} {f : DescriptorHeader → DescriptorHeader}
    (hreturns : h.setHeader desc f = .returned reply h') :
    reply = .success ∧ h'.statements = h.statements := by
  unfold setHeader at hreturns
  split at hreturns
  · cases hreturns
  · cases hreturns
    exact ⟨rfl, rfl⟩

/-- Setting the descriptor of the rows changes one statement. -/
lemma statements_setARDDesc (hstmt : h.statements stmt = some held) (desc : Option DescriptorId) :
    (h.setARDDesc stmt held.statement desc).statements = Function.update h.statements stmt
      (some { held with
        statement := (StatementSetting.appRowDesc desc).apply held.statement }) := by
  cases desc with
  | none => exact statements_updateStatement hstmt _
  | some desc => exact statements_updateStatement (by exact hstmt) _

/-- What a set did: it succeeded with a supported value, and changed its statement, or it was refused
and changed nothing. -/
def SetDone (h : Handles Q) (stmt : StatementId) (held : HeldStatement Q)
    (setting : StatementSetting) (reply : CallReply) (h' : Handles Q) : Prop :=
  (reply = .success ∧ setting.Supported ∧ h'.statements = Function.update h.statements stmt
    (some { held with statement := setting.apply held.statement })) ∨
  (reply.result = .aiError ∧ h' = h ∧ ∀ o, setting.forward o = o)

/-- A statement that stays as it is. -/
lemma statements_eq_update (hstmt : h.statements stmt = some held) :
    h.statements = Function.update h.statements stmt (some held) := by
  rw [← hstmt, Function.update_eq_self]

/-- Setting an attribute but the descriptor of the rows. -/
lemma setDone_setStmtAttr (hstmt : h.statements stmt = some held) {attr : StatementAttribute}
    (hreturns : h.setStmtAttr stmt held.statement attr = .returned reply h') :
    h.SetDone stmt held (.attribute attr) reply h' := by
  cases attr with
  | concurrency | cursorType | retrieveData | paramBindType =>
    simp only [setStmtAttr] at hreturns
    split at hreturns
    · cases hreturns
      exact .inr ⟨rfl, rfl, fun _ => rfl⟩
    · rename_i hsupported
      cases hreturns
      exact .inl ⟨rfl, not_not.mp hsupported, statements_eq_update hstmt⟩
  | metadataId value =>
    simp only [setStmtAttr] at hreturns
    split at hreturns
    · rename_i hrefused
      cases hreturns
      exact .inr ⟨rfl, rfl, fun _ => if_pos hrefused⟩
    · rename_i hsupported
      cases hreturns
      exact .inl ⟨rfl, by simpa [StatementSetting.Supported, or_iff_not_imp_left] using hsupported,
        statements_eq_update hstmt⟩
  | rowBindType =>
    simp only [setStmtAttr] at hreturns
    split at hreturns
    · cases hreturns
      exact .inr ⟨rfl, rfl, fun _ => rfl⟩
    · rename_i hsupported
      obtain ⟨hreply, hstatements⟩ := statements_setHeader hreturns
      exact .inl ⟨hreply, not_not.mp hsupported, hstatements.trans (statements_eq_update hstmt)⟩
  | unsupported =>
    cases hreturns
    exact .inr ⟨rfl, rfl, fun _ => rfl⟩
  | paramBindOffsetPtr | rowOperationPtr =>
    simp only [setStmtAttr] at hreturns
    obtain ⟨hreply, hstatements⟩ := statements_setHeader hreturns
    exact .inl ⟨hreply, trivial, hstatements.trans (statements_eq_update hstmt)⟩
  | rowsetSize | rowArraySize | rowBindOffsetPtr | rowStatusPtr | rowsFetchedPtr =>
    simp only [setStmtAttr] at hreturns
    obtain ⟨hreply, hstatements⟩ := statements_setHeader hreturns
    exact .inl ⟨hreply, trivial, hstatements.trans (statements_updateStatement hstmt _)⟩

/-- A descriptor is refused with an error. -/
lemma result_of_refuseArd {connection : ConnectionId} {d : Descriptor}
    (hrefuse : refuseArd connection stmt d = some reply) : reply.result = .aiError := by
  unfold refuseArd at hrefuse
  split_ifs at hrefuse <;> cases hrefuse <;> rfl

/-- Setting an attribute. -/
lemma setDone_perform {K : QueryClass Q} {setting : StatementSetting}
    (hstmt : h.statements stmt = some held)
    (hperform : h.perform K (setting.call stmt) = some (.returned reply h')) :
    h.SetDone stmt held setting reply h' := by
  rcases setting with attr | desc
  · simp only [StatementSetting.call, perform, hstmt, Option.map_some, Option.some.injEq] at hperform
    exact setDone_setStmtAttr hstmt hperform
  · simp only [StatementSetting.call, perform, hstmt, Option.bind_some] at hperform
    cases desc with
    | none =>
      cases hperform
      exact .inl ⟨rfl, trivial, statements_setARDDesc hstmt none⟩
    | some desc =>
      obtain ⟨d, hdesc, hset⟩ := Option.map_eq_some_iff.mp hperform
      split at hset
      · rename_i hrefuse
        cases hset
        exact .inr ⟨result_of_refuseArd hrefuse, rfl, fun _ => rfl⟩
      · cases hset
        exact .inl ⟨rfl, trivial, statements_setARDDesc hstmt (some desc)⟩

end Handles

namespace AttributeSession

variable {δ γ : Type} {P : Platform} {ses ses' t : AttributeSession δ γ} {stmt other : StatementId}

/-! ## One call -/

/-- What a set did to the session. -/
lemma perform_setStmtAttr {setting : StatementSetting} {r : AttributeReply δ γ}
    (hperform : ses.perform P (.setStmtAttr stmt setting) = some (r, ses')) :
    ∃ held reply, ses.handles.statements stmt = some held ∧ r = .call reply ∧
      ses.handles.perform (Query.whole P) (setting.call stmt) =
        some (.returned reply ses'.handles) ∧
      ses'.options = Function.update ses.options held.connection
        (setting.forward (ses.options held.connection)) := by
  obtain ⟨held, hstmt, hset⟩ := Option.bind_eq_some_iff.mp hperform
  split at hset
  · rename_i reply handles hreturns
    cases hset
    exact ⟨held, reply, hstmt, rfl, hreturns, rfl⟩
  · cases hset

/-- Reading an attribute. -/
lemma reply_getStmtAttr (attr : ℤ) (buf : Bool) : ses.reply P (.getStmtAttr stmt attr buf) =
    (ses.handles.statements stmt).map fun held => .read
      (held.statement.internalGetAttribute attr buf (ses.options held.connection).metadataId) := by
  rw [reply, perform, Option.map_map]
  rfl

/-- A catalog function. -/
lemma reply_catalog (function : CatalogFunction) : ses.reply P (.catalog stmt function) =
    (ses.handles.statements stmt).bind fun held =>
      (performCatalog P (ses.options held.connection).metadataId function held.statement).map
        Prod.fst := by
  rw [reply, perform, Option.map_bind]
  refine Option.bind_congr fun held _ => ?_
  rw [Function.comp_apply, Option.map_map]
  rfl

/-- A statement is the same in two sessions, and the attribute of its connection is. -/
structure Agrees (other : StatementId) (ses ses' : AttributeSession δ γ) : Prop where
  statement : ses'.handles.statements other = ses.handles.statements other
  metadataId : ∀ {held}, ses.handles.statements other = some held →
    (ses'.options held.connection).metadataId = (ses.options held.connection).metadataId

/-- What is seen of a statement depends on nothing else. -/
lemma Agrees.reply_eq (h : Agrees other ses ses') {call : AttributeCall}
    (hcall : call.Observes other) : ses'.reply P call = ses.reply P call := by
  cases call with
  | setStmtAttr | setConnectOption => exact hcall.elim
  | getStmtAttr stmt attr buf =>
    obtain rfl : stmt = other := hcall
    rw [reply_getStmtAttr, reply_getStmtAttr, h.statement]
    refine Option.map_congr fun held hstmt => ?_
    rw [h.metadataId hstmt]
  | catalog stmt function =>
    obtain rfl : stmt = other := hcall
    rw [reply_catalog, reply_catalog, h.statement]
    refine Option.bind_congr fun held hstmt => ?_
    rw [h.metadataId hstmt]

/-- Agreement goes on. -/
lemma Agrees.trans (h : Agrees other ses ses') (h' : Agrees other ses' t) : Agrees other ses t where
  statement := h'.statement.trans h.statement
  metadataId hstmt := (h'.metadataId (h.statement.trans hstmt)).trans (h.metadataId hstmt)

/-- The options of a connection change without its attribute, or it is not the one of the
statement. -/
lemma agrees_update {handles : Handles (Query (WholeQuery δ γ))} {connection : ConnectionId}
    {o : ConnectionOptions} (hstatement : handles.statements other = ses.handles.statements other)
    (hmeta : ses.connection other = some connection →
      o.metadataId = (ses.options connection).metadataId) :
    Agrees other ses ⟨handles, Function.update ses.options connection o⟩ where
  statement := hstatement
  metadataId {held} hstmt := by
    by_cases heq : held.connection = connection
    · subst heq
      change (Function.update ses.options held.connection o held.connection).metadataId = _
      rw [Function.update_self]
      exact hmeta (by rw [AttributeSession.connection, hstmt]; rfl)
    · change (Function.update ses.options connection o held.connection).metadataId = _
      rw [Function.update_of_ne heq]

/-- A statement that is replaced with its connection kept. -/
lemma connection_update {handles : Handles (Query (WholeQuery δ γ))}
    {options : ConnectionId → ConnectionOptions} {held : HeldStatement (Query (WholeQuery δ γ))}
    (hstmt : ses.handles.statements stmt = some held)
    {s : Statement (Query (WholeQuery δ γ))}
    (hstatements : handles.statements =
      Function.update ses.handles.statements stmt (some { held with statement := s })) :
    (AttributeSession.mk handles options).connection = ses.connection := by
  funext stmt'
  rw [connection, connection, hstatements]
  by_cases heq : stmt' = stmt
  · subst heq
    rw [Function.update_self, hstmt]
    rfl
  · rw [Function.update_of_ne heq]

/-- The handles after a set that was done: the statements keep their connections, and the others are
as they were. -/
lemma setDone_handles {held : HeldStatement (Query (WholeQuery δ γ))} {setting : StatementSetting}
    {reply : CallReply} {handles : Handles (Query (WholeQuery δ γ))}
    (hstmt : ses.handles.statements stmt = some held)
    (hdone : ses.handles.SetDone stmt held setting reply handles)
    (options : ConnectionId → ConnectionOptions) :
    (AttributeSession.mk handles options).connection = ses.connection ∧
      ∀ other, other ≠ stmt → handles.statements other = ses.handles.statements other := by
  rcases hdone with ⟨-, -, hstatements⟩ | ⟨-, rfl, -⟩
  · refine ⟨connection_update hstmt hstatements, fun other hne => ?_⟩
    rw [hstatements, Function.update_of_ne hne]
  · exact ⟨rfl, fun _ _ => rfl⟩

/-- A call that leaves a statement alone changes nothing that is seen of it, and no connection of a
statement. -/
lemma agrees_step {call : AttributeCall} (hleaves : ses.Leaves other call)
    (hstep : ses.step P call = some ses') :
    ses'.connection = ses.connection ∧ Agrees other ses ses' := by
  obtain ⟨⟨r, after⟩, hperform, heq⟩ := Option.map_eq_some_iff.mp hstep
  obtain rfl : after = ses' := heq
  cases call with
  | setStmtAttr stmt setting =>
    obtain ⟨hne, hmeta⟩ := hleaves
    obtain ⟨held, reply, hstmt, -, hset, hoptions⟩ := perform_setStmtAttr hperform
    obtain ⟨hconnection, hothers⟩ :=
      setDone_handles hstmt (Handles.setDone_perform hstmt hset) after.options
    refine ⟨hconnection, ?_⟩
    have hagrees : Agrees other ses ⟨after.handles, Function.update ses.options held.connection
        (setting.forward (ses.options held.connection))⟩ := by
      refine agrees_update (hothers other hne.symm) fun hother => ?_
      have hconnections : ses.connection stmt = ses.connection other := by
        rw [hother, AttributeSession.connection, hstmt]
        rfl
      rw [StatementSetting.forward_of_attr_ne fun heq => hmeta heq hconnections]
    rw [← hoptions] at hagrees
    exact hagrees
  | setConnectOption connection option value =>
    cases hperform
    refine ⟨rfl, agrees_update rfl fun hother => ?_⟩
    exact ConnectionOptions.metadataId_internalSetConnectOption (fun heq => hleaves heq hother) _ _
  | getStmtAttr stmt attr buf =>
    obtain ⟨held, -, heq⟩ := Option.map_eq_some_iff.mp hperform
    cases heq
    exact ⟨rfl, rfl, fun _ => rfl⟩
  | catalog stmt function =>
    obtain ⟨held, hstmt, hcatalog⟩ := Option.bind_eq_some_iff.mp hperform
    obtain ⟨⟨_, s⟩, -, heq⟩ := Option.map_eq_some_iff.mp hcatalog
    cases heq
    have hstatements := Handles.statements_updateStatement hstmt fun _ => s
    refine ⟨connection_update hstmt hstatements, ?_, fun _ => rfl⟩
    change (ses.handles.updateStatement stmt fun _ => s).statements other = _
    rw [hstatements, Function.update_of_ne (Ne.symm hleaves)]

/-- Calls that leave a statement alone change nothing that is seen of it. -/
lemma agrees_run {calls : List AttributeCall} (hrun : run (step P) ses calls = some ses')
    (hleaves : ∀ call ∈ calls, ses.Leaves other call) : Agrees other ses ses' := by
  have hkept : ses'.connection = ses.connection ∧ Agrees other ses ses' := by
    refine invariant_run_of (P := ses.Leaves other)
      (I := fun t => t.connection = ses.connection ∧ Agrees other ses t) ?_ hleaves
      ⟨rfl, rfl, fun _ => rfl⟩ hrun
    rintro t call t' hleaves ⟨hconnection, hagrees⟩ hstep
    have hleaves' : t.Leaves other call := by
      cases call with
      | getStmtAttr => trivial
      | setStmtAttr | setConnectOption | catalog => simpa only [Leaves, hconnection] using hleaves
    obtain ⟨hconnection', hagrees'⟩ := agrees_step hleaves' hstep
    exact ⟨hconnection'.trans hconnection, hagrees.trans hagrees'⟩
  exact hkept.2

/-! ## Reading back -/

/-- A supported attribute is read back from its statement and the options it was passed on to. -/
lemma internalGetAttribute_apply {setting : StatementSetting} (hsupported : setting.Supported)
    (s : Statement (Query (WholeQuery δ γ))) (o : ConnectionOptions) :
    let read :=
      (setting.apply s).internalGetAttribute setting.attr true (setting.forward o).metadataId
    read.value = setting.readBack s.descriptors ∧
      (read.reply = .success ∨ read.value = none ∧ read.reply = attributeNotSupported) := by
  rcases setting with attr | desc
  · cases attr with
    | concurrency | cursorType | retrieveData | paramBindType =>
      cases hsupported
      exact ⟨rfl, .inl rfl⟩
    | rowBindType value =>
      obtain rfl : value = 0 := Int.ofNat_inj.mp hsupported
      exact ⟨rfl, .inl rfl⟩
    | metadataId value =>
      obtain rfl | rfl : value = sqlTrue ∨ value = sqlFalse := hsupported <;> exact ⟨rfl, .inl rfl⟩
    | rowsetSize | rowArraySize | rowBindOffsetPtr | rowStatusPtr | rowsFetchedPtr =>
      exact ⟨rfl, .inl rfl⟩
    | paramBindOffsetPtr | rowOperationPtr => exact ⟨rfl, .inr ⟨rfl, rfl⟩⟩
    | unsupported => exact hsupported.elim
  · cases desc <;> exact ⟨rfl, .inl rfl⟩

/-- A set that succeeds is read back. -/
lemma exists_read_of_set {setting : StatementSetting} {reply : CallReply}
    {held : HeldStatement (Query (WholeQuery δ γ))}
    (hperform : ses.perform P (.setStmtAttr stmt setting) = some (.call reply, ses'))
    (hsuccess : reply.result = .aiSuccess) (hstmt : ses.handles.statements stmt = some held) :
    ∃ read, ses'.reply P (.getStmtAttr stmt setting.attr true) = some (.read read) ∧
      read.value = setting.readBack held.statement.descriptors ∧
      (read.reply = .success ∨ read.value = none ∧ read.reply = attributeNotSupported) := by
  obtain ⟨held', reply', hstmt', heq, hset, hoptions⟩ := perform_setStmtAttr hperform
  cases heq
  obtain rfl := Option.some.inj (hstmt.symm.trans hstmt')
  rcases Handles.setDone_perform hstmt hset with ⟨-, hsupported, hstatements⟩ | ⟨herror, -, -⟩
  · refine ⟨_, ?_, internalGetAttribute_apply hsupported held.statement
      (ses.options held.connection)⟩
    rw [reply_getStmtAttr, hstatements, hoptions, Function.update_self, Option.map_some]
    change some (AttributeReply.read (Statement.internalGetAttribute _ _
      (Function.update ses.options held.connection _ held.connection).metadataId _)) = _
    rw [Function.update_self]
  · rw [herror] at hsuccess
    cases hsuccess

/-- A set that is refused changes nothing. -/
lemma eq_of_refused {setting : StatementSetting} {reply : CallReply}
    (hperform : ses.perform P (.setStmtAttr stmt setting) = some (.call reply, ses'))
    (hfails : reply.result ≠ .aiSuccess) : ses' = ses := by
  obtain ⟨held, reply', hstmt, heq, hset, hoptions⟩ := perform_setStmtAttr hperform
  cases heq
  rcases Handles.setDone_perform hstmt hset with ⟨rfl, -, -⟩ | ⟨-, hhandles, hforward⟩
  · exact absurd rfl hfails
  · rw [hforward, Function.update_eq_self] at hoptions
    obtain ⟨handles, options⟩ := ses'
    obtain rfl : handles = ses.handles := hhandles
    obtain rfl : options = ses.options := hoptions
    rfl

/-- The attribute of a connection is set, and nothing else. -/
lemma eq_setMetadataId {value : ℕ} {reply : CallReply}
    {held : HeldStatement (Query (WholeQuery δ γ))}
    (hperform : ses.perform P (.setStmtAttr stmt (.attribute (.metadataId value))) =
      some (.call reply, ses'))
    (hsuccess : reply.result = .aiSuccess) (hstmt : ses.handles.statements stmt = some held) :
    (value = sqlTrue ∨ value = sqlFalse) ∧
      ses' = ses.setMetadataId held.connection (value = sqlTrue) := by
  obtain ⟨held', reply', hstmt', heq, hset, hoptions⟩ := perform_setStmtAttr hperform
  cases heq
  obtain rfl := Option.some.inj (hstmt.symm.trans hstmt')
  simp only [StatementSetting.call, Handles.perform, hstmt, Option.map_some, Option.some.injEq,
    Handles.setStmtAttr] at hset
  split at hset
  · obtain ⟨rfl, -⟩ := HandleOutcome.returned.inj hset
    cases hsuccess
  · rename_i hsupported
    have hvalue : value = sqlTrue ∨ value = sqlFalse := by
      simpa [or_iff_not_imp_left] using hsupported
    refine ⟨hvalue, ?_⟩
    obtain ⟨handles, options⟩ := ses'
    obtain ⟨-, rfl⟩ := HandleOutcome.returned.inj hset
    obtain rfl : options = _ := hoptions
    obtain rfl | rfl := hvalue <;> rfl

/-- Only one of the attributes is kept by the connection. -/
lemma internalGetAttribute_of_ne {attr : ℤ} (h : attr ≠ sqlAttrMetadataId)
    (buf metadataId metadataId' : Bool) (s : Statement (Query (WholeQuery δ γ))) :
    s.internalGetAttribute attr buf metadataId = s.internalGetAttribute attr buf metadataId' := by
  simp only [Statement.internalGetAttribute, if_neg h]

/-- What is seen of the statements of a connection after its attribute is set. -/
lemma reply_setMetadataId {connection : ConnectionId} (metadataId : Bool)
    (hconnection : ses.connection other = some connection) :
    (ses.setMetadataId connection metadataId).reply P (.getStmtAttr other sqlAttrMetadataId true) =
        some (.read ⟨.success, some (.number (if metadataId then sqlTrue else sqlFalse)), none⟩) ∧
      (∀ {attr buf}, attr ≠ sqlAttrMetadataId →
        (ses.setMetadataId connection metadataId).reply P (.getStmtAttr other attr buf) =
          ses.reply P (.getStmtAttr other attr buf)) ∧
      ∀ {function}, (ses.setMetadataId connection metadataId).reply P (.catalog other function) =
        (ses.handles.statements other).bind fun held =>
          (performCatalog P metadataId function held.statement).map Prod.fst := by
  obtain ⟨held, hstmt, rfl⟩ := Option.map_eq_some_iff.mp hconnection
  have hstmt' : (ses.setMetadataId held.connection metadataId).handles.statements other =
      some held := hstmt
  have hmeta : ((ses.setMetadataId held.connection metadataId).options held.connection).metadataId =
      metadataId := by
    simp only [setMetadataId, Function.update_self]
  refine ⟨?_, fun hne => ?_, ?_⟩
  · rw [reply_getStmtAttr, hstmt', Option.map_some, hmeta]
    rfl
  · rw [reply_getStmtAttr, reply_getStmtAttr, hstmt', hstmt, Option.map_some, Option.map_some,
      internalGetAttribute_of_ne hne]
  · intro function
    rw [reply_catalog, hstmt', hstmt, Option.bind_some, Option.bind_some, hmeta]

/-! ## Isolation -/

/-- Two statements of one connection. -/
def twoStatements : AttributeSession Unit Unit where
  handles := (Handles.new.allocStmt 0 1 1 11 12 13 14).allocStmt 0 1 2 21 22 23 24
  options := fun _ => .new 0

end AttributeSession

end TimestreamOdbc
