import TimestreamOdbc.CommonTypes
import TimestreamOdbc.Utils
import Mathlib.Data.List.Nodup
import Mathlib.Logic.Function.Basic

/-!
# The configuration of a connection

`Configuration`: 27 attributes, each a `SettableValue`.  The attributes are of four kinds (texts,
32 bit numbers, the authentication type and the log level), so that a configuration is a function
that gives for each attribute a value of its type, or nothing when the attribute was never set.
`ToConnectString` writes the attributes that are set in the order of their keys, which is the
order of the `std::map` it goes through.
-/

namespace TimestreamOdbc

/-- `AuthType::Type`. -/
inductive AuthType where
  | awsProfile
  | iam
  | aad
  | okta
  deriving DecidableEq, Repr

/-- `AuthType::FromString`. -/
def AuthType.fromString (val : Text) (dflt : AuthType) : AuthType :=
  let lowerVal := trim (toLower val)
  if lowerVal = "aws_profile".toList then .awsProfile
  else if lowerVal = "iam".toList then .iam
  else if lowerVal = "aad".toList then .aad
  else if lowerVal = "okta".toList then .okta
  else dflt

/-- `AuthType::ToString`. -/
def AuthType.toText : AuthType → Text
  | .awsProfile => "aws_profile".toList
  | .iam => "iam".toList
  | .aad => "aad".toList
  | .okta => "okta".toList

/-- `LogLevel::Type`. -/
inductive LogLevel where
  | off
  | errorLevel
  | warningLevel
  | infoLevel
  | debugLevel
  | unknown
  deriving DecidableEq, Repr

/-- `LogLevel::FromString`. -/
def LogLevel.fromString (val : Text) (dflt : LogLevel) : LogLevel :=
  let logLevel := trim val
  if logLevel = "4".toList then .debugLevel
  else if logLevel = "3".toList then .infoLevel
  else if logLevel = "2".toList then .warningLevel
  else if logLevel = "1".toList then .errorLevel
  else if logLevel = "0".toList then .off
  else dflt

/-- `LogLevel::ToString`. -/
def LogLevel.toText : LogLevel → Text
  | .debugLevel => "4".toList
  | .infoLevel => "3".toList
  | .warningLevel => "2".toList
  | .errorLevel => "1".toList
  | .off => "0".toList
  | .unknown => "unknown".toList

/-! ## Attributes -/

/-- The attributes of a configuration, under the names of `ConnectionStringParser::Key`. -/
inductive Attr where
  | dsn
  | driver
  | uid
  | pwd
  | accessKeyId
  | secretKey
  | sessionToken
  | profileName
  | reqTimeout
  | connectionTimeout
  | maxRetryCountClient
  | maxConnections
  | endpoint
  | region
  | authType
  | idPHost
  | idPUserName
  | idPPassword
  | idPArn
  | oktaAppId
  | roleArn
  | aadAppId
  | aadClientSecret
  | aadTenant
  | logLevel
  | logPath
  | maxRowPerPage
  deriving DecidableEq, Repr

namespace Attr

/-- The kinds of the values of attributes. -/
inductive Kind where
  | text
  | number
  | authType
  | logLevel
  deriving DecidableEq, Repr

/-- The kind of the values of an attribute. -/
@[reducible] def kind : Attr → Kind
  | .reqTimeout | .connectionTimeout | .maxRetryCountClient | .maxConnections
  | .maxRowPerPage => .number
  | .authType => .authType
  | .logLevel => .logLevel
  | .dsn | .driver | .uid | .pwd | .accessKeyId | .secretKey | .sessionToken | .profileName
  | .endpoint | .region | .idPHost | .idPUserName | .idPPassword | .idPArn | .oktaAppId
  | .roleArn | .aadAppId | .aadClientSecret | .aadTenant | .logPath => .text

/-- The values of a kind. -/
@[reducible] def Kind.Value : Kind → Type
  | .text => Text
  | .number => Int32
  | .authType => AuthType
  | .logLevel => LogLevel

/-- The values of an attribute. -/
@[reducible] def Value (a : Attr) : Type := a.kind.Value

/-- `ConnectionStringParser::Key`: the key of an attribute. -/
def key : Attr → Text
  | .dsn => "dsn".toList
  | .driver => "driver".toList
  | .uid => "uid".toList
  | .pwd => "pwd".toList
  | .accessKeyId => "accesskeyid".toList
  | .secretKey => "secretkey".toList
  | .sessionToken => "sessiontoken".toList
  | .profileName => "profilename".toList
  | .reqTimeout => "requesttimeout".toList
  | .connectionTimeout => "connectiontimeout".toList
  | .maxRetryCountClient => "maxretrycountclient".toList
  | .maxConnections => "maxconnections".toList
  | .endpoint => "endpointoverride".toList
  | .region => "region".toList
  | .authType => "auth".toList
  | .idPHost => "idphost".toList
  | .idPUserName => "idpusername".toList
  | .idPPassword => "idppassword".toList
  | .idPArn => "idparn".toList
  | .oktaAppId => "oktaapplicationid".toList
  | .roleArn => "rolearn".toList
  | .aadAppId => "aadapplicationid".toList
  | .aadClientSecret => "aadclientsecret".toList
  | .aadTenant => "aadtenant".toList
  | .logLevel => "loglevel".toList
  | .logPath => "logoutput".toList
  | .maxRowPerPage => "maxrowperpage".toList

/-- All attributes in the order of their keys. -/
def byKey : List Attr :=
  [.aadAppId, .aadClientSecret, .aadTenant, .accessKeyId, .authType, .connectionTimeout, .driver,
    .dsn, .endpoint, .idPArn, .idPHost, .idPPassword, .idPUserName, .logLevel, .logPath,
    .maxConnections, .maxRetryCountClient, .maxRowPerPage, .oktaAppId, .profileName, .pwd,
    .region, .reqTimeout, .roleArn, .secretKey, .sessionToken, .uid]

/-- The order of the keys is that of `std::map`. -/
lemma byKey_sorted : (byKey.map key).Pairwise (· < ·) := by decide +kernel

/-- Every attribute is listed. -/
lemma mem_byKey (a : Attr) : a ∈ byKey := by cases a <;> decide

/-- No attribute is listed twice. -/
lemma nodup_byKey : byKey.Nodup := by decide

/-- Attributes with the same key are the same. -/
lemma key_injective : Function.Injective key := by
  intro a b h
  have hnodup : (byKey.map key).Nodup := by
    refine byKey_sorted.imp fun hlt => ?_
    rintro rfl
    exact List.lt_irrefl _ hlt
  exact List.inj_on_of_nodup_map hnodup (mem_byKey a) (mem_byKey b) h

/-- The text of a value, as `AddToMap` writes it. -/
def Kind.toText : (k : Kind) → k.Value → Text
  | .text, v => v
  | .number, v => int32ToText v
  | .authType, v => v.toText
  | .logLevel, v => v.toText

/-- The text of a value of an attribute. -/
def toText (a : Attr) (v : a.Value) : Text := a.kind.toText v

end Attr

/-! ## Configurations -/

/-- `Configuration`: the values of the attributes that were set. -/
abbrev Configuration : Type := (a : Attr) → Option a.Value

namespace Configuration

/-- A new configuration, in which nothing is set. -/
def new : Configuration := fun _ => none

/-- The setters: `SetValue` of the `SettableValue` of an attribute. -/
def set (cfg : Configuration) (a : Attr) (v : a.Value) : Configuration :=
  Function.update cfg a (some v)

/-- An attribute that was set has its value. -/
@[simp] lemma set_self (cfg : Configuration) (a : Attr) (v : a.Value) : cfg.set a v a = some v := by
  unfold set
  exact Function.update_self a (some v) cfg

/-- Setting an attribute leaves the others alone. -/
lemma set_of_ne (cfg : Configuration) {a b : Attr} (v : a.Value) (h : b ≠ a) :
    cfg.set a v b = cfg b := by
  unfold set
  exact Function.update_of_ne h (some v) cfg

/-- Two configurations are the same when all their attributes are. -/
lemma ext {cfg cfg' : Configuration} (h : ∀ a, cfg a = cfg' a) : cfg = cfg' := funext h

/-- The text of an attribute that is set. -/
def text (cfg : Configuration) (a : Attr) : Option Text := (cfg a).map a.toText

/-- `GetDsn` with its default. -/
def getDsn (cfg : Configuration) : Text := (cfg .dsn).getD "Timestream DSN".toList

/-- `GetUid`. -/
def getUid (cfg : Configuration) : Text := (cfg .uid).getD []

/-- `GetPwd`. -/
def getPwd (cfg : Configuration) : Text := (cfg .pwd).getD []

/-- `GetAccessKeyId`. -/
def getAccessKeyId (cfg : Configuration) : Text := (cfg .accessKeyId).getD []

/-- `GetSecretKey`. -/
def getSecretKey (cfg : Configuration) : Text := (cfg .secretKey).getD []

/-- `GetSessionToken`. -/
def getSessionToken (cfg : Configuration) : Text := (cfg .sessionToken).getD []

/-- `GetProfileName`. -/
def getProfileName (cfg : Configuration) : Text := (cfg .profileName).getD []

/-- `IsProfileNameSet`, which unlike its siblings takes an empty value for none. -/
def isProfileNameSet (cfg : Configuration) : Bool :=
  (cfg .profileName).isSome && !cfg.getProfileName.isEmpty

/-- `GetReqTimeout`. -/
def getReqTimeout (cfg : Configuration) : Int32 := (cfg .reqTimeout).getD 3000

/-- `GetConnectionTimeout`. -/
def getConnectionTimeout (cfg : Configuration) : Int32 := (cfg .connectionTimeout).getD 1000

/-- `GetMaxRetryCountClient`. -/
def getMaxRetryCountClient (cfg : Configuration) : Int32 := (cfg .maxRetryCountClient).getD 0

/-- `GetMaxConnections`. -/
def getMaxConnections (cfg : Configuration) : Int32 := (cfg .maxConnections).getD 25

/-- `GetEndpoint`. -/
def getEndpoint (cfg : Configuration) : Text := (cfg .endpoint).getD []

/-- `GetRegion`. -/
def getRegion (cfg : Configuration) : Text := (cfg .region).getD "us-east-1".toList

/-- `GetAuthType`. -/
def getAuthType (cfg : Configuration) : AuthType := (cfg .authType).getD .awsProfile

/-- `GetIdPHost`. -/
def getIdPHost (cfg : Configuration) : Text := (cfg .idPHost).getD []

/-- `GetIdPUserName`. -/
def getIdPUserName (cfg : Configuration) : Text := (cfg .idPUserName).getD []

/-- `GetIdPPassword`. -/
def getIdPPassword (cfg : Configuration) : Text := (cfg .idPPassword).getD []

/-- `GetIdPArn`. -/
def getIdPArn (cfg : Configuration) : Text := (cfg .idPArn).getD []

/-- `GetOktaAppId`. -/
def getOktaAppId (cfg : Configuration) : Text := (cfg .oktaAppId).getD []

/-- `GetRoleArn`. -/
def getRoleArn (cfg : Configuration) : Text := (cfg .roleArn).getD []

/-- `GetAADAppId`. -/
def getAADAppId (cfg : Configuration) : Text := (cfg .aadAppId).getD []

/-- `GetAADClientSecret`. -/
def getAADClientSecret (cfg : Configuration) : Text := (cfg .aadClientSecret).getD []

/-- `GetAADTenant`. -/
def getAADTenant (cfg : Configuration) : Text := (cfg .aadTenant).getD []

/-- `GetDSNUserName`. -/
def getDSNUserName (cfg : Configuration) : Text :=
  if cfg.getUid ≠ [] then cfg.getUid
  else
    match cfg.getAuthType with
    | .iam => cfg.getAccessKeyId
    | .okta | .aad => cfg.getIdPUserName
    | .awsProfile => cfg.getUid

/-- `GetDSNPassword`. -/
def getDSNPassword (cfg : Configuration) : Text :=
  if cfg.getPwd ≠ [] then cfg.getPwd
  else
    match cfg.getAuthType with
    | .iam => cfg.getSecretKey
    | .okta | .aad => cfg.getIdPPassword
    | .awsProfile => cfg.getPwd

/-- `SetLogLevel`, which ignores `UNKNOWN`. -/
def setLogLevel (cfg : Configuration) (level : LogLevel) : Configuration :=
  if level ≠ .unknown then cfg.set .logLevel level else cfg

/-- `SetLogPath`, which ignores a path that `IsValidDirectory` does not accept. -/
def setLogPath (isValidDirectory : Text → Bool) (cfg : Configuration) (path : Text) :
    Configuration :=
  if isValidDirectory path then cfg.set .logPath path else cfg

/-- The configurations that the setters can make. -/
inductive BySetters (isValidDirectory : Text → Bool) : Configuration → Prop
  | new : BySetters isValidDirectory .new
  | set {cfg : Configuration} (a : Attr) (v : a.Value) (hlevel : a ≠ .logLevel)
      (hpath : a ≠ .logPath) (h : BySetters isValidDirectory cfg) :
      BySetters isValidDirectory (cfg.set a v)
  | setLogLevel {cfg : Configuration} (level : LogLevel) (h : BySetters isValidDirectory cfg) :
      BySetters isValidDirectory (cfg.setLogLevel level)
  | setLogPath {cfg : Configuration} (path : Text) (h : BySetters isValidDirectory cfg) :
      BySetters isValidDirectory (cfg.setLogPath isValidDirectory path)

/-- The log level is never set to `UNKNOWN`. -/
lemma BySetters.logLevel_ne {isValidDirectory : Text → Bool} {cfg : Configuration}
    (h : BySetters isValidDirectory cfg) : cfg .logLevel ≠ some .unknown := by
  induction h with
  | new => exact fun h => by cases h
  | @set cfg a v hlevel hpath h ih => rwa [cfg.set_of_ne v (Ne.symm hlevel)]
  | @setLogLevel cfg level h ih =>
    unfold Configuration.setLogLevel
    split
    · next hne =>
      rw [set_self]
      exact fun h => hne (Option.some.inj h)
    · exact ih
  | @setLogPath cfg path h ih =>
    unfold Configuration.setLogPath
    split
    · rwa [cfg.set_of_ne (a := .logPath) path (by decide)]
    · exact ih

/-- The log path is never set to anything but a directory. -/
lemma BySetters.isValidDirectory {isValidDirectory : Text → Bool} {cfg : Configuration}
    (h : BySetters isValidDirectory cfg) {path : Text} (hpath : cfg .logPath = some path) :
    isValidDirectory path = true := by
  induction h with
  | new => cases hpath
  | @set cfg a v hlevel hne h ih => exact ih (by rwa [cfg.set_of_ne v (Ne.symm hne)] at hpath)
  | @setLogLevel cfg level h ih =>
    unfold Configuration.setLogLevel at hpath
    split at hpath
    · exact ih (by rwa [cfg.set_of_ne (a := .logLevel) level (by decide)] at hpath)
    · exact ih hpath
  | @setLogPath cfg path' h ih =>
    unfold Configuration.setLogPath at hpath
    split at hpath
    · next hvalid =>
      rw [set_self] at hpath
      exact Option.some.inj hpath ▸ hvalid
    · exact ih hpath

/-- `ToMap`: the attributes that are set with their texts, in the order of the map. -/
def toMap (cfg : Configuration) : List (Attr × Text) :=
  Attr.byKey.filterMap fun a => (cfg.text a).map fun value => (a, value)

/-- What `ToConnectString` writes for an attribute: nothing for an empty value, and the value in
braces if there is a space in it. -/
def connectStringEntry (key value : Text) : Text :=
  if value = [] then []
  else if ' ' ∉ value then key ++ '=' :: (value ++ [';'])
  else key ++ '=' :: '{' :: (value ++ ['}', ';'])

/-- `ToConnectString`. -/
def toConnectString (cfg : Configuration) : Text :=
  (cfg.toMap.map fun (a, value) => connectStringEntry a.key value).flatten

/-- `Validate`: the error that it throws, if any. -/
def validate (cfg : Configuration) : Option DiagnosticRecord :=
  if cfg.getAuthType = .okta ∧ (cfg.getIdPHost = [] ∨ cfg.getDSNUserName = [] ∨
      cfg.getDSNPassword = [] ∨ cfg.getIdPArn = [] ∨ cfg.getRoleArn = [] ∨
      cfg.getOktaAppId = []) then
    some (statusRecord .s01S00InvalidConnectionStringAttribute
      ("The following is required to connect:\n" ++ "AUTH is \"OKTA\" and " ++
        "IdpHost, UID or IdpUserName, PWD or IdpPassword, OktaAppId, RoleArn " ++ "and IdpArn"))
  else if cfg.getAuthType = .aad ∧ (cfg.getDSNUserName = [] ∨ cfg.getDSNPassword = [] ∨
      cfg.getIdPArn = [] ∨ cfg.getRoleArn = [] ∨ cfg.getAADAppId = [] ∨ cfg.getAADTenant = [] ∨
      cfg.getAADClientSecret = []) then
    some (statusRecord .s01S00InvalidConnectionStringAttribute
      ("The following is required to connect:\n" ++ "AUTH is \"AAD\" and " ++
        "UID or IdpUserName, PWD or IdpPassword, and " ++
        "AADAppId, RoleArn, IdpArn, AADTenant and AADClientSecret"))
  else if cfg.getAuthType = .iam ∧ (cfg.getDSNUserName = [] ∨ cfg.getDSNPassword = []) then
    some (statusRecord .s01S00InvalidConnectionStringAttribute
      ("The following is required to connect:\n" ++ "AUTH is \"IAM\" and " ++
        "UID and PWD or " ++ "AccessKeyId and Secretkey"))
  else none

end Configuration

end TimestreamOdbc
