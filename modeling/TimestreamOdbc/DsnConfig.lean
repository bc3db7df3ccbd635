import TimestreamOdbc.Config.ConnectionStringParser

/-!
# Data source names

`ReadDsnConfiguration` completes a configuration with the values that the store of data source
names has for a name.  An attribute that the configuration has is left alone, with one exception: a
profile name counts as set only when it is not empty.  Two attributes are not read from the store,
the name itself and the driver, and the connection timeout is written whenever the store has a
request timeout, with 0 when it has no connection timeout.
-/

namespace TimestreamOdbc

/-- What a connection attempt reads from the machine it runs on. -/
structure Machine where
  /-- `IsValidDirectory`. -/
  isValidDirectory : Text → Bool
  /-- What `SQLGetPrivateProfileString` finds for a data source name and a key. -/
  dsnStore : Text → Text → Option Text
  /-- The value of an `int` that was not initialised. -/
  uninitialised : Int32

namespace Machine

variable (machine : Machine)

/-- `ReadDsnString`: the marker it passes as a default stands for no value. -/
def readDsnString (dsn : Text) (a : Attr) : Option Text :=
  (machine.dsnStore dsn a.key).filter (· ≠ "35a920dd-8837-43d2-a846-e01a2e7b5f84".toList)

/-- `ReadDsnInt`. -/
def readDsnInt (dsn : Text) (a : Attr) : Option Int32 :=
  (machine.readDsnString dsn a).map (lexicalCastInt machine.uninitialised)

/-- The value that `ReadDsnConfiguration` has for an attribute that is not set. -/
def readDsnValue (dsn : Text) : (a : Attr) → Option a.Value
  | .dsn | .driver => none
  | .reqTimeout => machine.readDsnInt dsn .reqTimeout
  -- the condition on the connection timeout looks at the request timeout
  | .connectionTimeout =>
    if (machine.readDsnInt dsn .reqTimeout).isSome then
      some ((machine.readDsnInt dsn .connectionTimeout).getD 0)
    else none
  | .maxRetryCountClient => machine.readDsnInt dsn .maxRetryCountClient
  | .maxConnections => machine.readDsnInt dsn .maxConnections
  | .maxRowPerPage => machine.readDsnInt dsn .maxRowPerPage
  | .authType => (machine.readDsnString dsn .authType).map fun s => AuthType.fromString s .awsProfile
  | .logLevel =>
    (machine.readDsnString dsn .logLevel).map fun s => LogLevel.fromString s .warningLevel
  | .logPath => (machine.readDsnString dsn .logPath).filter machine.isValidDirectory
  | .uid => machine.readDsnString dsn .uid
  | .pwd => machine.readDsnString dsn .pwd
  | .accessKeyId => machine.readDsnString dsn .accessKeyId
  | .secretKey => machine.readDsnString dsn .secretKey
  | .sessionToken => machine.readDsnString dsn .sessionToken
  | .profileName => machine.readDsnString dsn .profileName
  | .endpoint => machine.readDsnString dsn .endpoint
  | .region => machine.readDsnString dsn .region
  | .idPHost => machine.readDsnString dsn .idPHost
  | .idPUserName => machine.readDsnString dsn .idPUserName
  | .idPPassword => machine.readDsnString dsn .idPPassword
  | .idPArn => machine.readDsnString dsn .idPArn
  | .oktaAppId => machine.readDsnString dsn .oktaAppId
  | .roleArn => machine.readDsnString dsn .roleArn
  | .aadAppId => machine.readDsnString dsn .aadAppId
  | .aadClientSecret => machine.readDsnString dsn .aadClientSecret
  | .aadTenant => machine.readDsnString dsn .aadTenant

end Machine

namespace Configuration

/-- The attributes in the order in which `ReadDsnConfiguration` reads them. -/
def dsnAttributes : List Attr :=
  [.uid, .pwd, .accessKeyId, .secretKey, .sessionToken, .profileName, .reqTimeout,
    .connectionTimeout, .maxRetryCountClient, .maxConnections, .endpoint, .region, .authType,
    .idPHost, .idPUserName, .idPPassword, .idPArn, .oktaAppId, .roleArn, .aadAppId,
    .aadClientSecret, .aadTenant, .logLevel, .logPath, .maxRowPerPage]

/-- The `Is…Set` functions: an empty profile name does not count. -/
def isSet (cfg : Configuration) : Attr → Bool
  | .profileName => cfg.isProfileNameSet
  | a => (cfg a).isSome

/-- `ReadDsnConfiguration` on one attribute. -/
def readDsnAttribute (machine : Machine) (dsn : Text) (cfg : Configuration) (a : Attr) :
    Configuration :=
  match machine.readDsnValue dsn a with
  | some v => if cfg.isSet a then cfg else cfg.set a v
  | none => cfg

/-- `ReadDsnConfiguration`. -/
def readDsnConfiguration (machine : Machine) (dsn : Text) (cfg : Configuration) : Configuration :=
  dsnAttributes.foldl (readDsnAttribute machine dsn) cfg

section ReadDsn

variable (machine : Machine) (dsn : Text)

/-- Whether an attribute is set is a matter of this attribute. -/
lemma isSet_congr {cfg cfg' : Configuration} {a : Attr} (h : cfg a = cfg' a) :
    cfg.isSet a = cfg'.isSet a := by
  cases a with
  | profileName => simp only [isSet, isProfileNameSet, getProfileName, h]
  | _ => simp only [isSet, h]

/-- An attribute without a value is not set. -/
lemma isSet_of_none {cfg : Configuration} {a : Attr} (h : cfg a = none) : cfg.isSet a = false := by
  cases a with
  | profileName => simp [isSet, isProfileNameSet, h]
  | _ => simp [isSet, h]

/-- Reading one attribute changes that attribute only. -/
lemma readDsnAttribute_of_ne (cfg : Configuration) {a b : Attr} (h : b ≠ a) :
    readDsnAttribute machine dsn cfg a b = cfg b := by
  unfold readDsnAttribute
  cases machine.readDsnValue dsn a with
  | none => rfl
  | some v =>
    dsimp only
    split
    · rfl
    · exact cfg.set_of_ne v h

/-- The value of an attribute after it was read. -/
lemma readDsnAttribute_self (cfg : Configuration) (a : Attr) :
    readDsnAttribute machine dsn cfg a a =
      if cfg.isSet a then cfg a else (machine.readDsnValue dsn a).or (cfg a) := by
  unfold readDsnAttribute
  cases machine.readDsnValue dsn a with
  | none => simp
  | some v =>
    dsimp only
    split
    · rfl
    · exact cfg.set_self a v

/-- Reading several different attributes. -/
lemma foldl_readDsnAttribute {l : List Attr} (hl : l.Nodup) (cfg : Configuration) (a : Attr) :
    l.foldl (readDsnAttribute machine dsn) cfg a =
      if a ∈ l then readDsnAttribute machine dsn cfg a a else cfg a := by
  induction l generalizing cfg with
  | nil => rfl
  | cons b l ih =>
    obtain ⟨hb, hl⟩ := List.nodup_cons.mp hl
    rw [List.foldl_cons, ih hl]
    by_cases hab : a = b
    · subst hab
      rw [if_neg hb, if_pos List.mem_cons_self]
    · have hcfg : readDsnAttribute machine dsn cfg b a = cfg a :=
        readDsnAttribute_of_ne machine dsn cfg hab
      have hread : readDsnAttribute machine dsn (readDsnAttribute machine dsn cfg b) a a =
          readDsnAttribute machine dsn cfg a a := by
        rw [readDsnAttribute_self, readDsnAttribute_self, isSet_congr hcfg, hcfg]
      simp only [List.mem_cons, hab, false_or, hread, hcfg]

/-- `ReadDsnConfiguration` attribute by attribute: what is set stays, and the rest is completed
from the store. -/
theorem readDsnConfiguration_apply (cfg : Configuration) (a : Attr) :
    readDsnConfiguration machine dsn cfg a =
      if cfg.isSet a then cfg a else (machine.readDsnValue dsn a).or (cfg a) := by
  unfold readDsnConfiguration
  rw [foldl_readDsnAttribute machine dsn (by decide)]
  by_cases ha : a ∈ dsnAttributes
  · rw [if_pos ha, readDsnAttribute_self]
  · rw [if_neg ha]
    have hnone : machine.readDsnValue dsn a = none := by
      cases a <;> first | rfl | exact absurd (by decide) ha
    rw [hnone, Option.none_or, ite_self]

end ReadDsn

end Configuration

end TimestreamOdbc
