import TimestreamOdbc.App.IntegerConversions

/-!
# Proxy settings

`Connection::SetClientProxy`: what the environment variables `TS_PROXY_*` make of the client
configuration.
-/

namespace TimestreamOdbc

/-- The environment variables that `SetClientProxy` reads. -/
inductive ProxyVariable where
  | host
  | port
  | scheme
  | user
  | password
  | sslCertPath
  | sslCertType
  | sslKeyPath
  | sslKeyType
  | sslKeyPassword
  deriving DecidableEq, Repr

/-- The environment: the texts of the variables that are set. -/
abbrev ProxyEnvironment := ProxyVariable → Option Text

/-- `Aws::Http::Scheme`. -/
inductive Scheme where
  | http
  | https
  deriving DecidableEq, Repr

/-- The members of `Aws::Client::ClientConfiguration` about a proxy. -/
structure ClientProxy where
  proxyHost : Text
  proxyPort : ℕ
  proxyScheme : Scheme
  proxyUserName : Text
  proxyPassword : Text
  proxySSLCertPath : Text
  proxySSLCertType : Text
  proxySSLKeyPath : Text
  proxySSLKeyType : Text
  proxySSLKeyPassword : Text
  deriving DecidableEq, Repr

namespace ClientProxy

/-! ## The ten blocks -/

/-- `Trim(GetEnv(..))`. A variable that is not set reads as an empty text. -/
def trimmedEnv (env : ProxyEnvironment) (name : ProxyVariable) : Text := trim ((env name).getD [])

/-- The block of a variable: a text that is not empty is set. -/
def setText (env : ProxyEnvironment) (name : ProxyVariable) (set : Text → ClientProxy → ClientProxy)
    (cfg : ClientProxy) : ClientProxy :=
  if trimmedEnv env name ≠ [] then set (trimmedEnv env name) cfg else cfg

/-- The scheme of a text, whose letters are compared without their case. -/
def schemeOf (text : Text) : Scheme :=
  if text.map Char.toUpper = "HTTPS".toList then .https else .http

def setProxyHost (env : ProxyEnvironment) : ClientProxy → ClientProxy :=
  setText env .host fun text cfg => { cfg with proxyHost := text }

/-- A text that is not read as a positive number leaves the port as it was. -/
def setProxyPort (env : ProxyEnvironment) (cfg : ClientProxy) : ClientProxy :=
  let proxyPort := if trimmedEnv env .port ≠ [] then stringToInt (trimmedEnv env .port) else 0
  if 0 < proxyPort then { cfg with proxyPort := proxyPort.toNat } else cfg

def setProxyScheme (env : ProxyEnvironment) : ClientProxy → ClientProxy :=
  setText env .scheme fun text cfg => { cfg with proxyScheme := schemeOf text }

def setProxyUser (env : ProxyEnvironment) : ClientProxy → ClientProxy :=
  setText env .user fun text cfg => { cfg with proxyUserName := text }

def setProxyPassword (env : ProxyEnvironment) : ClientProxy → ClientProxy :=
  setText env .password fun text cfg => { cfg with proxyPassword := text }

def setProxySSLCertPath (env : ProxyEnvironment) : ClientProxy → ClientProxy :=
  setText env .sslCertPath fun text cfg => { cfg with proxySSLCertPath := text }

def setProxySSLCertType (env : ProxyEnvironment) : ClientProxy → ClientProxy :=
  setText env .sslCertType fun text cfg => { cfg with proxySSLCertType := text }

def setProxySSLKeyPath (env : ProxyEnvironment) : ClientProxy → ClientProxy :=
  setText env .sslKeyPath fun text cfg => { cfg with proxySSLKeyPath := text }

/-- The type of the key is set as the type of the certificate. -/
def setProxySSLKeyType (env : ProxyEnvironment) : ClientProxy → ClientProxy :=
  setText env .sslKeyType fun text cfg => { cfg with proxySSLCertType := text }

def setProxySSLKeyPassword (env : ProxyEnvironment) : ClientProxy → ClientProxy :=
  setText env .sslKeyPassword fun text cfg => { cfg with proxySSLKeyPassword := text }

/-- `SetClientProxy`. -/
def setClientProxy (env : ProxyEnvironment) (cfg : ClientProxy) : ClientProxy :=
  let cfg := setProxyHost env cfg
  let cfg := setProxyPort env cfg
  let cfg := setProxyScheme env cfg
  let cfg := setProxyUser env cfg
  let cfg := setProxyPassword env cfg
  let cfg := setProxySSLCertPath env cfg
  let cfg := setProxySSLCertType env cfg
  let cfg := setProxySSLKeyPath env cfg
  let cfg := setProxySSLKeyType env cfg
  setProxySSLKeyPassword env cfg

/-! ## Every member by its own variable -/

/-- The value of a member by its variable: what the text means if it is not blank and means
something, and the previous one otherwise. -/
def own {α : Type} (env : ProxyEnvironment) (name : ProxyVariable) (means : Text → Option α)
    (previous : α) : α :=
  if trimmedEnv env name = [] then previous else (means (trimmedEnv env name)).getD previous

/-- The integer that a text denotes, with or without a sign. -/
def denotedInteger : Text → Option ℤ
  | '+' :: digits =>
    if digits ≠ [] ∧ allDigits digits then some (Nat.ofDigitChars 10 digits 0 : ℤ) else none
  | text => decimalInteger text

/-- The port that a text denotes: an integer from 1 to 65535. -/
def denotedPort (text : Text) : Option ℕ :=
  match denotedInteger text with
  | none => none
  | some n => if 1 ≤ n ∧ n ≤ 65535 then some n.toNat else none

/-- The configuration in which every member is determined by its own variable. -/
def ownMembers (env : ProxyEnvironment) (cfg : ClientProxy) : ClientProxy where
  proxyHost := own env .host some cfg.proxyHost
  proxyPort := own env .port denotedPort cfg.proxyPort
  proxyScheme := own env .scheme (fun text => some (schemeOf text)) cfg.proxyScheme
  proxyUserName := own env .user some cfg.proxyUserName
  proxyPassword := own env .password some cfg.proxyPassword
  proxySSLCertPath := own env .sslCertPath some cfg.proxySSLCertPath
  proxySSLCertType := own env .sslCertType some cfg.proxySSLCertType
  proxySSLKeyPath := own env .sslKeyPath some cfg.proxySSLKeyPath
  proxySSLKeyType := own env .sslKeyType some cfg.proxySSLKeyType
  proxySSLKeyPassword := own env .sslKeyPassword some cfg.proxySSLKeyPassword

/-! ## What the blocks do -/

section Blocks

variable (env : ProxyEnvironment) (cfg : ClientProxy)

/-- A text that is set is the one of its own variable. -/
lemma setText_eq {name : ProxyVariable} {set : Text → ClientProxy → ClientProxy}
    {get : ClientProxy → Text} (hset : ∀ cfg, set (get cfg) cfg = cfg) :
    setText env name set cfg = set (own env name some (get cfg)) cfg := by
  unfold setText own
  by_cases hblank : trimmedEnv env name = []
  · rw [if_neg (not_not.mpr hblank), if_pos hblank, hset]
  · rw [if_pos hblank, if_neg hblank, Option.getD_some]

/-- The port that is set. -/
def readPort : ℕ :=
  if 0 < stringToInt (trimmedEnv env .port) then (stringToInt (trimmedEnv env .port)).toNat
  else cfg.proxyPort

lemma setProxyPort_eq : setProxyPort env cfg = { cfg with proxyPort := readPort env cfg } := by
  have hblank : trimmedEnv env .port = [] → stringToInt (trimmedEnv env .port) = 0 := by
    intro h
    rw [h]
    rfl
  have hread : (if trimmedEnv env .port ≠ [] then stringToInt (trimmedEnv env .port) else 0) =
      stringToInt (trimmedEnv env .port) := by
    split
    · rfl
    · next h => exact (hblank (not_not.mp h)).symm
  unfold setProxyPort readPort
  dsimp only
  rw [hread]
  split <;> rfl

lemma setProxyScheme_eq : setProxyScheme env cfg = { cfg with
    proxyScheme := own env .scheme (fun text => some (schemeOf text)) cfg.proxyScheme } := by
  unfold setProxyScheme setText own
  by_cases hblank : trimmedEnv env .scheme = []
  · rw [if_neg (not_not.mpr hblank), if_pos hblank]
  · rw [if_pos hblank, if_neg hblank, Option.getD_some]

/-- All blocks together: every member is that of its own variable, but for the port, which is read in
its own way, and for the types, of which the one of the key replaces the one of the certificate. -/
lemma setClientProxy_eq : setClientProxy env cfg = { ownMembers env cfg with
    proxyPort := readPort env cfg
    proxySSLCertType :=
      own env .sslKeyType some (own env .sslCertType some cfg.proxySSLCertType)
    proxySSLKeyType := cfg.proxySSLKeyType } := by
  have hhost := fun cfg => @setText_eq env cfg .host (fun text cfg => { cfg with proxyHost := text })
    proxyHost fun _ => rfl
  have huser := fun cfg => @setText_eq env cfg .user
    (fun text cfg => { cfg with proxyUserName := text }) proxyUserName fun _ => rfl
  have hpassword := fun cfg => @setText_eq env cfg .password
    (fun text cfg => { cfg with proxyPassword := text }) proxyPassword fun _ => rfl
  have hcertPath := fun cfg => @setText_eq env cfg .sslCertPath
    (fun text cfg => { cfg with proxySSLCertPath := text }) proxySSLCertPath fun _ => rfl
  have hcertType := fun cfg => @setText_eq env cfg .sslCertType
    (fun text cfg => { cfg with proxySSLCertType := text }) proxySSLCertType fun _ => rfl
  have hkeyPath := fun cfg => @setText_eq env cfg .sslKeyPath
    (fun text cfg => { cfg with proxySSLKeyPath := text }) proxySSLKeyPath fun _ => rfl
  have hkeyType := fun cfg => @setText_eq env cfg .sslKeyType
    (fun text cfg => { cfg with proxySSLCertType := text }) proxySSLCertType fun _ => rfl
  have hkeyPassword := fun cfg => @setText_eq env cfg .sslKeyPassword
    (fun text cfg => { cfg with proxySSLKeyPassword := text }) proxySSLKeyPassword fun _ => rfl
  simp only [setClientProxy, setProxyHost, hhost, setProxyPort_eq, setProxyScheme_eq, setProxyUser,
    huser, setProxyPassword, hpassword, setProxySSLCertPath, hcertPath, setProxySSLCertType, hcertType,
    setProxySSLKeyPath, hkeyPath, setProxySSLKeyType, hkeyType, setProxySSLKeyPassword, hkeyPassword,
    ownMembers, readPort]

end Blocks

/-! ## The port -/

/-- A text that denotes an integer is read as that integer. -/
lemma scanNumber_of_denotedInteger {text : Text} {n : ℤ} (h : denotedInteger text = some n) :
    scanNumber none text = some (n, []) := by
  unfold denotedInteger at h
  split at h
  · next digits =>
    split at h
    · next hdigits =>
      obtain rfl := Option.some.inj h
      have hall : digits.takeWhile Char.isDigit = digits :=
        List.takeWhile_eq_self_iff.mpr (List.all_eq_true.mp hdigits.2)
      have hsign : scanSign ('+' :: digits) = ['+'] := by simp [scanSign]
      have hplus : ¬ (['+'] : Text) = ['-'] := by decide
      unfold scanNumber
      rw [ltrim_cons (by decide)]
      simp only [Option.elim_none, hsign, List.length_singleton, List.drop_succ_cons, List.drop_zero,
        hall, hdigits.1, hplus, if_false, Nat.add_comm, List.drop_length]
    · cases h
  · exact scanNumber_of_decimalInteger h

/-- The port of a text is the number that is read from it. -/
lemma denotedPort_eq_some {text : Text} {port : ℕ} :
    denotedPort text = some port ↔
      denotedInteger text = some (port : ℤ) ∧ 1 ≤ port ∧ port ≤ 65535 := by
  unfold denotedPort
  rcases hn : denotedInteger text with _ | n
  · simp
  · dsimp only
    constructor
    · intro h
      split at h
      · next hbounds =>
        obtain rfl := Option.some.inj h
        have hcast : ((n.toNat : ℕ) : ℤ) = n := Int.toNat_of_nonneg (by omega)
        exact ⟨by rw [hcast], by omega, by omega⟩
      · cases h
    · rintro ⟨heq, hbounds⟩
      obtain rfl := Option.some.inj heq
      rw [if_pos (by omega), Int.toNat_natCast]

/-- When the port is determined by its variable: the number that its text begins with is not positive,
too large to be read, the previous port, or an allowed port that the whole text denotes. -/
def PortSettled (env : ProxyEnvironment) (cfg : ClientProxy) : Prop :=
  ∀ n rest, scanNumber none (trimmedEnv env .port) = some (n, rest) →
    n ≤ 0 ∨ 2 ^ 31 ≤ n ∨ n = cfg.proxyPort ∨
      denotedInteger (trimmedEnv env .port) = some n ∧ n ≤ 65535

lemma readPort_eq_iff (env : ProxyEnvironment) (cfg : ClientProxy) :
    readPort env cfg = own env .port denotedPort cfg.proxyPort ↔ PortSettled env cfg := by
  have hown : own env .port denotedPort cfg.proxyPort =
      (denotedPort (trimmedEnv env .port)).getD cfg.proxyPort := by
    unfold own
    split
    · next h =>
      rw [h]
      rfl
    · rfl
  rw [hown]
  unfold readPort PortSettled stringToInt
  generalize trimmedEnv env .port = text
  rcases hscan : scanNumber none text with _ | ⟨n, rest⟩
  · -- nothing is read, and nothing is denoted
    have hnone : denotedPort text = none := by
      rw [Option.eq_none_iff_forall_ne_some]
      intro port hport
      have := scanNumber_of_denotedInteger (denotedPort_eq_some.mp hport).1
      rw [hscan] at this
      cases this
    simp [hnone]
  · have hdenoted : ∀ m, denotedInteger text = some m → m = n := by
      intro m hm
      have := scanNumber_of_denotedInteger hm
      rw [hscan] at this
      exact (congrArg Prod.fst (Option.some.inj this)).symm
    have hread : (if 0 < (if -2 ^ 31 ≤ n ∧ n < 2 ^ 31 then n else 0) then
        (if -2 ^ 31 ≤ n ∧ n < 2 ^ 31 then n else 0).toNat else cfg.proxyPort) =
        if 0 < n ∧ n < 2 ^ 31 then n.toNat else cfg.proxyPort := by
      split_ifs <;> omega
    dsimp only
    rw [hread]
    constructor
    · rintro h n' rest' heq
      obtain ⟨rfl, rfl⟩ := Prod.mk.inj (Option.some.inj heq)
      by_contra hnot
      simp only [not_or] at hnot
      obtain ⟨hpos, hsmall, hprevious, hport⟩ := hnot
      rw [if_pos ⟨by omega, by omega⟩] at h
      rcases hp : denotedPort text with _ | port
      · rw [hp, Option.getD_none] at h
        omega
      · obtain ⟨hinteger, hbounds⟩ := denotedPort_eq_some.mp hp
        obtain rfl := hdenoted _ hinteger
        exact hport ⟨hinteger, by omega⟩
    · intro h
      rcases hp : denotedPort text with _ | port
      · rw [Option.getD_none]
        split
        · next hbounds =>
          rcases h n rest rfl with hle | hge | heq | ⟨hinteger, hle⟩
          · omega
          · omega
          · omega
          · have hsome : denotedPort text = some n.toNat := by
              rw [denotedPort_eq_some, Int.toNat_of_nonneg (show 0 ≤ n by omega)]
              exact ⟨hinteger, by omega, by omega⟩
            rw [hp] at hsome
            cases hsome
        · rfl
      · obtain ⟨hinteger, hbounds⟩ := denotedPort_eq_some.mp hp
        obtain rfl := hdenoted _ hinteger
        rw [if_pos (by omega), Option.getD_some, Int.toNat_natCast]

/-! ## All members -/

/-- The type of the key and the type of the certificate are both right exactly when the first is not
given, or is what both have anyway. -/
lemma types_eq_iff (env : ProxyEnvironment) (cfg : ClientProxy) :
    (own env .sslKeyType some (own env .sslCertType some cfg.proxySSLCertType) =
        own env .sslCertType some cfg.proxySSLCertType ∧
      cfg.proxySSLKeyType = own env .sslKeyType some cfg.proxySSLKeyType) ↔
      trimmedEnv env .sslKeyType = [] ∨
        trimmedEnv env .sslKeyType = own env .sslCertType some cfg.proxySSLCertType ∧
          trimmedEnv env .sslKeyType = cfg.proxySSLKeyType := by
  generalize own env .sslCertType some cfg.proxySSLCertType = certType
  unfold own
  by_cases hblank : trimmedEnv env .sslKeyType = []
  · simp [hblank]
  · simp only [hblank, if_false, Option.getD_some, false_or]
    exact and_congr_right fun _ => eq_comm

/-- Every member is determined by its own variable exactly when no type of the key is given, or one
that both types have anyway, and the port is. -/
theorem setClientProxy_eq_ownMembers_iff (env : ProxyEnvironment) (cfg : ClientProxy) :
    setClientProxy env cfg = ownMembers env cfg ↔
      (trimmedEnv env .sslKeyType = [] ∨
        trimmedEnv env .sslKeyType = own env .sslCertType some cfg.proxySSLCertType ∧
          trimmedEnv env .sslKeyType = cfg.proxySSLKeyType) ∧
        PortSettled env cfg := by
  rw [setClientProxy_eq, ← types_eq_iff, ← readPort_eq_iff]
  constructor
  · intro h
    exact ⟨⟨congrArg proxySSLCertType h, congrArg proxySSLKeyType h⟩, congrArg proxyPort h⟩
  · rintro ⟨⟨hcertType, hkeyType⟩, hport⟩
    rw [hcertType, hport, hkeyType]
    rfl

/-- A configuration without a proxy. -/
def noProxy : ClientProxy := ⟨[], 0, .http, [], [], [], [], [], [], []⟩

/-- The type of the key is set as the type of the certificate. -/
theorem not_ownMembers_keyType :
    ¬ ∀ (env : ProxyEnvironment) (cfg : ClientProxy), setClientProxy env cfg = ownMembers env cfg := by
  intro h
  have hkeyType := congrArg proxySSLKeyType
    (h (fun name => if name = .sslKeyType then some "PEM".toList else none) noProxy)
  rw [setClientProxy_eq] at hkeyType
  exact absurd hkeyType (by decide)

end ClientProxy

end TimestreamOdbc
