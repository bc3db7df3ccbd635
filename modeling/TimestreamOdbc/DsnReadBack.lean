import TimestreamOdbc.DsnStore
import TimestreamOdbc.Lib.TransitionSystem

/-!
# Reading saved data source names

In every state that requests of `ConfigDSN` lead to, `ReadDsnConfiguration` finds under a name what
was saved under it last.  An attribute comes back exactly when its text survives the wide string and
the buffer, and when the guard of its reading lets it: the guard of the connection timeout asks for the
request timeout, and a path has to be that of a directory.
-/

namespace TimestreamOdbc

/-! ## What comes back -/

/-- A text that comes back as it was saved: all of it is passed, it fits the buffer, and it is not the
marker for no value. -/
def Survives (P : Platform) (value : Text) : Prop :=
  Plain P value ∧ value.length < iniBufferSize ∧ value ≠ unique

/-- When an attribute comes back. The connection timeout is read if there is a request timeout, and is
0 then if it was not saved; a path is set if it is one of a directory; and there is no number for an
unknown log level. -/
def ComesBack (P : Platform) (isValidDirectory : Text → Bool) (config : Configuration) : Attr → Prop
  | .connectionTimeout => (config .reqTimeout).isSome = (config .connectionTimeout).isSome
  | .logLevel => config .logLevel ≠ some .unknown
  | .logPath => ∀ path, config .logPath = some path → Survives P path ∧ isValidDirectory path
  | .reqTimeout | .maxRetryCountClient | .maxConnections | .maxRowPerPage | .authType => True
  | a => ∀ value, config.text a = some value → Survives P value

/-! ## What is read -/

section Read

variable {L : Installer} {P : Platform}

/-- The characters of a text that get through the store and into the buffer. -/
def bufferedText (P : Platform) (value : Text) : Text := (wideText P value).take (iniBufferSize - 1)

/-- These are all of it when it is plain and fits. -/
lemma bufferedText_eq_self_iff {value : Text} :
    bufferedText P value = value ↔ Plain P value ∧ value.length < iniBufferSize := by
  rw [← wideText_eq_self_iff]
  have hpos : 0 < iniBufferSize := by decide
  constructor
  · intro h
    have hlength := congrArg List.length h
    rw [bufferedText, List.length_take] at hlength
    have hbegins : wideText P value <+: value :=
      (List.takeWhile_prefix _).trans (List.takeWhile_prefix _)
    refine ⟨hbegins.eq_of_length_le (by omega), by omega⟩
  · rintro ⟨hwide, hlength⟩
    rw [bufferedText, hwide, List.take_of_length_le (by omega)]

/-- A text that may be there comes back if it survives. -/
lemma filter_bufferedText_iff (value : Option Text) :
    (value.map (bufferedText P)).filter (· ≠ unique) = value ↔
      ∀ v, value = some v → Survives P v := by
  cases value with
  | none => simp
  | some v =>
    simp only [Option.map_some, Option.filter_some, Option.some.injEq, forall_eq', Survives]
    rw [← and_assoc, ← bufferedText_eq_self_iff]
    constructor
    · intro h
      split at h
      · next hne =>
        obtain heq := Option.some.inj h
        rw [heq] at hne
        exact ⟨heq, by simpa using hne⟩
      · contradiction
    · rintro ⟨heq, hne⟩
      rw [heq, if_pos (by simpa using hne)]

/-- The texts of values that are not texts survive. -/
lemma survives_toText {k : Attr.Kind} (hk : k ≠ .text) (v : k.Value) : Survives P (k.toText v) := by
  have hshort : ∀ {value : Text}, (∀ c ∈ value, (0 < c.toNat ∧ c.toNat < 128) ∧ c ≠ '5') ∨
      (∀ c ∈ value, (0 < c.toNat ∧ c.toNat < 128) ∧ c ≠ 'a') →
      value.length < iniBufferSize → Survives P value := by
    rintro value (h | h) hlength
    · refine ⟨plain_of_lt P fun c hc => (h c hc).1, hlength, ?_⟩
      rintro rfl
      exact (h '5' (by decide)).2 rfl
    · refine ⟨plain_of_lt P fun c hc => (h c hc).1, hlength, ?_⟩
      rintro rfl
      exact (h 'a' (by decide)).2 rfl
  cases k with
  | text => exact absurd rfl hk
  | number =>
    refine hshort (.inr fun c hc => ?_) ?_
    · rcases mem_int32ToText hc with rfl | hdigit
      · decide
      · refine ⟨?_, fun heq => absurd (heq ▸ hdigit) (by decide)⟩
        simp only [Char.isDigit, Bool.and_eq_true, decide_eq_true_eq] at hdigit
        have hlow : (48 : ℕ) ≤ c.toNat := UInt32.le_iff_toNat_le.mp hdigit.1
        have hhigh : c.toNat ≤ 57 := UInt32.le_iff_toNat_le.mp hdigit.2
        omega
    · have hlow := Int32.le_toInt v
      have hhigh := Int32.toInt_lt v
      have hdigits : (Nat.toDigits 10 (Int32.toInt v).natAbs).length ≤ 10 :=
        (Nat.length_toDigits_le_iff (by decide) (by decide)).mpr (by omega)
      have hlength : (int32ToText v).length ≤ 11 := by
        unfold int32ToText
        split
        · rw [List.length_cons]
          omega
        · omega
      exact hlength.trans_lt (by decide)
  | authType =>
    have hall : (AuthType.toText v).all (fun c => (0 < c.toNat ∧ c.toNat < 128) ∧ c ≠ '5') = true := by
      cases v <;> decide
    exact hshort (.inl fun c hc => of_decide_eq_true (List.all_eq_true.mp hall c hc)) (by cases v <;> decide)
  | logLevel =>
    have hall : (LogLevel.toText v).all (fun c => (0 < c.toNat ∧ c.toNat < 128) ∧ c ≠ '5') = true := by
      cases v <;> decide
    exact hshort (.inl fun c hc => of_decide_eq_true (List.all_eq_true.mp hall c hc)) (by cases v <;> decide)

/-- A number is read as it was written. -/
lemma lexicalCastInt_int32ToText (uninitialised n : Int32) :
    lexicalCastInt uninitialised (int32ToText n) = n := by
  have hlow := Int32.le_toInt n
  have hhigh := Int32.toInt_lt n
  by_cases hneg : n.toInt < 0
  · have htext : int32ToText n = '-' :: Nat.toDigits 10 n.toInt.natAbs := if_pos hneg
    have hltrim : ltrim ('-' :: Nat.toDigits 10 n.toInt.natAbs) =
        '-' :: Nat.toDigits 10 n.toInt.natAbs := List.dropWhile_cons_of_neg (by decide)
    have hdigits : (Nat.toDigits 10 n.toInt.natAbs).takeWhile Char.isDigit =
        Nat.toDigits 10 n.toInt.natAbs :=
      List.takeWhile_eq_self_iff.mpr (List.all_eq_true.mp (allDigits_toDigits _))
    rw [lexicalCastInt, htext, hltrim, if_neg (List.cons_ne_nil _ _), readInt32, hdigits,
      Nat.ofDigitChars_ten_toDigits]
    have hvalue : max (-(n.toInt.natAbs : ℤ)) (-2 ^ 31) = n.toInt := by omega
    rw [hvalue, Int32.ofInt_toInt]
  · rw [int32ToText_of_nonneg (by omega),
      lexicalCastInt_of_allDigits Nat.toDigits_ne_nil (allDigits_toDigits _),
      Nat.ofDigitChars_ten_toDigits]
    have hvalue : min (n.toInt.toNat : ℤ) (2 ^ 31 - 1) = n.toInt := by omega
    rw [hvalue, Int32.ofInt_toInt]

end Read

section Back

variable {L : Installer} {P : Platform} (hP : P.sqlWcharSize ≤ P.wcharSize)
  {isValidDirectory : Text → Bool} {uninitialised : Int32} {store : L.Store} {dsn : Text}

/-- Under a name that was removed nothing is read. -/
lemma readDsnConfiguration_of_removed
    (h : Holds L P store (Utility.wideString P dsn) .removed) (config : Configuration) :
    config.readDsnConfiguration (L.machine P isValidDirectory uninitialised store) dsn = config := by
  set machine := L.machine P isValidDirectory uninitialised store with hmachine
  have hstring (a : Attr) : machine.readDsnString dsn a = none := by
    have hentry := h a
    rw [Machine.readDsnString, hmachine, Installer.machine]
    dsimp only
    rw [hentry]
    rfl
  have hint (a : Attr) : machine.readDsnInt dsn a = none := by
    rw [Machine.readDsnInt, hstring]
    rfl
  refine Configuration.ext fun a => ?_
  have hvalue : machine.readDsnValue dsn a = none := by
    cases a <;> simp [Machine.readDsnValue, hstring, hint]
  rw [Configuration.readDsnConfiguration_apply, hvalue, Option.none_or, ite_self]

variable {config : Configuration} (h : Holds L P store (Utility.wideString P dsn) (.saved config))

include hP h

/-- Under a name that was saved the texts are read that got into the buffer. -/
lemma readDsnString_of_saved {a : Attr} (hdriver : a ≠ .driver) (hdsn : a ≠ .dsn) :
    (L.machine P isValidDirectory uninitialised store).readDsnString dsn a =
      ((config.text a).map (bufferedText P)).filter (· ≠ unique) := by
  have hentry := h a hdriver
  rw [if_neg hdsn] at hentry
  rw [Machine.readDsnString, Installer.machine]
  dsimp only
  rw [hentry]
  cases config.text a with
  | none => rfl
  | some value =>
    rw [Option.map_some, Option.bind_some, ofWideString_take hP]
    rfl

/-- A value that is not a text is read as it is written. -/
lemma readDsnString_of_kind {a : Attr} (hkind : a.kind ≠ .text) :
    (L.machine P isValidDirectory uninitialised store).readDsnString dsn a = config.text a := by
  have hdriver : a ≠ .driver := by
    rintro rfl
    exact hkind rfl
  have hdsn : a ≠ .dsn := by
    rintro rfl
    exact hkind rfl
  rw [readDsnString_of_saved hP h hdriver hdsn, filter_bufferedText_iff]
  rintro value hvalue
  obtain ⟨v, -, rfl⟩ := Option.map_eq_some_iff.mp hvalue
  exact survives_toText hkind v

/-- A number is read as it is. -/
lemma readDsnInt_of_saved {a : Attr} (hkind : a.kind = .number) :
    (L.machine P isValidDirectory uninitialised store).readDsnInt dsn a =
      (config.text a).map (lexicalCastInt uninitialised) := by
  rw [Machine.readDsnInt, readDsnString_of_kind hP h (by rw [hkind]; decide)]
  rfl

/-- An attribute comes back exactly under its condition. -/
lemma readDsnValue_eq_iff {a : Attr} (hdriver : a ≠ .driver) (hdsn : a ≠ .dsn) :
    (L.machine P isValidDirectory uninitialised store).readDsnValue dsn a = config a ↔
      ComesBack P isValidDirectory config a := by
  have hnumber (n : Option Int32) :
      (n.map int32ToText).map (lexicalCastInt uninitialised) = n := by
    cases n with
    | none => rfl
    | some n => exact congrArg some (lexicalCastInt_int32ToText uninitialised n)
  have htext (v : Option Text) : v.map (Attr.Kind.toText .text) = v := by
    cases v <;> rfl
  have hint {b : Attr} (hkind : b.kind = .number) :
      (L.machine P isValidDirectory uninitialised store).readDsnInt dsn b =
        (config.text b).map (lexicalCastInt uninitialised) :=
    readDsnInt_of_saved hP h hkind
  have hstring : (L.machine P isValidDirectory uninitialised store).readDsnString dsn a =
      config.text a ↔ ∀ value, config.text a = some value → Survives P value := by
    rw [readDsnString_of_saved hP h hdriver hdsn]
    exact filter_bufferedText_iff _
  cases a with
  | driver => exact absurd rfl hdriver
  | dsn => exact absurd rfl hdsn
  | reqTimeout => exact iff_of_true ((hint rfl).trans (hnumber _)) trivial
  | maxRetryCountClient => exact iff_of_true ((hint rfl).trans (hnumber _)) trivial
  | maxConnections => exact iff_of_true ((hint rfl).trans (hnumber _)) trivial
  | maxRowPerPage => exact iff_of_true ((hint rfl).trans (hnumber _)) trivial
  | connectionTimeout =>
    have hrequest := (@hint .reqTimeout rfl).trans (hnumber _)
    have hconnection := (@hint .connectionTimeout rfl).trans (hnumber _)
    rw [Machine.readDsnValue, hrequest, hconnection, ComesBack]
    cases config .reqTimeout <;> cases config .connectionTimeout <;> simp
  | authType =>
    refine iff_of_true ?_ trivial
    rw [Machine.readDsnValue, readDsnString_of_kind hP h (by decide), Configuration.text]
    cases hvalue : config .authType with
    | none => rfl
    | some v => cases v <;> rfl
  | logLevel =>
    rw [Machine.readDsnValue, readDsnString_of_kind hP h (by decide), Configuration.text, ComesBack]
    cases hvalue : config .logLevel with
    | none => simp
    | some v => cases v <;> decide
  | logPath =>
    -- what is read is also checked
    have hpath : config.text .logPath = config .logPath := htext _
    rw [readDsnString_of_saved hP h hdriver hdsn, hpath] at hstring
    rw [Machine.readDsnValue, readDsnString_of_saved hP h hdriver hdsn, hpath, ComesBack]
    constructor
    · intro hread path hvalue
      have hvalid := hvalue
      rw [← hread, Option.filter_eq_some_iff] at hvalid
      have hsame : ((config .logPath).map (bufferedText P)).filter (· ≠ unique) = config .logPath :=
        hvalid.1.trans hvalue.symm
      exact ⟨hstring.mp hsame path hvalue, hvalid.2⟩
    · intro hback
      rw [hstring.mpr fun path hvalue => (hback path hvalue).1]
      cases hvalue : config .logPath with
      | none => rfl
      | some path => exact if_pos (hback path hvalue).2
  | _ => exact (Eq.congr_right (htext _).symm).trans hstring

end Back
/-! ## Runs of requests -/

section Runs

variable (L : Installer) (P : Platform) (isValidDirectory : Text → Bool) (uninitialised : Int32)

/-- A name that is changed is saved under its new name and then removed under its old one. -/
lemma last_configDSN {s s' : SavedNames L} {r : DsnRequest} {given loaded : Configuration}
    {records : List DiagnosticRecord} (hreq : r.req = .configDsn)
    (hgiven : ConnectionStringParser.parseConfigAttributes isValidDirectory r.attributes .new =
      some (given, records))
    (hloaded : r.window (given.readDsnConfiguration
      (L.machine P isValidDirectory uninitialised s.store) given.getDsn) = some loaded)
    (hconfig : s.configDSN P isValidDirectory uninitialised r = some (true, s')) :
    s'.last (L.fold (Utility.wideString P loaded.getDsn)) =
      if loaded.getDsn ≠ given.getDsn ∧
        L.fold (Utility.wideString P loaded.getDsn) = L.fold (Utility.wideString P given.getDsn)
      then .removed else .saved loaded := by
  simp only [SavedNames.configDSN, hgiven, Option.map_some, hreq, hloaded, Option.some.injEq]
    at hconfig
  split at hconfig
  · rcases hregister : L.registerDsn P loaded r.driver s.store with ⟨ok, store'⟩
    simp only [SavedNames.registerDsn, SavedNames.done, hregister] at hconfig
    cases ok with
    | false => exact absurd (congrArg Prod.fst hconfig) (by simp)
    | true =>
      dsimp only at hconfig
      split at hconfig
      · next hne =>
        rcases hremove : L.unregisterDsn P given.getDsn store' with ⟨ok', store''⟩
        simp only [SavedNames.unregisterDsn, SavedNames.done, hremove, Prod.mk.injEq] at hconfig
        obtain ⟨rfl, rfl⟩ := hconfig
        by_cases hsame : L.fold (Utility.wideString P loaded.getDsn) =
            L.fold (Utility.wideString P given.getDsn)
        · simp [hsame, hne]
        · simp [hsame]
      · next hne =>
        obtain rfl := congrArg Prod.snd hconfig
        simp [hne]
  · exact absurd (congrArg Prod.fst hconfig) (by simp)

/-- In every state that requests lead to, a connection reads under a name what was saved under it last,
attribute by attribute exactly under the conditions for it, and nothing once it was removed. A name
that is changed to one that the library does not tell apart from it is removed. -/
theorem readsSaved_run (hP : P.sqlWcharSize ≤ P.wcharSize) {rs : List DsnRequest} {store : L.Store}
    {s : SavedNames L}
    (hrun : TransitionSystem.run (SavedNames.step P isValidDirectory uninitialised) (.new store) rs =
      some s) :
    (∀ dsn, L.fold (Utility.wideString P dsn) ≠ L.listing →
      let machine := L.machine P isValidDirectory uninitialised s.store
      (s.last (L.fold (Utility.wideString P dsn)) = .removed →
        ∀ config : Configuration, config.readDsnConfiguration machine dsn = config) ∧
      ∀ saved, s.last (L.fold (Utility.wideString P dsn)) = .saved saved →
        ∀ a, a ≠ .driver → a ≠ .dsn →
          (Configuration.new.readDsnConfiguration machine dsn a = saved a ↔
            ComesBack P isValidDirectory saved a)) ∧
    ∀ r given records loaded s', r.req = .configDsn →
      ConnectionStringParser.parseConfigAttributes isValidDirectory r.attributes .new =
        some (given, records) →
      r.window (given.readDsnConfiguration (L.machine P isValidDirectory uninitialised s.store)
        given.getDsn) = some loaded →
      s.configDSN P isValidDirectory uninitialised r = some (true, s') →
        s'.last (L.fold (Utility.wideString P loaded.getDsn)) =
          if loaded.getDsn ≠ given.getDsn ∧
            L.fold (Utility.wideString P loaded.getDsn) = L.fold (Utility.wideString P given.getDsn)
          then .removed else .saved loaded := by
  have hinv : s.Inv P := by
    refine TransitionSystem.invariant_run (fun s r s' hs hstep => SavedNames.Inv.step hs hstep) ?_ hrun
    exact fun _ _ => trivial
  refine ⟨fun dsn hlisting => ⟨fun hlast config => ?_, fun saved hlast a hdriver hdsn => ?_⟩,
    fun r given records loaded s' hreq hgiven hloaded hconfig => ?_⟩
  · have hholds := hinv _ hlisting
    rw [hlast] at hholds
    exact readDsnConfiguration_of_removed hholds config
  · have hholds := hinv _ hlisting
    rw [hlast] at hholds
    rw [Configuration.readDsnConfiguration_of_none rfl]
    exact readDsnValue_eq_iff hP hholds hdriver hdsn
  · exact last_configDSN L P isValidDirectory uninitialised hreq hgiven hloaded hconfig

end Runs

/-- A store that a function gives, in which every call succeeds. -/
def sampleInstaller : Installer where
  Store := List ℕ → List ℕ → Option (List ℕ)
  entry store dsn key := store (dsn.map toLowerUnit) (key.map toLowerUnit)
  sqlValidDSN _ := true
  sqlWriteDSNToIni store dsn driver :=
    (true, Function.update store (dsn.map toLowerUnit)
      (Function.update (fun _ => none) ("driver".toList.map Char.toNat) (some driver)))
  sqlWritePrivateProfileString store dsn key value :=
    (true, Function.update store (dsn.map toLowerUnit)
      (Function.update (store (dsn.map toLowerUnit)) (key.map toLowerUnit) (some value)))
  sqlRemoveDSNFromIni store dsn := (true, Function.update store (dsn.map toLowerUnit) fun _ => none)
  fold name := name.map toLowerUnit
  listing := "odbc data sources".toList.map Char.toNat
  fold_eq_iff _ _ := Iff.rfl
  entry_congr store _ _ key h := congrArg (fun name => store name (key.map toLowerUnit)) h
  entry_sqlWriteDSNToIni store dsn key driver _ _ hkey := by
    have hne : key.map toLowerUnit ≠ "driver".toList.map Char.toNat := hkey
    simp only [Function.update_self, Function.update_of_ne hne]
  entry_sqlWriteDSNToIni_of_ne store dsn dsn' driver key _ hne := by
    simp only [Function.update_of_ne hne]
  entry_sqlWritePrivateProfileString store dsn key value _ := by
    simp only [Function.update_self]
  entry_sqlWritePrivateProfileString_of_key_ne store dsn key key' value _ hne := by
    simp only [Function.update_self, Function.update_of_ne hne]
  entry_sqlWritePrivateProfileString_of_ne store dsn dsn' key value key' hne := by
    simp only [Function.update_of_ne hne]
  entry_sqlRemoveDSNFromIni store dsn key _ _ := by
    simp only [Function.update_self]
  entry_sqlRemoveDSNFromIni_of_ne store dsn dsn' key _ hne := by
    simp only [Function.update_of_ne hne]

/-- A configuration with a connection timeout and no request timeout. -/
def sampleConfig : Configuration :=
  (((Configuration.new.set .dsn "a".toList).set .uid "b".toList).set .connectionTimeout 5)

/-- The user name comes back, the connection timeout does not. -/
theorem readsSaved_run_sampleConfig : ∃ s : SavedNames sampleInstaller,
    s.last (sampleInstaller.fold (Utility.wideString samplePlatform "a".toList)) =
      .saved sampleConfig ∧
    ∀ a, a ≠ .driver → a ≠ .dsn →
      (Configuration.new.readDsnConfiguration
          (sampleInstaller.machine samplePlatform (fun _ => true) 0 s.store) "a".toList a =
        sampleConfig a ↔ ComesBack samplePlatform (fun _ => true) sampleConfig a) := by
  have hrun : TransitionSystem.run (SavedNames.step samplePlatform (fun _ => true) 0)
      (.new (L := sampleInstaller) fun _ _ => none)
      [⟨.addDsn, "d".toList, "\x00\x00".toList, fun _ => some sampleConfig⟩] =
      some ((SavedNames.registerDsn samplePlatform sampleConfig "d".toList
        (.new (L := sampleInstaller) fun _ _ => none)).2) := rfl
  have hlast : (SavedNames.registerDsn samplePlatform sampleConfig "d".toList
      (.new (L := sampleInstaller) fun _ _ => none)).2.last
        (sampleInstaller.fold (Utility.wideString samplePlatform "a".toList)) =
      .saved sampleConfig := by
    have hok : (sampleInstaller.registerDsn samplePlatform sampleConfig "d".toList
        fun _ _ => none).1 = true := rfl
    exact SavedNames.last_done samplePlatform "a".toList _ _ hok
  have hreads := (readsSaved_run sampleInstaller samplePlatform (fun _ => true) 0 (by decide) hrun).1
    "a".toList (by decide)
  exact ⟨_, hlast, hreads.2 sampleConfig hlast⟩

end TimestreamOdbc
