import TimestreamOdbc.Config.NumericAttributes
import TimestreamOdbc.Config.RoundTrip
import TimestreamOdbc.Config.SegmentLaw
import TimestreamOdbc.DsnConfig

/-!
# Explicit values, data source names and defaults

An attribute that is given explicitly keeps its value, one that is not takes the value that its own
key has in the data source name, and one that has neither stays unset.  `ReadDsnConfiguration` does
this but for an explicit profile name that is empty, a connection timeout, which is read by the
guard of the request timeout, a log path that is no directory, and the name and the driver, which it
does not read.

The same text means the same to the connection string and to the data source name only as far as
both understand it: the connection string checks its values, and the data source name stores
whatever a cast makes of them.
-/

namespace TimestreamOdbc

open RightScan ConnectionStringParser

/-! ## The merge -/

/-- The marker that `ReadDsnString` passes as a default. -/
def unique : Text := "35a920dd-8837-43d2-a846-e01a2e7b5f84".toList

/-- What `ReadDsnConfiguration` makes of a text that the store has for a key. -/
def Attr.Kind.ofDsnText (uninitialised : Int32) : (k : Attr.Kind) → Text → k.Value
  | .text, s => s
  | .number, s => lexicalCastInt uninitialised s
  | .authType, s => AuthType.fromString s .awsProfile
  | .logLevel, s => LogLevel.fromString s .warningLevel

namespace Machine

variable (machine : Machine) (dsn : Text)

/-- The value that the store has for an attribute under its own key. -/
def dsnValue (a : Attr) : Option a.Value :=
  (machine.readDsnString dsn a).map (a.kind.ofDsnText machine.uninitialised)

/-- A text is stored as it is. -/
lemma map_ofDsnText_text (uninitialised : Int32) (s : Option Text) :
    s.map (Attr.Kind.text.ofDsnText uninitialised) = s := by
  cases s <;> rfl

/-- The attributes with a guard that names them and nothing else. -/
def PlainGuard : Attr → Prop
  | .dsn | .driver | .connectionTimeout | .profileName | .logPath => False
  | _ => True

/-- A plain guard reads the value of the attribute under its own key. -/
lemma readDsnValue_of_plainGuard {a : Attr} (h : PlainGuard a) :
    machine.readDsnValue dsn a = machine.dsnValue dsn a := by
  cases a with
  | dsn | driver | connectionTimeout | profileName | logPath => exact h.elim
  | reqTimeout | maxRetryCountClient | maxConnections | maxRowPerPage | authType | logLevel => rfl
  | _ => exact (map_ofDsnText_text _ _).symm

end Machine

namespace Configuration

variable (machine : Machine) (dsn : Text) (cfg : Configuration)

/-- The value that an attribute has after the merge is the explicit one, else that of its own key in
the store, else none. -/
def MergesAt (a : Attr) : Prop :=
  readDsnConfiguration machine dsn cfg a = (cfg a).or (machine.dsnValue dsn a)

/-- When the guard of an attribute is about that attribute: it is about an explicit profile name
that is empty, about the request timeout for the connection timeout, about the directory for the log
path, and there is none for the name and the driver. -/
def MergeGuard : Attr → Prop
  | .dsn => cfg .dsn = none → machine.readDsnString dsn .dsn = none
  | .driver => cfg .driver = none → machine.readDsnString dsn .driver = none
  | .connectionTimeout => cfg .connectionTimeout = none →
    ((machine.readDsnString dsn .reqTimeout).isSome ↔
      (machine.readDsnString dsn .connectionTimeout).isSome)
  | .profileName => cfg .profileName = some [] →
    ∀ name, machine.readDsnString dsn .profileName = some name → name = []
  | .logPath => cfg .logPath = none →
    ∀ path, machine.readDsnString dsn .logPath = some path → machine.isValidDirectory path
  | _ => True

variable {machine dsn cfg}

/-- An attribute that has a value stays as it is, unless it is a profile name. -/
lemma readDsnConfiguration_of_isSome {a : Attr} (ha : a ≠ .profileName) {v : a.Value}
    (h : cfg a = some v) : readDsnConfiguration machine dsn cfg a = some v := by
  rw [readDsnConfiguration_apply, h]
  have hset : cfg.isSet a = true := by
    cases a with
    | profileName => exact absurd rfl ha
    | _ => simp [isSet, h]
  rw [if_pos hset]

/-- An attribute without a value takes what `ReadDsnConfiguration` has for it. -/
lemma readDsnConfiguration_of_none {a : Attr} (h : cfg a = none) :
    readDsnConfiguration machine dsn cfg a = machine.readDsnValue dsn a := by
  rw [readDsnConfiguration_apply, isSet_of_none h, h, Option.or_none]
  rfl

/-- Whether the merge is as expected is a question about attributes that are not set, but for the
profile name. -/
lemma mergesAt_iff_of_ne {a : Attr} (ha : a ≠ .profileName) :
    MergesAt machine dsn cfg a ↔
      (cfg a = none → machine.readDsnValue dsn a = machine.dsnValue dsn a) := by
  unfold MergesAt
  cases hcfg : cfg a with
  | none => simp [readDsnConfiguration_of_none hcfg]
  | some v => simp [readDsnConfiguration_of_isSome ha hcfg]

/-- A profile name is merged unless it is given as empty and the store has another one. -/
lemma mergesAt_profileName :
    MergesAt machine dsn cfg .profileName ↔ MergeGuard machine dsn cfg .profileName := by
  have hvalue : machine.readDsnValue dsn .profileName = machine.readDsnString dsn .profileName := rfl
  have hown : machine.dsnValue dsn .profileName = machine.readDsnString dsn .profileName :=
    Machine.map_ofDsnText_text _ _
  unfold MergesAt MergeGuard
  rw [readDsnConfiguration_apply, hvalue, hown]
  cases hcfg : cfg .profileName with
  | none => simp [isSet_of_none hcfg]
  | some name =>
    cases name with
    | nil =>
      have hset : cfg.isSet .profileName = false := by
        simp [isSet, isProfileNameSet, getProfileName, hcfg]
      cases machine.readDsnString dsn .profileName <;> simp [hset]
    | cons c name =>
      have hset : cfg.isSet .profileName = true := by
        simp [isSet, isProfileNameSet, getProfileName, hcfg]
      simp [hset]

/-- An attribute that is not read is merged when the store does not have it. -/
lemma readDsnValue_none_iff {a : Attr} (h : machine.readDsnValue dsn a = none) :
    machine.readDsnValue dsn a = machine.dsnValue dsn a ↔ machine.readDsnString dsn a = none := by
  rw [h, Machine.dsnValue, eq_comm, Option.map_eq_none_iff]

/-- The connection timeout is merged when the store has either both timeouts or none of them. -/
lemma readDsnValue_connectionTimeout_iff :
    machine.readDsnValue dsn .connectionTimeout = machine.dsnValue dsn .connectionTimeout ↔
      ((machine.readDsnString dsn .reqTimeout).isSome ↔
        (machine.readDsnString dsn .connectionTimeout).isSome) := by
  unfold Machine.readDsnValue Machine.dsnValue Machine.readDsnInt
  cases machine.readDsnString dsn .reqTimeout <;>
    cases machine.readDsnString dsn .connectionTimeout <;> simp [Attr.Kind.ofDsnText]

/-- A log path is merged when it is a directory. -/
lemma readDsnValue_logPath_iff :
    machine.readDsnValue dsn .logPath = machine.dsnValue dsn .logPath ↔
      ∀ path, machine.readDsnString dsn .logPath = some path → machine.isValidDirectory path := by
  have hown : machine.dsnValue dsn .logPath = machine.readDsnString dsn .logPath :=
    Machine.map_ofDsnText_text _ _
  rw [hown]
  unfold Machine.readDsnValue
  cases machine.readDsnString dsn .logPath <;> simp [Option.filter_some]

/-- Every attribute is merged as expected exactly under its guard. -/
lemma mergesAt_iff_mergeGuard (a : Attr) :
    MergesAt machine dsn cfg a ↔ MergeGuard machine dsn cfg a := by
  by_cases hprofile : a = .profileName
  · subst hprofile
    exact mergesAt_profileName
  rw [mergesAt_iff_of_ne hprofile]
  by_cases hplain : Machine.PlainGuard a
  · have hguard : MergeGuard machine dsn cfg a := by
      cases a <;> trivial
    simp only [hguard, iff_true]
    exact fun _ => machine.readDsnValue_of_plainGuard dsn hplain
  · cases a with
    | dsn => exact imp_congr_right fun _ => readDsnValue_none_iff rfl
    | driver => exact imp_congr_right fun _ => readDsnValue_none_iff rfl
    | connectionTimeout => exact imp_congr_right fun _ => readDsnValue_connectionTimeout_iff
    | logPath => exact imp_congr_right fun _ => readDsnValue_logPath_iff
    | profileName => exact absurd rfl hprofile
    | _ => exact absurd trivial hplain

/-- Every attribute is merged from its own value and its own key exactly under its guard, so that
under the guards no other value and no other key has an influence on it, and a second merge changes
nothing. -/
theorem mergesAt_iff (machine : Machine) (dsn : Text) (cfg : Configuration) :
    (∀ a, MergesAt machine dsn cfg a ↔ MergeGuard machine dsn cfg a) ∧
      (∀ dsnStore cfg' a, dsnStore dsn a.key = machine.dsnStore dsn a.key → cfg' a = cfg a →
        MergeGuard machine dsn cfg a → MergeGuard { machine with dsnStore } dsn cfg' a →
        readDsnConfiguration { machine with dsnStore } dsn cfg' a =
          readDsnConfiguration machine dsn cfg a) ∧
      readDsnConfiguration machine dsn (readDsnConfiguration machine dsn cfg) =
        readDsnConfiguration machine dsn cfg := by
  refine ⟨mergesAt_iff_mergeGuard, ?_, ?_⟩
  · intro dsnStore cfg' a hstore hcfg hguard hguard'
    have hmerge : MergesAt machine dsn cfg a := (mergesAt_iff_mergeGuard a).mpr hguard
    have hmerge' : MergesAt { machine with dsnStore } dsn cfg' a :=
      (mergesAt_iff_mergeGuard a).mpr hguard'
    unfold MergesAt at hmerge hmerge'
    have hvalue : Machine.dsnValue { machine with dsnStore } dsn a = machine.dsnValue dsn a := by
      unfold Machine.dsnValue Machine.readDsnString
      dsimp only
      rw [hstore]
    rw [hmerge, hmerge', hcfg, hvalue]
  · apply Configuration.ext
    intro a
    rw [readDsnConfiguration_apply machine dsn (readDsnConfiguration machine dsn cfg)]
    split
    · rfl
    · next hset =>
      rw [readDsnConfiguration_apply]
      split
      · next hcfg =>
        have hsame : readDsnConfiguration machine dsn cfg a = cfg a := by
          rw [readDsnConfiguration_apply, if_pos hcfg]
        exact absurd (isSet_congr hsame ▸ hcfg) hset
      · rw [← Option.or_assoc, Option.or_self]

/-- A data source name with a request timeout and no connection timeout sets the connection timeout
to 0. -/
theorem not_mergesAt_connectionTimeout :
    ¬ ∀ machine dsn cfg a, MergesAt machine dsn cfg a := by
  intro h
  have hmerge := h ⟨fun _ => true, fun _ key =>
    if key = "requesttimeout".toList then some "5000".toList else none, 0⟩ [] .new
    .connectionTimeout
  revert hmerge
  unfold MergesAt
  rw [readDsnConfiguration_apply]
  decide

end Configuration

/-! ## Two ways to give a value -/

/-- A text that stands in the connection string and in the store as it is: without a separator, an
`=` or a brace, without white space around it, and without NUL, which ends the text of a store. -/
structure PlainValue (v : Text) : Prop where
  plain : ∀ c ∈ v, c ≠ ';' ∧ c ≠ '=' ∧ c ≠ '{' ∧ c ≠ '}' ∧ c ≠ '\x00'
  trimmed : trim v = v

/-- The connection string `key=v` gives an attribute what a data source name with `v` under the key
gives it when nothing else is given: the same value or none. -/
def PathsAgree (machine : Machine) (dsn : Text) (a : Attr) (v : Text) : Prop :=
  (parseConnectionString machine.isValidDirectory (a.key ++ '=' :: v) .new).1 a =
    Configuration.readDsnConfiguration machine dsn (Configuration.new.set .dsn dsn) a

/-- The texts of the numbers from a smallest one on that fit into a signed number of 32 bits. -/
def DenotesInt32 (minimum : ℕ) (v : Text) : Prop :=
  v ≠ [] ∧ allDigits v ∧ v.length < sizeofString ∧ minimum ≤ Nat.ofDigitChars 10 v 0 ∧
    Nat.ofDigitChars 10 v 0 < 2 ^ 31

/-- The texts that both ways understand in the same way. -/
def MeansTheSame (machine : Machine) (dsn v : Text) : Attr → Prop
  | .dsn => v = dsn
  | .driver => False
  | .authType => v = unique ∨
    trim (toLower v) ∈ ["aws_profile".toList, "iam".toList, "aad".toList, "okta".toList]
  | .logLevel => v = unique ∨
    trim v ∈ ["4".toList, "3".toList, "2".toList, "1".toList, "0".toList]
  | .logPath => v = unique → machine.isValidDirectory v = false
  -- the store is asked for a connection timeout only when it has a request timeout
  | .connectionTimeout =>
    if (machine.readDsnString dsn .reqTimeout).isSome then v ≠ unique ∧ DenotesInt32 1 v
    else ¬ (v ≠ [] ∧ allDigits v ∧ v.length < sizeofString ∧ 1 ≤ Nat.ofDigitChars 10 v 0 ∧
      Nat.ofDigitChars 10 v 0 < 2 ^ 32)
  | .reqTimeout => v = unique ∨ DenotesInt32 1 v
  | .maxConnections => v = unique ∨ DenotesInt32 1 v
  | .maxRetryCountClient => v = unique ∨ DenotesInt32 0 v
  | .maxRowPerPage => v = unique ∨ DenotesInt32 0 v
  | _ => v ≠ unique

/-- A plain value is found in a connection string as it is. -/
lemma parseConnectionString_plain (isValidDirectory : Text → Bool) {v : Text} (h : PlainValue v)
    (a : Attr) :
    (parseConnectionString isValidDirectory (a.key ++ '=' :: v) .new).1 a =
      (acceptValue isValidDirectory (trim a.key) v a).toOption := by
  obtain ⟨hne, hsemi, hequals, hkey⟩ := ofKey_key a
  have hnul : '\x00' ∉ '=' :: v := by
    intro hmem
    rcases List.mem_cons.mp hmem with hmem | hmem
    · exact absurd hmem (by decide)
    · exact (h.plain _ hmem).2.2.2.2 rfl
  have hsegment : ';' ∉ a.key ++ '=' :: v := by
    intro hmem
    rcases List.mem_append.mp hmem with hmem | hmem
    · exact hsemi hmem
    · rcases List.mem_cons.mp hmem with hmem | hmem
      · exact absurd hmem (by decide)
      · exact (h.plain _ hmem).1 rfl
  have hbraces : ¬ InBraces v := fun hin => (h.plain _ (List.mem_of_mem_head? hin.1)).2.2.1 rfl
  have hpair : segmentPair (a.key ++ '=' :: v) = some (trim a.key, v) := by
    rw [segmentPair_append hne fun hmem => (h.plain _ hmem).2.1 rfl, h.trimmed, stripBraces,
      if_neg hbraces]
  unfold parseConnectionString parseAttributes
  rw [rdropWhile_nul (List.cons_ne_nil _ _) hnul, parseLoop_eq, List.splitOn_eq_singleton hsegment,
    handleSegments_apply, List.findSome?_cons, assigned, hpair]
  dsimp only
  rw [if_pos hkey]
  cases (acceptValue isValidDirectory (trim a.key) v a).toOption <;> rfl

/-- A text of digits is cast to the number it denotes, cut off at the largest one. -/
lemma lexicalCastInt_of_allDigits {v : Text} (hne : v ≠ []) (h : allDigits v)
    (uninitialised : Int32) :
    lexicalCastInt uninitialised v = Int32.ofInt (min (Nat.ofDigitChars 10 v 0) (2 ^ 31 - 1)) := by
  have hdigit : ∀ c ∈ v, c.isDigit := List.all_eq_true.mp h
  obtain ⟨c, v, rfl⟩ := List.exists_cons_of_ne_nil hne
  have hc : c.isDigit := hdigit c List.mem_cons_self
  have hspace : isSpace c = false := by
    by_contra hspace
    simp only [isSpace, Bool.not_eq_false, Bool.or_eq_true, decide_eq_true_eq] at hspace
    rcases hspace with ((((rfl | rfl) | rfl) | rfl) | rfl) | rfl <;> exact absurd hc (by decide)
  have hltrim : ltrim (c :: v) = c :: v := List.dropWhile_cons_of_neg (by simp [hspace])
  have htake : (c :: v).takeWhile Char.isDigit = c :: v := List.takeWhile_eq_self_iff.mpr hdigit
  unfold lexicalCastInt
  rw [hltrim, if_neg (List.cons_ne_nil c v)]
  unfold readInt32
  split
  · next heq =>
    obtain rfl : c = '-' := (List.cons.inj heq).1
    exact absurd hc (by decide)
  · next heq =>
    obtain rfl : c = '+' := (List.cons.inj heq).1
    exact absurd hc (by decide)
  · rw [htake]

/-- The cast of the store and the cast of the connection string agree on a number that is accepted
when it fits into a signed number. -/
lemma ofNat_eq_ofInt_min_iff {n : ℕ} (h : n < 2 ^ 32) :
    Int32.ofNat n = Int32.ofInt (min n (2 ^ 31 - 1)) ↔ n < 2 ^ 31 := by
  have hcast : (Int32.ofInt (min (n : ℤ) (2 ^ 31 - 1))).toInt = min (n : ℤ) (2 ^ 31 - 1) := by
    apply Int32.toInt_ofInt_of_le <;> omega
  rw [← Int32.toInt_inj, hcast]
  constructor
  · intro heq
    by_contra hge
    have hsize : (Int32.size : ℤ) = 2 ^ 32 := rfl
    rw [Int32.toInt_ofNat', Int.bmod_def, hsize] at heq
    split at heq <;> omega
  · intro hlt
    rw [(toInt_ofNat_eq_iff h).mpr hlt]
    omega

/-- The connection string gives a numeric attribute what the cast of the store does when the text
denotes a number that both accept. -/
lemma toOption_numberValue_eq_some_iff (label : String) {minimum : ℕ} (key v : Text)
    (uninitialised : Int32) :
    (numberValue label minimum key v).toOption = some (lexicalCastInt uninitialised v) ↔
      DenotesInt32 minimum v := by
  unfold DenotesInt32
  rcases numberValue_cases label minimum key v with ⟨record, herror, hnot⟩ | ⟨hok, hvalue⟩
  · rw [herror]
    constructor
    · intro h
      cases h
    · rintro ⟨hne, hdigits, hlen, hmin, hmax⟩
      exact absurd ⟨hne, hdigits, hlen, hmin, by omega⟩ hnot
  · obtain ⟨hne, hdigits, hlen, hmin, hmax⟩ := hvalue
    rw [hok, lexicalCastInt_of_allDigits hne hdigits]
    simp only [Except.toOption, Option.some.injEq, ofNat_eq_ofInt_min_iff hmax]
    constructor
    · intro hlt
      exact ⟨hne, hdigits, hlen, hmin, hlt⟩
    · intro h
      exact h.2.2.2.2

/-- The connection string gives a numeric attribute no value when the text is not accepted. -/
lemma toOption_numberValue_eq_none_iff (label : String) {minimum : ℕ} (key v : Text) :
    (numberValue label minimum key v).toOption = none ↔
      ¬ (v ≠ [] ∧ allDigits v ∧ v.length < sizeofString ∧ minimum ≤ Nat.ofDigitChars 10 v 0 ∧
        Nat.ofDigitChars 10 v 0 < 2 ^ 32) := by
  rcases numberValue_cases label minimum key v with ⟨record, herror, hnot⟩ | ⟨hok, hvalue⟩
  · rw [herror]
    exact iff_of_true rfl hnot
  · rw [hok]
    exact iff_of_false (by simp [Except.toOption]) (not_not.mpr hvalue)

/-- An authentication type is given by both ways when its name is known. -/
lemma toOption_authTypeValue_eq_some_iff (v : Text) :
    (authTypeValue v).toOption = some (AuthType.fromString v .awsProfile) ↔
      trim (toLower v) ∈ ["aws_profile".toList, "iam".toList, "aad".toList, "okta".toList] := by
  unfold authTypeValue AuthType.fromString
  dsimp only
  generalize trim (toLower v) = name
  simp only [List.mem_cons, List.not_mem_nil, or_false]
  by_cases haws : name = "aws_profile".toList
  · simp [haws, Except.toOption]
  by_cases hiam : name = "iam".toList
  · simp [hiam, Except.toOption]
  by_cases haad : name = "aad".toList
  · simp [haad, Except.toOption]
  by_cases hokta : name = "okta".toList
  · simp [hokta, Except.toOption]
  · simp only [haws, hiam, haad, hokta, if_false, not_false_eq_true, and_self, if_true, ne_eq,
      or_self, iff_false, Except.toOption]
    exact fun h => by cases h

/-- A log level is given by both ways when its number is known. -/
lemma toOption_logLevelValue_eq_some_iff (v : Text) :
    (logLevelValue v).toOption = some (LogLevel.fromString v .warningLevel) ↔
      trim v ∈ ["4".toList, "3".toList, "2".toList, "1".toList, "0".toList] := by
  unfold logLevelValue LogLevel.fromString
  dsimp only
  generalize trim v = level
  simp only [List.mem_cons, List.not_mem_nil, or_false]
  by_cases h4 : level = "4".toList
  · simp [h4, Except.toOption]
  by_cases h3 : level = "3".toList
  · simp [h3, Except.toOption]
  by_cases h2 : level = "2".toList
  · simp [h2, Except.toOption]
  by_cases h1 : level = "1".toList
  · simp [h1, Except.toOption]
  by_cases h0 : level = "0".toList
  · simp [h0, Except.toOption]
  · simp only [h4, h3, h2, h1, h0, if_false, if_true, or_self, iff_false, Except.toOption]
    exact fun h => by cases h

/-- The store has a text under a key unless it is the marker. -/
lemma readDsnString_of_store {machine : Machine} {dsn : Text} {a : Attr} {v : Text}
    (h : machine.dsnStore dsn a.key = some v) :
    machine.readDsnString dsn a = if v = unique then none else some v := by
  have hfilter : machine.readDsnString dsn a = (some v).filter (· ≠ unique) := by
    unfold Machine.readDsnString unique
    rw [h]
  rw [hfilter, Option.filter_some]
  by_cases hv : v = unique <;> simp [hv]

/-- The two ways agree when what the connection string accepts is what `ReadDsnConfiguration` has
for the attribute. -/
lemma pathsAgree_iff_of_ne {machine : Machine} {dsn : Text} {a : Attr} (ha : a ≠ .dsn) {v : Text}
    (hv : PlainValue v) :
    PathsAgree machine dsn a v ↔
      (acceptValue machine.isValidDirectory (trim a.key) v a).toOption =
        machine.readDsnValue dsn a := by
  have hunset : Configuration.new.set .dsn dsn a = none := Configuration.new.set_of_ne dsn ha
  unfold PathsAgree
  rw [parseConnectionString_plain machine.isValidDirectory hv,
    Configuration.readDsnConfiguration_of_none hunset]

/-- A numeric attribute that is read by its own guard is given by both ways when both accept the
number. -/
lemma numbers_agree_iff (label : String) (minimum : ℕ) (key v : Text) (uninitialised : Int32) :
    (numberValue label minimum key v).toOption =
        (if v = unique then none else some v).map (lexicalCastInt uninitialised) ↔
      v = unique ∨ DenotesInt32 minimum v := by
  by_cases hv : v = unique
  · rw [if_pos hv, Option.map_none, toOption_numberValue_eq_none_iff]
    refine iff_of_true ?_ (.inl hv)
    rintro ⟨-, hdigits, -⟩
    exact absurd (hv ▸ hdigits) (by decide)
  · rw [if_neg hv, Option.map_some, toOption_numberValue_eq_some_iff]
    exact (or_iff_right hv).symm

/-- A connection timeout is given by both ways when both accept the number and the store has a
request timeout, or when the connection string rejects it and the store has none. -/
lemma connectionTimeouts_agree_iff {machine : Machine} {dsn v : Text}
    (hstore : machine.dsnStore dsn Attr.connectionTimeout.key = some v) (label : String)
    (key : Text) :
    (numberValue label 1 key v).toOption = machine.readDsnValue dsn .connectionTimeout ↔
      MeansTheSame machine dsn v .connectionTimeout := by
  have hread := readDsnString_of_store hstore
  unfold MeansTheSame Machine.readDsnValue Machine.readDsnInt
  rw [Option.isSome_map, hread]
  by_cases hreq : (machine.readDsnString dsn .reqTimeout).isSome
  · rw [if_pos hreq, if_pos hreq]
    by_cases hv : v = unique
    · have hnone : (numberValue label 1 key v).toOption = none := by
        rw [toOption_numberValue_eq_none_iff]
        rintro ⟨-, hdigits, -⟩
        exact absurd (hv ▸ hdigits) (by decide)
      rw [hnone]
      exact iff_of_false (fun h => by cases h) fun h => h.1 hv
    · rw [if_neg hv, Option.map_some, Option.getD_some, toOption_numberValue_eq_some_iff]
      exact (and_iff_right hv).symm
  · rw [if_neg hreq, if_neg hreq, toOption_numberValue_eq_none_iff]

/-- The connection string and the data source name give an attribute the same for a plain text
exactly when the text means the same to both. -/
theorem pathsAgree_iff (machine : Machine) (dsn : Text) (a : Attr) {v : Text} (hv : PlainValue v)
    (hstore : machine.dsnStore dsn a.key = some v) :
    PathsAgree machine dsn a v ↔ MeansTheSame machine dsn v a := by
  have hread := readDsnString_of_store hstore
  by_cases hdsn : a = .dsn
  · subst hdsn
    have hset : Configuration.readDsnConfiguration machine dsn (Configuration.new.set .dsn dsn) .dsn =
        some dsn :=
      Configuration.readDsnConfiguration_of_isSome (by decide) (Configuration.new.set_self .dsn dsn)
    unfold PathsAgree MeansTheSame
    rw [parseConnectionString_plain machine.isValidDirectory hv, hset]
    exact Option.some_inj
  rw [pathsAgree_iff_of_ne hdsn hv]
  cases a with
  | dsn => exact absurd rfl hdsn
  | driver => exact iff_of_false (fun h => by cases h) id
  | connectionTimeout => exact connectionTimeouts_agree_iff hstore _ _
  | reqTimeout | maxRetryCountClient | maxConnections | maxRowPerPage =>
    simp only [Machine.readDsnValue, Machine.readDsnInt, hread]
    exact numbers_agree_iff _ _ _ v machine.uninitialised
  | authType =>
    simp only [Machine.readDsnValue, hread, MeansTheSame]
    by_cases hu : v = unique
    · rw [hu]
      exact iff_of_true rfl (.inl rfl)
    · rw [if_neg hu, Option.map_some, or_iff_right hu]
      exact toOption_authTypeValue_eq_some_iff v
  | logLevel =>
    simp only [Machine.readDsnValue, hread, MeansTheSame]
    by_cases hu : v = unique
    · rw [hu]
      exact iff_of_true rfl (.inl rfl)
    · rw [if_neg hu, Option.map_some, or_iff_right hu]
      exact toOption_logLevelValue_eq_some_iff v
  | logPath =>
    simp only [Machine.readDsnValue, hread, MeansTheSame, acceptValue]
    by_cases hu : v = unique <;> by_cases hvalid : machine.isValidDirectory v <;>
      simp [hu, hvalid, Except.toOption, Option.filter_some] <;> simp_all
  | _ =>
    simp only [Machine.readDsnValue, hread, MeansTheSame]
    by_cases hu : v = unique
    · rw [if_pos hu]
      exact iff_of_false (fun h => by cases h) (not_not.mpr hu)
    · rw [if_neg hu]
      exact iff_of_true rfl hu

/-- The store of the examples: one data source name with one value. -/
def oneValue (a : Attr) (v : Text) : Machine where
  isValidDirectory := fun _ => true
  dsnStore := fun dsn key => if dsn = "Name".toList ∧ key = a.key then some v else none
  uninitialised := 0

/-- A request timeout of five seconds means the same to both. -/
theorem pathsAgree_timeout :
    PathsAgree (oneValue .reqTimeout "5000".toList) "Name".toList .reqTimeout "5000".toList := by
  have hv : PlainValue "5000".toList := ⟨by simp, by decide⟩
  have hstore : (oneValue .reqTimeout "5000".toList).dsnStore "Name".toList Attr.reqTimeout.key =
      some "5000".toList := by
    simp [oneValue]
  refine (pathsAgree_iff _ _ _ hv hstore).mpr (.inr ?_)
  unfold DenotesInt32
  decide

/-- A request timeout that is no number is refused by the connection string and stored by the data
source name. -/
theorem not_pathsAgree_not_a_number :
    ¬ PathsAgree (oneValue .reqTimeout "soon".toList) "Name".toList .reqTimeout "soon".toList := by
  have hunset : Configuration.new.set .dsn "Name".toList .reqTimeout = none := rfl
  unfold PathsAgree parseConnectionString parseAttributes
  rw [parseLoop_eq, Configuration.readDsnConfiguration_of_none hunset]
  decide

end TimestreamOdbc
