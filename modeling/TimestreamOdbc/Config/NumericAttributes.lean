import TimestreamOdbc.Config.ConnectionStringParser

/-!
# Numeric attributes

The five numeric attributes of a connection string are checked against the bounds of an unsigned
number of 32 bits and stored as a signed one.  A value from 2147483648 to 4294967295 is accepted
without a record, and what is stored is the negative number with the same bits.
-/

namespace TimestreamOdbc

/-- The number that a value of a numeric attribute is. -/
def Attr.Kind.number? : (k : Attr.Kind) → k.Value → Option ℤ
  | .number, v => some v.toInt
  | .text, _ | .authType, _ | .logLevel, _ => none

/-- The smallest number that is accepted for an attribute. -/
def Attr.minimum : Attr → ℕ
  | .reqTimeout | .connectionTimeout | .maxConnections => 1
  | _ => 0

namespace ConnectionStringParser

/-- What is expected of a numeric attribute: a value that is accepted without a record is stored as
the number its digits denote, and one that is not leaves the configuration as it was. -/
structure StoresExactly (isValidDirectory : Text → Bool) (a : Attr) (key value : Text)
    (cfg : Configuration) : Prop where
  accepted : (handleAttributePair isValidDirectory key value cfg).2 = [] →
    ∃ v : a.Value, (handleAttributePair isValidDirectory key value cfg).1 = cfg.set a v ∧
      value ≠ [] ∧ allDigits value ∧ a.kind.number? v = some (Nat.ofDigitChars 10 value 0 : ℤ)
  rejected : (handleAttributePair isValidDirectory key value cfg).2 ≠ [] →
    (handleAttributePair isValidDirectory key value cfg).1 = cfg

/-- The values that are accepted and do not fit into a signed number of 32 bits. -/
def Wraps (value : Text) : Prop :=
  allDigits value ∧ value.length < sizeofString ∧
    2 ^ 31 ≤ Nat.ofDigitChars 10 value 0 ∧ Nat.ofDigitChars 10 value 0 < 2 ^ 32

/-- A value is either rejected with a record, or its digits denote a number in the range that is
accepted and it is stored as that many bits. -/
lemma numberValue_cases (label : String) (minimum : ℕ) (key value : Text) :
    (∃ record, numberValue label minimum key value = .error [record] ∧
        ¬ (value ≠ [] ∧ allDigits value ∧ value.length < sizeofString ∧
          minimum ≤ Nat.ofDigitChars 10 value 0 ∧ Nat.ofDigitChars 10 value 0 < 2 ^ 32)) ∨
      numberValue label minimum key value = .ok (Int32.ofNat (Nat.ofDigitChars 10 value 0)) ∧
        value ≠ [] ∧ allDigits value ∧ value.length < sizeofString ∧
          minimum ≤ Nat.ofDigitChars 10 value 0 ∧ Nat.ofDigitChars 10 value 0 < 2 ^ 32 := by
  unfold numberValue
  by_cases hnil : value = []
  · exact .inl ⟨_, if_pos hnil, fun h => h.1 hnil⟩
  rw [if_neg hnil]
  by_cases hdigits : allDigits value
  swap
  · exact .inl ⟨_, if_pos hdigits, fun h => hdigits h.2.1⟩
  rw [if_neg (not_not.mpr hdigits)]
  by_cases hlen : sizeofString ≤ value.length
  · exact .inl ⟨_, if_pos hlen, fun h => absurd h.2.2.1 (by omega)⟩
  rw [if_neg hlen]
  have hread : readInt64 value = min (Nat.ofDigitChars 10 value 0) (2 ^ 63 - 1) := rfl
  by_cases hrange : readInt64 value < minimum ∨ 4294967295 < readInt64 value
  · refine .inl ⟨_, if_pos hrange, ?_⟩
    rintro ⟨-, -, -, hmin, hmax⟩
    omega
  · right
    have hexact : readInt64 value = Nat.ofDigitChars 10 value 0 := by omega
    rw [if_neg hrange, hexact]
    exact ⟨rfl, hnil, hdigits, by omega, by omega, by omega⟩

/-- A number below 2147483648 is the number stored for it. -/
lemma toInt_ofNat_eq_iff {n : ℕ} (h : n < 2 ^ 32) : (Int32.ofNat n).toInt = n ↔ n < 2 ^ 31 := by
  have hsize : (Int32.size : ℤ) = 2 ^ 32 := rfl
  rw [Int32.toInt_ofNat', Int.bmod_def, hsize]
  split <;> omega

/-- The check of a numeric attribute is `numberValue` with its own label and bound. -/
lemma acceptValue_number (isValidDirectory : Text → Bool) {a : Attr} (h : a.kind = .number)
    (key value : Text) :
    ∃ label, (acceptValue isValidDirectory key value a).map a.kind.number? =
      (numberValue label a.minimum key value).map fun v => some v.toInt := by
  cases a with
  | reqTimeout => exact ⟨"Request Timeout", rfl⟩
  | connectionTimeout => exact ⟨"Connection Timeout", rfl⟩
  | maxRetryCountClient => exact ⟨"Max Retry Count Client", rfl⟩
  | maxConnections => exact ⟨"Max Connections", rfl⟩
  | maxRowPerPage => exact ⟨"Max Row Per Page", rfl⟩
  | _ => cases h

/-- The smallest number that is accepted is 0 or 1. -/
lemma minimum_le_one (a : Attr) : a.minimum ≤ 1 := by
  cases a <;> decide

/-- Writing over a number is not reported. -/
lemma rewritingRecords_number {a : Attr} (h : a.kind = .number) (cfg : Configuration) :
    rewritingRecords cfg a = [] := by
  cases a <;> first | rfl | cases h

/-- A numeric attribute is stored if its check accepts the value, and the records of the check are all. -/
lemma handleAttributePair_number (isValidDirectory : Text → Bool) {a : Attr} (h : a.kind = .number)
    {key : Text} (hkey : Attr.ofKey (toLower key) = some a) (value : Text) (cfg : Configuration) :
    handleAttributePair isValidDirectory key value cfg =
      match acceptValue isValidDirectory key value a with
      | .ok v => (cfg.set a v, [])
      | .error records => (cfg, records) := by
  unfold handleAttributePair
  rw [hkey]
  dsimp only
  rw [rewritingRecords_number h]
  rfl

/-- A numeric attribute is stored exactly or left alone, unless its value is from 2147483648 to
4294967295. -/
theorem storesExactly_iff (isValidDirectory : Text → Bool) {a : Attr} (hkind : a.kind = .number)
    {key : Text} (hkey : Attr.ofKey (toLower key) = some a) (value : Text) (cfg : Configuration) :
    StoresExactly isValidDirectory a key value cfg ↔ ¬ Wraps value := by
  obtain ⟨label, haccept⟩ := acceptValue_number isValidDirectory hkind key value
  have hmin := minimum_le_one a
  have hhandle := handleAttributePair_number isValidDirectory hkind hkey value cfg
  rcases numberValue_cases label a.minimum key value with ⟨record, herror, hnot⟩ | ⟨hok, hvalue⟩
  · -- a value that is rejected is none of those that wrap
    rw [herror] at haccept
    have hrejected : acceptValue isValidDirectory key value a = .error [record] := by
      cases hresult : acceptValue isValidDirectory key value a with
      | ok v => rw [hresult] at haccept; cases haccept
      | error records => rw [hresult] at haccept; exact congrArg _ (Except.error.inj haccept)
    rw [hrejected] at hhandle
    constructor
    · rintro - ⟨hdigits, hlen, hlow, hhigh⟩
      apply hnot
      refine ⟨?_, hdigits, hlen, by omega, hhigh⟩
      rintro rfl
      exact absurd hlow (by decide)
    · intro _
      refine ⟨fun hnil => ?_, fun _ => congrArg Prod.fst hhandle⟩
      rw [hhandle] at hnil
      cases hnil
  · rw [hok] at haccept
    obtain ⟨v, hv, hnumber⟩ : ∃ v, acceptValue isValidDirectory key value a = .ok v ∧
        a.kind.number? v = some (Int32.ofNat (Nat.ofDigitChars 10 value 0)).toInt := by
      cases hresult : acceptValue isValidDirectory key value a with
      | ok v => rw [hresult] at haccept; exact ⟨v, rfl, Except.ok.inj haccept⟩
      | error records => rw [hresult] at haccept; cases haccept
    obtain ⟨hnil, hdigits, hlen, hlow, hhigh⟩ := hvalue
    rw [hv] at hhandle
    have hwraps : ¬ Wraps value ↔ Nat.ofDigitChars 10 value 0 < 2 ^ 31 := by
      constructor
      · intro h
        by_contra hge
        exact h ⟨hdigits, hlen, by omega, hhigh⟩
      · rintro h ⟨-, -, hge, -⟩
        omega
    rw [hwraps, ← toInt_ofNat_eq_iff hhigh]
    constructor
    · rintro ⟨haccepted, -⟩
      obtain ⟨w, hset, -, -, hw⟩ := haccepted (congrArg Prod.snd hhandle)
      have hsame : some w = some v := by
        rw [← cfg.set_self a w, ← hset, hhandle]
        exact cfg.set_self a v
      rw [Option.some.inj hsame, hnumber] at hw
      exact Option.some.inj hw
    · intro hexact
      refine ⟨fun _ => ⟨v, congrArg Prod.fst hhandle, hnil, hdigits, ?_⟩, fun hne => ?_⟩
      · rw [hnumber, hexact]
      · exact absurd (congrArg Prod.snd hhandle) hne

/-- A timeout with leading zeros is stored as the number it denotes. -/
theorem storesExactly_leading_zeros :
    StoresExactly (fun _ => true) .reqTimeout "RequestTimeout".toList "0005000".toList .new :=
  (storesExactly_iff (fun _ => true) rfl rfl _ .new).mpr fun h => absurd h.2.2.1 (by decide)

/-- Four billion connections are accepted and stored as a negative number. -/
theorem not_storesExactly_four_billion :
    ¬ StoresExactly (fun _ => true) .maxConnections "MaxConnections".toList "4000000000".toList
      .new := by
  intro h
  obtain ⟨v, hset, -, -, hv⟩ := h.accepted rfl
  have hstored : some v = some (Int32.ofNat 4000000000) := by
    rw [← Configuration.new.set_self .maxConnections v, ← hset]
    rfl
  rw [Option.some.inj hstored] at hv
  revert hv
  decide

end ConnectionStringParser

end TimestreamOdbc
