import TimestreamOdbc.Config.ConnectionStringParser

/-!
# The round trip of a connection string

`ToConnectString` writes `key=value;` for every attribute that is set, with braces around a value
that contains a space, and nothing else is escaped.  `ParseConnectionString` cuts the text at every
`;`, takes the last `=` of a segment, trims white space and removes one pair of braces.

A value comes back exactly when none of this gets in its way: it is not empty, contains neither `;`
nor `=`, and either contains a space, so that it is written in braces, or has no white space and no
pair of braces around it.
-/

namespace TimestreamOdbc

open RightScan ConnectionStringParser

/-! ## Values -/

/-- The value as `ToConnectString` writes it. -/
def encodeValue (value : Text) : Text :=
  if ' ' ∉ value then value else '{' :: (value ++ ['}'])

/-- The value as `ParseConnectionString` reads it. -/
def decodeValue (value : Text) : Text := stripBraces (trim value)

/-- A value that `ToConnectString` can write so that `ParseConnectionString` reads it back. -/
structure Representable (value : Text) : Prop where
  ne_nil : value ≠ []
  semicolon : ';' ∉ value
  equals : '=' ∉ value
  plain : ' ' ∈ value ∨ trim value = value ∧ ¬ InBraces value

/-- A value in braces loses its braces. -/
lemma stripBraces_braces (value : Text) : stripBraces ('{' :: (value ++ ['}'])) = value := by
  have hlast : ('{' :: (value ++ ['}'])).getLast? = some '}' := by
    rw [← List.cons_append, List.getLast?_concat]
  unfold stripBraces
  rw [if_pos ⟨rfl, hlast⟩]
  simp

/-- A value in braces is not trimmed. -/
lemma trim_braces (value : Text) : trim ('{' :: (value ++ ['}'])) = '{' :: (value ++ ['}']) := by
  have hlast : ('{' :: (value ++ ['}'])).getLast? = some '}' := by
    rw [← List.cons_append, List.getLast?_concat]
  rw [trim_eq_self_iff, hlast]
  constructor
  · intro c hc
    obtain rfl : '{' = c := by simpa using hc
    decide
  · intro c hc
    obtain rfl : '}' = c := by simpa using hc
    decide

/-- Removing braces shortens a value in braces. -/
lemma length_stripBraces_lt {value : Text} (h : InBraces value) :
    (stripBraces value).length < value.length := by
  unfold stripBraces
  rw [if_pos h]
  cases value with
  | nil => cases h.1
  | cons c value =>
    simp only [List.length_take, List.length_drop, List.length_cons]
    omega

/-- A value is read as it was written exactly when it was written in braces or has nothing around
it that is removed. -/
lemma decodeValue_encodeValue_iff (value : Text) :
    decodeValue (encodeValue value) = value ↔
      ' ' ∈ value ∨ trim value = value ∧ ¬ InBraces value := by
  unfold encodeValue decodeValue
  by_cases hspace : ' ' ∈ value
  · rw [if_neg (not_not.mpr hspace), trim_braces, stripBraces_braces]
    exact ⟨fun _ => .inl hspace, fun _ => rfl⟩
  · rw [if_pos hspace, or_iff_right hspace]
    constructor
    · intro h
      have hlen := congrArg List.length h
      have hnot : ¬ InBraces (trim value) := by
        intro hbraces
        have hlt := length_stripBraces_lt hbraces
        have hle := length_trim_le value
        omega
      have hstrip : stripBraces (trim value) = trim value := if_neg hnot
      rw [hstrip] at h
      rw [h] at hnot
      exact ⟨h, hnot⟩
    · rintro ⟨htrim, hnot⟩
      rw [htrim]
      exact if_neg hnot

/-! ## What the parser makes of an attribute -/

/-- The numbers that the parser accepts for a numeric attribute; there is no restriction on other
attributes. -/
def Attr.InRange : (a : Attr) → a.Value → Prop
  | .reqTimeout, n | .connectionTimeout, n | .maxConnections, n => 1 ≤ Int32.toInt n
  | .maxRetryCountClient, n | .maxRowPerPage, n => 0 ≤ Int32.toInt n
  | _, _ => True

/-- The text of a number holds nothing but digits and a minus sign. -/
lemma mem_int32ToText {n : Int32} {c : Char} (h : c ∈ int32ToText n) : c = '-' ∨ c.isDigit := by
  unfold int32ToText at h
  split at h
  · rcases List.mem_cons.mp h with h | h
    · exact .inl h
    · exact .inr (Nat.isDigit_of_mem_toDigits (by decide) (by decide) h)
  · exact .inr (Nat.isDigit_of_mem_toDigits (by decide) (by decide) h)

/-- A text of digits and minus signs is representable unless it is empty. -/
lemma representable_of_digits {value : Text} (hne : value ≠ [])
    (hmem : ∀ c ∈ value, c = '-' ∨ c.isDigit) : Representable value := by
  have hspace : ∀ c ∈ value, ¬ isSpace c := by
    intro c hc hs
    simp only [isSpace, Bool.or_eq_true, decide_eq_true_eq] at hs
    rcases hs with ((((rfl | rfl) | rfl) | rfl) | rfl) | rfl <;>
      exact absurd (hmem _ hc) (by decide)
  have hnot : ∀ c, ¬ (c = '-' ∨ c.isDigit) → c ∉ value := fun c hc hmem' => hc (hmem c hmem')
  refine ⟨hne, hnot _ (by decide), hnot _ (by decide), .inr ⟨trim_eq_self_iff.mpr ⟨?_, ?_⟩, ?_⟩⟩
  · intro c hc
    exact hspace c (List.mem_of_mem_head? hc)
  · intro c hc
    exact hspace c (List.mem_of_mem_getLast? hc)
  · rintro ⟨hhead, -⟩
    exact hnot '{' (by decide) (List.mem_of_mem_head? hhead)

/-- The texts of values that are not texts themselves are representable. -/
lemma representable_toText {k : Attr.Kind} (h : k ≠ .text) (v : k.Value) :
    Representable (k.toText v) := by
  cases k with
  | text => exact absurd rfl h
  | number => exact representable_of_digits (int32ToText_ne_nil v) fun c hc => mem_int32ToText hc
  | authType => cases v <;> exact ⟨by decide, by decide, by decide, .inr (by decide)⟩
  | logLevel => cases v <;> exact ⟨by decide, by decide, by decide, .inr (by decide)⟩

/-- The value of a text attribute is the text that was accepted. -/
lemma toText_of_acceptValue {isValidDirectory : Text → Bool} {key value : Text} {a : Attr}
    (h : a.kind = .text) {v : a.Value} (hv : acceptValue isValidDirectory key value a = .ok v) :
    a.toText v = value := by
  cases a with
  | logPath =>
    change (if isValidDirectory value = true then Except.ok value else Except.error []) = .ok v at hv
    by_cases hvalid : isValidDirectory value = true
    · rw [if_pos hvalid] at hv
      exact (Except.ok.inj hv).symm
    · rw [if_neg hvalid] at hv
      cases hv
  | reqTimeout | connectionTimeout | maxRetryCountClient | maxConnections | maxRowPerPage
  | authType | logLevel => cases h
  | _ => exact (Except.ok.inj hv).symm

/-- A number is read back exactly when it is in the range that is accepted. -/
lemma numberValue_int32ToText_iff (label : String) (minimum : ℕ) (key : Text) (n : Int32) :
    numberValue label minimum key (int32ToText n) = .ok n ↔ (minimum : ℤ) ≤ n.toInt := by
  have hlt := n.toInt_lt
  unfold numberValue
  rw [if_neg (int32ToText_ne_nil n)]
  by_cases hneg : n.toInt < 0
  · have hdigits : ¬ allDigits (int32ToText n) = true := by
      rw [int32ToText, if_pos hneg]
      simp [allDigits]
    rw [if_pos hdigits]
    constructor
    · intro h
      cases h
    · intro h
      omega
  · have hlength : ¬ sizeofString ≤ (Nat.toDigits 10 n.toInt.toNat).length := by
      have hle := (Nat.length_toDigits_le_iff (b := 10) (n := n.toInt.toNat) (k := 10) (by decide)
        (by decide)).mpr (by omega)
      unfold sizeofString
      omega
    rw [int32ToText_of_nonneg (by omega), if_neg (not_not.mpr (allDigits_toDigits _)),
      if_neg hlength, readInt64_toDigits (by omega)]
    have hn : Int32.ofNat n.toInt.toNat = n := by
      rw [← Int32.ofInt_eq_ofNat, Int.toNat_of_nonneg (by omega), Int32.ofInt_toInt]
    by_cases hmin : (minimum : ℤ) ≤ n.toInt
    · rw [if_neg (by omega), hn]
      exact iff_of_true rfl hmin
    · rw [if_pos (by omega)]
      exact iff_of_false (by rintro ⟨⟩) hmin

/-- The text of a value that was set is accepted as that value exactly when it is in range. -/
lemma acceptValue_toText_iff {isValidDirectory : Text → Bool} {cfg : Configuration}
    (hcfg : cfg.BySetters isValidDirectory) {a : Attr} {v : a.Value} (hv : cfg a = some v)
    (key : Text) :
    acceptValue isValidDirectory key (a.toText v) a = .ok v ↔ a.InRange v := by
  cases a with
  | reqTimeout | connectionTimeout | maxConnections =>
    exact numberValue_int32ToText_iff _ 1 key v
  | maxRetryCountClient | maxRowPerPage => exact numberValue_int32ToText_iff _ 0 key v
  | authType =>
    refine iff_of_true ?_ trivial
    change authTypeValue (AuthType.toText v) = .ok v
    cases v <;> rfl
  | logLevel =>
    refine iff_of_true ?_ trivial
    change logLevelValue (LogLevel.toText v) = .ok v
    cases v with
    | unknown => exact absurd hv hcfg.logLevel_ne
    | _ => rfl
  | logPath =>
    refine iff_of_true ?_ trivial
    exact if_pos (hcfg.isValidDirectory hv)
  | _ => exact iff_of_true rfl trivial

/-! ## Segments -/

/-- The segment that `ToConnectString` writes for an attribute. -/
def segment (a : Attr) (value : Text) : Text := a.key ++ '=' :: encodeValue value

/-- The attributes that `ToConnectString` writes, with their texts. -/
def written (cfg : Configuration) : List (Attr × Text) :=
  Attr.byKey.filterMap fun a => ((cfg.text a).filter (· ≠ [])).map fun value => (a, value)

/-- What is written for an attribute is its text. -/
lemma mem_written {cfg : Configuration} {p : Attr × Text} (h : p ∈ written cfg) :
    cfg.text p.1 = some p.2 := by
  obtain ⟨a, -, ha⟩ := List.mem_filterMap.mp h
  obtain ⟨value, hvalue, rfl⟩ := Option.map_eq_some_iff.mp ha
  exact (Option.filter_eq_some_iff.mp hvalue).1

/-- The attributes that are written are different. -/
lemma nodup_written (cfg : Configuration) : ((written cfg).map Prod.fst).Nodup := by
  unfold written
  rw [List.map_filterMap]
  refine Attr.nodup_byKey.filterMap fun a b c ha hb => ?_
  simp only [Option.map_map, Option.mem_def, Option.map_eq_some_iff, Function.comp] at ha hb
  obtain ⟨-, -, rfl⟩ := ha
  obtain ⟨-, -, rfl⟩ := hb
  rfl

/-- `ToConnectString` writes a segment and a semicolon for each of these attributes. -/
lemma toConnectString_eq (cfg : Configuration) :
    cfg.toConnectString =
      (((written cfg).map fun p => segment p.1 p.2).map (· ++ [';'])).flatten := by
  unfold Configuration.toConnectString Configuration.toMap written
  induction Attr.byKey with
  | nil => rfl
  | cons a l ih =>
    cases htext : cfg.text a with
    | none => simpa [htext] using ih
    | some value =>
      by_cases hnil : value = []
      · simpa [htext, hnil, Configuration.connectStringEntry] using ih
      · have hentry : Configuration.connectStringEntry a.key value = segment a value ++ [';'] := by
          unfold Configuration.connectStringEntry segment encodeValue
          rw [if_neg hnil]
          split <;> simp
        simpa [htext, hnil, hentry] using ih

/-- The parser does not drop anything from the end of what `ToConnectString` writes. -/
lemma rdropWhile_toConnectString (cfg : Configuration) :
    (cfg.toConnectString.rdropWhile fun c => c = '\x00') = cfg.toConnectString := by
  rw [List.rdropWhile_eq_self_iff, toConnectString_eq]
  intro hne
  rcases List.eq_nil_or_concat ((written cfg).map fun p => segment p.1 p.2) with h | ⟨l, x, h⟩
  · exact absurd (by rw [h]; rfl) hne
  · simp [h]

/-- The keys are not touched by the parser, and contain neither `;` nor `=`. -/
lemma ofKey_key (a : Attr) : a.key ≠ [] ∧ ';' ∉ a.key ∧ '=' ∉ a.key ∧
    Attr.ofKey (toLower (trim a.key)) = some a := by
  have hkey : toLower (trim a.key) = a.key := by cases a <;> rfl
  have hfind : Attr.ofKey a.key = some a := by
    unfold Attr.ofKey
    simp only [Attr.key_injective.eq_iff]
    cases a <;> rfl
  refine ⟨?_, ?_, ?_, hkey.symm ▸ hfind⟩ <;> cases a <;> decide

/-- Encoding adds nothing but braces. -/
lemma mem_encodeValue {value : Text} {c : Char} (h : c ∈ encodeValue value) :
    c ∈ value ∨ c = '{' ∨ c = '}' := by
  unfold encodeValue at h
  split at h
  · exact .inl h
  · simp only [List.mem_cons, List.mem_append, List.not_mem_nil, or_false] at h
    tauto

/-- Decoding adds nothing. -/
lemma mem_of_mem_stripBraces {value : Text} {c : Char} (h : c ∈ stripBraces value) : c ∈ value := by
  unfold stripBraces at h
  split at h
  · exact List.mem_of_mem_drop (List.mem_of_mem_take h)
  · exact h

/-- The pair that the parser takes from the segment of an attribute. -/
lemma segmentPair_segment (a : Attr) {value : Text} (h : '=' ∉ value) :
    segmentPair (segment a value) = some (trim a.key, decodeValue (encodeValue value)) := by
  obtain ⟨hne, -, hkey, -⟩ := ofKey_key a
  have hencode : '=' ∉ encodeValue value := by
    intro hmem
    rcases mem_encodeValue hmem with hmem | hmem | hmem
    · exact h hmem
    · exact absurd hmem (by decide)
    · exact absurd hmem (by decide)
  exact segmentPair_append hne hencode

/-- A result is a value exactly when it is no error. -/
lemma toOption_eq_some_iff {ε α : Type} {x : Except ε α} {v : α} :
    x.toOption = some v ↔ x = .ok v := by
  cases x <;> simp [Except.toOption]

section RoundTrip

variable {isValidDirectory : Text → Bool} {cfg : Configuration}

/-- The segment of an attribute assigns to that attribute only. -/
lemma assigned_segment (a b : Attr) {value : Text} (h : '=' ∉ value) :
    assigned isValidDirectory a (segment b value) =
      if b = a then
        (acceptValue isValidDirectory (trim b.key) (decodeValue (encodeValue value)) a).toOption
      else none := by
  unfold assigned
  rw [segmentPair_segment b h]
  simp only [(ofKey_key b).2.2.2, Option.some.injEq]

/-- Texts without `;` are written as segments that the parser finds again. -/
lemma splitOn_toConnectString (h : ∀ a value, cfg.text a = some value → ';' ∉ value) :
    cfg.toConnectString.splitOn ';' =
      ((written cfg).map fun p => segment p.1 p.2) ++ [[]] := by
  rw [toConnectString_eq]
  refine splitOn_flatten_concat ';' fun piece hpiece => ?_
  obtain ⟨⟨a, value⟩, hmem, rfl⟩ := List.mem_map.mp hpiece
  have hvalue := h a value (mem_written hmem)
  obtain ⟨-, hkey, -, -⟩ := ofKey_key a
  unfold segment
  intro hsemi
  rcases List.mem_append.mp hsemi with hsemi | hsemi
  · exact hkey hsemi
  · rcases List.mem_cons.mp hsemi with hsemi | hsemi
    · exact absurd hsemi (by decide)
    · rcases mem_encodeValue hsemi with hsemi | hsemi | hsemi
      · exact hvalue hsemi
      · exact absurd hsemi (by decide)
      · exact absurd hsemi (by decide)

/-- The value that reading the written texts gives an attribute. -/
def readBack (isValidDirectory : Text → Bool) (cfg : Configuration) (a : Attr) :
    Option a.Value :=
  ((cfg.text a).filter (· ≠ [])).bind fun value =>
    (acceptValue isValidDirectory (trim a.key) (decodeValue (encodeValue value)) a).toOption

variable (isValidDirectory) in
/-- Texts without `;` and `=` are read back attribute by attribute. -/
lemma handleSegments_written (h : ∀ a value, cfg.text a = some value → '=' ∉ value) (l : List Attr)
    (a : Attr) :
    (((l.filterMap fun b => ((cfg.text b).filter (· ≠ [])).map fun value => (b, value)).map
      fun p => segment p.1 p.2).findSome? (assigned isValidDirectory a)) =
      if a ∈ l then readBack isValidDirectory cfg a else none := by
  induction l with
  | nil => rfl
  | cons b l ih =>
    rw [List.filterMap_cons]
    cases hvalue : (cfg.text b).filter (· ≠ []) with
    | none =>
      simp only [Option.map_none, ih, List.mem_cons]
      by_cases hab : a = b
      · have hread : readBack isValidDirectory cfg a = none := by
          rw [readBack, hab, hvalue]
          rfl
        simp [hread]
      · simp [hab]
    | some value =>
      have hequals := h b value (Option.filter_eq_some_iff.mp hvalue).1
      simp only [Option.map_some, List.map_cons, List.findSome?_cons, ih, List.mem_cons,
        assigned_segment a b hequals]
      by_cases hab : b = a
      · subst hab
        have hread : readBack isValidDirectory cfg b = (acceptValue isValidDirectory (trim b.key)
            (decodeValue (encodeValue value)) b).toOption := by
          rw [readBack, hvalue]
          rfl
        simp only [if_true, true_or, hread]
        cases (acceptValue isValidDirectory (trim b.key) (decodeValue (encodeValue value))
          b).toOption <;> simp
      · simp [hab, Ne.symm hab]

/-- The values of the parsed configuration contain neither `;` nor `=`. -/
lemma notMem_of_handleSegments {str : Text} {a : Attr} {v : a.Value}
    (h : (handleSegments isValidDirectory (str.splitOn ';') .new).1 a = some v) :
    ';' ∉ a.toText v ∧ '=' ∉ a.toText v := by
  by_cases hkind : a.kind = .text
  swap
  · have hrep := representable_toText hkind v
    exact ⟨hrep.semicolon, hrep.equals⟩
  rw [handleSegments_apply, Option.or_eq_some_iff] at h
  rcases h with h | ⟨-, h⟩
  swap
  · cases h
  obtain ⟨piece, hpiece, hassigned⟩ := List.exists_of_findSome?_eq_some h
  have hsemi : ';' ∉ piece := notMem_of_mem_splitOn hpiece
  unfold assigned segmentPair at hassigned
  cases hfind : rfind '=' piece with
  | none => simp [hfind] at hassigned
  | some j =>
    cases j with
    | zero => simp [hfind] at hassigned
    | succ i =>
      simp only [hfind] at hassigned
      split at hassigned
      swap
      · cases hassigned
      obtain ⟨pre, post, rfl, hpost, hlen⟩ := exists_of_rfind_eq_some hfind
      have hdrop : (pre ++ '=' :: post).drop (i + 2) = post := by
        have hd := @List.drop_length_add_append Char pre ('=' :: post) 1
        rw [hlen] at hd
        exact hd
      rw [hdrop] at hassigned
      rw [toText_of_acceptValue hkind (toOption_eq_some_iff.mp hassigned)]
      have hmem : ∀ c, c ∈ stripBraces (trim post) → c ∈ post := fun c hc =>
        mem_of_mem_trim (mem_of_mem_stripBraces hc)
      exact ⟨fun hc => hsemi (by simp [hmem _ hc]), fun hc => hpost (hmem _ hc)⟩

/-- The connection string that is written for a configuration is read as that configuration,
without a record. -/
def RoundTrips (isValidDirectory : Text → Bool) (cfg : Configuration) : Prop :=
  parseConnectionString isValidDirectory cfg.toConnectString .new = (cfg, [])

/-- What is read contains neither `;` nor `=`, so that what is read back as it was written does not
contain them either. -/
lemma RoundTrips.notMem (h : RoundTrips isValidDirectory cfg) {a : Attr} {v : a.Value}
    (hv : cfg a = some v) : ';' ∉ a.toText v ∧ '=' ∉ a.toText v := by
  have hcfg : (parseConnectionString isValidDirectory cfg.toConnectString .new).1 = cfg :=
    congrArg Prod.fst h
  rw [← hcfg] at hv
  unfold parseConnectionString parseAttributes at hv
  rw [parseLoop_eq] at hv
  exact notMem_of_handleSegments hv

variable (isValidDirectory) in
/-- Reading texts without `;` and `=` back gives each attribute what its own text gives. -/
lemma parse_apply (hsemi : ∀ a value, cfg.text a = some value → ';' ∉ value)
    (hequals : ∀ a value, cfg.text a = some value → '=' ∉ value) (a : Attr) :
    (parseConnectionString isValidDirectory cfg.toConnectString .new).1 a =
      readBack isValidDirectory cfg a := by
  unfold parseConnectionString parseAttributes
  rw [rdropWhile_toConnectString, parseLoop_eq, splitOn_toConnectString hsemi,
    handleSegments_apply, List.findSome?_append]
  have hread := handleSegments_written isValidDirectory hequals Attr.byKey a
  rw [if_pos (Attr.mem_byKey a)] at hread
  rw [written, hread]
  have hnil : [[]].findSome? (assigned isValidDirectory a) = none := rfl
  rw [hnil]
  simp [Configuration.new]

/-- Reading back the segments of different attributes whose values are accepted adds no record. -/
lemma records_nil {l : List (Attr × Text)} (hnodup : (l.map Prod.fst).Nodup)
    (hequals : ∀ p ∈ l, '=' ∉ p.2)
    (haccept : ∀ p ∈ l, ∃ v, acceptValue isValidDirectory (trim p.1.key)
      (decodeValue (encodeValue p.2)) p.1 = .ok v) :
    (handleSegments isValidDirectory ((l.map fun p => segment p.1 p.2) ++ [[]]) .new).2 = [] := by
  induction l with
  | nil => rfl
  | cons p l ih =>
    obtain ⟨hp, hnodup⟩ := List.nodup_cons.mp hnodup
    have hl := ih hnodup (fun q hq => hequals q (List.mem_cons_of_mem _ hq))
      fun q hq => haccept q (List.mem_cons_of_mem _ hq)
    obtain ⟨v, hv⟩ := haccept p List.mem_cons_self
    rw [List.map_cons, List.cons_append, handleSegments]
    dsimp only
    rw [hl, List.nil_append, handleSegment, segmentPair_segment p.1 (hequals p List.mem_cons_self)]
    dsimp only
    -- the attribute was not set by the segments behind, so that nothing is written over
    have hunset : (handleSegments isValidDirectory ((l.map fun p => segment p.1 p.2) ++ [[]])
        .new).1 p.1 = none := by
      rw [handleSegments_apply, Option.or_eq_none_iff]
      refine ⟨List.findSome?_eq_none_iff.mpr fun piece hpiece => ?_, rfl⟩
      rcases List.mem_append.mp hpiece with hpiece | hpiece
      · obtain ⟨q, hq, rfl⟩ := List.mem_map.mp hpiece
        have hne : q.1 ≠ p.1 := fun h => hp (h ▸ List.mem_map_of_mem hq)
        rw [assigned_segment p.1 q.1 (hequals q (List.mem_cons_of_mem _ hq)), if_neg hne]
      · obtain rfl : piece = [] := by simpa using hpiece
        rfl
    have hrewriting : rewritingRecords (handleSegments isValidDirectory
        ((l.map fun p => segment p.1 p.2) ++ [[]]) .new).1 p.1 = [] := by
      unfold rewritingRecords Configuration.text
      rw [hunset]
      cases rewritingName p.1 <;> simp
    unfold handleAttributePair
    rw [(ofKey_key p.1).2.2.2]
    dsimp only
    rw [hv]
    exact hrewriting

/-- A connection string is read back as the configuration it was written for, without a record,
exactly when every value that is set is representable and in the range that is accepted. -/
theorem roundTrips_iff (h : cfg.BySetters isValidDirectory) :
    RoundTrips isValidDirectory cfg ↔
      ∀ a v, cfg a = some v → Representable (a.toText v) ∧ a.InRange v := by
  have htext : ∀ {a value}, cfg.text a = some value → ∃ v, cfg a = some v ∧ a.toText v = value :=
    fun ha => Option.map_eq_some_iff.mp ha
  constructor
  · intro hround a v hv
    have hcfg : (parseConnectionString isValidDirectory cfg.toConnectString .new).1 = cfg :=
      congrArg Prod.fst hround
    have hclean : ∀ a v, cfg a = some v → ';' ∉ a.toText v ∧ '=' ∉ a.toText v :=
      fun a v hv => hround.notMem hv
    have happly := parse_apply isValidDirectory
      (fun a value ha => by obtain ⟨v, hv, rfl⟩ := htext ha; exact (hclean a v hv).1)
      (fun a value ha => by obtain ⟨v, hv, rfl⟩ := htext ha; exact (hclean a v hv).2) a
    rw [hcfg, hv, readBack, Configuration.text, hv, Option.map_some] at happly
    have hne : a.toText v ≠ [] := by
      intro hnil
      rw [Option.filter_some] at happly
      simp [hnil] at happly
    rw [Option.filter_some_pos (by simpa using hne), Option.bind_some, eq_comm,
      toOption_eq_some_iff] at happly
    have hdecode : decodeValue (encodeValue (a.toText v)) = a.toText v := by
      by_cases hkind : a.kind = .text
      · exact (toText_of_acceptValue hkind happly).symm
      · exact (decodeValue_encodeValue_iff _).mpr (representable_toText hkind v).plain
    rw [hdecode] at happly
    exact ⟨⟨hne, (hclean a v hv).1, (hclean a v hv).2,
      (decodeValue_encodeValue_iff _).mp hdecode⟩, (acceptValue_toText_iff h hv _).mp happly⟩
  · intro hrep
    have haccept : ∀ a v, cfg a = some v → acceptValue isValidDirectory (trim a.key)
        (decodeValue (encodeValue (a.toText v))) a = .ok v := by
      intro a v hv
      obtain ⟨hr, hrange⟩ := hrep a v hv
      rw [(decodeValue_encodeValue_iff _).mpr hr.plain]
      exact (acceptValue_toText_iff h hv _).mpr hrange
    have hsemi : ∀ a value, cfg.text a = some value → ';' ∉ value := fun a value ha => by
      obtain ⟨v, hv, rfl⟩ := htext ha
      exact (hrep a v hv).1.semicolon
    have hequals : ∀ a value, cfg.text a = some value → '=' ∉ value := fun a value ha => by
      obtain ⟨v, hv, rfl⟩ := htext ha
      exact (hrep a v hv).1.equals
    refine Prod.ext (Configuration.ext fun a => ?_) ?_
    · rw [parse_apply isValidDirectory hsemi hequals, readBack, Configuration.text]
      cases hv : cfg a with
      | none => exact hv.symm
      | some v =>
        have hne := (hrep a v hv).1.ne_nil
        rw [Option.map_some, Option.filter_some_pos (by simpa using hne), Option.bind_some,
          haccept a v hv]
        exact hv.symm
    · unfold parseConnectionString parseAttributes
      rw [rdropWhile_toConnectString, parseLoop_eq, splitOn_toConnectString hsemi]
      refine records_nil (nodup_written cfg) (fun p hp => ?_) (fun p hp => ?_)
      · exact hequals p.1 p.2 (mem_written hp)
      · obtain ⟨v, hv, hvalue⟩ := htext (mem_written hp)
        exact ⟨v, hvalue ▸ haccept p.1 v hv⟩

end RoundTrip

/-- A user name with a space and a timeout are read back. -/
theorem roundTrips_user_name :
    RoundTrips (fun _ => true)
      ((Configuration.new.set .uid "my {user}".toList).set .reqTimeout 5000) := by
  have hset : ((Configuration.new.set .uid "my {user}".toList).set .reqTimeout 5000).BySetters
      fun _ => true :=
    .set .reqTimeout 5000 (by decide) (by decide)
      (.set .uid "my {user}".toList (by decide) (by decide) .new)
  refine (roundTrips_iff hset).mpr fun a v hv => ?_
  by_cases htimeout : a = .reqTimeout
  · subst htimeout
    obtain rfl : 5000 = v := by simpa using hv
    have hrange : (1 : ℤ) ≤ (5000 : Int32).toInt := by decide
    exact ⟨representable_toText (by decide) _, hrange⟩
  · rw [Configuration.set_of_ne _ _ htimeout] at hv
    by_cases huid : a = .uid
    · subst huid
      obtain rfl : "my {user}".toList = v := by simpa using hv
      exact ⟨⟨by decide, by decide, by decide, .inl (by decide)⟩, trivial⟩
    · rw [Configuration.set_of_ne _ _ huid] at hv
      cases hv

/-- A session token that ends in `=` is not read back. -/
theorem not_roundTrips_session_token :
    ¬ RoundTrips (fun _ => true) (Configuration.new.set .sessionToken "YQ==".toList) := fun h =>
  (h.notMem (a := .sessionToken) (Configuration.set_self _ _ _)).2 (by decide)

end TimestreamOdbc
