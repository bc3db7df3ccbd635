import TimestreamOdbc.DsnMerge
import TimestreamOdbc.OutputTexts

/-!
# Saved data source names

`RegisterDsn` writes the attributes of a configuration to the section of its name, `UnregisterDsn`
removes the section, and `ConfigDSN` answers a request with one or two of these calls.  What a later
connection reads under a name is what was saved under it last, as far as the texts survive the wide
strings, the buffer and the guards of `ReadDsnConfiguration`.

The sections are kept by the installer library, which does not tell apart names that differ in case.
-/

namespace TimestreamOdbc

/-! ## Wide strings -/

namespace Utility

/-- `ToWCHARVector`, with the terminator. The vector has room for a character per byte and is filled
with zeros before. -/
def toWCHARVector (P : Platform) (value : Text) : List ℕ :=
  let inBufferLenBytes := (cString (Utf8.encode value)).length
  let copied := copyUtf8StringToWcharString P (Utf8.encode value) true
    ((inBufferLenBytes + 1) * P.sqlWcharSize) false
  let stored := copied.stored.getD []
  (stored ++ List.replicate (inBufferLenBytes + 1 - stored.length) 0).take
    (copied.count / P.sqlWcharSize + 1)

/-- The wide string that a text is passed as, up to its terminator. -/
def wideString (P : Platform) (value : Text) : List ℕ := (toWCHARVector P value).takeWhile (· ≠ 0)

/-- `SqlWcharToString` of a buffer with the code units and a terminator; nothing when it throws. -/
def ofWideString (P : Platform) (units : List ℕ) : Option Text :=
  (sqlWcharToString P (some (units ++ [0])) sqlNts false).bind (Utf8.decode fun _ => true)

end Utility

/-- The characters of a text that get into its wide string. -/
def wideText (P : Platform) (value : Text) : Text :=
  (beforeNul value).takeWhile (unitFits P.sqlWcharSize)

section WideText

variable (P : Platform) (value : Text)

lemma nul_notMem_wideText : '\x00' ∉ wideText P value := fun hmem =>
  nul_notMem_beforeNul value ((List.takeWhile_prefix _).subset hmem)

/-- Without a null character and with forms for all characters, the text is kept. -/
lemma wideText_eq_self_iff : wideText P value = value ↔ Plain P value := by
  constructor
  · intro h
    have hnul : '\x00' ∉ value := h ▸ nul_notMem_wideText P value
    refine ⟨hnul, List.all_eq_true.mpr fun c hc => ?_⟩
    rw [← h] at hc
    exact List.mem_takeWhile_imp hc
  · intro h
    rw [wideText, h.beforeNul_eq]
    exact List.takeWhile_eq_self_iff.mpr fun c hc => List.all_eq_true.mp h.2 c hc

/-- The vector holds the codes of these characters and the terminator. -/
lemma toWCHARVector_eq :
    Utility.toWCHARVector P value = (wideText P value).map Char.toNat ++ [0] := by
  have hsize := P.sqlWcharSize_pos
  have hroom := Utf8.length_le_length_encode (beforeNul value)
  unfold Utility.toWCHARVector
  dsimp only
  rw [cString_encode_eq]
  set n := (Utf8.encode (beforeNul value)).length with hn
  rcases Nat.eq_zero_or_pos n with hzero | hpos
  · -- there is no room for anything but the terminator
    have hnil : beforeNul value = [] := List.length_eq_zero_iff.mp (by omega)
    simp [copyUtf8StringToWcharString, hzero, cString_encode_eq, hnil, wideText]
  · have hlt : P.sqlWcharSize < (n + 1) * P.sqlWcharSize := by
      have := Nat.mul_lt_mul_of_pos_right (show 1 < n + 1 by omega) hsize
      omega
    have hcopied := @copyStringToBuffer_inBytes_of_lt P value _ hlt
    rw [Nat.mul_div_cancel _ hsize, Nat.add_sub_cancel, List.take_of_length_le hroom] at hcopied
    have hcopy : copyUtf8StringToWcharString P (Utf8.encode value) true ((n + 1) * P.sqlWcharSize)
        false = Utility.copyStringToBuffer P (Utf8.encode value) true ((n + 1) * P.sqlWcharSize)
          true := rfl
    rw [hcopy, hcopied]
    dsimp only
    rw [Nat.mul_div_cancel _ hsize, Option.getD_some]
    exact List.take_left' (by simp)

/-- The string that is passed has the codes of these characters. -/
lemma wideString_eq : Utility.wideString P value = (wideText P value).map Char.toNat := by
  have hzero : 0 ∉ (wideText P value).map Char.toNat := by
    intro hmem
    obtain ⟨c, hc, hcode⟩ := List.mem_map.mp hmem
    exact nul_notMem_wideText P value (toNat_eq_zero_iff.mp hcode ▸ hc)
  rw [Utility.wideString, toWCHARVector_eq]
  have hall := takeWhile_take_append_zero hzero
    (n := ((wideText P value).map Char.toNat ++ [0]).length) (by simp)
  rwa [List.take_length] at hall

end WideText

/-- A `wchar_t` holds what an `SQLWCHAR` does. -/
lemma unitFits_wcharSize {P : Platform} (hP : P.sqlWcharSize ≤ P.wcharSize) {c : Char}
    (h : unitFits P.sqlWcharSize c = true) : unitFits P.wcharSize c = true := by
  rcases P.wcharSize_eq with hw | hw
  · have hs : P.sqlWcharSize = 2 := by
      rcases P.sqlWcharSize_eq with hs | hs <;> omega
    rwa [hw, ← hs]
  · simp [unitFits, hw]

/-- The beginning of what was passed is read back. -/
lemma ofWideString_take {P : Platform} (hP : P.sqlWcharSize ≤ P.wcharSize) (value : Text) (n : ℕ) :
    Utility.ofWideString P ((Utility.wideString P value).take n) =
      some ((wideText P value).take n) := by
  have hnul : '\x00' ∉ (wideText P value).take n := fun hmem =>
    nul_notMem_wideText P value (List.mem_of_mem_take hmem)
  have hcodes : ((wideText P value).take n).map (fun c => c.toNat % 2 ^ (8 * P.wcharSize)) =
      ((wideText P value).take n).map Char.toNat := by
    refine List.map_congr_left fun c hc => (mod_wcharSize_eq_iff P c).mpr ?_
    exact unitFits_wcharSize hP (List.mem_takeWhile_imp (List.mem_of_mem_take hc))
  have hbytes := (toBytes_eq_some_iff _ _).mpr ⟨(wideText P value).take n, hcodes, rfl⟩
  rw [wideString_eq, ← List.map_take, Utility.ofWideString,
    sqlWcharToString_codes P hnul (.inl rfl), hbytes, Option.bind_some, Utf8.decode_encode,
    if_pos (by simp)]

/-- A text of seven-bit characters without the null character is plain. -/
lemma plain_of_lt (P : Platform) {value : Text} (h : ∀ c ∈ value, 0 < c.toNat ∧ c.toNat < 128) :
    Plain P value := by
  constructor
  · intro hmem
    exact absurd (h _ hmem).1 (by decide)
  · exact List.all_eq_true.mpr fun c hc => unitFits_of_lt (h c hc).2 _

/-! ## The installer library -/

/-- The small letter of a capital letter. -/
def toLowerUnit (unit : ℕ) : ℕ := if 65 ≤ unit ∧ unit ≤ 90 then unit + 32 else unit

/-- The installer library: the entries of the sections of the store, the calls that change them, and
what is documented of these. Names that `fold` maps to the same are the same name; those of ASCII
characters are the same if they differ in case only. One section lists the names of all others. A call
that fails may have changed the section it is about. -/
structure Installer where
  Store : Type
  entry : Store → List ℕ → List ℕ → Option (List ℕ)
  sqlValidDSN : Text → Bool
  sqlWriteDSNToIni : Store → List ℕ → List ℕ → Bool × Store
  sqlWritePrivateProfileString : Store → List ℕ → List ℕ → List ℕ → Bool × Store
  sqlRemoveDSNFromIni : Store → List ℕ → Bool × Store
  fold : List ℕ → List ℕ
  listing : List ℕ
  fold_eq_iff : ∀ {name name'}, (∀ unit ∈ name, unit < 128) → (∀ unit ∈ name', unit < 128) →
    (fold name = fold name' ↔ name.map toLowerUnit = name'.map toLowerUnit)
  entry_congr : ∀ store {dsn dsn'} key, fold dsn = fold dsn' →
    entry store dsn key = entry store dsn' key
  entry_sqlWriteDSNToIni : ∀ store {dsn key} driver, fold dsn ≠ listing →
    (sqlWriteDSNToIni store dsn driver).1 = true → fold key ≠ fold ("Driver".toList.map Char.toNat) →
      entry (sqlWriteDSNToIni store dsn driver).2 dsn key = none
  entry_sqlWriteDSNToIni_of_ne : ∀ store dsn {dsn'} driver key, fold dsn' ≠ listing →
    fold dsn' ≠ fold dsn →
      entry (sqlWriteDSNToIni store dsn driver).2 dsn' key = entry store dsn' key
  entry_sqlWritePrivateProfileString : ∀ store dsn key value,
    (sqlWritePrivateProfileString store dsn key value).1 = true →
      entry (sqlWritePrivateProfileString store dsn key value).2 dsn key = some value
  entry_sqlWritePrivateProfileString_of_key_ne : ∀ store dsn key {key'} value,
    (sqlWritePrivateProfileString store dsn key value).1 = true → fold key' ≠ fold key →
      entry (sqlWritePrivateProfileString store dsn key value).2 dsn key' = entry store dsn key'
  entry_sqlWritePrivateProfileString_of_ne : ∀ store dsn {dsn'} key value key',
    fold dsn' ≠ fold dsn →
      entry (sqlWritePrivateProfileString store dsn key value).2 dsn' key' = entry store dsn' key'
  entry_sqlRemoveDSNFromIni : ∀ store {dsn} key, fold dsn ≠ listing →
    (sqlRemoveDSNFromIni store dsn).1 = true →
      entry (sqlRemoveDSNFromIni store dsn).2 dsn key = none
  entry_sqlRemoveDSNFromIni_of_ne : ∀ store dsn {dsn'} key, fold dsn' ≠ listing →
    fold dsn' ≠ fold dsn → entry (sqlRemoveDSNFromIni store dsn).2 dsn' key = entry store dsn' key

/-- `BUFFER_SIZE` of `dsn_config.cpp`. -/
def iniBufferSize : ℕ := 1024 * 1024

namespace Installer

variable (L : Installer) (P : Platform)

/-- A machine with the store: `SQLGetPrivateProfileString` puts as many characters in the buffer as
there is room for in front of the terminator. -/
def machine (isValidDirectory : Text → Bool) (uninitialised : Int32) (store : L.Store) : Machine where
  isValidDirectory := isValidDirectory
  dsnStore dsn key :=
    (L.entry store (Utility.wideString P dsn) (Utility.wideString P key)).bind fun units =>
      Utility.ofWideString P (units.take (iniBufferSize - 1))
  uninitialised := uninitialised

/-! ## Saving and removing -/

/-- `WriteDsnString`. -/
def writeDsnString (dsn key value : Text) (store : L.Store) : Bool × L.Store :=
  L.sqlWritePrivateProfileString store (Utility.wideString P dsn) (Utility.wideString P key)
    (Utility.wideString P value)

/-- The loop of `RegisterDsn` over the entries of the map. -/
def writeEntries (dsn : Text) : List (Attr × Text) → L.Store → Bool × L.Store
  | [], store => (true, store)
  | (a, value) :: entries, store =>
    match L.writeDsnString P dsn a.key value store with
    | (true, store') => writeEntries dsn entries store'
    | (false, store') => (false, store')

/-- `RegisterDsn`. -/
def registerDsn (config : Configuration) (driver : Text) (store : L.Store) : Bool × L.Store :=
  let dsn := config.getDsn
  match L.sqlWriteDSNToIni store (Utility.wideString P dsn) (Utility.wideString P driver) with
  | (true, store') =>
    L.writeEntries P dsn (config.toMap.filter fun p => p.1 ≠ .dsn ∧ p.1 ≠ .driver) store'
  | (false, store') => (false, store')

/-- `UnregisterDsn`. -/
def unregisterDsn (dsn : Text) (store : L.Store) : Bool × L.Store :=
  L.sqlRemoveDSNFromIni store (Utility.wideString P dsn)

end Installer

/-- What was done with a name last: it is not known, it was removed, or a configuration was saved. -/
inductive SavedEntry where
  | unknown
  | removed
  | saved (config : Configuration)

/-- The store, with what was done last with each name in it. -/
structure SavedNames (L : Installer) where
  store : L.Store
  last : List ℕ → SavedEntry

namespace SavedNames

variable {L : Installer} (P : Platform)

/-- A store of which nothing is known. -/
def new (store : L.Store) : SavedNames L := ⟨store, fun _ => .unknown⟩

/-- A call that is about a name has ended. After a failure nothing is known of the name. -/
def done (dsn : Text) (entry : SavedEntry) (outcome : Bool × L.Store) (s : SavedNames L) :
    Bool × SavedNames L :=
  (outcome.1, ⟨outcome.2, Function.update s.last (L.fold (Utility.wideString P dsn))
    (if outcome.1 then entry else .unknown)⟩)

/-- After a success it is known. -/
lemma last_done (dsn : Text) (entry : SavedEntry) {outcome : Bool × L.Store} (s : SavedNames L)
    (hok : outcome.1 = true) :
    (s.done P dsn entry outcome).2.last (L.fold (Utility.wideString P dsn)) = entry := by
  simp only [done, hok, if_true, Function.update_self]

/-- `InternalRegisterDsn`. -/
def registerDsn (config : Configuration) (driver : Text) (s : SavedNames L) : Bool × SavedNames L :=
  s.done P config.getDsn (.saved config) (L.registerDsn P config driver s.store)

/-- `InternalUnregisterDsn`. -/
def unregisterDsn (dsn : Text) (s : SavedNames L) : Bool × SavedNames L :=
  s.done P dsn .removed (L.unregisterDsn P dsn s.store)

end SavedNames

/-! ## Requests -/

/-- The kinds of requests of `ConfigDSN`. -/
inductive DsnRequestKind where
  | addDsn
  | configDsn
  | removeDsn
  | other
  deriving DecidableEq, Repr

/-- A request of `ConfigDSN`, with what the window makes of the configuration that it displays: nothing
when it is not confirmed. Where there is no window the configuration stays as it is. -/
structure DsnRequest where
  req : DsnRequestKind
  driver : Text
  attributes : Text
  window : Configuration → Option Configuration

namespace SavedNames

variable {L : Installer} (P : Platform) (isValidDirectory : Text → Bool) (uninitialised : Int32)

/-- `ConfigDSN`: whether it succeeds; nothing when the parser reads behind the attributes. -/
def configDSN (s : SavedNames L) (r : DsnRequest) : Option (Bool × SavedNames L) :=
  (ConnectionStringParser.parseConfigAttributes isValidDirectory r.attributes .new).map fun (config, _) =>
    if L.sqlValidDSN config.getDsn then
      match r.req with
      | .addDsn =>
        match r.window config with
        | some config => s.registerDsn P config r.driver
        | none => (false, s)
      | .configDsn =>
        let dsn := config.getDsn
        let machine := L.machine P isValidDirectory uninitialised s.store
        match r.window (config.readDsnConfiguration machine dsn) with
        | some loaded =>
          match s.registerDsn P loaded r.driver with
          | (true, s') => if loaded.getDsn ≠ dsn then s'.unregisterDsn P dsn else (true, s')
          | (false, s') => (false, s')
        | none => (false, s)
      | .removeDsn => s.unregisterDsn P config.getDsn
      | .other => (false, s)
    else (false, s)

/-- The state after a request. -/
def step (s : SavedNames L) (r : DsnRequest) : Option (SavedNames L) :=
  (s.configDSN P isValidDirectory uninitialised r).map Prod.snd

end SavedNames

/-! ## The entries of a section -/

section Entries

variable (L : Installer) (P : Platform)

/-- The keys are passed as they are. -/
lemma wideString_key (a : Attr) : Utility.wideString P a.key = a.key.map Char.toNat := by
  have hascii : a.key.all (fun c => 0 < c.toNat ∧ c.toNat < 128) = true := by
    cases a <;> decide
  have hplain : Plain P a.key :=
    plain_of_lt P fun c hc => of_decide_eq_true (List.all_eq_true.mp hascii c hc)
  rw [wideString_eq, (wideText_eq_self_iff P a.key).mpr hplain]

/-- The keys are of small letters. -/
lemma map_toLowerUnit_key (a : Attr) :
    (a.key.map Char.toNat).map toLowerUnit = a.key.map Char.toNat := by
  cases a <;> decide

/-- The codes of a text determine it. -/
lemma map_charToNat_injective : Function.Injective (List.map Char.toNat) :=
  List.map_injective_iff.mpr fun _ _ h => Char.ext (UInt32.toNat.inj h)

/-- The codes of a key are those of ASCII characters. -/
lemma lt_of_mem_key {a : Attr} {unit : ℕ} (h : unit ∈ a.key.map Char.toNat) : unit < 128 := by
  revert unit
  cases a <;> decide

/-- The library tells the keys apart. -/
lemma fold_key_injective {a b : Attr}
    (h : L.fold (Utility.wideString P a.key) = L.fold (Utility.wideString P b.key)) : a = b := by
  rw [wideString_key, wideString_key,
    L.fold_eq_iff (fun _ => lt_of_mem_key) (fun _ => lt_of_mem_key), map_toLowerUnit_key,
    map_toLowerUnit_key] at h
  exact Attr.key_injective (map_charToNat_injective h)

/-- The library takes one key for the one that it writes itself. -/
lemma eq_driver_of_fold {a : Attr}
    (h : L.fold (Utility.wideString P a.key) = L.fold ("Driver".toList.map Char.toNat)) :
    a = .driver := by
  rw [wideString_key, L.fold_eq_iff (fun _ => lt_of_mem_key) (by decide), map_toLowerUnit_key] at h
  exact Attr.key_injective (map_charToNat_injective (h.trans (show _ = Attr.driver.key.map _ by decide)))

/-- An attribute is an entry of the map if it has a text. -/
lemma mem_toMap_iff {config : Configuration} {a : Attr} {value : Text} :
    (a, value) ∈ config.toMap ↔ config.text a = some value := by
  unfold Configuration.toMap
  simp only [List.mem_filterMap, Option.map_eq_some_iff, Prod.mk.injEq]
  constructor
  · rintro ⟨b, -, v, hv, rfl, rfl⟩
    exact hv
  · intro h
    exact ⟨a, Attr.mem_byKey a, value, h, rfl, rfl⟩

/-- The map has one entry for an attribute. -/
lemma nodup_toMap (config : Configuration) : (config.toMap.map Prod.fst).Nodup := by
  unfold Configuration.toMap
  rw [List.map_filterMap]
  refine Attr.nodup_byKey.filterMap fun a b c ha hb => ?_
  simp only [Option.map_map, Option.mem_def, Option.map_eq_some_iff, Function.comp] at ha hb
  obtain ⟨-, -, rfl⟩ := ha
  obtain ⟨-, -, rfl⟩ := hb
  rfl

/-- The loop is about one section. -/
lemma entry_writeEntries_of_ne (dsn : Text) {dsn' : List ℕ}
    (h : L.fold dsn' ≠ L.fold (Utility.wideString P dsn)) (key : List ℕ) (entries : List (Attr × Text))
    (store : L.Store) :
    L.entry (L.writeEntries P dsn entries store).2 dsn' key = L.entry store dsn' key := by
  induction entries generalizing store with
  | nil => rfl
  | cons p entries ih =>
    obtain ⟨a, value⟩ := p
    have hwrite := L.entry_sqlWritePrivateProfileString_of_ne store (Utility.wideString P dsn)
      (Utility.wideString P a.key) (Utility.wideString P value) key h
    rw [Installer.writeEntries, Installer.writeDsnString]
    generalize L.sqlWritePrivateProfileString store (Utility.wideString P dsn)
      (Utility.wideString P a.key) (Utility.wideString P value) = outcome at hwrite ⊢
    obtain ⟨ok, store'⟩ := outcome
    cases ok with
    | false => exact hwrite
    | true => exact (ih store').trans hwrite

/-- What a loop that comes to its end has written. -/
lemma entry_writeEntries (dsn : Text) {entries : List (Attr × Text)}
    (hnodup : (entries.map Prod.fst).Nodup) {store : L.Store}
    (hok : (L.writeEntries P dsn entries store).1 = true) (a : Attr) :
    (∀ value, (a, value) ∈ entries →
      L.entry (L.writeEntries P dsn entries store).2 (Utility.wideString P dsn)
        (Utility.wideString P a.key) = some (Utility.wideString P value)) ∧
    (a ∉ entries.map Prod.fst →
      L.entry (L.writeEntries P dsn entries store).2 (Utility.wideString P dsn)
        (Utility.wideString P a.key) =
      L.entry store (Utility.wideString P dsn) (Utility.wideString P a.key)) := by
  induction entries generalizing store with
  | nil => simp [Installer.writeEntries]
  | cons p entries ih =>
    obtain ⟨b, value⟩ := p
    obtain ⟨hnot, hnodup⟩ := List.nodup_cons.mp hnodup
    have hown := L.entry_sqlWritePrivateProfileString store (Utility.wideString P dsn)
      (Utility.wideString P b.key) (Utility.wideString P value)
    have hother := @L.entry_sqlWritePrivateProfileString_of_key_ne store (Utility.wideString P dsn)
      (Utility.wideString P b.key) (Utility.wideString P a.key) (Utility.wideString P value)
    rw [Installer.writeEntries, Installer.writeDsnString] at hok ⊢
    generalize L.sqlWritePrivateProfileString store (Utility.wideString P dsn)
      (Utility.wideString P b.key) (Utility.wideString P value) = outcome at hok hown hother ⊢
    obtain ⟨ok, store'⟩ := outcome
    cases ok with
    | false => exact absurd hok (by simp)
    | true =>
      obtain ⟨hmem, hrest⟩ := ih hnodup hok
      constructor
      · intro v hv
        rcases List.mem_cons.mp hv with heq | hv
        · obtain ⟨rfl, rfl⟩ := Prod.mk.inj heq
          exact (hrest hnot).trans (hown rfl)
        · exact hmem v hv
      · intro hnotMem
        obtain ⟨hne, hnotMem⟩ := not_or.mp (fun h => hnotMem (List.mem_cons.mpr h))
        exact (hrest hnotMem).trans (hother rfl fun hfold => hne (fold_key_injective L P hfold))

end Entries

/-! ## What is saved -/

section Saved

variable {L : Installer} {P : Platform}

/-- The section of a name is as what was done with the name last has left it. -/
def Holds (L : Installer) (P : Platform) (store : L.Store) (dsn : List ℕ) : SavedEntry → Prop
  | .unknown => True
  | .removed => ∀ a : Attr, L.entry store dsn (Utility.wideString P a.key) = none
  | .saved config => ∀ a, a ≠ .driver → L.entry store dsn (Utility.wideString P a.key) =
      if a = .dsn then none else (config.text a).map (Utility.wideString P)

/-- This is a matter of the entries of the section. -/
lemma Holds.of_entry_eq {store store' : L.Store} {dsn dsn' : List ℕ} {last : SavedEntry}
    (hentry : ∀ key, L.entry store' dsn' key = L.entry store dsn key)
    (h : Holds L P store dsn last) : Holds L P store' dsn' last := by
  cases last with
  | unknown => trivial
  | removed => exact fun a => (hentry _).trans (h a)
  | saved config => exact fun a ha => (hentry _).trans (h a ha)

/-- All sections but the listing are as what was done last has left them. -/
def SavedNames.Inv (P : Platform) (s : SavedNames L) : Prop :=
  ∀ dsn, L.fold dsn ≠ L.listing → Holds L P s.store dsn (s.last (L.fold dsn))

/-- A call keeps this when its success leaves the section as it should and it leaves the others
alone. -/
lemma SavedNames.Inv.done {s : SavedNames L} (h : s.Inv P) {dsn : Text} {entry : SavedEntry}
    {outcome : Bool × L.Store}
    (hown : L.fold (Utility.wideString P dsn) ≠ L.listing → outcome.1 = true →
      Holds L P outcome.2 (Utility.wideString P dsn) entry)
    (hother : ∀ dsn' key, L.fold dsn' ≠ L.listing → L.fold dsn' ≠ L.fold (Utility.wideString P dsn) →
      L.entry outcome.2 dsn' key = L.entry s.store dsn' key) :
    (s.done P dsn entry outcome).2.Inv P := by
  intro dsn' hlisting
  unfold SavedNames.done
  by_cases hsame : L.fold dsn' = L.fold (Utility.wideString P dsn)
  · simp only [hsame, Function.update_self]
    rw [hsame] at hlisting
    split
    · next hok =>
      exact (hown hlisting hok).of_entry_eq fun key => L.entry_congr _ key hsame
    · trivial
  · simp only [Function.update_of_ne hsame]
    exact (h dsn' hlisting).of_entry_eq fun key => hother dsn' key hlisting hsame

/-- A registration that succeeds writes the texts of the attributes. -/
lemma holds_registerDsn (config : Configuration) (driver : Text) (store : L.Store)
    (hlisting : L.fold (Utility.wideString P config.getDsn) ≠ L.listing)
    (hok : (L.registerDsn P config driver store).1 = true) :
    Holds L P (L.registerDsn P config driver store).2 (Utility.wideString P config.getDsn)
      (.saved config) := by
  intro a ha
  have hempty := @L.entry_sqlWriteDSNToIni store (Utility.wideString P config.getDsn)
    (Utility.wideString P a.key) (Utility.wideString P driver) hlisting
  unfold Installer.registerDsn at hok ⊢
  dsimp only at hok ⊢
  generalize L.sqlWriteDSNToIni store (Utility.wideString P config.getDsn)
    (Utility.wideString P driver) = outcome at hok hempty ⊢
  obtain ⟨ok, store'⟩ := outcome
  cases ok with
  | false => exact absurd hok (by simp)
  | true =>
    have hnone := hempty rfl fun hfold => ha (eq_driver_of_fold L P hfold)
    set entries := config.toMap.filter fun p => p.1 ≠ .dsn ∧ p.1 ≠ .driver with hentries
    have hnodup : (entries.map Prod.fst).Nodup :=
      (nodup_toMap config).sublist (List.filter_sublist.map _)
    obtain ⟨hmem, hnot⟩ := entry_writeEntries L P config.getDsn hnodup hok a
    by_cases hdsn : a = .dsn
    · have hnotMem : a ∉ entries.map Prod.fst := by
        simp [hentries, hdsn]
      rw [if_pos hdsn]
      exact (hnot hnotMem).trans hnone
    · rw [if_neg hdsn]
      cases htext : config.text a with
      | none =>
        have hnotMem : a ∉ entries.map Prod.fst := by
          intro hin
          obtain ⟨⟨b, value⟩, hp, rfl⟩ := List.mem_map.mp hin
          have hvalue := mem_toMap_iff.mp (List.mem_filter.mp hp).1
          rw [htext] at hvalue
          contradiction
        exact (hnot hnotMem).trans hnone
      | some value =>
        exact hmem value (List.mem_filter.mpr ⟨mem_toMap_iff.mpr htext, by simp [hdsn, ha]⟩)

/-- A registration is about one section. -/
lemma entry_registerDsn_of_ne (config : Configuration) (driver : Text) (store : L.Store)
    {dsn : List ℕ} (key : List ℕ) (hlisting : L.fold dsn ≠ L.listing)
    (hne : L.fold dsn ≠ L.fold (Utility.wideString P config.getDsn)) :
    L.entry (L.registerDsn P config driver store).2 dsn key = L.entry store dsn key := by
  have hfirst := L.entry_sqlWriteDSNToIni_of_ne store (Utility.wideString P config.getDsn)
    (Utility.wideString P driver) key hlisting hne
  unfold Installer.registerDsn
  dsimp only
  generalize L.sqlWriteDSNToIni store (Utility.wideString P config.getDsn)
    (Utility.wideString P driver) = outcome at hfirst ⊢
  obtain ⟨ok, store'⟩ := outcome
  cases ok with
  | false => exact hfirst
  | true => exact (entry_writeEntries_of_ne L P _ hne key _ store').trans hfirst

/-- Saving keeps the sections as they should be. -/
lemma SavedNames.Inv.registerDsn {s : SavedNames L} (h : s.Inv P) (config : Configuration)
    (driver : Text) : (s.registerDsn P config driver).2.Inv P :=
  h.done (fun hlisting hok => holds_registerDsn config driver s.store hlisting hok)
    fun _ key hlisting hne => entry_registerDsn_of_ne config driver s.store key hlisting hne

/-- Removing keeps the sections as they should be. -/
lemma SavedNames.Inv.unregisterDsn {s : SavedNames L} (h : s.Inv P) (dsn : Text) :
    (s.unregisterDsn P dsn).2.Inv P :=
  h.done (fun hlisting hok _ => L.entry_sqlRemoveDSNFromIni s.store _ hlisting hok)
    fun _ key hlisting hne => L.entry_sqlRemoveDSNFromIni_of_ne s.store _ key hlisting hne

variable {isValidDirectory : Text → Bool} {uninitialised : Int32}

/-- A request keeps the sections as they should be. -/
lemma SavedNames.Inv.step {s s' : SavedNames L} (h : s.Inv P) {r : DsnRequest}
    (hstep : s.step P isValidDirectory uninitialised r = some s') : s'.Inv P := by
  obtain ⟨⟨ok, s''⟩, hconfig, rfl⟩ := Option.map_eq_some_iff.mp hstep
  obtain ⟨⟨config, records⟩, -, hconfig⟩ := Option.map_eq_some_iff.mp hconfig
  dsimp only at hconfig
  split at hconfig
  · split at hconfig
    · -- a new name
      split at hconfig
      · next config' _ =>
        exact congrArg Prod.snd hconfig ▸ h.registerDsn config' r.driver
      · exact congrArg Prod.snd hconfig ▸ h
    · -- a name that may get another one
      split at hconfig
      · next loaded _ =>
        have hregister := h.registerDsn loaded r.driver
        split at hconfig
        · next s''' hrun =>
          rw [hrun] at hregister
          split at hconfig
          · exact congrArg Prod.snd hconfig ▸ hregister.unregisterDsn config.getDsn
          · exact congrArg Prod.snd hconfig ▸ hregister
        · next s''' hrun =>
          rw [hrun] at hregister
          exact congrArg Prod.snd hconfig ▸ hregister
      · exact congrArg Prod.snd hconfig ▸ h
    · exact congrArg Prod.snd hconfig ▸ h.unregisterDsn config.getDsn
    · exact congrArg Prod.snd hconfig ▸ h
  · exact congrArg Prod.snd hconfig ▸ h

end Saved

end TimestreamOdbc
