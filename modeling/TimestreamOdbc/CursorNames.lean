import Mathlib.Data.Finset.Basic
import TimestreamOdbc.App.WideCopy
import TimestreamOdbc.Query.IdentifiedTables
import TimestreamOdbc.Lib.TransitionSystem

/-!
# Cursor names

A connection has the set of the cursor names of its statements and a map from the statements to their
names.  `SQLSetCursorName` looks a name up in the set and then, under a lock, stores it in both;
between these two steps any other call may run.
-/

namespace TimestreamOdbc

/-! ## The functions -/

/-- `::toupper` of a byte. -/
def toUpperByte (byte : UInt8) : UInt8 :=
  if 97 ≤ byte.toNat ∧ byte.toNat ≤ 122 then byte - 32 else byte

/-- The first bytes of a name are those of the pattern `SQL_CUR`, in any case. -/
def startsWithSqlCur (cursorName : Text) : Bool :=
  let pattern := Utf8.encode "SQL_CUR".toList
  pattern.length ≤ (Utf8.encode cursorName).length &&
    ((Utf8.encode cursorName).take pattern.length).map toUpperByte = pattern

/-! ## Reserved names -/

section Reserved

/-- The bytes of a character that is not an ASCII character start with one that has its highest bit
set. -/
lemma exists_utf8EncodeChar_of_not_isAscii {c : Char} (h : ¬ Utf8.IsAscii c) :
    ∃ byte rest, String.utf8EncodeChar c = byte :: rest ∧ 128 ≤ byte.toNat := by
  have hhigh : ∀ a b : UInt8, 128 ≤ b.toNat → 128 ≤ (a ||| b).toNat := by
    intro a b hb
    rw [UInt8.toNat_or]
    exact hb.trans Nat.right_le_or
  rcases c.utf8Size_eq with hone | htwo | hthree | hfour
  · exact absurd hone h
  · exact ⟨_, _, String.utf8EncodeChar_eq_cons_cons htwo, hhigh _ _ (by decide)⟩
  · exact ⟨_, _, String.utf8EncodeChar_eq_cons_cons_cons hthree, hhigh _ _ (by decide)⟩
  · exact ⟨_, _, String.utf8EncodeChar_eq_cons_cons_cons_cons hfour, hhigh _ _ (by decide)⟩

/-- The byte of an ASCII character is its code. -/
lemma toNat_byte {c : Char} (hc : Utf8.IsAscii c) : c.val.toUInt8.toNat = c.toNat := by
  have hlt := hc.toNat_lt
  rw [UInt32.toNat_toUInt8]
  exact Nat.mod_eq_of_lt (by change c.toNat < 2 ^ 8; omega)

/-- Only ASCII characters have an upper case among the ASCII characters. -/
lemma isAscii_of_toUpper {d : Char} (h : Utf8.IsAscii d.toUpper) : Utf8.IsAscii d := by
  have hlt := h.toNat_lt
  rw [toNat_toUpper] at hlt
  have hd : d.toNat ≤ 127 := by split at hlt <;> omega
  exact Char.utf8Size_eq_one_iff.mpr (UInt32.le_iff_toNat_le.mpr hd)

/-- Upper case of a byte is that of its character. -/
lemma toUpperByte_eq_iff {c d : Char} (hc : Utf8.IsAscii c) (hd : Utf8.IsAscii d) :
    toUpperByte d.val.toUInt8 = c.val.toUInt8 ↔ d.toUpper = c := by
  have hdbyte := toNat_byte hd
  rw [← UInt8.toNat_inj, ← Char.toNat_inj, toNat_toUpper, toNat_byte hc]
  unfold toUpperByte
  rw [hdbyte]
  split
  · next hlower =>
    have hle : (32 : UInt8) ≤ d.val.toUInt8 := by
      rw [UInt8.le_iff_toNat_le, hdbyte]
      change 32 ≤ d.toNat
      omega
    rw [UInt8.toNat_sub_of_le _ _ hle, hdbyte]
    rfl
  · rw [hdbyte]

/-- A text starts with a pattern of ASCII characters, in any case, if and only if its bytes do. -/
lemma map_toUpperByte_take_iff {pattern : Text} (hpattern : ∀ c ∈ pattern, Utf8.IsAscii c)
    (name : Text) :
    ((Utf8.encode name).take (Utf8.encode pattern).length).map toUpperByte = Utf8.encode pattern ↔
      (name.take pattern.length).map Char.toUpper = pattern := by
  rw [Utf8.length_encode_of_isAscii hpattern]
  induction pattern generalizing name with
  | nil => simp
  | cons c pattern ih =>
    have hc := hpattern c List.mem_cons_self
    have ih' := ih fun d hd => hpattern d (List.mem_cons_of_mem _ hd)
    rcases name with _ | ⟨d, name⟩
    · simp [Utf8.utf8EncodeChar_of_isAscii hc]
    · by_cases hd : Utf8.IsAscii d
      · rw [Utf8.encode_cons, Utf8.encode_cons, Utf8.utf8EncodeChar_of_isAscii hc,
          Utf8.utf8EncodeChar_of_isAscii hd, List.singleton_append, List.singleton_append,
          List.length_cons, List.take_succ_cons, List.take_succ_cons, List.map_cons, List.map_cons,
          List.cons.injEq, List.cons.injEq, toUpperByte_eq_iff hc hd, ih']
      · -- neither the first byte nor the first character is one of the pattern
        obtain ⟨byte, rest, hbytes, hhigh⟩ := exists_utf8EncodeChar_of_not_isAscii hd
        have hkept : toUpperByte byte = byte := if_neg (by omega)
        have hcbyte := (toNat_byte hc).le
        have hclt := hc.toNat_lt
        rw [Utf8.encode_cons, Utf8.encode_cons, Utf8.utf8EncodeChar_of_isAscii hc, hbytes,
          List.singleton_append, List.cons_append, List.length_cons, List.take_succ_cons,
          List.take_succ_cons, List.map_cons, List.map_cons, List.cons.injEq, List.cons.injEq, hkept]
        constructor
        · rintro ⟨rfl, -⟩
          omega
        · rintro ⟨hupper, -⟩
          exact absurd (isAscii_of_toUpper (hupper ▸ hc)) hd

/-- A name is refused exactly when its first seven characters are `SQL_CUR`, in any case. -/
lemma startsWithSqlCur_iff (cursorName : Text) :
    startsWithSqlCur cursorName = true ↔
      (cursorName.take 7).map Char.toUpper = "SQL_CUR".toList := by
  have hpattern : ∀ c ∈ "SQL_CUR".toList, Utf8.IsAscii c := by
    have hall : ("SQL_CUR".toList.all fun c => decide (Utf8.IsAscii c)) = true := by decide
    exact fun c hc => of_decide_eq_true (List.all_eq_true.mp hall c hc)
  have hseven : "SQL_CUR".toList.length = 7 := by decide
  rw [← hseven, ← map_toUpperByte_take_iff hpattern cursorName]
  unfold startsWithSqlCur
  simp only [Bool.and_eq_true, decide_eq_true_eq, and_iff_right_iff_imp]
  intro hbytes
  have hlength := congrArg List.length hbytes
  rw [List.length_map, List.length_take] at hlength
  omega

end Reserved

/-- `CURSOR_NAME_MAX_LENGTH`. -/
def cursorNameMaxLength : ℕ := 18

/-- `InternalSetCursorName` up to the look up of the name among those in use: the record of the error,
or the name that is to be registered; nothing when the conversion throws. -/
def checkCursorName (P : Platform) (cursorNames : Finset Text) (name : Option (List ℕ)) (nameLen : ℤ) :
    Option (Except DiagnosticRecord Text) :=
  if (cursorNameMaxLength : ℤ) < nameLen then
    some (.error (statusRecord .s3C000DuplicateCursorName
      ("The number of characters in cursor name (" ++ toString nameLen ++
        ") exceeds the maximum allowed number (" ++ toString cursorNameMaxLength ++ ")")))
  else do
    let bytes ← Utility.sqlWcharToString P name nameLen false
    let cursorName ← Utf8.decode (fun _ => true) bytes
    if startsWithSqlCur cursorName then
      return .error (statusRecord .s34000InvalidCursorName
        ("Cursor name should not start with " ++ "SQL_CUR"))
    else if cursorName ∈ cursorNames then
      return .error (statusRecord .s3C000DuplicateCursorName
        ("Cursor name \"" ++ String.ofList cursorName ++ "\" has already been used."))
    else return .ok cursorName

/-- The statements of a connection, `cursorNames_` and `cursorNameMap_`, and the calls that have looked
up their name and not registered it yet. -/
structure CursorRegistry where
  statements : Finset ℕ
  cursorNames : Finset Text
  cursorNameMap : ℕ → Option Text
  calls : ℕ → Option (ℕ × Text)

namespace CursorRegistry

/-- A new connection. -/
def new : CursorRegistry :=
  { statements := ∅, cursorNames := ∅, cursorNameMap := fun _ => none, calls := fun _ => none }

/-- The set without the name of a statement. -/
def otherNames (r : CursorRegistry) (stmt : ℕ) : Finset Text :=
  match r.cursorNameMap stmt with
  | some cursorName => r.cursorNames.erase cursorName
  | none => r.cursorNames

/-- `AddCursorName`. -/
def addCursorName (stmt : ℕ) (cursorName : Text) (r : CursorRegistry) : CursorRegistry :=
  { r with
    cursorNames := insert cursorName (r.otherNames stmt)
    cursorNameMap := Function.update r.cursorNameMap stmt (some cursorName) }

/-- `RemoveCursorName`. -/
def removeCursorName (stmt : ℕ) (r : CursorRegistry) : CursorRegistry :=
  { r with
    cursorNames := r.otherNames stmt
    cursorNameMap := Function.update r.cursorNameMap stmt none }

/-- The steps of the calls on the statements of a connection: a statement is allocated, a call of
`SQLSetCursorName` checks its name, a call that has done so registers it, and a statement is dropped by
`SQLFreeStmt`. -/
inductive Step where
  | alloc (stmt : ℕ)
  | check (call stmt : ℕ) (name : Option (List ℕ)) (nameLen : ℤ)
  | register (call : ℕ)
  | drop (stmt : ℕ)

/-- One step, if it is enabled. A name that is refused, or can not be converted, ends its call. -/
def step (P : Platform) (r : CursorRegistry) : Step → Option CursorRegistry
  | .alloc stmt =>
    if stmt ∈ r.statements then none
    else some { r with statements := insert stmt r.statements }
  | .check call stmt name nameLen =>
    if stmt ∉ r.statements ∨ (r.calls call).isSome then none
    else
      match checkCursorName P r.cursorNames name nameLen with
      | some (.ok cursorName) =>
        some { r with calls := Function.update r.calls call (some (stmt, cursorName)) }
      | _ => some r
  | .register call =>
    match r.calls call with
    | some (stmt, cursorName) =>
      some { r.addCursorName stmt cursorName with calls := Function.update r.calls call none }
    | none => none
  | .drop stmt =>
    if stmt ∈ r.statements then
      some { r.removeCursorName stmt with statements := r.statements.erase stmt }
    else none

/-! ## The registry -/

/-- The names are registered as claimed: the set has the names of the map, statements have different
names, a name has at most 18 characters and is not reserved, and only statements that were not dropped
have a name. -/
structure WellRegistered (r : CursorRegistry) : Prop where
  image : ∀ cursorName, cursorName ∈ r.cursorNames ↔ ∃ stmt, r.cursorNameMap stmt = some cursorName
  unique : ∀ stmt stmt' cursorName, stmt ∈ r.statements → stmt' ∈ r.statements →
    r.cursorNameMap stmt = some cursorName → r.cursorNameMap stmt' = some cursorName → stmt = stmt'
  length : ∀ stmt cursorName, r.cursorNameMap stmt = some cursorName → cursorName.length ≤ 18
  notReserved : ∀ stmt cursorName, r.cursorNameMap stmt = some cursorName →
    (cursorName.take 7).map Char.toUpper ≠ "SQL_CUR".toList
  notDropped : ∀ stmt cursorName, r.cursorNameMap stmt = some cursorName → stmt ∈ r.statements

/-- The names are registered as claimed after a step, and that of a statement that is dropped is not in
use any more. -/
def KeepsRegistry (P : Platform) (r : CursorRegistry) (a : Step) : Prop :=
  ∀ r', r.step P a = some r' → r'.WellRegistered ∧
    ∀ stmt cursorName, a = .drop stmt → r.cursorNameMap stmt = some cursorName →
      cursorName ∉ r'.cursorNames

/-- A name that is registered has at most 18 characters, and still then its statement is there and no
other one has the name. -/
def IsSafe (r : CursorRegistry) : Step → Prop
  | .register call => ∀ stmt cursorName, r.calls call = some (stmt, cursorName) →
    cursorName.length ≤ 18 ∧ stmt ∈ r.statements ∧
      ∀ other, other ≠ stmt → r.cursorNameMap other ≠ some cursorName
  | _ => True

/-! ## Steps -/

section Steps

variable {P : Platform} {r r' : CursorRegistry} {stmt call : ℕ} {cursorName : Text}

/-- The names of the other statements. -/
lemma WellRegistered.mem_otherNames_iff (h : r.WellRegistered) (stmt : ℕ) (cursorName : Text) :
    cursorName ∈ r.otherNames stmt ↔
      ∃ other, other ≠ stmt ∧ r.cursorNameMap other = some cursorName := by
  unfold otherNames
  rcases hold : r.cursorNameMap stmt with _ | old
  · dsimp only
    rw [h.image]
    refine exists_congr fun other => ?_
    rw [iff_and_self]
    rintro hother rfl
    rw [hold] at hother
    contradiction
  · dsimp only
    rw [Finset.mem_erase, h.image]
    constructor
    · rintro ⟨hne, other, hother⟩
      refine ⟨other, ?_, hother⟩
      rintro rfl
      exact hne (Option.some.inj (hother.symm.trans hold))
    · rintro ⟨other, hne, hother⟩
      refine ⟨?_, other, hother⟩
      rintro rfl
      exact hne (h.unique other stmt cursorName (h.notDropped _ _ hother) (h.notDropped _ _ hold) hother
        hold)

/-- A name that passes is the text that was converted, is not reserved and not in use. -/
lemma checkCursorName_eq_ok {cursorNames : Finset Text} {name : Option (List ℕ)} {nameLen : ℤ}
    (h : checkCursorName P cursorNames name nameLen = some (.ok cursorName)) :
    nameLen ≤ cursorNameMaxLength ∧
      (∃ bytes, Utility.sqlWcharToString P name nameLen false = some bytes ∧
        Utf8.decode (fun _ => true) bytes = some cursorName) ∧
      startsWithSqlCur cursorName = false ∧ cursorName ∉ cursorNames := by
  unfold checkCursorName at h
  split at h
  · cases h
  · next hlen =>
    simp only [Option.bind_eq_bind, Option.bind_eq_some_iff] at h
    obtain ⟨bytes, hbytes, decoded, hdecoded, hrest⟩ := h
    split at hrest
    · cases hrest
    · next hreserved =>
      split at hrest
      · cases hrest
      · next hused =>
        obtain rfl := Except.ok.inj (Option.some.inj hrest)
        exact ⟨not_lt.mp hlen, ⟨bytes, hbytes, hdecoded⟩, Bool.eq_false_iff.mpr hreserved, hused⟩

/-- Only a name that is given without its length can be too long. -/
lemma length_le_of_checkCursorName {cursorNames : Finset Text} {name : Option (List ℕ)} {nameLen : ℤ}
    (h : checkCursorName P cursorNames name nameLen = some (.ok cursorName))
    (hnts : nameLen ≠ Utility.sqlNts) : cursorName.length ≤ 18 := by
  obtain ⟨hlen, ⟨bytes, hbytes, hdecoded⟩, -⟩ := checkCursorName_eq_ok h
  have hmax : nameLen ≤ 18 := hlen
  rcases name with _ | units
  · obtain rfl := Option.some.inj hbytes
    obtain rfl := Option.some.inj hdecoded
    exact Nat.zero_le _
  · simp only [Utility.sqlWcharToString, if_neg hnts, Bool.false_eq_true, if_false,
      toBytes_eq_some_iff] at hbytes
    obtain ⟨cs, hunits, rfl⟩ := hbytes
    rw [Utf8.decode_encode, if_pos (by simp), Option.some.injEq] at hdecoded
    subst hdecoded
    have hcount := congrArg List.length hunits
    rw [List.length_map, List.length_map] at hcount
    rw [← hcount]
    split
    · calc _ ≤ (units.take nameLen.toNat).length := (List.takeWhile_prefix _).length_le
        _ ≤ nameLen.toNat := List.length_take_le _ _
        _ ≤ 18 := by omega
    · exact Nat.zero_le _

/-- The names that were looked up are not reserved. -/
def Checked (r : CursorRegistry) : Prop :=
  ∀ call stmt cursorName, r.calls call = some (stmt, cursorName) →
    (cursorName.take 7).map Char.toUpper ≠ "SQL_CUR".toList

/-- The effects of a step on the names: none if a statement is allocated or a name is looked up, a call
registers its name, and a statement that is dropped loses its name. -/
inductive Effect (P : Platform) (r : CursorRegistry) : Step → CursorRegistry → Prop
  | allocated (stmt : ℕ) :
    Effect P r (.alloc stmt) { r with statements := insert stmt r.statements }
  | refused (call stmt : ℕ) (name : Option (List ℕ)) (nameLen : ℤ) :
    Effect P r (.check call stmt name nameLen) r
  | checked (call stmt : ℕ) (name : Option (List ℕ)) (nameLen : ℤ) (cursorName : Text)
    (h : checkCursorName P r.cursorNames name nameLen = some (.ok cursorName)) :
    Effect P r (.check call stmt name nameLen)
      { r with calls := Function.update r.calls call (some (stmt, cursorName)) }
  | registered (call stmt : ℕ) (cursorName : Text) (h : r.calls call = some (stmt, cursorName)) :
    Effect P r (.register call)
      { r.addCursorName stmt cursorName with calls := Function.update r.calls call none }
  | dropped (stmt : ℕ) :
    Effect P r (.drop stmt) { r.removeCursorName stmt with statements := r.statements.erase stmt }

/-- Every step has one of these effects. -/
lemma effect_of_step {a : Step} (h : r.step P a = some r') : Effect P r a r' := by
  cases a with
  | alloc stmt =>
    simp only [step] at h
    split at h
    · cases h
    · obtain rfl := Option.some.inj h
      exact .allocated stmt
  | check call stmt name nameLen =>
    simp only [step] at h
    split at h
    · cases h
    · split at h
      · next cursorName hcheck =>
        obtain rfl := Option.some.inj h
        exact .checked call stmt name nameLen cursorName hcheck
      · obtain rfl := Option.some.inj h
        exact .refused call stmt name nameLen
  | register call =>
    simp only [step] at h
    split at h
    · next stmt cursorName hcall =>
      obtain rfl := Option.some.inj h
      exact .registered call stmt cursorName hcall
    · cases h
  | drop stmt =>
    simp only [step] at h
    split at h
    · obtain rfl := Option.some.inj h
      exact .dropped stmt
    · cases h

/-- Names are looked up before they are registered. -/
lemma Checked.step (hchecked : r.Checked) {a : Step} (h : r.step P a = some r') : r'.Checked := by
  intro other stmt' cursorName' hother
  cases effect_of_step h with
  | allocated stmt => exact hchecked _ _ _ hother
  | refused call stmt name nameLen => exact hchecked _ _ _ hother
  | checked call stmt name nameLen cursorName hcheck =>
    by_cases hcall : other = call
    · subst hcall
      simp only [Function.update_self, Option.some.injEq, Prod.mk.injEq] at hother
      obtain ⟨-, rfl⟩ := hother
      have hreserved := (checkCursorName_eq_ok hcheck).2.2.1
      rw [Bool.eq_false_iff, ne_eq, startsWithSqlCur_iff] at hreserved
      exact hreserved
    · simp only [Function.update_of_ne hcall] at hother
      exact hchecked _ _ _ hother
  | registered call stmt cursorName hregister =>
    by_cases hcall : other = call
    · subst hcall
      simp at hother
    · simp only [Function.update_of_ne hcall] at hother
      exact hchecked _ _ _ hother
  | dropped stmt => exact hchecked _ _ _ hother

/-- More statements are no harm to the names. -/
lemma WellRegistered.of_subset (h : r.WellRegistered) {statements : Finset ℕ}
    {calls : ℕ → Option (ℕ × Text)} (hsubset : r.statements ⊆ statements) :
    ({ r with statements, calls } : CursorRegistry).WellRegistered where
  image := h.image
  unique stmt stmt' cursorName _ _ hname hname' :=
    h.unique stmt stmt' cursorName (h.notDropped _ _ hname) (h.notDropped _ _ hname') hname hname'
  length := h.length
  notReserved := h.notReserved
  notDropped stmt cursorName hname := hsubset (h.notDropped stmt cursorName hname)

/-- A name that is registered keeps the registry exactly when it is short enough, its statement is there
and no other statement has it. -/
lemma WellRegistered.addCursorName_iff (h : r.WellRegistered) (calls : ℕ → Option (ℕ × Text))
    (hreserved : (cursorName.take 7).map Char.toUpper ≠ "SQL_CUR".toList) :
    ({ r.addCursorName stmt cursorName with calls } : CursorRegistry).WellRegistered ↔
      cursorName.length ≤ 18 ∧ stmt ∈ r.statements ∧
        ∀ other, other ≠ stmt → r.cursorNameMap other ≠ some cursorName := by
  have hself : (r.addCursorName stmt cursorName).cursorNameMap stmt = some cursorName :=
    Function.update_self ..
  have hothers : ∀ other, other ≠ stmt →
      (r.addCursorName stmt cursorName).cursorNameMap other = r.cursorNameMap other :=
    fun other hne => Function.update_of_ne hne ..
  constructor
  · intro h'
    refine ⟨h'.length stmt _ hself, h'.notDropped stmt _ hself, ?_⟩
    intro other hne hname
    exact hne (h'.unique other stmt cursorName (h.notDropped _ _ hname) (h'.notDropped stmt _ hself)
      ((hothers other hne).trans hname) hself)
  · rintro ⟨hlength, hstmt, hfree⟩
    -- a statement has the new name or the one it had
    have hcases : ∀ other name, (r.addCursorName stmt cursorName).cursorNameMap other = some name →
        other = stmt ∧ name = cursorName ∨ other ≠ stmt ∧ r.cursorNameMap other = some name := by
      intro other name hname
      by_cases hne : other = stmt
      · subst hne
        exact .inl ⟨rfl, Option.some.inj (hname.symm.trans hself)⟩
      · exact .inr ⟨hne, (hothers other hne).symm.trans hname⟩
    refine ⟨?_, ?_, ?_, ?_, ?_⟩
    · intro name
      change name ∈ insert cursorName (r.otherNames stmt) ↔ _
      rw [Finset.mem_insert, h.mem_otherNames_iff]
      constructor
      · rintro (rfl | ⟨other, hne, hname⟩)
        · exact ⟨stmt, hself⟩
        · exact ⟨other, (hothers other hne).trans hname⟩
      · rintro ⟨other, hname⟩
        rcases hcases other name hname with ⟨-, rfl⟩ | ⟨hne, hname⟩
        · exact .inl rfl
        · exact .inr ⟨other, hne, hname⟩
    · intro other other' name hmem hmem' hname hname'
      rcases hcases other name hname with ⟨rfl, rfl⟩ | ⟨hne, hold⟩ <;>
        rcases hcases other' _ hname' with ⟨rfl, hnew⟩ | ⟨hne', hold'⟩
      · rfl
      · exact absurd hold' (hfree other' hne')
      · exact absurd (hnew ▸ hold) (hfree other hne)
      · exact h.unique other other' name (h.notDropped _ _ hold) (h.notDropped _ _ hold') hold hold'
    · intro other name hname
      rcases hcases other name hname with ⟨-, rfl⟩ | ⟨-, hold⟩
      · exact hlength
      · exact h.length other name hold
    · intro other name hname
      rcases hcases other name hname with ⟨-, rfl⟩ | ⟨-, hold⟩
      · exact hreserved
      · exact h.notReserved other name hold
    · intro other name hname
      rcases hcases other name hname with ⟨rfl, -⟩ | ⟨-, hold⟩
      · exact hstmt
      · exact h.notDropped other name hold

/-- A statement that is dropped takes its name with it. -/
lemma WellRegistered.removeCursorName (h : r.WellRegistered) (stmt : ℕ) :
    ({ r.removeCursorName stmt with statements := r.statements.erase stmt } :
      CursorRegistry).WellRegistered := by
  -- the other statements keep their names
  have hcases : ∀ other name, (r.removeCursorName stmt).cursorNameMap other = some name ↔
      other ≠ stmt ∧ r.cursorNameMap other = some name := by
    intro other name
    change Function.update r.cursorNameMap stmt none other = some name ↔ _
    by_cases hne : other = stmt
    · subst hne
      simp
    · simp [hne]
  refine ⟨?_, ?_, ?_, ?_, ?_⟩
  · intro name
    change name ∈ r.otherNames stmt ↔ _
    rw [h.mem_otherNames_iff]
    exact exists_congr fun other => (hcases other name).symm
  · intro other other' name _ _ hname hname'
    have hold := ((hcases other name).mp hname).2
    have hold' := ((hcases other' name).mp hname').2
    exact h.unique other other' name (h.notDropped _ _ hold) (h.notDropped _ _ hold') hold hold'
  · intro other name hname
    exact h.length other name ((hcases other name).mp hname).2
  · intro other name hname
    exact h.notReserved other name ((hcases other name).mp hname).2
  · intro other name hname
    obtain ⟨hne, hold⟩ := (hcases other name).mp hname
    exact Finset.mem_erase.mpr ⟨hne, h.notDropped other name hold⟩

/-- The name of a statement that is dropped is not in use any more. -/
lemma WellRegistered.notMem_removeCursorName (h : r.WellRegistered)
    (hname : r.cursorNameMap stmt = some cursorName) :
    cursorName ∉ (r.removeCursorName stmt).cursorNames := by
  change cursorName ∉ r.otherNames stmt
  rw [h.mem_otherNames_iff]
  rintro ⟨other, hne, hother⟩
  exact hne (h.unique other stmt cursorName (h.notDropped _ _ hother) (h.notDropped _ _ hname) hother
    hname)

/-- A step keeps the registry exactly when it is safe. -/
lemma keepsRegistry_iff (h : r.WellRegistered) (hchecked : r.Checked) {a : Step}
    (hstep : r.step P a = some r') : r.KeepsRegistry P a ↔ r.IsSafe a := by
  have hkeeps : r.KeepsRegistry P a ↔ r'.WellRegistered := by
    constructor
    · exact fun hall => (hall r' hstep).1
    · intro h' r'' hstep'
      obtain rfl := Option.some.inj (hstep.symm.trans hstep')
      refine ⟨h', ?_⟩
      rintro stmt cursorName rfl hname
      cases effect_of_step hstep
      exact h.notMem_removeCursorName hname
  rw [hkeeps]
  cases effect_of_step hstep with
  | allocated stmt => exact iff_of_true (h.of_subset (Finset.subset_insert _ _)) trivial
  | refused call stmt name nameLen => exact iff_of_true h trivial
  | checked call stmt name nameLen cursorName hcheck =>
    exact iff_of_true (h.of_subset (Finset.Subset.refl _)) trivial
  | registered call stmt cursorName hcall =>
    rw [h.addCursorName_iff _ (hchecked call stmt cursorName hcall)]
    constructor
    · intro hsafe stmt' cursorName' hcall'
      obtain ⟨rfl, rfl⟩ := Prod.mk.inj (Option.some.inj (hcall.symm.trans hcall'))
      exact hsafe
    · exact fun hsafe => hsafe stmt cursorName hcall
  | dropped stmt => exact iff_of_true (h.removeCursorName stmt) trivial

end Steps

/-! ## Runs -/

lemma wellRegistered_new : new.WellRegistered where
  image := by simp [new]
  unique := by simp [new]
  length := by simp [new]
  notReserved := by simp [new]
  notDropped := by simp [new]

end CursorRegistry

end TimestreamOdbc
