import Mathlib.Data.Nat.Digits.Defs
import Mathlib.Data.List.DropRight
import Mathlib.Order.Interval.Set.Defs
import Mathlib.Tactic.Common
import Mathlib.Tactic.Ring

/-!
# Numbers in memory

A memory of bytes that is read and written at an address, and the numbers that bytes denote with the
lowest byte first, also in words of four bytes.
-/

/-! ## Bytes at an address -/

/-- A memory. -/
def Memory : Type := ℕ → UInt8

namespace Memory

/-- The bytes from an address on. -/
def read (memory : Memory) (address size : ℕ) : List UInt8 :=
  (List.range size).map fun i => memory (address + i)

/-- The memory after bytes were written from an address on. -/
def write (memory : Memory) (address : ℕ) (bytes : List UInt8) : Memory := fun a =>
  if a < address then memory a else (bytes[a - address]?).getD (memory a)

variable {memory memory' : Memory} {address size : ℕ} {bytes : List UInt8}

@[simp] lemma length_read : (memory.read address size).length = size := by
  simp [read]

/-- What was written is read. -/
lemma read_write : (memory.write address bytes).read address bytes.length = bytes := by
  apply List.ext_getElem
  · simp
  · intro i hi hlt
    simp [read, write, hlt]

/-- Nothing else is written. -/
lemma write_of_notMem {a : ℕ} (ha : a ∉ Set.Ico address (address + bytes.length)) :
    memory.write address bytes a = memory a := by
  unfold write
  split
  · rfl
  · next hge =>
    have hlong : bytes.length ≤ a - address := by
      by_contra hlt
      exact ha ⟨by omega, by omega⟩
    rw [List.getElem?_eq_none hlong, Option.getD_none]

/-- Reading depends on the bytes that are read. -/
lemma read_congr (h : ∀ a ∈ Set.Ico address (address + size), memory a = memory' a) :
    memory.read address size = memory'.read address size := by
  apply List.map_congr_left
  intro i hi
  have hlt := List.mem_range.mp hi
  exact h _ ⟨by omega, by omega⟩

/-- Reading on. -/
lemma read_add (size' : ℕ) : memory.read address (size + size') =
    memory.read address size ++ memory.read (address + size) size' := by
  unfold read
  rw [List.range_add, List.map_append, List.map_map]
  simp only [Function.comp_def, Nat.add_assoc]

end Memory

/-! ## The lowest byte first -/

namespace LittleEndian

/-- The number that bytes denote. -/
def toNat (bytes : List UInt8) : ℕ := Nat.ofDigits 256 (bytes.map UInt8.toNat)

/-- The lowest bytes of a number. -/
def ofNat : ℕ → ℕ → List UInt8
  | 0, _ => []
  | size + 1, n => (n % 256).toUInt8 :: ofNat size (n / 256)

@[simp] lemma toNat_nil : toNat [] = 0 := rfl

lemma toNat_cons (byte : UInt8) (bytes : List UInt8) :
    toNat (byte :: bytes) = byte.toNat + 256 * toNat bytes := by
  simp [toNat, Nat.ofDigits_cons]

lemma toNat_append (bytes bytes' : List UInt8) :
    toNat (bytes ++ bytes') = toNat bytes + 256 ^ bytes.length * toNat bytes' := by
  simp [toNat, Nat.ofDigits_append]

@[simp] lemma length_ofNat (size n : ℕ) : (ofNat size n).length = size := by
  induction size generalizing n with
  | zero => rfl
  | succ size ih => rw [ofNat, List.length_cons, ih]

/-- The lowest bytes of a number denote its remainder. -/
lemma toNat_ofNat (size n : ℕ) : toNat (ofNat size n) = n % 256 ^ size := by
  induction size generalizing n with
  | zero => simp [ofNat, Nat.mod_one]
  | succ size ih =>
    have hbyte : (n % 256).toUInt8.toNat = n % 256 := by
      rw [Nat.toUInt8, UInt8.toNat_ofNat']
      omega
    rw [ofNat, toNat_cons, ih, hbyte, Nat.pow_succ', Nat.mod_mul]

/-- The lowest bytes depend on the remainder alone. -/
lemma ofNat_mod (size n : ℕ) : ofNat size (n % 256 ^ size) = ofNat size n := by
  induction size generalizing n with
  | zero => rfl
  | succ size ih =>
    have hdiv : n % 256 ^ (size + 1) / 256 = n / 256 % 256 ^ size := by
      rw [Nat.pow_succ', Nat.mod_mul_right_div_self]
    have hmod : n % 256 ^ (size + 1) % 256 = n % 256 := by
      rw [Nat.pow_succ', Nat.mod_mul_right_mod]
    rw [ofNat, ofNat, hdiv, hmod, ih]

/-- The bytes behind a place are those of the quotient. -/
lemma ofNat_add (size size' n : ℕ) :
    ofNat (size + size') n = ofNat size n ++ ofNat size' (n / 256 ^ size) := by
  induction size generalizing n with
  | zero => rw [Nat.zero_add, Nat.pow_zero, Nat.div_one, ofNat, List.nil_append]
  | succ size ih =>
    rw [Nat.add_right_comm, ofNat, ofNat, ih, Nat.div_div_eq_div_mul, Nat.pow_succ',
      List.cons_append]

/-- Bytes denote a number below the power for their length. -/
lemma toNat_lt (bytes : List UInt8) : toNat bytes < 256 ^ bytes.length := by
  have h := Nat.ofDigits_lt_base_pow_length (b := 256) (l := bytes.map UInt8.toNat) (by decide) (by
    intro digit hdigit
    obtain ⟨byte, -, rfl⟩ := List.mem_map.mp hdigit
    exact byte.toNat_lt)
  rwa [List.length_map] at h

/-- Up to four bytes denote a number of 32 bits. -/
lemma toNat_lt_of_length_le {bytes : List UInt8} (h : bytes.length ≤ 4) : toNat bytes < 2 ^ 32 := by
  have hpow : 256 ^ bytes.length ≤ 256 ^ 4 := Nat.pow_le_pow_right (by decide) h
  exact (toNat_lt bytes).trans_le (hpow.trans (by norm_num))

/-- The highest bytes that are zero do not count. -/
lemma toNat_rdropWhile (bytes : List UInt8) :
    toNat (bytes.rdropWhile (· = 0)) = toNat bytes := by
  obtain ⟨k, hk⟩ : ∃ k, bytes.rtakeWhile (· = 0) = List.replicate k 0 :=
    ⟨_, List.eq_replicate_of_mem fun byte hbyte => by simpa using List.mem_rtakeWhile_imp hbyte⟩
  have hzero : toNat (List.replicate k 0) = 0 := by
    simp [toNat, Nat.ofDigits_replicate_zero]
  conv_rhs =>
    rw [← List.rdropWhile_append_rtakeWhile (p := (· = (0 : UInt8))) (l := bytes)]
  rw [toNat_append, hk, hzero, Nat.mul_zero, Nat.add_zero]

/-! ## Words -/

/-- The words of four bytes; the highest one may have less. -/
def words : List UInt8 → List ℕ
  | a :: b :: c :: d :: bytes => toNat [a, b, c, d] :: words bytes
  | [] => []
  | bytes => [toNat bytes]

/-- Words denote what their bytes denote. -/
lemma ofDigits_words (bytes : List UInt8) : Nat.ofDigits (2 ^ 32) (words bytes) = toNat bytes := by
  fun_induction words bytes with
  | case1 a b c d bytes ih =>
    have hcut := toNat_append [a, b, c, d] bytes
    have hpow : 256 ^ [a, b, c, d].length = 2 ^ 32 := by norm_num
    rw [hpow] at hcut
    rw [Nat.ofDigits_cons, ih, ← hcut]
    rfl
  | case2 => rfl
  | case3 bytes h h' => simp

/-- A word has 32 bits. -/
lemma lt_of_mem_words {bytes : List UInt8} {word : ℕ} (h : word ∈ words bytes) : word < 2 ^ 32 := by
  revert h
  fun_induction words bytes with
  | case1 a b c d bytes ih =>
    intro h
    rcases List.mem_cons.mp h with rfl | h
    · exact toNat_lt_of_length_le (by simp)
    · exact ih h
  | case2 => simp
  | case3 bytes hlong hnil =>
    intro h
    obtain rfl := List.mem_singleton.mp h
    apply toNat_lt_of_length_le
    by_contra hlength
    match bytes with
    | [] | [_] | [_, _] | [_, _, _] => simp at hlength
    | a :: b :: c :: d :: rest => exact hlong a b c d rest rfl

/-- The bytes of words, and of a highest one with another number of bytes, are those of the number. -/
lemma flatMap_ofNat {words : List ℕ} (h : ∀ word ∈ words, word < 2 ^ 32) (size last : ℕ) :
    words.flatMap (ofNat 4) ++ ofNat size last =
      ofNat (4 * words.length + size)
        (Nat.ofDigits (2 ^ 32) words + (2 ^ 32) ^ words.length * last) := by
  induction words with
  | nil => simp
  | cons word words ih =>
    obtain ⟨hword, h⟩ := List.forall_mem_cons.mp h
    set rest := Nat.ofDigits (2 ^ 32) words + (2 ^ 32) ^ words.length * last with hrest
    have hnumber : Nat.ofDigits (2 ^ 32) (word :: words) + (2 ^ 32) ^ (words.length + 1) * last =
        word + 256 ^ 4 * rest := by
      rw [hrest, Nat.ofDigits_cons, @Nat.pow_succ' (2 ^ 32)]
      ring
    have hlow : ofNat 4 (word + 256 ^ 4 * rest) = ofNat 4 word := by
      rw [← ofNat_mod, Nat.add_mul_mod_self_left, ofNat_mod]
    have hhigh : (word + 256 ^ 4 * rest) / 256 ^ 4 = rest := by omega
    rw [List.flatMap_cons, List.append_assoc, ih h, List.length_cons, hnumber,
      show 4 * (words.length + 1) + size = 4 + (4 * words.length + size) by omega,
      ofNat_add 4, hlow, hhigh]

lemma words_ne_nil {bytes : List UInt8} (h : bytes ≠ []) : words bytes ≠ [] := by
  fun_cases words bytes with
  | case1 a b c d rest => exact List.cons_ne_nil _ _
  | case2 => exact absurd rfl h
  | case3 => exact List.cons_ne_nil _ _

/-- The highest word is not zero when the highest byte is not. -/
lemma getLast_words_ne_zero {bytes : List UInt8} (hlast : ∀ h : bytes ≠ [], bytes.getLast h ≠ 0)
    (h : words bytes ≠ []) : (words bytes).getLast h ≠ 0 := by
  have hpos : ∀ {bytes : List UInt8} (hne : bytes ≠ []), bytes.getLast hne ≠ 0 →
      toNat bytes ≠ 0 := by
    intro bytes hne hbyte
    rw [← List.dropLast_append_getLast hne, toNat_append]
    have hnat : (bytes.getLast hne).toNat ≠ 0 := fun hzero => hbyte (UInt8.toNat.inj hzero)
    have hsingle : toNat [bytes.getLast hne] = (bytes.getLast hne).toNat := by
      rw [toNat_cons, toNat_nil, Nat.mul_zero, Nat.add_zero]
    rw [hsingle]
    have := Nat.mul_pos (Nat.pow_pos (n := bytes.dropLast.length) (show 0 < 256 by decide))
      (Nat.pos_of_ne_zero hnat)
    omega
  revert hlast h
  fun_induction words bytes with
  | case1 a b c d bytes ih =>
    intro hlast h
    by_cases hnil : bytes = []
    · subst hnil
      exact hpos (List.cons_ne_nil _ _) (hlast (List.cons_ne_nil _ _))
    · have hwords : words bytes ≠ [] := words_ne_nil hnil
      rw [List.getLast_cons hwords]
      apply ih
      intro hne
      have := hlast (List.cons_ne_nil _ _)
      simpa [List.getLast_cons, hne] using this
  | case2 => exact fun _ h => absurd rfl h
  | case3 bytes hlong hnil =>
    intro hlast h
    exact hpos hnil (hlast hnil)

/-- The words of bytes without zeros at the end are the digits of the number. -/
lemma words_rdropWhile (bytes : List UInt8) :
    words (bytes.rdropWhile (· = 0)) = Nat.digits (2 ^ 32) (toNat bytes) := by
  have hlast : ∀ h : bytes.rdropWhile (· = 0) ≠ [], (bytes.rdropWhile (· = 0)).getLast h ≠ 0 := by
    intro h
    simpa using List.rdropWhile_last_not (p := (· = (0 : UInt8))) bytes h
  rw [← Nat.digits_ofDigits (2 ^ 32) (by norm_num) (words (bytes.rdropWhile (· = 0)))
    (fun word hword => lt_of_mem_words hword) (fun h => getLast_words_ne_zero hlast h),
    ofDigits_words, toNat_rdropWhile]

end LittleEndian
