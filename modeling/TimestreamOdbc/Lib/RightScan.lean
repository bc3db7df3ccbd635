import Mathlib.Data.List.Basic
import Mathlib.Tactic.Common

/-!
# Searching a list from its end

The position of the last occurrence of a value, and what it says about the list: a last occurrence
is a decomposition of the list into what comes before it and a rest without the value.  The pieces
between the occurrences, taken from the last one to the first, are those of `List.splitOn`.
-/

namespace RightScan

variable {α : Type*} [DecidableEq α]

/-- The position of the last occurrence of a value in a list. -/
def rfind (a : α) : List α → Option ℕ
  | [] => none
  | b :: l =>
    match rfind a l with
    | some i => some (i + 1)
    | none => if b = a then some 0 else none

/-- There is no last occurrence exactly when there is none. -/
lemma rfind_eq_none_iff {a : α} {l : List α} : rfind a l = none ↔ a ∉ l := by
  induction l with
  | nil => simp [rfind]
  | cons b l ih =>
    cases h : rfind a l with
    | some i =>
      have hmem : a ∈ l := by
        by_contra hnot
        rw [ih.mpr hnot] at h
        cases h
      simp [rfind, h, hmem]
    | none =>
      have hnot : a ∉ l := ih.mp h
      by_cases hb : b = a
      · simp [rfind, h, hb]
      · simp [rfind, h, hb, hnot, Ne.symm hb]

/-- The last occurrence in a list that ends without the value is that before the end. -/
lemma rfind_append_cons {a : α} (l : List α) {m : List α} (hm : a ∉ m) :
    rfind a (l ++ a :: m) = some l.length := by
  induction l with
  | nil =>
    rw [List.nil_append, rfind, rfind_eq_none_iff.mpr hm]
    exact if_pos rfl
  | cons b l ih =>
    rw [List.cons_append, rfind, ih]
    rfl

/-- A last occurrence cuts the list in front of a rest without the value. -/
lemma exists_of_rfind_eq_some {a : α} {l : List α} {i : ℕ} (h : rfind a l = some i) :
    ∃ pre post, l = pre ++ a :: post ∧ a ∉ post ∧ pre.length = i := by
  induction l generalizing i with
  | nil => cases h
  | cons b l ih =>
    rw [rfind] at h
    cases hl : rfind a l with
    | some j =>
      rw [hl] at h
      obtain ⟨pre, post, rfl, hpost, hlen⟩ := ih hl
      obtain rfl : j + 1 = i := Option.some.inj h
      exact ⟨b :: pre, post, rfl, hpost, by rw [List.length_cons, hlen]⟩
    | none =>
      rw [hl] at h
      by_cases hb : b = a
      · obtain rfl : 0 = i := by simpa [hb] using h
        exact ⟨[], l, by rw [hb]; rfl, rfind_eq_none_iff.mp hl, rfl⟩
      · simp [hb] at h

/-- A last occurrence is a position of the list. -/
lemma lt_length_of_rfind_eq_some {a : α} {l : List α} {i : ℕ} (h : rfind a l = some i) :
    i < l.length := by
  obtain ⟨pre, post, rfl, -, rfl⟩ := exists_of_rfind_eq_some h
  simp

/-- The last occurrence in a concatenation is that of the second part, if there is one. -/
lemma rfind_append (a : α) (l m : List α) :
    rfind a (l ++ m) = ((rfind a m).map (· + l.length)).or (rfind a l) := by
  cases hm : rfind a m with
  | none =>
    have hnot : a ∉ m := rfind_eq_none_iff.mp hm
    rw [Option.map_none, Option.none_or]
    cases hl : rfind a l with
    | none =>
      have hnotl : a ∉ l := rfind_eq_none_iff.mp hl
      exact rfind_eq_none_iff.mpr (by simp [hnot, hnotl])
    | some i =>
      obtain ⟨pre, post, rfl, hpost, rfl⟩ := exists_of_rfind_eq_some hl
      rw [List.append_assoc, List.cons_append]
      exact rfind_append_cons pre (by simp [hpost, hnot])
  | some j =>
    obtain ⟨pre, post, rfl, hpost, rfl⟩ := exists_of_rfind_eq_some hm
    rw [← List.append_assoc, rfind_append_cons _ hpost, List.length_append, Nat.add_comm]
    rfl

/-- The pieces of a list without the value are the list itself; otherwise the last piece is what
comes after the last occurrence. -/
lemma splitOn_eq (a : α) (l : List α) :
    l.splitOn a = match rfind a l with
      | none => [l]
      | some i => (l.take i).splitOn a ++ [l.drop (i + 1)] := by
  cases h : rfind a l with
  | none => exact List.splitOn_eq_singleton (rfind_eq_none_iff.mp h)
  | some i =>
    obtain ⟨pre, post, rfl, hpost, rfl⟩ := exists_of_rfind_eq_some h
    rw [List.splitOn_append_cons_self, List.splitOn_eq_singleton hpost]
    simp

/-- No piece contains the value that was split on. -/
lemma notMem_of_mem_splitOn {a : α} {l piece : List α} (h : piece ∈ l.splitOn a) : a ∉ piece := by
  induction hn : l.length using Nat.strongRecOn generalizing l with
  | ind n ih =>
  rw [splitOn_eq] at h
  cases hl : rfind a l with
  | none =>
    rw [hl] at h
    obtain rfl : piece = l := by simpa using h
    exact rfind_eq_none_iff.mp hl
  | some i =>
    rw [hl] at h
    obtain ⟨pre, post, rfl, hpost, rfl⟩ := exists_of_rfind_eq_some hl
    rcases List.mem_append.mp h with h | h
    · rw [List.take_left' rfl] at h
      exact ih pre.length (by rw [← hn, List.length_append, List.length_cons]; omega) h rfl
    · obtain rfl : piece = post := by simpa using h
      exact hpost

/-- Pieces that are each written with a delimiter behind it are found again, in front of the pieces
of what follows. -/
lemma splitOn_flatten_append (a : α) {pieces : List (List α)} (h : ∀ piece ∈ pieces, a ∉ piece)
    (l : List α) : ((pieces.map (· ++ [a])).flatten ++ l).splitOn a = pieces ++ l.splitOn a := by
  induction pieces with
  | nil => rfl
  | cons piece pieces ih =>
    have hpiece := h piece List.mem_cons_self
    have hpieces := ih fun p hp => h p (List.mem_cons_of_mem _ hp)
    rw [List.map_cons, List.flatten_cons, List.append_assoc, List.append_assoc,
      List.singleton_append, List.splitOn_append_cons_self, List.splitOn_eq_singleton hpiece,
      hpieces]
    rfl

/-- Behind the last delimiter there is an empty piece. -/
lemma splitOn_flatten_concat (a : α) {pieces : List (List α)} (h : ∀ piece ∈ pieces, a ∉ piece) :
    (pieces.map (· ++ [a])).flatten.splitOn a = pieces ++ [[]] := by
  have happend := splitOn_flatten_append a h []
  rwa [List.append_nil, List.splitOn_nil] at happend

end RightScan
