import Mathlib.Data.List.Basic
import Mathlib.Data.List.Infix
import Mathlib.Tactic.Common

/-!
# Texts between two marks

The first place of a list at which a part stands between a beginning and an end, where the part is as
short as it can be and has only elements that are allowed: what the search for a regular expression
with one group that takes as little as it can finds.
-/

namespace Delimited

variable {α : Type*} [DecidableEq α]

/-- The elements up to the first end, all of which are allowed. -/
def upTo (finish : List α) (allowed : α → Bool) : List α → Option (List α)
  | [] => if finish.isPrefixOf [] then some [] else none
  | a :: l =>
    if finish.isPrefixOf (a :: l) then some []
    else if allowed a then (upTo finish allowed l).map (a :: ·)
    else none

/-- The elements between a beginning, which is here, and an end. -/
def here (start finish : List α) (allowed : α → Bool) (l : List α) : Option (List α) :=
  if start.isPrefixOf l then upTo finish allowed (l.drop start.length) else none

/-- The elements between the first beginning that has an end and that end. -/
def search (start finish : List α) (allowed : α → Bool) : List α → Option (List α)
  | [] => here start finish allowed []
  | a :: l => (here start finish allowed (a :: l)).or (search start finish allowed l)

variable {start finish : List α} {allowed : α → Bool}

/-- The elements up to an end are allowed, and no end is in front of it. -/
lemma upTo_eq_some_iff {l v : List α} :
    upTo finish allowed l = some v ↔
      (∃ after, l = v ++ finish ++ after) ∧ (∀ a ∈ v, allowed a = true) ∧
        ∀ n < v.length, ¬ finish <+: l.drop n := by
  induction l generalizing v with
  | nil =>
    rw [upTo]
    split
    · next hbegins =>
      obtain rfl : finish = [] := List.prefix_nil.mp (List.isPrefixOf_iff_prefix.mp hbegins)
      constructor
      · rintro ⟨rfl⟩
        exact ⟨⟨[], rfl⟩, nofun, nofun⟩
      · rintro ⟨⟨after, hl⟩, -, -⟩
        cases v with
        | nil => rfl
        | cons a v => cases hl
    · next hbegins =>
      refine iff_of_false nofun ?_
      rintro ⟨⟨after, hl⟩, -, -⟩
      refine hbegins (List.isPrefixOf_iff_prefix.mpr (List.prefix_nil.mpr ?_))
      have hlength := congrArg List.length hl
      simp only [List.length_nil, List.length_append] at hlength
      exact List.length_eq_zero_iff.mp (by omega)
  | cons a l ih =>
    rw [upTo]
    by_cases hbegins : finish <+: a :: l
    · rw [if_pos (List.isPrefixOf_iff_prefix.mpr hbegins)]
      constructor
      · rintro ⟨rfl⟩
        obtain ⟨after, hafter⟩ := hbegins
        exact ⟨⟨after, hafter.symm⟩, nofun, nofun⟩
      · rintro ⟨-, -, hfirst⟩
        cases v with
        | nil => rfl
        | cons b v => exact absurd hbegins (hfirst 0 (Nat.succ_pos _))
    · rw [if_neg fun h => hbegins (List.isPrefixOf_iff_prefix.mp h)]
      cases v with
      | nil =>
        refine iff_of_false ?_ ?_
        · split
          · simp
          · nofun
        · rintro ⟨⟨after, hl⟩, -, -⟩
          exact hbegins ⟨after, hl.symm⟩
      | cons b v =>
        have hrest : (∀ n < (b :: v).length, ¬ finish <+: (a :: l).drop n) ↔
            ∀ n < v.length, ¬ finish <+: l.drop n := by
          constructor
          · intro h n hn
            exact h (n + 1) (Nat.succ_lt_succ hn)
          · intro h n hn
            cases n with
            | zero => exact hbegins
            | succ n => exact h n (Nat.lt_of_succ_lt_succ hn)
        rw [hrest, List.forall_mem_cons]
        split
        · next ha =>
          rw [Option.map_eq_some_iff]
          constructor
          · rintro ⟨w, hw, heq⟩
            obtain ⟨rfl, rfl⟩ := List.cons.inj heq
            obtain ⟨⟨after, rfl⟩, hallowed, hfirst⟩ := ih.mp hw
            exact ⟨⟨after, rfl⟩, ⟨ha, hallowed⟩, hfirst⟩
          · rintro ⟨⟨after, hl⟩, ⟨-, hallowed⟩, hfirst⟩
            obtain ⟨rfl, hl'⟩ := List.cons.inj hl
            exact ⟨v, ih.mpr ⟨⟨after, hl'⟩, hallowed, hfirst⟩, rfl⟩
        · next ha =>
          refine iff_of_false nofun ?_
          rintro ⟨⟨after, hl⟩, ⟨hb, -⟩, -⟩
          exact ha ((List.cons.inj hl).1 ▸ hb)

/-- What is found is at a place in front of which nothing is. -/
lemma search_eq_some_iff {l v : List α} :
    search start finish allowed l = some v ↔
      ∃ before rest, l = before ++ rest ∧ here start finish allowed rest = some v ∧
        ∀ n < before.length, here start finish allowed (l.drop n) = none := by
  induction l with
  | nil =>
    rw [search]
    constructor
    · intro h
      exact ⟨[], [], rfl, h, nofun⟩
    · rintro ⟨before, rest, hl, h, -⟩
      obtain ⟨rfl, rfl⟩ := List.append_eq_nil_iff.mp hl.symm
      exact h
  | cons a l ih =>
    rw [search, Option.or_eq_some_iff, ih]
    constructor
    · rintro (h | ⟨hnone, before, rest, rfl, h, hfirst⟩)
      · exact ⟨[], a :: l, rfl, h, nofun⟩
      · refine ⟨a :: before, rest, rfl, h, fun n hn => ?_⟩
        cases n with
        | zero => exact hnone
        | succ n => exact hfirst n (Nat.lt_of_succ_lt_succ hn)
    · rintro ⟨before, rest, hl, h, hfirst⟩
      cases before with
      | nil =>
        rw [List.nil_append] at hl
        exact .inl (hl ▸ h)
      | cons b before =>
        obtain ⟨rfl, rfl⟩ := List.cons.inj hl
        exact .inr ⟨hfirst 0 (Nat.succ_pos _), before, rest, rfl, h, fun n hn =>
          hfirst (n + 1) (Nat.succ_lt_succ hn)⟩

/-- Where no beginning is, nothing is found. -/
lemma here_eq_none {l : List α} (h : ¬ start <+: l) : here start finish allowed l = none :=
  if_neg fun hbegins => h (List.isPrefixOf_iff_prefix.mp hbegins)

/-- What is between the first beginning and an end whose first element it does not have is found. -/
lemma search_append {before v after : List α} {a : α} (hfinish : finish.head? = some a) (ha : a ∉ v)
    (hallowed : ∀ b ∈ v, allowed b = true)
    (hfirst : ∀ n < before.length, ¬ start <+: (before ++ start ++ v ++ finish ++ after).drop n) :
    search start finish allowed (before ++ start ++ v ++ finish ++ after) = some v := by
  rw [search_eq_some_iff]
  refine ⟨before, start ++ (v ++ finish ++ after), by simp, ?_, fun n hn => here_eq_none (hfirst n hn)⟩
  rw [here, if_pos (List.isPrefixOf_iff_prefix.mpr (List.prefix_append _ _)), List.drop_left,
    upTo_eq_some_iff]
  refine ⟨⟨after, rfl⟩, hallowed, fun n hn hbegins => ha ?_⟩
  -- an end that is in front would have its first element in the part
  obtain ⟨finish', rfl⟩ : ∃ finish', finish = a :: finish' := by
    cases finish with
    | nil => cases hfinish
    | cons b finish' => exact ⟨finish', by rw [Option.some.inj hfinish]⟩
  have hdrop : (v ++ a :: finish' ++ after).drop n = v[n] :: (v.drop (n + 1) ++ a :: finish' ++ after) := by
    rw [List.append_assoc, List.drop_append_of_le_length hn.le, List.drop_eq_getElem_cons hn,
      List.cons_append, List.append_assoc]
  rw [hdrop] at hbegins
  rw [(List.cons_prefix_cons.mp hbegins).1]
  exact List.getElem_mem hn

end Delimited
