import Mathlib.Order.Nat
import Mathlib.Data.List.Forall2
import Mathlib.Tactic.Common

/-!
# Cuts

A list that is at most as long as another, and is the other when it is as long.  What may lose some of
its parts on the way stays a cut of what it was, so that the length alone tells whether anything was
lost: cuts that are put together are a cut of the whole, and where nothing is cut of the whole, nothing
is cut of the parts.
-/

variable {α : Type*}

/-- Lists that are at most as long as a whole, and as long only if they are the whole. -/
def IsCutOf (part whole : List α) : Prop :=
  part.length ≤ whole.length ∧ (part.length = whole.length → part = whole)

namespace IsCutOf

variable {s s' t t' u : List α}

lemma refl (s : List α) : IsCutOf s s := ⟨le_rfl, fun _ => rfl⟩

lemma nil (s : List α) : IsCutOf [] s :=
  ⟨Nat.zero_le _, fun h => (List.length_eq_zero_iff.mp h.symm).symm⟩

lemma append (h : IsCutOf s t) (h' : IsCutOf s' t') : IsCutOf (s ++ s') (t ++ t') := by
  have hle := h.1
  have hle' := h'.1
  simp only [IsCutOf, List.length_append]
  refine ⟨by omega, ?_⟩
  intro hsum
  rw [h.2 (by omega), h'.2 (by omega)]

/-- Where nothing is cut of the whole, nothing is cut of its parts. -/
lemma append_inj (h : IsCutOf s t) (h' : IsCutOf s' t') (heq : s ++ s' = t ++ t') :
    s = t ∧ s' = t' := by
  have hle := h.1
  have hle' := h'.1
  have hsum := congrArg List.length heq
  simp only [List.length_append] at hsum
  exact ⟨h.2 (by omega), h'.2 (by omega)⟩

/-- A cut of a cut. -/
lemma trans (h : IsCutOf s t) (h' : IsCutOf t u) : IsCutOf s u := by
  refine ⟨h.1.trans h'.1, ?_⟩
  intro hsame
  have hle := h.1
  have hle' := h'.1
  rw [h.2 (by omega), h'.2 (by omega)]

/-- Where a cut of a cut cuts nothing, neither of the two does. -/
lemma eq_of_trans (h : IsCutOf s t) (h' : IsCutOf t u) (heq : s = u) : t = u := by
  have hle := h.1
  rw [heq] at hle
  exact h'.2 (le_antisymm h'.1 hle)

/-- A cut of a list that begins with it is not cut. -/
lemma eq_of_isPrefix (h : IsCutOf s t) (hbegins : t <+: s) : s = t :=
  h.2 (le_antisymm h.1 hbegins.length_le)

end IsCutOf

/-! ## Separated lists -/

/-- Lists with a separator between them. -/
def separated (separator : List α) : List (List α) → List α
  | [] => []
  | [part] => part
  | part :: part' :: parts => part ++ (separator ++ separated separator (part' :: parts))

lemma separated_cons_cons (separator part part' : List α) (parts : List (List α)) :
    separated separator (part :: part' :: parts) =
      part ++ (separator ++ separated separator (part' :: parts)) := rfl

/-- Appending a separator of one element after each list and removing the last one. -/
lemma dropLast_flatMap_append (separator : α) (parts : List (List α)) :
    (parts.flatMap fun part => part ++ [separator]).dropLast = separated [separator] parts := by
  induction parts with
  | nil => rfl
  | cons part parts ih =>
    cases parts with
    | nil => simp [separated]
    | cons part' parts =>
      have hne : (part' :: parts).flatMap (fun part => part ++ [separator]) ≠ [] := by simp
      rw [List.flatMap_cons, List.dropLast_append_of_ne_nil hne, ih, List.append_assoc]
      rfl

/-- A list is a part of what it is separated from others in. -/
lemma infix_separated {separator part : List α} {parts : List (List α)} (h : part ∈ parts) :
    part <:+: separated separator parts := by
  induction parts with
  | nil => exact absurd h List.not_mem_nil
  | cons first parts ih =>
    cases parts with
    | nil =>
      obtain rfl := List.mem_singleton.mp h
      exact List.infix_rfl
    | cons second parts =>
      rcases List.mem_cons.mp h with rfl | h
      · exact (List.prefix_append _ _).isInfix
      · refine (ih h).trans ?_
        exact ((List.suffix_append _ _).trans (List.suffix_append _ _)).isInfix

/-- Separated cuts are a cut of the separated lists, and nothing is cut only if nothing is cut of any
of them. -/
lemma separated_cut (separator : List α) {parts wholes : List (List α)}
    (h : List.Forall₂ IsCutOf parts wholes) :
    IsCutOf (separated separator parts) (separated separator wholes) ∧
      (separated separator parts = separated separator wholes → parts = wholes) := by
  induction h with
  | nil => exact ⟨IsCutOf.refl _, fun _ => rfl⟩
  | @cons part whole parts wholes hfirst hrest ih =>
    cases hrest with
    | nil => exact ⟨hfirst, fun heq => congrArg (· :: []) heq⟩
    | @cons part' whole' parts wholes hsecond hrest =>
      have hseparator := (IsCutOf.refl separator).append ih.1
      refine ⟨hfirst.append hseparator, ?_⟩
      intro heq
      obtain ⟨hsame, hothers⟩ := hfirst.append_inj hseparator heq
      rw [hsame, ih.2 (List.append_cancel_left hothers)]
