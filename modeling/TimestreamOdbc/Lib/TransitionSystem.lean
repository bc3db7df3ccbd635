import Mathlib.Data.List.Basic
import Mathlib.Tactic.Common

/-!
# Labelled transition systems with a partial step function

A system is a partial function `step : σ → α → Option σ`: `none` means that the action is not
enabled in the state.  A run is the list of the actions taken, so that the same list replayed
from two states is what a lockstep argument compares.

The rules here are the ones every argument about runs needs: an invariant kept by each step is
kept by a run, a run under a guard is a run whose every step meets the guard, steps that lower a
measure come to an end, and a relation kept by matching steps carries a run of one system to a run
of another.
-/

namespace TransitionSystem

variable {σ τ α : Type*}

/-! ## Runs -/

/-- The state reached by taking the actions of the list one after the other, if each of them is
enabled where it is taken. -/
def run (step : σ → α → Option σ) : σ → List α → Option σ
  | s, [] => some s
  | s, a :: as =>
    match step s a with
    | none => none
    | some s' => run step s' as

/-- The empty run stays where it is. -/
@[simp] lemma run_nil (step : σ → α → Option σ) (s : σ) : run step s [] = some s := rfl

/-- A run is its first step followed by the rest. -/
lemma run_cons (step : σ → α → Option σ) (s : σ) (a : α) (as : List α) :
    run step s (a :: as) = (step s a).bind fun s' => run step s' as := by
  cases h : step s a <;> simp [run, h]

/-- A non-empty run has a first step and a rest. -/
lemma run_cons_eq_some {step : σ → α → Option σ} {s t : σ} {a : α} {as : List α} :
    run step s (a :: as) = some t ↔ ∃ s', step s a = some s' ∧ run step s' as = some t := by
  rw [run_cons, Option.bind_eq_some_iff]

/-- Runs compose. -/
lemma run_append (step : σ → α → Option σ) (s : σ) (as bs : List α) :
    run step s (as ++ bs) = (run step s as).bind fun s' => run step s' bs := by
  induction as generalizing s with
  | nil => rfl
  | cons a as ih =>
    rw [List.cons_append, run_cons, run_cons]
    cases step s a with
    | none => rfl
    | some s' => exact ih s'

/-- A run of a concatenation passes through the state between its two parts. -/
lemma run_append_eq_some {step : σ → α → Option σ} {s t : σ} {as bs : List α} :
    run step s (as ++ bs) = some t ↔ ∃ u, run step s as = some u ∧ run step u bs = some t := by
  rw [run_append, Option.bind_eq_some_iff]

/-- A state is reached from another one when some run leads there. -/
def Reaches (step : σ → α → Option σ) (s t : σ) : Prop :=
  ∃ as, run step s as = some t

/-- Every state reaches itself. -/
lemma Reaches.refl (step : σ → α → Option σ) (s : σ) : Reaches step s s := ⟨[], rfl⟩

/-- One more step extends what is reached. -/
lemma Reaches.tail {step : σ → α → Option σ} {s t u : σ} {a : α} (h : Reaches step s t)
    (hu : step t a = some u) : Reaches step s u := by
  obtain ⟨as, has⟩ := h
  refine ⟨as ++ [a], run_append_eq_some.mpr ⟨t, has, ?_⟩⟩
  rw [run_cons_eq_some]
  exact ⟨u, hu, rfl⟩

/-! ## Invariants -/

/-- What every step by one of the actions preserves, every run by those actions preserves. -/
lemma invariant_run_of {step : σ → α → Option σ} {I : σ → Prop} {P : α → Prop}
    (hstep : ∀ s a s', P a → I s → step s a = some s' → I s') {s t : σ} {as : List α}
    (has : ∀ a ∈ as, P a) (hs : I s) (hrun : run step s as = some t) : I t := by
  induction as generalizing s with
  | nil => cases hrun; exact hs
  | cons a as ih =>
    obtain ⟨s', ha, hrest⟩ := run_cons_eq_some.mp hrun
    exact ih (fun b hb => has b (List.mem_cons_of_mem _ hb))
      (hstep s a s' (has a List.mem_cons_self) hs ha) hrest

/-- What every step preserves, every run preserves. -/
lemma invariant_run {step : σ → α → Option σ} {I : σ → Prop}
    (hstep : ∀ s a s', I s → step s a = some s' → I s') {s t : σ} {as : List α} (hs : I s)
    (hrun : run step s as = some t) : I t :=
  invariant_run_of (P := fun _ => True) (fun s a s' _ => hstep s a s') (fun _ _ => trivial) hs hrun

/-- An invariant of the initial state holds in every reachable state. -/
lemma invariant_reaches {step : σ → α → Option σ} {I : σ → Prop}
    (hstep : ∀ s a s', I s → step s a = some s' → I s') {s t : σ} (hs : I s)
    (h : Reaches step s t) : I t :=
  let ⟨_, hrun⟩ := h
  invariant_run hstep hs hrun

/-! ## Guarded runs -/

/-- The system restricted to the steps that meet a guard on the state and the action. -/
def guarded (guard : σ → α → Prop) [∀ s a, Decidable (guard s a)] (step : σ → α → Option σ) :
    σ → α → Option σ :=
  fun s a => if guard s a then step s a else none

section Guarded

variable {guard : σ → α → Prop} [∀ s a, Decidable (guard s a)] {step : σ → α → Option σ}

/-- A guarded step is a step at which the guard holds. -/
lemma guarded_eq_some {s s' : σ} {a : α} :
    guarded guard step s a = some s' ↔ guard s a ∧ step s a = some s' := by
  unfold guarded
  by_cases h : guard s a <;> simp [h]

end Guarded

/-- Every action of a list meets a guard in the state in which it is taken. The guard need not be
decidable. -/
def Meets (guard : σ → α → Prop) (step : σ → α → Option σ) : σ → List α → Prop
  | _, [] => True
  | s, a :: as => guard s a ∧ ∀ s', step s a = some s' → Meets guard step s' as

section Meets

variable {guard : σ → α → Prop} {step : σ → α → Option σ}

/-- The first action meets the guard, and so does the rest after it. -/
lemma meets_cons {s s' : σ} {a : α} {as : List α} (ha : step s a = some s') :
    Meets guard step s (a :: as) ↔ guard s a ∧ Meets guard step s' as := by
  constructor
  · rintro ⟨hguard, hrest⟩
    exact ⟨hguard, hrest s' ha⟩
  · rintro ⟨hguard, hrest⟩
    refine ⟨hguard, fun s'' ha'' => ?_⟩
    obtain rfl := Option.some.inj (ha.symm.trans ha'')
    exact hrest

/-- What every step that meets the guard preserves, every run that meets it preserves. -/
lemma invariant_run_meets {I : σ → Prop}
    (hstep : ∀ s a s', guard s a → I s → step s a = some s' → I s') {s t : σ} {as : List α}
    (hmeets : Meets guard step s as) (hs : I s) (hrun : run step s as = some t) : I t := by
  induction as generalizing s with
  | nil => cases hrun; exact hs
  | cons a as ih =>
    obtain ⟨s', ha, hrest⟩ := run_cons_eq_some.mp hrun
    exact ih (hmeets.2 s' ha) (hstep s a s' hmeets.1 hs ha) hrest

/-- Two guards are met by the same runs if they agree wherever an invariant holds that the steps which
meet the first one keep. -/
lemma meets_iff_of_run {guard' : σ → α → Prop} {I : σ → Prop}
    (hiff : ∀ s a s', I s → step s a = some s' → (guard s a ↔ guard' s a))
    (hstep : ∀ s a s', guard s a → I s → step s a = some s' → I s') {s t : σ} {as : List α}
    (hs : I s) (hrun : run step s as = some t) :
    Meets guard step s as ↔ Meets guard' step s as := by
  induction as generalizing s with
  | nil => rfl
  | cons a as ih =>
    obtain ⟨s', ha, hrest⟩ := run_cons_eq_some.mp hrun
    rw [meets_cons ha, meets_cons ha, ← hiff s a s' hs ha]
    exact and_congr_right fun hguard => ih (hstep s a s' hguard hs ha) hrest

/-- Where every action is enabled, and a step keeps a property exactly if it meets the guard, a run meets
the guard if and only if the property holds in every state that it passes. -/
lemma forall_prefix_iff_meets {I J : σ → Prop} (htotal : ∀ s a, ∃ s', step s a = some s')
    (hJ : ∀ s a s', J s → step s a = some s' → J s')
    (hiff : ∀ s a s', J s → I s → step s a = some s' → (I s' ↔ guard s a)) {s : σ} (hs : J s) (h : I s)
    (as : List α) :
    (∀ bs, bs <+: as → ∀ t, run step s bs = some t → I t) ↔ Meets guard step s as := by
  induction as generalizing s with
  | nil =>
    refine iff_of_true (fun bs hbs t hrun => ?_) trivial
    obtain rfl := List.prefix_nil.mp hbs
    cases hrun
    exact h
  | cons a as ih =>
    obtain ⟨s', ha⟩ := htotal s a
    have hs' := hJ s a s' hs ha
    rw [meets_cons ha, ← hiff s a s' hs h ha]
    constructor
    · intro hall
      have hI' : I s' := hall [a] ⟨as, rfl⟩ s' (run_cons_eq_some.mpr ⟨s', ha, rfl⟩)
      refine ⟨hI', (ih hs' hI').mp fun bs hbs t hrun => ?_⟩
      exact hall (a :: bs) (List.cons_prefix_cons.mpr ⟨rfl, hbs⟩) t (run_cons_eq_some.mpr ⟨s', ha, hrun⟩)
    · rintro ⟨hI', hmeets⟩ bs hbs t hrun
      cases bs with
      | nil =>
        cases hrun
        exact h
      | cons b bs =>
        obtain ⟨rfl, hbs'⟩ := List.cons_prefix_cons.mp hbs
        obtain ⟨u, hu, hrest⟩ := run_cons_eq_some.mp hrun
        obtain rfl := Option.some.inj (ha.symm.trans hu)
        exact (ih hs' hI').mpr hmeets bs hbs' t hrest

end Meets

/-! ## Termination -/

/-- The actions of a kind come to an end in the state, in whatever order they are taken: no run of
them is longer than some bound, and where none of them is enabled any more the state is as wanted. -/
def Settles (step : σ → α → Option σ) (internal : α → Prop) (done : σ → Prop) (s : σ) : Prop :=
  (∃ n, ∀ as t, (∀ a ∈ as, internal a) → run step s as = some t → as.length ≤ n) ∧
    ∀ as t, (∀ a ∈ as, internal a) → run step s as = some t →
      (∀ a, internal a → step t a = none) → done t

section Measure

variable {step : σ → α → Option σ} {internal : α → Prop} {I : σ → Prop} {measure : σ → ℕ}

/-- A run of steps that lower a measure is no longer than the measure. -/
lemma length_add_measure_le
    (hstep : ∀ s a s', I s → internal a → step s a = some s' → I s' ∧ measure s' < measure s)
    {s t : σ} {as : List α} (hs : I s) (has : ∀ a ∈ as, internal a)
    (hrun : run step s as = some t) : as.length + measure t ≤ measure s := by
  induction as generalizing s with
  | nil =>
    cases hrun
    simp
  | cons a as ih =>
    obtain ⟨s', ha, hrest⟩ := run_cons_eq_some.mp hrun
    obtain ⟨hs', hlt⟩ := hstep s a s' hs (has a List.mem_cons_self) ha
    have := ih hs' (fun b hb => has b (List.mem_cons_of_mem _ hb)) hrest
    rw [List.length_cons]
    omega

/-- The actions of a kind come to an end when they keep an invariant and lower a measure, and one of
them is enabled in every state of the invariant that is not as wanted. -/
theorem settles_of_measure {done : σ → Prop}
    (hstep : ∀ s a s', I s → internal a → step s a = some s' → I s' ∧ measure s' < measure s)
    (hprogress : ∀ s, I s → ¬ done s → ∃ a, internal a ∧ step s a ≠ none) {s : σ} (hs : I s) :
    Settles step internal done s := by
  refine ⟨⟨measure s, ?_⟩, ?_⟩
  · intro as t has hrun
    have := length_add_measure_le hstep hs has hrun
    omega
  · intro as t has hrun hstuck
    have ht : I t :=
      invariant_run_of (fun s a s' ha hs h => (hstep s a s' hs ha h).1) has hs hrun
    by_contra hdone
    obtain ⟨a, ha, hne⟩ := hprogress t ht hdone
    exact hne (hstuck a ha)

end Measure

/-! ## Simulation -/

/-- Where every action that meets the guard is enabled, and leads from related states to related ones, a
run that meets it is performed, and leads to what the abstract actions compute. -/
lemma exists_run_of_meets {step : σ → α → Option σ} {guard : σ → α → Prop} {next : τ → α → τ}
    {R : σ → τ → Prop}
    (hstep : ∀ s t a, R s t → guard s a → ∃ s', step s a = some s' ∧ R s' (next t a))
    {s : σ} {t : τ} {as : List α} (h : R s t) (hmeets : Meets guard step s as) :
    ∃ s', run step s as = some s' ∧ R s' (as.foldl next t) := by
  induction as generalizing s t with
  | nil => exact ⟨s, rfl, h⟩
  | cons a as ih =>
    obtain ⟨s₁, ha, hR⟩ := hstep s t a h hmeets.1
    obtain ⟨s', hrest, hR'⟩ := ih hR (hmeets.2 s₁ ha)
    exact ⟨s', run_cons_eq_some.mpr ⟨s₁, ha, hrest⟩, hR'⟩

/-! ## Lockstep -/

/-- A map of states that commutes with the steps commutes with the runs, as long as the invariant
holds and the actions are among those for which it commutes. -/
lemma run_map {step : σ → α → Option σ} {step' : τ → α → Option τ} {f : σ → τ} {I : σ → Prop}
    {P : α → Prop} (hinv : ∀ s a s', I s → P a → step s a = some s' → I s')
    (hstep : ∀ s a, I s → P a → step' (f s) a = (step s a).map f) {s : σ} (hs : I s)
    {as : List α} (has : ∀ a ∈ as, P a) : run step' (f s) as = (run step s as).map f := by
  induction as generalizing s with
  | nil => rfl
  | cons a as ih =>
    have ha := has a List.mem_cons_self
    rw [run_cons, run_cons, hstep s a hs ha]
    cases h : step s a with
    | none => rfl
    | some s' => exact ih (hinv s a s' hs ha h) fun b hb => has b (List.mem_cons_of_mem _ hb)

/-! ## Agreement -/

section Agreement

variable {σ' τ' : Type*}

/-- Both results are missing, or both are there and related. -/
inductive Agree (R : σ → τ → Prop) : Option σ → Option τ → Prop
  | missing : Agree R none none
  | found {s : σ} {t : τ} (h : R s t) : Agree R (some s) (some t)

/-- Results that agree are continued by steps that agree. -/
lemma Agree.bind {R : σ → τ → Prop} {S : σ' → τ' → Prop} {x : Option σ} {y : Option τ}
    {f : σ → Option σ'} {g : τ → Option τ'} (h : Agree R x y) (hfg : ∀ s t, R s t → Agree S (f s) (g t)) :
    Agree S (x.bind f) (y.bind g) := by
  cases h with
  | missing => exact .missing
  | found h => exact hfg _ _ h

/-- Results that agree are continued by steps of which one has a result always. -/
lemma Agree.bind_map {R : σ → τ → Prop} {S : σ' → τ' → Prop} {x : Option σ} {y : Option τ}
    {f : σ → Option σ'} {g : τ → τ'} (h : Agree R x y) (hfg : ∀ s t, R s t → Agree S (f s) (some (g t))) :
    Agree S (x.bind f) (y.map g) := by
  cases h with
  | missing => exact .missing
  | found h => exact hfg _ _ h

/-- A result that is there agrees with what it is related to. -/
lemma Agree.of_exists {R : σ → τ → Prop} {x : Option σ} {t : τ} (h : ∃ s, x = some s ∧ R s t) :
    Agree R x (some t) := by
  obtain ⟨s, rfl, hs⟩ := h
  exact .found hs

/-- What agrees with a result that is there is there. -/
lemma Agree.exists {R : σ → τ → Prop} {x : Option σ} {t : τ} (h : Agree R x (some t)) :
    ∃ s, x = some s ∧ R s t := by
  cases h with
  | found h => exact ⟨_, rfl, h⟩

/-- Steps that agree on related states make runs that agree. -/
lemma agree_run {step : σ → α → Option σ} {step' : τ → α → Option τ} {R : σ → τ → Prop}
    (hstep : ∀ s t a, R s t → Agree R (step s a) (step' t a)) {s : σ} {t : τ} (h : R s t)
    (as : List α) : Agree R (run step s as) (run step' t as) := by
  induction as generalizing s t with
  | nil => exact .found h
  | cons a as ih =>
    rw [run_cons, run_cons]
    exact (hstep s t a h).bind fun s' t' h' => ih h'

end Agreement

end TransitionSystem
