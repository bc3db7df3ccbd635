import TimestreamOdbc.Ignite.Words

/-!
# Division of big integers

`Divide` is long division in the base `2 ^ 32`, with a divisor that is shifted until its highest bit is
set.  Each digit of the quotient is estimated from three words of the dividend and two of the divisor;
the loop that corrects the estimate makes it the quotient of these words.  That can still be too large
by one, and the branch that would put it right is never taken: the difference it looks at is taken from
two unsigned words, and is not negative.

So the quotient is right exactly when every estimate is.
-/

namespace TimestreamOdbc

namespace BigInteger

open LongDivision

/-! ## The estimate -/

section Estimate

variable {nv nu : List ℕ} {i v1 v2 u3 base qhat rhat : ℕ}

/-- The condition of the loop says whether the estimate is larger than the quotient of the three words
by the two, or the largest word. -/
lemma tooLarge_eq (hv2 : wordAt nv (nv.length - 2) = some v2)
    (hu3 : wordAt nu (i + nv.length - 2) = some u3) (hpos : 0 < v1 * 2 ^ 32 + v2)
    (heq : qhat * v1 + rhat = base) :
    (if 2 ^ 32 - 1 < qhat then some true
      else (wordAt nv (nv.length - 2)).bind fun v2 =>
        (wordAt nu (i + nv.length - 2)).map fun u3 => decide (2 ^ 32 * rhat + u3 < qhat * v2)) =
      some (decide (min (2 ^ 32 - 1) ((base * 2 ^ 32 + u3) / (v1 * 2 ^ 32 + v2)) < qhat)) := by
  by_cases hlarge : 2 ^ 32 - 1 < qhat
  · rw [if_pos hlarge, decide_eq_true (lt_of_le_of_lt (min_le_left _ _) hlarge)]
  · rw [if_neg hlarge, hv2, hu3, Option.bind_some, Option.map_some]
    exact congrArg some (decide_eq_decide.mpr (lt_iff_estimate_lt hpos heq hlarge))

/-- One round of the loop, by whether the estimate is larger than it should be. -/
lemma adjustEstimate_succ {fuel exact : ℕ}
    (h : (if 2 ^ 32 - 1 < qhat then some true
      else (wordAt nv (nv.length - 2)).bind fun v2 =>
        (wordAt nu (i + nv.length - 2)).map fun u3 => decide (2 ^ 32 * rhat + u3 < qhat * v2)) =
      some (decide (exact < qhat))) :
    adjustEstimate nv nu i v1 (fuel + 1) qhat rhat =
      if exact < qhat then
        if 2 ^ 32 - 1 < rhat + v1 then some (qhat - 1)
        else adjustEstimate nv nu i v1 fuel (qhat - 1) (rhat + v1)
      else some qhat := by
  rw [adjustEstimate, h, Option.bind_some]
  by_cases hgt : exact < qhat
  · rw [decide_eq_true hgt, if_pos hgt]
  · rw [decide_eq_false hgt, if_neg hgt]

/-- The loop makes the estimate the quotient of the three words by the two, or the largest word. -/
lemma adjustEstimate_eq (hv2 : wordAt nv (nv.length - 2) = some v2)
    (hu3 : wordAt nu (i + nv.length - 2) = some u3) (hv2lt : v2 < 2 ^ 32)
    (hpos : 0 < v1 * 2 ^ 32 + v2) (hbase : base ≤ v1 * 2 ^ 32 + v2) (fuel : ℕ) {qhat rhat : ℕ}
    (hrhat : rhat < 2 ^ 32) (hfuel : 2 ^ 32 + v1 ≤ rhat + fuel * v1)
    (heq : qhat * v1 + rhat = base)
    (hle : min (2 ^ 32 - 1) ((base * 2 ^ 32 + u3) / (v1 * 2 ^ 32 + v2)) ≤ qhat) :
    adjustEstimate nv nu i v1 fuel qhat rhat =
      some (min (2 ^ 32 - 1) ((base * 2 ^ 32 + u3) / (v1 * 2 ^ 32 + v2))) := by
  induction fuel generalizing qhat rhat with
  | zero => omega
  | succ fuel ih =>
    rw [Nat.add_mul, Nat.one_mul] at hfuel
    rw [adjustEstimate_succ (tooLarge_eq hv2 hu3 hpos heq)]
    split
    · next hgt =>
      have hprev : (qhat - 1) * v1 + (rhat + v1) = base := by
        obtain ⟨k, rfl⟩ := Nat.exists_eq_add_of_le' (Nat.one_le_of_lt hgt)
        rw [← heq, Nat.add_sub_cancel, Nat.add_mul, Nat.one_mul]
        omega
      split
      · next hbreak =>
        have hsmall : qhat - 1 ≤ min (2 ^ 32 - 1) ((base * 2 ^ 32 + u3) / (v1 * 2 ^ 32 + v2)) :=
          le_estimate_of_le hv2lt hbase hprev (Nat.le_of_pred_lt hbreak)
        exact congrArg some (le_antisymm hsmall (Nat.le_pred_of_lt hgt))
      · exact ih (by omega) (by omega) hprev (Nat.le_pred_of_lt hgt)
    · next hle' => exact congrArg some (le_antisymm (not_lt.mp hle') hle)

end Estimate

/-- The two words as one number. -/
lemma makeU64_eq {higher lower : ℕ} (h : lower < 2 ^ 32) :
    makeU64 higher lower = higher * 2 ^ 32 + lower := by
  rw [makeU64, ← Nat.shiftLeft_add_eq_or_of_lt h, Nat.shiftLeft_eq]

/-- The estimate starts with the quotient of two words by one. -/
lemma estimateQuotient_eq_adjustEstimate {nv nu : List ℕ} {i u1 u2 v1 base : ℕ}
    (hu1 : wordAt nu (i + nv.length) = some u1) (hu2 : wordAt nu (i + nv.length - 1) = some u2)
    (hv1 : wordAt nv (nv.length - 1) = some v1) (hlt : u2 < 2 ^ 32)
    (hbase : u1 * 2 ^ 32 + u2 = base) :
    estimateQuotient nv nu i = adjustEstimate nv nu i v1 3 (base / v1) (base % v1) := by
  rw [← makeU64_eq hlt] at hbase
  rw [estimateQuotient, hu1, hu2, hv1, Option.bind_some, Option.bind_some, Option.bind_some,
    hbase]

/-- What the loop runs on: the words of a shifted divisor, at least two, and words of a dividend, of
which those from a place on are a window for the divisor. -/
structure Windowed (nv nu : List ℕ) (i : ℕ) : Prop where
  divisor_lt : ∀ w ∈ nv, w < 2 ^ 32
  dividend_lt : ∀ w ∈ nu, w < 2 ^ 32
  two_le : 2 ≤ nv.length
  highest : 2 ^ 31 * (2 ^ 32) ^ (nv.length - 1) ≤ Nat.ofDigits (2 ^ 32) nv
  place : i + nv.length < nu.length
  window_lt : Nat.ofDigits (2 ^ 32) (nu.drop i) < 2 ^ 32 * Nat.ofDigits (2 ^ 32) nv

namespace Windowed

variable {nv nu : List ℕ} {i : ℕ}

/-- The divisor as a number has no more words. -/
lemma ofDigits_lt (h : Windowed nv nu i) : Nat.ofDigits (2 ^ 32) nv < (2 ^ 32) ^ nv.length :=
  Nat.ofDigits_lt_base_pow_length (by decide) h.divisor_lt

/-- The word of the dividend at a place of the window. -/
lemma wordAt_dividend (h : Windowed nv nu i) {index : ℤ} {k : ℕ} (hindex : index = (i + k : ℕ))
    (hk : k ≤ nv.length) :
    wordAt nu index = some (Nat.ofDigits (2 ^ 32) (nu.drop i) / (2 ^ 32) ^ k % 2 ^ 32) := by
  have hplace := h.place
  rw [wordAt_eq h.dividend_lt hindex (by omega), pow_add, ← Nat.div_div_eq_div_mul,
    Nat.ofDigits_div_pow_eq_ofDigits_drop i (by decide) nu h.dividend_lt]

/-- The highest word of the window is not followed by others. -/
lemma highest_lt (h : Windowed nv nu i) :
    Nat.ofDigits (2 ^ 32) (nu.drop i) / (2 ^ 32) ^ nv.length < 2 ^ 32 := by
  refine Nat.div_lt_of_lt_mul (h.window_lt.trans ?_)
  rw [Nat.mul_comm]
  exact Nat.mul_lt_mul_of_pos_right h.ofDigits_lt (by decide)

/-- The estimate of a digit is that of long division. -/
lemma estimateQuotient_eq (h : Windowed nv nu i) :
    estimateQuotient nv nu i = some (estimate (2 ^ 32) nv.length
      (Nat.ofDigits (2 ^ 32) (nu.drop i)) (Nat.ofDigits (2 ^ 32) nv)) := by
  obtain ⟨n, hn⟩ : ∃ n, nv.length = n + 2 := ⟨nv.length - 2, by have := h.two_le; omega⟩
  have hu1 : wordAt nu (i + nv.length) = _ := h.wordAt_dividend (k := n + 2) (by omega) (by omega)
  have hu2 : wordAt nu (i + nv.length - 1) = _ :=
    h.wordAt_dividend (k := n + 1) (by omega) (by omega)
  have hu3 : wordAt nu (i + nv.length - 2) = _ := h.wordAt_dividend (k := n) (by omega) (by omega)
  have hv1 : wordAt nv (nv.length - 1) = _ :=
    wordAt_eq h.divisor_lt (k := n + 1) (by omega) (by omega)
  have hv2 : wordAt nv (nv.length - 2) = _ := wordAt_eq h.divisor_lt (k := n) (by omega) (by omega)
  have hu1lt := h.highest_lt
  have hdivisor := h.ofDigits_lt
  have hhighest := h.highest
  have hwindow := h.window_lt
  rw [hn] at hu1lt hdivisor hhighest
  generalize Nat.ofDigits (2 ^ 32) (nu.drop i) = W at *
  generalize Nat.ofDigits (2 ^ 32) nv = D at *
  have hv1lt : D / (2 ^ 32) ^ (n + 1) < 2 ^ 32 :=
    Nat.div_lt_of_lt_mul (hdivisor.trans_eq (pow_succ (2 ^ 32) (n + 1)))
  have hv1le : 2 ^ 31 ≤ D / (2 ^ 32) ^ (n + 1) :=
    (Nat.le_div_iff_mul_le (Nat.pow_pos (by decide))).mpr hhighest
  have hbase : W / (2 ^ 32) ^ (n + 1) ≤ D / (2 ^ 32) ^ n := by
    rw [pow_succ', ← Nat.div_div_eq_div_mul]
    exact Nat.div_le_div_right (Nat.div_lt_of_lt_mul hwindow).le
  have hv := div_pow_succ_mul_add (2 ^ 32) D n
  have hu := div_pow_succ_mul_add (2 ^ 32) W n
  rw [Nat.mod_eq_of_lt hu1lt] at hu1
  rw [Nat.mod_eq_of_lt hv1lt] at hv1
  have hstart := estimateQuotient_eq_adjustEstimate hu1 hu2 hv1 (Nat.mod_lt _ (by decide))
    (div_pow_succ_mul_add (2 ^ 32) W (n + 1))
  have hrun := adjustEstimate_eq hv2 hu3
    (Nat.mod_lt _ (by decide)) (by omega) (hbase.trans_eq hv.symm) 3
    ((Nat.mod_lt _ (by omega)).trans hv1lt) (by omega) (Nat.div_add_mod' _ _)
    (estimate_le_div (Nat.mod_lt _ (by decide)) (by omega))
  rw [hstart, hrun, hv, hu, estimate, hn, Nat.add_sub_cancel]

/-- The window ends with the word at the place behind those of the divisor. -/
lemma ofDigits_drop (h : Windowed nv nu i) :
    Nat.ofDigits (2 ^ 32) ((nu.drop i).drop nv.length) =
      Nat.ofDigits (2 ^ 32) (nu.drop i) / (2 ^ 32) ^ nv.length :=
  (Nat.ofDigits_div_pow_eq_ofDigits_drop _ (by decide) _
    fun w hw => h.dividend_lt w (List.mem_of_mem_drop hw)).symm

/-- One round assigns the estimate to the digit, and leaves the words below its place.  When the
estimate is the quotient of the window, the remainder of the window is left. -/
lemma divideStep_eq (h : Windowed nv nu i) :
    ∃ nu', divideStep nv nu i = some (estimate (2 ^ 32) nv.length
        (Nat.ofDigits (2 ^ 32) (nu.drop i)) (Nat.ofDigits (2 ^ 32) nv), nu') ∧
      nu'.length = nu.length ∧ (∀ w ∈ nu', w < 2 ^ 32) ∧ nu'.take i = nu.take i ∧
      (estimate (2 ^ 32) nv.length (Nat.ofDigits (2 ^ 32) (nu.drop i)) (Nat.ofDigits (2 ^ 32) nv) =
          Nat.ofDigits (2 ^ 32) (nu.drop i) / Nat.ofDigits (2 ^ 32) nv →
        Nat.ofDigits (2 ^ 32) (nu'.drop i) =
          Nat.ofDigits (2 ^ 32) (nu.drop i) % Nat.ofDigits (2 ^ 32) nv) := by
  have hplace := h.place
  have hestimate := h.estimateQuotient_eq
  have hdrop := h.ofDigits_drop
  have hdivisor := h.ofDigits_lt
  have hdigit : estimate (2 ^ 32) nv.length (Nat.ofDigits (2 ^ 32) (nu.drop i))
      (Nat.ofDigits (2 ^ 32) nv) < 2 ^ 32 :=
    Nat.lt_of_le_pred (by decide) (min_le_left _ _)
  generalize estimate (2 ^ 32) nv.length (Nat.ofDigits (2 ^ 32) (nu.drop i))
    (Nat.ofDigits (2 ^ 32) nv) = digit at *
  obtain ⟨out, borrow, hrun, -, hout, hlength, htail, hsum⟩ := multiplyAndSubstruct_spec hdigit
    (fun w hw => h.dividend_lt w (List.mem_of_mem_drop (l := nu) (i := i) hw)) h.divisor_lt
    (by rw [List.length_drop]; omega) (Nat.zero_le digit)
  rw [← htail] at hdrop
  have houtlen : nv.length < out.length := by
    rw [hlength, List.length_drop]
    omega
  have houtdrop : Nat.ofDigits (2 ^ 32) out / (2 ^ 32) ^ nv.length =
      Nat.ofDigits (2 ^ 32) (nu.drop i) / (2 ^ 32) ^ nv.length := by
    rw [Nat.ofDigits_div_pow_eq_ofDigits_drop _ (by decide) _ hout, hdrop]
  obtain ⟨u1, hu1, hu1eq⟩ : ∃ u1, wordAt out nv.length = some u1 ∧
      Nat.ofDigits (2 ^ 32) (nu.drop i) / (2 ^ 32) ^ nv.length = u1 := by
    refine ⟨_, wordAt_eq hout rfl houtlen, ?_⟩
    rw [houtdrop, Nat.mod_eq_of_lt h.highest_lt]
  have hnonneg : ¬ ((u1 : ℤ) - borrow) % 2 ^ 32 < 0 :=
    not_lt.mpr (Int.emod_nonneg _ (by decide))
  have htake : (nu.take i).length = i := by
    rw [List.length_take]
    omega
  refine ⟨nu.take i ++ out.set nv.length (((u1 : ℤ) - borrow) % 2 ^ 32 % 2 ^ 32).toNat,
    ?_, ?_, ?_, ?_, ?_⟩
  · simp only [divideStep, hestimate, Option.bind_some, Nat.mod_eq_of_lt hdigit, hrun, hu1,
      if_neg hnonneg]
  · rw [List.length_append, List.length_set, htake, hlength, List.length_drop]
    omega
  · intro w hw
    rcases List.mem_append.mp hw with hw | hw
    · exact h.dividend_lt w (List.mem_of_mem_take hw)
    · rcases List.mem_or_eq_of_mem_set hw with hw | rfl
      · exact hout w hw
      · omega
  · rw [List.take_append_of_le_length htake.ge, List.take_take, Nat.min_self]
  · intro hexact
    rw [List.drop_append_of_le_length htake.ge, List.drop_of_length_le htake.le, List.nil_append]
    have hset := ofDigits_set (b := 2 ^ 32) (l := out) (k := nv.length) (w := u1)
      (by simpa [wordAt] using hu1) (((u1 : ℤ) - borrow) % 2 ^ 32 % 2 ^ 32).toNat
    have hout := Nat.div_add_mod (Nat.ofDigits (2 ^ 32) out) ((2 ^ 32) ^ nv.length)
    rw [houtdrop, hu1eq] at hout
    have hwindow := Nat.div_add_mod (Nat.ofDigits (2 ^ 32) (nu.drop i)) (Nat.ofDigits (2 ^ 32) nv)
    rw [← hexact, Nat.mul_comm] at hwindow
    have hpos : 0 < Nat.ofDigits (2 ^ 32) nv := Nat.pos_of_mul_pos_left (h.window_lt.pos)
    obtain ⟨rfl, hlow⟩ := eq_and_eq_of_mul_add (x := u1) (y := borrow)
      (Nat.mod_lt (Nat.ofDigits (2 ^ 32) out) (Nat.pow_pos (n := nv.length) (by decide)))
      ((Nat.mod_lt (Nat.ofDigits (2 ^ 32) (nu.drop i)) hpos).trans hdivisor)
      (by rw [hout]; linarith)
    rw [← hlow]
    rw [Int.sub_self] at hset ⊢
    simp only [Int.zero_emod, Int.toNat_zero, Nat.zero_mul, Nat.add_zero] at hset ⊢
    linarith

end Windowed

/-! ## The loop -/

/-- The estimate at a place is the digit of the quotient of `A` by `D`, a number of `n` words. -/
def ExactAt (n A D i : ℕ) : Prop :=
  estimate (2 ^ 32) n (dividendWindow (2 ^ 32) A D i) D = dividendWindow (2 ^ 32) A D i / D

/-- The words of a shifted divisor: at least two, the highest one with its highest bit. -/
structure ShiftedDivisor (nv : List ℕ) : Prop where
  lt : ∀ w ∈ nv, w < 2 ^ 32
  two_le : 2 ≤ nv.length
  highest : 2 ^ 31 * (2 ^ 32) ^ (nv.length - 1) ≤ Nat.ofDigits (2 ^ 32) nv

/-- A shifted divisor is not 0. -/
lemma ShiftedDivisor.pos {nv : List ℕ} (h : ShiftedDivisor nv) : 0 < Nat.ofDigits (2 ^ 32) nv :=
  (Nat.mul_pos (by decide) (Nat.pow_pos (by decide))).trans_le h.highest

/-- The invariant of the loop: from the place on, the dividend is the remainder of what was there, and
the words of the quotient are right. -/
structure LoopState (nv : List ℕ) (A i : ℕ) (nu q : List ℕ) : Prop where
  dividend_lt : ∀ w ∈ nu, w < 2 ^ 32
  length_le : i + nv.length ≤ nu.length
  dividend : Nat.ofDigits (2 ^ 32) nu =
    A % (2 ^ 32) ^ i + (2 ^ 32) ^ i * (A / (2 ^ 32) ^ i % Nat.ofDigits (2 ^ 32) nv)
  quotient_lt : ∀ w ∈ q, w < 2 ^ 32
  quotient : Nat.ofDigits (2 ^ 32) q = A / Nat.ofDigits (2 ^ 32) nv / (2 ^ 32) ^ i

section Loop

variable {nv nu q : List ℕ} {A i : ℕ}

/-- At the next place the words of the dividend are the window of long division. -/
lemma LoopState.ofDigits_drop (h : LoopState nv A (i + 1) nu q) :
    Nat.ofDigits (2 ^ 32) (nu.drop i) = dividendWindow (2 ^ 32) A (Nat.ofDigits (2 ^ 32) nv) i := by
  have hpow : 0 < (2 ^ 32) ^ i := Nat.pow_pos (by decide)
  rw [← Nat.ofDigits_div_pow_eq_ofDigits_drop i (by decide) nu h.dividend_lt, h.dividend,
    dividendWindow_eq, pow_succ (2 ^ 32) i, Nat.mul_assoc, Nat.add_mul_div_left _ _ hpow,
    Nat.mod_mul_right_div_self]

/-- The next place of the loop has a window. -/
lemma LoopState.windowed (h : LoopState nv A (i + 1) nu q) (hv : ShiftedDivisor nv) :
    Windowed nv nu i where
  divisor_lt := hv.lt
  dividend_lt := h.dividend_lt
  two_le := hv.two_le
  highest := hv.highest
  place := by have := h.length_le; omega
  window_lt := by
    rw [h.ofDigits_drop]
    exact LongDivision.dividendWindow_lt (by decide) hv.pos A i

/-- A round with an exact estimate keeps the invariant. -/
lemma LoopState.step (h : LoopState nv A (i + 1) nu q) (hv : ShiftedDivisor nv)
    (hexact : ExactAt nv.length A (Nat.ofDigits (2 ^ 32) nv) i) :
    ∃ digit nu', divideStep nv nu i = some (digit, nu') ∧ LoopState nv A i nu' (digit :: q) := by
  obtain ⟨nu', hstep, hlength, hlt, htake, hrest⟩ := (h.windowed hv).divideStep_eq
  rw [h.ofDigits_drop] at hstep hrest
  rw [hexact] at hstep
  have hplace := h.length_le
  refine ⟨_, nu', hstep, hlt, by omega, ?_, ?_, ?_⟩
  · have hlow : Nat.ofDigits (2 ^ 32) (nu.take i) = A % (2 ^ 32) ^ i := by
      rw [← Nat.ofDigits_mod_pow_eq_ofDigits_take i (by decide) nu h.dividend_lt, h.dividend,
        pow_succ (2 ^ 32) i, Nat.mul_assoc, Nat.add_mul_mod_self_left, Nat.mod_mul_right_mod]
    have htakelen : (nu'.take i).length = i := by
      rw [List.length_take]
      omega
    rw [← List.take_append_drop i nu', Nat.ofDigits_append, htakelen, htake, hlow, hrest hexact,
      dividendWindow_mod]
  · rw [List.forall_mem_cons]
    refine ⟨?_, h.quotient_lt⟩
    refine Nat.div_lt_of_lt_mul ?_
    rw [Nat.mul_comm]
    exact LongDivision.dividendWindow_lt (by decide) hv.pos A i
  · rw [Nat.ofDigits_cons, h.quotient, ← div_pow_eq hv.pos]

/-- The loop with exact estimates ends, with the remainder and the quotient. -/
lemma LoopState.run (hv : ShiftedDivisor nv) (h : LoopState nv A i nu q)
    (hexact : ∀ j < i, ExactAt nv.length A (Nat.ofDigits (2 ^ 32) nv) j) :
    ∃ nu' q', divideLoop nv i nu q = some (nu', q') ∧ LoopState nv A 0 nu' q' := by
  induction i generalizing nu q with
  | zero => exact ⟨nu, q, rfl, h⟩
  | succ i ih =>
    obtain ⟨digit, nu₁, hstep, hnext⟩ := h.step hv (hexact i (Nat.lt_succ_self i))
    obtain ⟨nu', q', hrun, hend⟩ := ih hnext fun j hj => hexact j (Nat.lt_succ_of_lt hj)
    exact ⟨nu', q', by rw [divideLoop, hstep, Option.bind_some, hrun], hend⟩

/-- The words that are assigned stay. -/
lemma divideLoop_suffix {nu' q' : List ℕ} (hrun : divideLoop nv i nu q = some (nu', q')) :
    ∃ low, low.length = i ∧ q' = low ++ q := by
  induction i generalizing nu q with
  | zero =>
    cases hrun
    exact ⟨[], rfl, rfl⟩
  | succ i ih =>
    rw [divideLoop, Option.bind_eq_some_iff] at hrun
    obtain ⟨r, -, hrest⟩ := hrun
    obtain ⟨low, hlength, rfl⟩ := ih hrest
    exact ⟨low ++ [r.1], by rw [List.length_append, hlength]; rfl, by simp⟩

/-- A digit of the quotient is a word, whatever the estimate. -/
lemma divideStep_lt {digit : ℕ} {nu' : List ℕ} (hstep : divideStep nv nu i = some (digit, nu')) :
    digit < 2 ^ 32 := by
  simp only [divideStep, Option.bind_eq_some_iff] at hstep
  obtain ⟨qhat, -, r, -, u1, -, hstep⟩ := hstep
  split at hstep
  · obtain ⟨r', -, heq⟩ := Option.map_eq_some_iff.mp hstep
    rw [← (Prod.mk.inj heq).1]
    exact Nat.mod_lt _ (by decide)
  · rw [← (Prod.mk.inj (Option.some.inj hstep)).1]
    exact Nat.mod_lt _ (by decide)

/-- The words of the quotient are words, whatever the estimates. -/
lemma lt_of_divideLoop (hq : ∀ w ∈ q, w < 2 ^ 32) {nu' q' : List ℕ}
    (hrun : divideLoop nv i nu q = some (nu', q')) : ∀ w ∈ q', w < 2 ^ 32 := by
  induction i generalizing nu q with
  | zero =>
    cases hrun
    exact hq
  | succ i ih =>
    rw [divideLoop, Option.bind_eq_some_iff] at hrun
    obtain ⟨⟨digit, nu₁⟩, hstep, hrest⟩ := hrun
    exact ih (List.forall_mem_cons.mpr ⟨divideStep_lt hstep, hq⟩) hrest

/-- With an estimate that is too large the quotient is too large, whatever follows. -/
lemma LoopState.ofDigits_ne (hv : ShiftedDivisor nv) (h : LoopState nv A i nu q) {j : ℕ}
    (hj : j < i) (hinexact : ¬ ExactAt nv.length A (Nat.ofDigits (2 ^ 32) nv) j) {nu' q' : List ℕ}
    (hrun : divideLoop nv i nu q = some (nu', q')) :
    Nat.ofDigits (2 ^ 32) q' ≠ A / Nat.ofDigits (2 ^ 32) nv := by
  induction i generalizing nu q with
  | zero => omega
  | succ i ih =>
    by_cases hexact : ExactAt nv.length A (Nat.ofDigits (2 ^ 32) nv) i
    · obtain ⟨digit, nu₁, hstep, hnext⟩ := h.step hv hexact
      rw [divideLoop, hstep, Option.bind_some] at hrun
      have hne : j ≠ i := by
        rintro rfl
        exact hinexact hexact
      exact ih hnext (by omega) hrun
    · obtain ⟨nu₁, hstep, -⟩ := (h.windowed hv).divideStep_eq
      rw [h.ofDigits_drop] at hstep
      rw [divideLoop, hstep, Option.bind_some] at hrun
      obtain ⟨low, hlength, rfl⟩ := divideLoop_suffix hrun
      have hle : (2 ^ 32) ^ (nv.length - 2) ≤ Nat.ofDigits (2 ^ 32) nv := by
        refine le_trans ?_ hv.highest
        exact (Nat.pow_le_pow_right (by decide) (by omega)).trans
          (Nat.le_mul_of_pos_left _ (by decide))
      have hlarge := lt_of_le_of_ne (div_le_estimate (by decide)
        (LongDivision.dividendWindow_lt (by decide) hv.pos A i) hle) (Ne.symm hexact)
      have hquotient := div_pow_eq (b := 2 ^ 32) hv.pos A i
      rw [Nat.ofDigits_append, Nat.ofDigits_cons, h.quotient, hlength]
      have hpow : 0 < (2 ^ 32) ^ i := Nat.pow_pos (by decide)
      have hnext := Nat.lt_mul_div_succ (A / Nat.ofDigits (2 ^ 32) nv) hpow
      have hmul := Nat.mul_le_mul_left ((2 ^ 32) ^ i) (Nat.add_le_add_right (Nat.succ_le_of_lt hlarge)
        (2 ^ 32 * (A / Nat.ofDigits (2 ^ 32) nv / (2 ^ 32) ^ (i + 1))))
      rw [Nat.succ_add, ← hquotient] at hmul
      exact ((hnext.trans_le hmul).trans_le (Nat.le_add_left _ _)).ne'

end Loop

/-! ## Shifted operands -/

/-- The highest word of a magnitude that is not empty. -/
lemma getLastD_spec {v : List ℕ} (h : Canonical (2 ^ 32) v) (hne : v ≠ []) :
    0 < v.getLastD 0 ∧ v.getLastD 0 < 2 ^ 32 ∧
      Nat.ofDigits (2 ^ 32) v =
        Nat.ofDigits (2 ^ 32) v.dropLast + (2 ^ 32) ^ (v.length - 1) * v.getLastD 0 := by
  have hlast : v.getLastD 0 = v.getLast hne := by
    cases v with
    | nil => exact absurd rfl hne
    | cons w ws => rw [List.getLastD_cons, List.getLast_eq_getLastD]
  rw [hlast]
  refine ⟨Nat.pos_of_ne_zero (h.getLast_ne hne), h.lt _ (List.getLast_mem hne), ?_⟩
  conv_lhs => rw [← List.dropLast_append_getLast hne]
  rw [Nat.ofDigits_append, List.length_dropLast, Nat.ofDigits_singleton]

/-- The bits by which `Divide` shifts its operands. -/
def divisorShift (v : List ℕ) : ℕ := numberOfLeadingZerosU32 (v.getLastD 0)

/-- Nothing is lost when a highest word is shifted by no more than its leading zeros. -/
lemma ofDigits_shiftLeft_of_le {n : ℕ} {words : List ℕ} (h : Canonical (2 ^ 32) words)
    (hne : words ≠ []) (hn : n ≤ numberOfLeadingZerosU32 (words.getLastD 0)) :
    Nat.ofDigits (2 ^ 32) (shiftLeft n words) = Nat.ofDigits (2 ^ 32) words * 2 ^ n := by
  obtain ⟨hpos, hlt, -⟩ := getLastD_spec h hne
  have hn32 : n < 32 := hn.trans_lt (numberOfLeadingZerosU32_lt hpos hlt)
  have hspec := (numberOfLeadingZerosU32_spec hpos hlt).2
  have hpow : (2 : ℕ) ^ 32 = 2 ^ (32 - n) * 2 ^ n := by rw [← pow_add]; congr 1; omega
  have hsmall : words.getLastD 0 < 2 ^ (32 - n) := by
    have hmul : words.getLastD 0 * 2 ^ n ≤
        words.getLastD 0 * 2 ^ numberOfLeadingZerosU32 (words.getLastD 0) :=
      Nat.mul_le_mul_left _ (Nat.pow_le_pow_right (by decide) hn)
    refine Nat.lt_of_mul_lt_mul_right (a := 2 ^ n) ?_
    rw [← hpow]
    exact hmul.trans_lt hspec
  have hshift := ofDigits_shiftLeft hn32 h.lt
  rwa [Nat.div_eq_of_lt hsmall, Nat.zero_mul, Nat.add_zero] at hshift

/-- The operands are shifted by less than a word. -/
lemma divisorShift_lt {v : List ℕ} (h : Canonical (2 ^ 32) v) (hne : v ≠ []) :
    divisorShift v < 32 :=
  let ⟨hpos, hlt, _⟩ := getLastD_spec h hne
  numberOfLeadingZerosU32_lt hpos hlt

/-- The shifted divisor as a number. -/
lemma ofDigits_shiftLeft_divisorShift {v : List ℕ} (h : Canonical (2 ^ 32) v) (hne : v ≠ []) :
    Nat.ofDigits (2 ^ 32) (shiftLeft (divisorShift v) v) =
      Nat.ofDigits (2 ^ 32) v * 2 ^ divisorShift v :=
  ofDigits_shiftLeft_of_le h hne le_rfl

/-- The divisor is shifted until its highest bit is set. -/
lemma shiftedDivisor_shiftLeft {v : List ℕ} (h : Canonical (2 ^ 32) v) (htwo : 2 ≤ v.length) :
    ShiftedDivisor (shiftLeft (divisorShift v) v) := by
  have hne : v ≠ [] := List.length_pos_iff.mp (by omega)
  obtain ⟨hpos, hlt, hvalue⟩ := getLastD_spec h hne
  refine ⟨lt_of_mem_shiftLeft h.lt, by simpa using htwo, ?_⟩
  rw [ofDigits_shiftLeft_divisorShift h hne, length_shiftLeft, hvalue, Nat.add_mul]
  refine le_trans ?_ (Nat.le_add_left _ _)
  rw [Nat.mul_assoc, Nat.mul_comm (2 ^ 31)]
  exact Nat.mul_le_mul_left _ (numberOfLeadingZerosU32_spec hpos hlt).1

/-- The dividend is shifted by as many bits, with room for those that leave its highest word. -/
lemma normalizeDivident_spec {u : List ℕ} {shift : ℕ} (h : Canonical (2 ^ 32) u) (hne : u ≠ [])
    (hshift : shift < 32) :
    Nat.ofDigits (2 ^ 32) (normalizeDivident u shift) = Nat.ofDigits (2 ^ 32) u * 2 ^ shift ∧
      (∀ w ∈ normalizeDivident u shift, w < 2 ^ 32) ∧
      u.length + 1 ≤ (normalizeDivident u shift).length := by
  have hlast := (getLastD_spec h hne).2.1
  have hwords := lt_of_mem_shiftLeft (n := shift) h.lt
  unfold normalizeDivident
  split
  · next hle =>
    refine ⟨?_, ?_, by simp⟩
    · rw [Nat.ofDigits_append, ofDigits_shiftLeft_of_le h hne hle]
      simp
    · intro w hw
      rcases List.mem_append.mp hw with hw | hw
      · exact hwords w hw
      · rw [List.mem_singleton.mp hw]
        decide
  · refine ⟨?_, ?_, by simp⟩
    · rw [Nat.ofDigits_append, length_shiftLeft, Nat.shiftRight_eq_div_pow,
        ← ofDigits_shiftLeft hshift h.lt]
      simp [Nat.ofDigits_cons, Nat.mul_comm]
    · intro w hw
      rcases List.mem_append.mp hw with hw | hw
      · exact hwords w hw
      · rcases List.mem_cons.mp hw with rfl | hw
        · rw [Nat.shiftRight_eq_div_pow]
          exact (Nat.div_le_self _ _).trans_lt hlast
        · rw [List.mem_singleton.mp hw]
          decide

/-- The digits of the dividend in front of the first place of the loop are less than the divisor. -/
lemma highDigits_lt {u v : List ℕ} (hu : Canonical (2 ^ 32) u) (hv : Canonical (2 ^ 32) v)
    (hne : v ≠ []) (hle : v.length ≤ u.length) (shift : ℕ) :
    Nat.ofDigits (2 ^ 32) u * 2 ^ shift / (2 ^ 32) ^ (u.length - v.length + 1) <
      Nat.ofDigits (2 ^ 32) v * 2 ^ shift := by
  refine Nat.div_lt_of_lt_mul ?_
  rw [← Nat.mul_assoc]
  refine Nat.mul_lt_mul_of_pos_right ?_ (Nat.pow_pos (by decide))
  have hpos : 0 < v.length := List.length_pos_iff.mpr hne
  calc Nat.ofDigits (2 ^ 32) u < (2 ^ 32) ^ u.length := hu.ofDigits_lt (by decide)
    _ = (2 ^ 32) ^ (u.length - v.length + 1) * (2 ^ 32) ^ (v.length - 1) := by
        rw [← pow_add]
        congr 1
        omega
    _ ≤ (2 ^ 32) ^ (u.length - v.length + 1) * Nat.ofDigits (2 ^ 32) v :=
        Nat.mul_le_mul_left _ (hv.pow_le_ofDigits (by decide) hne)

/-! ## Words of the quotient and of the remainder -/

/-- The estimates of all digits are exact. -/
def EstimatesExact (u v : List ℕ) : Prop :=
  ∀ i ≤ u.length - v.length, ExactAt v.length (Nat.ofDigits (2 ^ 32) u * 2 ^ divisorShift v)
    (Nat.ofDigits (2 ^ 32) v * 2 ^ divisorShift v) i

/-- Three words divided by three, with the quotient 3 and the estimate 4. -/
example : ¬ EstimatesExact [3, 0, 0x80000000] [1, 0, 0x20000000] := by
  intro h
  exact absurd (h 0 (by decide)) (by unfold ExactAt; decide)

section DivideWords

variable {u v : List ℕ}

/-- The first state of the loop. -/
lemma loopState_start (hu : Canonical (2 ^ 32) u) (hv : Canonical (2 ^ 32) v) (hne : v ≠ [])
    (hle : v.length ≤ u.length) :
    LoopState (shiftLeft (divisorShift v) v) (Nat.ofDigits (2 ^ 32) u * 2 ^ divisorShift v)
      (u.length - v.length + 1) (normalizeDivident u (divisorShift v)) [] := by
  have hune : u ≠ [] := by
    rintro rfl
    exact hne (List.length_eq_zero_iff.mp (Nat.le_zero.mp hle))
  obtain ⟨hvalue, hwords, hlength⟩ := normalizeDivident_spec hu hune (divisorShift_lt hv hne)
  have hhigh := highDigits_lt hu hv hne hle (divisorShift v)
  rw [← ofDigits_shiftLeft_divisorShift hv hne] at hhigh
  refine ⟨hwords, ?_, ?_, by simp, ?_⟩
  · rw [length_shiftLeft]
    exact le_trans (by omega) hlength
  · rw [hvalue, Nat.mod_eq_of_lt hhigh, Nat.mod_add_div]
  · rw [Nat.div_right_comm, Nat.div_eq_of_lt hhigh]
    rfl

/-- With exact estimates the general case gives the quotient and the remainder. -/
lemma divideWords_eq_some (hu : Canonical (2 ^ 32) u) (hv : Canonical (2 ^ 32) v)
    (htwo : 2 ≤ v.length) (hle : v.length ≤ u.length) (hexact : EstimatesExact u v) :
    ∃ q r, divideWords u v = some (q, r) ∧ (∀ w ∈ q, w < 2 ^ 32) ∧ (∀ w ∈ r, w < 2 ^ 32) ∧
      Nat.ofDigits (2 ^ 32) q = Nat.ofDigits (2 ^ 32) u / Nat.ofDigits (2 ^ 32) v ∧
      Nat.ofDigits (2 ^ 32) r = Nat.ofDigits (2 ^ 32) u % Nat.ofDigits (2 ^ 32) v := by
  have hne : v ≠ [] := List.length_pos_iff.mp (by omega)
  have hdivisor := ofDigits_shiftLeft_divisorShift hv hne
  have hnv := shiftedDivisor_shiftLeft hv htwo
  obtain ⟨nu, q, hrun, hend⟩ := (loopState_start hu hv hne hle).run hnv
    fun i hi => by
      rw [length_shiftLeft, hdivisor]
      exact hexact i (Nat.le_of_lt_succ hi)
  have htake : ∀ w ∈ nu.take v.length, w < 2 ^ 32 :=
    fun w hw => hend.dividend_lt w (List.mem_of_mem_take hw)
  obtain ⟨hrvalue, hr⟩ := shiftRight_spec (divisorShift_lt hv hne).le htake
  have hpow : 0 < 2 ^ divisorShift v := Nat.pow_pos (by decide)
  have hnu : Nat.ofDigits (2 ^ 32) (nu.take v.length) = Nat.ofDigits (2 ^ 32) u *
      2 ^ divisorShift v % Nat.ofDigits (2 ^ 32) (shiftLeft (divisorShift v) v) := by
    have hlt := Nat.ofDigits_lt_base_pow_length (by decide) hnv.lt
    rw [length_shiftLeft] at hlt
    have hvalue := hend.dividend
    rw [pow_zero, Nat.mod_one, Nat.zero_add, Nat.one_mul, Nat.div_one] at hvalue
    rw [← Nat.ofDigits_mod_pow_eq_ofDigits_take _ (by decide) nu hend.dividend_lt, hvalue]
    exact Nat.mod_eq_of_lt ((Nat.mod_lt _ hnv.pos).trans hlt)
  refine ⟨q, shiftRight (divisorShift v) (nu.take v.length), ?_, hend.quotient_lt, hr, ?_, ?_⟩
  · exact congrArg (Option.map _) hrun
  · rw [hend.quotient, pow_zero, Nat.div_one, hdivisor, Nat.mul_div_mul_right _ _ hpow]
  · rw [hrvalue, hnu, hdivisor, Nat.mul_mod_mul_right, Nat.mul_div_cancel _ hpow]

/-- Without exact estimates the general case does not give the quotient. -/
lemma ofDigits_ne_of_divideWords (hu : Canonical (2 ^ 32) u) (hv : Canonical (2 ^ 32) v)
    (htwo : 2 ≤ v.length) (hle : v.length ≤ u.length) (hinexact : ¬ EstimatesExact u v)
    {q r : List ℕ} (h : divideWords u v = some (q, r)) :
    Nat.ofDigits (2 ^ 32) q ≠ Nat.ofDigits (2 ^ 32) u / Nat.ofDigits (2 ^ 32) v := by
  have hne : v ≠ [] := List.length_pos_iff.mp (by omega)
  unfold EstimatesExact at hinexact
  push Not at hinexact
  obtain ⟨i, hi, hinexact⟩ := hinexact
  obtain ⟨⟨nu, q'⟩, hrun, heq⟩ := Option.map_eq_some_iff.mp h
  obtain ⟨rfl, -⟩ := Prod.mk.inj heq
  have hwrong := (loopState_start hu hv hne hle).ofDigits_ne (shiftedDivisor_shiftLeft hv htwo)
    (Nat.lt_succ_of_le hi) (by
      rwa [length_shiftLeft, ofDigits_shiftLeft_divisorShift hv hne]) hrun
  rwa [ofDigits_shiftLeft_divisorShift hv hne,
    Nat.mul_div_mul_right _ _ (Nat.pow_pos (by decide))] at hwrong

/-- A divisor of one word makes a round read in front of it. -/
lemma LoopState.divideStep_eq_none {v1 i A : ℕ} {nu q : List ℕ}
    (h : LoopState [v1] A (i + 1) nu q) (hv1 : 0 < v1) (hlt : v1 < 2 ^ 32) :
    divideStep [v1] nu i = none := by
  have hplace : i + 1 + 1 ≤ nu.length := h.length_le
  have hpow : 0 < (2 ^ 32) ^ (i + 1) := Nat.pow_pos (by decide)
  have hhigh : Nat.ofDigits (2 ^ 32) nu / (2 ^ 32) ^ (i + 1) < v1 := by
    rw [h.dividend, Nat.add_mul_div_left _ _ hpow, Nat.div_eq_of_lt (Nat.mod_lt _ hpow),
      Nat.zero_add, Nat.ofDigits_singleton]
    exact Nat.mod_lt _ hv1
  have hu1 : wordAt nu (i + [v1].length) = _ :=
    wordAt_eq h.dividend_lt (k := i + 1) (by simp) (by omega)
  have hu2 : wordAt nu (i + [v1].length - 1) = _ :=
    wordAt_eq h.dividend_lt (k := i) (by simp) (by omega)
  rw [Nat.mod_eq_of_lt (hhigh.trans hlt)] at hu1
  have hu2lt := Nat.mod_lt (Nat.ofDigits (2 ^ 32) nu / (2 ^ 32) ^ i) (show 2 ^ 32 > 0 by decide)
  have hv1read : wordAt [v1] ([v1].length - 1) = some v1 := rfl
  have hstart := estimateQuotient_eq_adjustEstimate hu1 hu2 hv1read hu2lt rfl
  have hquotient : ¬ 2 ^ 32 - 1 < (Nat.ofDigits (2 ^ 32) nu / (2 ^ 32) ^ (i + 1) * 2 ^ 32 +
      Nat.ofDigits (2 ^ 32) nu / (2 ^ 32) ^ i % 2 ^ 32) / v1 := by
    refine not_lt.mpr (Nat.le_sub_one_of_lt (Nat.div_lt_of_lt_mul ?_))
    have hmul := Nat.mul_le_mul_right (2 ^ 32) (Nat.succ_le_of_lt hhigh)
    rw [Nat.succ_mul] at hmul
    omega
  have hread : wordAt [v1] ([v1].length - 2) = none := wordAt_of_neg _ (by simp)
  rw [divideStep, hstart, adjustEstimate, if_neg hquotient, hread]
  rfl

/-- A divisor of one word makes the general case read in front of it. -/
lemma divideWords_of_length_eq_one (hu : Canonical (2 ^ 32) u) (hv : Canonical (2 ^ 32) v)
    (hone : v.length = 1) (hle : v.length ≤ u.length) : divideWords u v = none := by
  have hne : v ≠ [] := List.length_pos_iff.mp (by omega)
  have hstart := loopState_start hu hv hne hle
  have hwords := lt_of_mem_shiftLeft (n := divisorShift v) hv.lt
  have hvalue := ofDigits_shiftLeft_divisorShift hv hne
  obtain ⟨v1, hv1⟩ : ∃ v1, shiftLeft (divisorShift v) v = [v1] :=
    List.length_eq_one_iff.mp (by rw [length_shiftLeft, hone])
  have hpos : 0 < v1 := by
    have hdivisor : Nat.ofDigits (2 ^ 32) v ≠ 0 :=
      fun hzero => hne ((hv.ofDigits_eq_zero_iff (by decide)).mp hzero)
    rw [hv1, Nat.ofDigits_singleton] at hvalue
    rw [hvalue]
    exact Nat.mul_pos (Nat.pos_of_ne_zero hdivisor) (Nat.pow_pos (by decide))
  rw [hv1] at hstart hwords
  have hstep := hstart.divideStep_eq_none hpos (hwords v1 List.mem_cons_self)
  have hloop : divideLoop (shiftLeft (divisorShift v) v) (u.length - v.length + 1)
      (normalizeDivident u (divisorShift v)) [] = none := by
    rw [hv1, divideLoop, hstep, Option.bind_none]
  exact congrArg (Option.map _) hloop

end DivideWords

end BigInteger

end TimestreamOdbc
