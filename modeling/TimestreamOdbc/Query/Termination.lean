import TimestreamOdbc.Query.Producer

/-!
# Operations come to an end

Every step other than the call of an operation uses up something: the main thread gets nearer to the
end of its operation and a worker to the end of its thread.  The one exception is a turn of the loop
of an execution over a page without rows.

A close and a destruction therefore end in whatever order the threads take their steps, and so does
a fetch that has a producer.
-/

namespace TimestreamOdbc

open TransitionSystem

variable {δ γ B : Type}

/-- A step of the main thread inside an operation, or of a worker. -/
def Action.Internal : Action B → Prop
  | .call _ => False
  | .main | .worker _ => True

/-- How many steps a worker may take until it is joined. -/
def Worker.weight : Worker δ γ → ℕ
  | .calling => 4
  | .returned _ => 3
  | .parked _ => 2
  | .finished => 1

/-- How far the main thread is from the end of its operation, a worker that it starts on the way
included. -/
def Pc.weight : Pc B → ℕ
  | .idle | .destroyed => 0
  | .closing .execute => 8
  | .closing _ => 1
  | .makeRequestExecute => 7
  | .query => 6
  | .waitOutcome _ => 7
  | .joinPrevious _ _ => 6
  | .startNext _ _ => 5
  | .metaRequest | .cancelRequest => 2

namespace System

/-- No operation is in progress. -/
def Ended (s : System δ γ B) : Prop := s.pc = .idle ∨ s.pc = .destroyed

/-- What the main thread and the workers still may use up. -/
def weight (s : System δ γ B) : ℕ := (s.threads.map Worker.weight).sum + s.pc.weight

/-- The loop of an execution is about to take in a page without rows. -/
def AnswersEmptyPage (env : QueryEnv δ γ B) (s : System δ γ B) : Prop :=
  s.pc = .query ∧ ∃ page, env.service s.sent.length s.query.request = .success page ∧ page.rows = []

section Weight

variable {env : QueryEnv δ γ B} {s s' : System δ γ B}

/-- A worker that steps loses weight. -/
lemma sum_weight_set_lt {threads : List (Worker δ γ)} {i : ℕ} {w w' : Worker δ γ}
    (hi : threads[i]? = some w) (hlt : w'.weight < w.weight) :
    ((threads.set i w').map Worker.weight).sum < (threads.map Worker.weight).sum := by
  induction threads generalizing i with
  | nil => simp at hi
  | cons v threads ih =>
    cases i with
    | zero =>
      rw [List.getElem?_cons_zero, Option.some.injEq] at hi
      simp only [List.set_cons_zero, List.map_cons, List.sum_cons, hi]
      omega
    | succ i =>
      rw [List.getElem?_cons_succ] at hi
      have := ih hi
      simp only [List.set_cons_succ, List.map_cons, List.sum_cons]
      omega

/-- A worker with its outcome is heavier than a finished one. -/
lemma exists_weight_of_outcome {i : ℕ} {outcome : QueryOutcome δ γ}
    (hi : s.threads[i]? = some (.returned outcome) ∨ s.threads[i]? = some (.parked outcome)) :
    ∃ w, s.threads[i]? = some w ∧ (Worker.finished : Worker δ γ).weight < w.weight := by
  rcases hi with hi | hi
  · exact ⟨_, hi, by simp [Worker.weight]⟩
  · exact ⟨_, hi, by simp [Worker.weight]⟩

/-- Every step other than a call, and other than a turn over a page without rows, loses weight. -/
lemma weight_step {a : Action B} (ha : a.Internal) (hempty : ¬ AnswersEmptyPage env s)
    (hstep : Step env s a s') : s'.weight < s.weight := by
  unfold weight
  cases hstep with
  | executeClose | executeStart | fetchNoCursor | fetchRow | fetchSwitch | fetchEnd | cancelRequest
  | cancelFail | cancelClose | close | metaKnown | metaRequest | destroyClose | destroy =>
    exact absurd ha id
  | executeAgain page hpc hans hrows => exact absurd ⟨hpc, page, hans, hrows⟩ hempty
  | closeJoin next threads hpc hthreads =>
    simp only [hpc, hthreads, List.map_cons, List.sum_cons, Worker.weight]
    omega
  | closeEnd next hpc hthreads =>
    rw [hpc]
    rcases next with _ | _ | _ | _ | _ | _ <;> simp [endClose, Pc.weight, hthreads]
  | prepare hpc | executeFailed _ hpc | executeEmpty _ hpc | executePage _ hpc
  | switchFailed _ _ _ hpc | switchEmpty _ _ _ hpc | switchLast _ _ _ hpc | switchMore _ _ _ hpc
  | metaFailed _ _ hpc | metaAnswer _ _ hpc | cancelAnswerClose hpc | cancelAnswerFail _ hpc =>
    rw [hpc]
    simp [beginClose, Pc.weight]
  | executePageToken _ hpc | startNext _ _ hpc =>
    rw [hpc]
    simp [startWorker, writeToken, Pc.weight, Worker.weight]
  | joinPrevious _ _ threads hpc hthreads =>
    rw [hpc]
    rcases hthreads with hthreads | ⟨hthreads, rfl⟩
    · simp only [hthreads, List.map_cons, List.sum_cons, Pc.weight]
      omega
    · simp [hthreads, Pc.weight]
  | answered i hi =>
    have hlt : (Worker.returned (env.service s.sent.length s.query.request)).weight <
        (Worker.calling : Worker δ γ).weight := by
      simp [Worker.weight]
    have := sum_weight_set_lt hi hlt
    simpa using this
  | push i outcome hi | drop i outcome hi =>
    obtain ⟨w, hi, hlt⟩ := exists_weight_of_outcome hi
    have := sum_weight_set_lt hi hlt
    simpa using this
  | park i outcome hi =>
    have hlt : (Worker.parked outcome).weight < (Worker.returned outcome).weight := by
      simp [Worker.weight]
    have := sum_weight_set_lt hi hlt
    simpa using this

end Weight

/-! ## Progress -/

section Progress

variable {env : QueryEnv δ γ B} {s s' : System δ γ B}

/-- A join can go on, or the worker it waits for can. -/
lemma SingleFlight.exists_internal_of_joining (h : SingleFlight s) {w : Worker δ γ}
    (hw : s.joining = some w) : ∃ a : Action B, a.Internal ∧ step env s a ≠ none := by
  obtain ⟨n, t, hrun, ht⟩ := h.join_ends env hw
  rcases n with _ | n
  · cases hrun
    exact ⟨.main, trivial, Option.isSome_iff_ne_none.mp ht⟩
  · obtain ⟨u, hu, -⟩ := run_cons_eq_some.mp hrun
    refine ⟨.worker 0, trivial, ?_⟩
    rw [hu]
    exact Option.some_ne_none u

/-- A worker in flight can go on. -/
lemma SingleFlight.exists_internal_of_inFlight (h : SingleFlight s) {w : Worker δ γ}
    (hw : w ∈ s.threads) (hflight : w.InFlight) :
    ∃ a : Action B, a.Internal ∧ step env s a ≠ none := by
  obtain ⟨i, hi⟩ := List.mem_iff_getElem?.mp hw
  refine ⟨.worker i, trivial, ?_⟩
  rcases w with _ | outcome | outcome | _
  · simp [step, workerStep, hi]
  · simp [step, workerStep, hi]
  · exact absurd ⟨outcome, rfl⟩ (h.noParked _ hw)
  · exact absurd rfl hflight

/-- An operation in progress can go on when a fetch that waits has a producer. -/
lemma SingleFlight.exists_internal (h : SingleFlight s) (hended : ¬ s.Ended)
    (hcancel : s.pc ≠ .cancelRequest) (hwait : s.Awaits → s.HasProducer) :
    ∃ a : Action B, a.Internal ∧ step env s a ≠ none := by
  rcases hpc : s.pc with _ | next | _ | _ | b | ⟨token, b⟩ | ⟨token, b⟩ | _ | _ | _
  · exact absurd (.inl hpc) hended
  · rcases hthreads : s.threads with _ | ⟨w, threads⟩
    · exact ⟨.main, trivial, by simp [step, mainStep, hpc, hthreads]⟩
    · exact h.exists_internal_of_joining (w := w) (by simp [joining, hpc, hthreads])
  · exact ⟨.main, trivial, by simp [step, mainStep, hpc]⟩
  · exact ⟨.main, trivial, by simp [step, mainStep, hpc]⟩
  · rcases hwait ⟨b, hpc⟩ with ⟨w, hw, hflight⟩ | hqueue
    · exact h.exists_internal_of_inFlight hw hflight
    · obtain ⟨outcome, queue, hcons⟩ := List.exists_cons_of_ne_nil hqueue
      exact ⟨.main, trivial, by simp [step, mainStep, hpc, hcons]⟩
  · rcases hthreads : s.threads with _ | ⟨w, threads⟩
    · exact ⟨.main, trivial, by simp [step, mainStep, hpc, hthreads]⟩
    · exact h.exists_internal_of_joining (w := w) (by simp [joining, hpc, hthreads])
  · exact ⟨.main, trivial, by simp [step, mainStep, hpc]⟩
  · exact ⟨.main, trivial, by simp [step, mainStep, hpc]⟩
  · exact absurd hpc hcancel
  · exact absurd (.inr hpc) hended

end Progress

/-! ## Close and destruction -/

section Closing

variable {env : QueryEnv δ γ B} {s s' : System δ γ B}

/-- No operation is in progress but the end of one that closes the query. -/
def OnlyCloses (s : System δ γ B) : Prop :=
  s.Ended ∨ ∃ next, next ≠ .execute ∧ s.pc = .closing next

/-- While only a close is in progress the other steps keep it so. -/
lemma OnlyCloses.of_step (h : OnlyCloses s) {a : Action B} (ha : a.Internal)
    (hstep : Step env s a s') : OnlyCloses s' := by
  cases hstep with
  | executeClose | executeStart | fetchNoCursor | fetchRow | fetchSwitch | fetchEnd | cancelRequest
  | cancelFail | cancelClose | close | metaKnown | metaRequest | destroyClose | destroy =>
    exact absurd ha id
  | answered | push | drop | park => exact h
  | closeJoin next threads hpc hthreads =>
    rcases h with (h | h) | ⟨next', hnext, h⟩
    · rw [hpc] at h
      cases h
    · rw [hpc] at h
      cases h
    · rw [hpc] at h
      cases h
      exact .inr ⟨next, hnext, rfl⟩
  | closeEnd next hpc hthreads =>
    rcases h with (h | h) | ⟨next', hnext, h⟩
    · rw [hpc] at h
      cases h
    · rw [hpc] at h
      cases h
    · rw [hpc] at h
      cases h
      rcases next with _ | _ | _ | _ | _ | _
      · exact absurd rfl hnext
      all_goals simp [OnlyCloses, Ended, endClose]
  | prepare hpc | executeFailed _ hpc | executeEmpty _ hpc | executePage _ hpc
  | executeAgain _ hpc | executePageToken _ hpc | joinPrevious _ _ _ hpc | startNext _ _ hpc
  | switchFailed _ _ _ hpc | switchEmpty _ _ _ hpc | switchLast _ _ _ hpc | switchMore _ _ _ hpc
  | metaFailed _ _ hpc | metaAnswer _ _ hpc | cancelAnswerClose hpc | cancelAnswerFail _ hpc =>
    rcases h with (h | h) | ⟨next', -, h⟩ <;> rw [hpc] at h <;> cases h

/-- While only a close is in progress no page is taken in. -/
lemma OnlyCloses.not_answersEmptyPage (h : OnlyCloses s) : ¬ AnswersEmptyPage env s := by
  rintro ⟨hpc, -⟩
  rcases h with (h | h) | ⟨next, -, h⟩ <;> rw [hpc] at h <;> cases h

/-- A close ends, whatever its workers are doing. -/
lemma SingleFlight.settles_of_onlyCloses (h : SingleFlight s) (hcloses : OnlyCloses s) :
    Settles (step env) Action.Internal Ended s := by
  have hlowers : ∀ (s : System δ γ B) a s', SingleFlight s ∧ OnlyCloses s → Action.Internal a →
      step env s a = some s' → (SingleFlight s' ∧ OnlyCloses s') ∧ weight s' < weight s := by
    rintro s a s' ⟨h, hcloses⟩ ha hstep
    have hcases := step_of_eq_some hstep
    exact ⟨⟨singleFlight_step h hcases, hcloses.of_step ha hcases⟩,
      weight_step ha hcloses.not_answersEmptyPage hcases⟩
  apply settles_of_measure hlowers ?_ ⟨h, hcloses⟩
  · rintro s ⟨h, hcloses⟩ hended
    refine h.exists_internal hended ?_ ?_
    · intro hpc
      rcases hcloses with hcloses | ⟨next, -, hcloses⟩
      · exact hended hcloses
      · rw [hpc] at hcloses
        cases hcloses
    · rintro ⟨b, hpc⟩
      rcases hcloses with hcloses | ⟨next, -, hcloses⟩
      · exact absurd hcloses hended
      · rw [hpc] at hcloses
        cases hcloses

/-- A close and a destruction can be called between any two operations and end. -/
lemma SingleFlight.settles_of_close (h : SingleFlight s) {op : Op B}
    (hop : op = .close ∨ op = .destroy) (hstep : step env s (.call op) = some s') :
    Settles (step env) Action.Internal Ended s' := by
  have hcases := step_of_eq_some hstep
  refine (singleFlight_step h hcases).settles_of_onlyCloses ?_
  rcases hop with rfl | rfl
  · cases hcases with
    | close => exact .inr ⟨.close, by simp, rfl⟩
  · cases hcases with
    | destroyClose => exact .inr ⟨.destroy, by simp, rfl⟩
    | destroy => exact .inl (.inr rfl)

end Closing

end System

end TimestreamOdbc
