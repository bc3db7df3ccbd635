import TimestreamOdbc.Query.SingleFlight
import Mathlib.Data.List.Chain

/-!
# Who produces what a fetch waits for

`SwitchCursor` waits for the queue on the strength of the flag `hasAsyncFetch`.  The flag is meant
to say that the outcome of a worker has not been consumed.  It is cleared when the outcome is a
failure or a last page with rows; the exit for a page without rows forgets it.

As long as no page without rows is taken from the queue the flag is right: a fetch that waits has
a producer, and once a fetch has returned `AI_NO_DATA` so do all the fetches after it.  After an
empty page was taken, the next fetch waits for an outcome that nobody will ever produce.
-/

namespace TimestreamOdbc

open TransitionSystem

variable {δ γ B : Type}

/-! ## Ended results -/

namespace DataQuery

/-- The next fetch finds the end of the result: there is no cursor, or it is at the end of its
page and no page is prefetched. -/
def AtEnd (q : DataQuery δ γ) : Prop :=
  q.cursor = none ∨ ∃ c, q.cursor = some c ∧ c.increment.1 = false ∧ q.hasAsyncFetch = false

end DataQuery

/-- A cursor at the end stays there. -/
lemma TimestreamCursor.increment_moved {c : TimestreamCursor δ γ} (h : c.increment.1 = false) :
    c.moved.increment.1 = false := by
  have hle : c.rowVec.length ≤ c.curPos := Nat.not_lt.mp (of_decide_eq_false h)
  exact decide_eq_false (Nat.not_le.mpr (Nat.lt_succ_of_le (Nat.le_succ_of_le hle)))

namespace Return

/-- Whether the call was a fetch. -/
def isFetch (r : Return δ γ B) : Bool :=
  match r.op with
  | .fetchNextRow _ => true
  | _ => false

/-- Whether the call was a fetch that returned `AI_NO_DATA`. -/
def isNoData (r : Return δ γ B) : Bool :=
  match r.reply with
  | .fetched fetched => fetched.result = some .aiNoData
  | _ => false

/-- A fetch right after a fetch that returned `AI_NO_DATA` returns `AI_NO_DATA` too. -/
def StaysAtEnd (r r' : Return δ γ B) : Prop :=
  r.isNoData = true → r'.isFetch = true → r'.isNoData = true

end Return

namespace System

/-! ## The condition and the property -/

/-- The step takes a page without rows from the queue. -/
def takesEmptyPage (s : System δ γ B) (a : Action B) : Bool :=
  match a, s.pc, s.query.context.queue with
  | .main, .waitOutcome _, .success page :: _ => page.rows.isEmpty
  | _, _, _ => false

/-- The main thread waits in `SwitchCursor`. -/
def Awaits (s : System δ γ B) : Prop := ∃ b, s.pc = .waitOutcome b

/-- A worker is in flight or the queue holds an outcome. -/
def HasProducer (s : System δ γ B) : Prop :=
  (∃ w ∈ s.threads, w.InFlight) ∨ s.query.context.queue ≠ []

/-- The last completed call was a fetch that returned `AI_NO_DATA`. -/
def LastNoData (s : System δ γ B) : Prop := ∃ r ∈ s.returns.getLast?, r.isNoData = true

/-- The flag `hasAsyncFetch` tells the truth, and the end of a result is final. -/
structure FlagHonest (s : System δ γ B) : Prop where
  /-- Unless a page switch is about to start the next worker, the flag means a producer. -/
  producer : s.query.hasAsyncFetch = true → ¬ s.pc.Switches → s.HasProducer
  /-- A fetch only waits, and a page switch only goes on, with the flag set. -/
  flag : s.Awaits ∨ s.pc.Switches → s.query.hasAsyncFetch = true
  /-- A fetch that waits or switches pages does not come after the end of the result. -/
  notEnded : s.Awaits ∨ s.pc.Switches → ¬ s.LastNoData
  /-- After a fetch that returned `AI_NO_DATA` the query is at its end. -/
  atEnd : s.LastNoData → s.pc = .idle → s.query.AtEnd
  /-- Every fetch after the end stays there. -/
  stays : s.returns.IsChain Return.StaysAtEnd

/-- A new query has no flag and no history. -/
lemma flagHonest_new : FlagHonest (System.new : System δ γ B) where
  producer := by simp [System.new, DataQuery.new]
  flag := by simp [System.new, Awaits, Pc.Switches]
  notEnded := by simp [System.new, Awaits, Pc.Switches]
  atEnd := by simp [System.new, LastNoData]
  stays := .nil

/-! ## Steps -/

section Steps

variable {s s' : System δ γ B}

/-- The last call of a state that just finished one. -/
lemma lastNoData_of_returns {r : Return δ γ B} (h : s'.returns = s.returns ++ [r]) :
    s'.LastNoData ↔ r.isNoData = true := by
  simp [LastNoData, h]

/-- The chain grows by a call that is no fetch, or by one that follows it. -/
lemma FlagHonest.stays_append (h : FlagHonest s) {r : Return δ γ B}
    (hr : s.LastNoData → r.isFetch = true → r.isNoData = true) :
    (s.returns ++ [r]).IsChain Return.StaysAtEnd := by
  refine h.stays.append (.singleton r) fun x hx y hy => ?_
  rw [List.head?_singleton, Option.mem_some_iff] at hy
  exact fun hx' => hy ▸ hr ⟨x, hx, hx'⟩

/-- A call ends in an idle state whose flag, if it is set, has a producer. -/
lemma FlagHonest.ends (h : FlagHonest s) {r : Return δ γ B}
    (hreturns : s'.returns = s.returns ++ [r]) (hpc : s'.pc = .idle)
    (hprod : s'.query.hasAsyncFetch = true → s'.HasProducer)
    (hend : r.isNoData = true → s'.query.AtEnd)
    (hr : s.LastNoData → r.isFetch = true → r.isNoData = true) : FlagHonest s' where
  producer := fun hf _ => hprod hf
  flag := by simp [hpc, Awaits, Pc.Switches]
  notEnded := by simp [hpc, Awaits, Pc.Switches]
  atEnd := fun hl _ => hend ((lastNoData_of_returns hreturns).mp hl)
  stays := hreturns ▸ h.stays_append hr

/-- A step to a position that neither waits nor switches pages keeps the history. -/
lemma FlagHonest.moves (h : FlagHonest s) (hreturns : s'.returns = s.returns)
    (hprod : s'.query.hasAsyncFetch = true → s'.HasProducer) (hwait : ¬ s'.Awaits)
    (hswitch : ¬ s'.pc.Switches) (hidle : s'.pc ≠ .idle) : FlagHonest s' where
  producer := fun hf _ => hprod hf
  flag := fun hw => absurd hw (by simp [hwait, hswitch])
  notEnded := fun hw => absurd hw (by simp [hwait, hswitch])
  atEnd := fun _ hpc => absurd hpc hidle
  stays := hreturns ▸ h.stays

/-- A step of a worker leaves the main thread and the flag alone, and a producer behind. -/
lemma FlagHonest.worker (h : FlagHonest s) (hreturns : s'.returns = s.returns)
    (hpc : s'.pc = s.pc) (hflag : s'.query.hasAsyncFetch = s.query.hasAsyncFetch)
    (hcursor : s'.query.cursor = s.query.cursor) (hprod : s'.HasProducer) : FlagHonest s' where
  producer := fun _ _ => hprod
  flag := by simpa [Awaits, hpc, hflag] using h.flag
  notEnded := by simpa [Awaits, LastNoData, hpc, hreturns] using h.notEnded
  atEnd := by simpa [LastNoData, DataQuery.AtEnd, hpc, hreturns, hcursor, hflag] using h.atEnd
  stays := hreturns ▸ h.stays

/-- A fetch after the end does not find a row or a page to switch to. -/
lemma FlagHonest.not_lastNoData (h : FlagHonest s) (hpc : s.pc = .idle)
    {c : TimestreamCursor δ γ} (hc : s.query.cursor = some c)
    (hmore : c.increment.1 = true ∨ s.query.hasAsyncFetch = true) : ¬ s.LastNoData := by
  intro hl
  rcases h.atEnd hl hpc with hnone | ⟨c', hc', hend, hflag⟩
  · rw [hc] at hnone; cases hnone
  · rw [hc, Option.some.injEq] at hc'
    subst hc'
    rcases hmore with hmore | hmore
    · rw [hend] at hmore; cases hmore
    · rw [hflag] at hmore; cases hmore

/-- The reply of a row that was read is not the end of the data. -/
lemma finishRow_isNoData (env : QueryEnv δ γ B) (b : ColumnBindingMap B) (q : DataQuery δ γ)
    (n : ℕ) : (Return.mk (.fetchNextRow b) (.fetched (q.readRow env b).1) n
      : Return δ γ B).isNoData = false := by
  simpa [Return.isNoData] using q.readRow_result_ne_noData env b

/-- Where the threads, the queue and the flag stay, so does the producer. -/
lemma FlagHonest.producer_of_same (h : FlagHonest s) (hswitch : ¬ s.pc.Switches)
    (hthreads : s'.threads = s.threads)
    (hqueue : s'.query.context.queue = s.query.context.queue)
    (hflag : s'.query.hasAsyncFetch = s.query.hasAsyncFetch) :
    s'.query.hasAsyncFetch = true → s'.HasProducer := by
  intro hf
  have := h.producer (hflag ▸ hf) hswitch
  unfold HasProducer at this ⊢
  rwa [hthreads, hqueue]

/-- A close begins. -/
lemma FlagHonest.beginClose (h : FlagHonest s) (hswitch : ¬ s.pc.Switches)
    (hthreads : s'.threads = s.threads)
    (hqueue : s'.query.context.queue = s.query.context.queue)
    (hflag : s'.query.hasAsyncFetch = s.query.hasAsyncFetch)
    (hreturns : s'.returns = s.returns) (hpc : s'.pc.IsClosing) : FlagHonest s' := by
  obtain ⟨next, hnext⟩ := hpc
  exact h.moves hreturns (h.producer_of_same hswitch hthreads hqueue hflag)
    (by simp [Awaits, hnext]) (by simp [Pc.Switches, hnext]) (by simp [hnext])

/-- A call other than a fetch ends. -/
lemma FlagHonest.endsOther (h : FlagHonest s) {r : Return δ γ B}
    (hreturns : s'.returns = s.returns ++ [r]) (hpc : s'.pc = .idle)
    (hprod : s'.query.hasAsyncFetch = true → s'.HasProducer) (hfetch : r.isFetch = false)
    (hdata : r.isNoData = false) : FlagHonest s' :=
  h.ends hreturns hpc hprod (by simp [hdata]) (by simp [hfetch])

/-- A close ends. -/
lemma FlagHonest.endClose (h : FlagHonest s) {next : AfterClose} (hpc : s.pc = .closing next) :
    FlagHonest (s.endClose next) := by
  have hswitch : ¬ s.pc.Switches := by simp [hpc, Pc.Switches]
  cases next with
  | execute | destroy =>
    exact h.moves rfl (h.producer_of_same hswitch rfl rfl rfl) (by simp [Awaits, System.endClose])
      (by simp [Pc.Switches, System.endClose]) (by simp [System.endClose])
  | executeFailed _ | cancel | close | metaFailed _ =>
    exact h.endsOther rfl rfl (h.producer_of_same hswitch rfl rfl rfl) rfl rfl

/-- A fetch ends on a row. -/
lemma FlagHonest.endsRow (h : FlagHonest s) {env : QueryEnv δ γ B} {b : ColumnBindingMap B}
    {t : System δ γ B} (hreturns : t.returns = s.returns)
    (hprod : t.query.hasAsyncFetch = true → t.HasProducer) (hlast : ¬ s.LastNoData) :
    FlagHonest (t.finishRow env b) := by
  have hdata := finishRow_isNoData env b t.query
  refine h.ends (by rw [finishRow, finish, hreturns]) rfl ?_ (by simp [hdata])
    (fun hl => absurd hl hlast)
  simpa [HasProducer] using hprod

/-- Every step that takes no empty page from the queue keeps the flag honest. -/
lemma flagHonest_step {env : QueryEnv δ γ B} {a : Action B} (h : FlagHonest s)
    (hpage : s.takesEmptyPage a = false) (hstep : Step env s a s') : FlagHonest s' := by
  cases hstep with
  | executeClose hpc hres =>
    exact h.beginClose (by simp [hpc, Pc.Switches]) rfl rfl rfl rfl (by simp [System.beginClose])
  | executeStart hpc hres =>
    exact h.moves rfl (h.producer_of_same (by simp [hpc, Pc.Switches]) rfl rfl rfl)
      (by simp [Awaits]) (by simp [Pc.Switches]) (by simp)
  | fetchNoCursor b hpc hc =>
    exact h.ends rfl rfl (h.producer_of_same (by simp [hpc, Pc.Switches]) rfl rfl rfl)
      (fun _ => .inl hc) (fun _ _ => by simp [Return.isNoData])
  | fetchRow b c hpc hc hmore =>
    exact h.endsRow rfl (h.producer_of_same (by simp [hpc, Pc.Switches]) rfl rfl rfl)
      (h.not_lastNoData hpc hc (.inl hmore))
  | fetchSwitch b c hpc hc hmore hflag =>
    have hlast := h.not_lastNoData hpc hc (.inr hflag)
    exact ⟨fun hf _ => h.producer_of_same (by simp [hpc, Pc.Switches]) rfl rfl rfl hf,
      fun _ => hflag, fun _ => hlast, fun hl _ => absurd hl hlast, h.stays⟩
  | fetchEnd b c hpc hc hmore hflag =>
    exact h.ends rfl rfl (h.producer_of_same (by simp [hpc, Pc.Switches]) rfl rfl rfl)
      (fun _ => .inr ⟨c.moved, rfl, TimestreamCursor.increment_moved hmore, hflag⟩)
      (fun _ _ => by simp [Return.isNoData])
  | cancelRequest hpc hres =>
    exact h.moves rfl (h.producer_of_same (by simp [hpc, Pc.Switches]) rfl rfl rfl)
      (by simp [Awaits]) (by simp [Pc.Switches]) (by simp)
  | cancelFail hpc records =>
    exact h.endsOther rfl rfl (h.producer_of_same (by simp [hpc, Pc.Switches]) rfl rfl rfl) rfl rfl
  | cancelClose hpc =>
    exact h.beginClose (by simp [hpc, Pc.Switches]) rfl rfl rfl rfl (by simp [System.beginClose])
  | close hpc =>
    exact h.beginClose (by simp [hpc, Pc.Switches]) rfl rfl rfl rfl (by simp [System.beginClose])
  | metaKnown hpc =>
    exact h.endsOther rfl rfl (h.producer_of_same (by simp [hpc, Pc.Switches]) rfl rfl rfl) rfl rfl
  | metaRequest hpc =>
    exact h.moves rfl (h.producer_of_same (by simp [hpc, Pc.Switches]) rfl rfl rfl)
      (by simp [Awaits]) (by simp [Pc.Switches]) (by simp)
  | destroyClose hpc hres =>
    exact h.beginClose (by simp [hpc, Pc.Switches]) rfl rfl rfl rfl (by simp [System.beginClose])
  | destroy hpc hres =>
    exact h.moves rfl (h.producer_of_same (by simp [hpc, Pc.Switches]) rfl rfl rfl)
      (by simp [Awaits]) (by simp [Pc.Switches]) (by simp)
  | closeJoin next threads hpc hthreads =>
    refine h.moves rfl (fun hf => ?_) (by simp [Awaits]) (by simp [Pc.Switches]) (by simp)
    -- the joined thread has finished, so it was not the producer
    rcases h.producer hf (by simp [hpc, Pc.Switches]) with ⟨w, hw, hflight⟩ | hqueue
    · rw [hthreads, List.mem_cons] at hw
      rcases hw with rfl | hw
      · exact absurd rfl hflight
      · exact .inl ⟨w, hw, hflight⟩
    · exact .inr hqueue
  | closeEnd next hpc hthreads => exact h.endClose hpc
  | prepare hpc =>
    exact h.moves rfl (h.producer_of_same (by simp [hpc, Pc.Switches]) rfl rfl rfl)
      (by simp [Awaits]) (by simp [Pc.Switches]) (by simp)
  | executeFailed error hpc hans =>
    exact h.beginClose (by simp [hpc, Pc.Switches]) rfl rfl rfl rfl (by simp [System.beginClose])
  | executeEmpty page hpc hans hrows htoken =>
    exact h.endsOther rfl rfl (h.producer_of_same (by simp [hpc, Pc.Switches]) rfl rfl rfl) rfl rfl
  | executeAgain page hpc hans hrows htoken =>
    exact h.moves rfl (h.producer_of_same (by simp [hpc, Pc.Switches]) rfl rfl rfl)
      (by simp [Awaits, hpc]) (by simp [Pc.Switches, hpc]) (by simp [hpc])
  | executePage page hpc hans hrows htoken =>
    exact h.endsOther rfl rfl (h.producer_of_same (by simp [hpc, Pc.Switches]) rfl
      (by simp [DataQuery.onFirstPage]) (by simp [DataQuery.onFirstPage])) rfl rfl
  | executePageToken page hpc hans hrows htoken =>
    exact h.endsOther rfl rfl
      (fun _ => .inl ⟨.calling, by simp [startWorker], by simp [Worker.InFlight]⟩) rfl rfl
  | switchFailed b error queue hpc hqueue =>
    exact h.ends rfl rfl (by simp) (by simp [Return.isNoData])
      (fun hl => absurd hl (h.notEnded (.inl ⟨b, hpc⟩)))
  | switchEmpty b page queue hpc hqueue hrows =>
    simp [takesEmptyPage, hpc, hqueue, hrows] at hpage
  | switchLast b page queue hpc hqueue hrows htoken =>
    exact h.endsRow rfl (by simp) (h.notEnded (.inl ⟨b, hpc⟩))
  | switchMore b page queue hpc hqueue hrows htoken =>
    have hlast := h.notEnded (.inl ⟨b, hpc⟩)
    exact ⟨fun _ hsw => absurd trivial hsw, fun _ => h.flag (.inl ⟨b, hpc⟩), fun _ => hlast,
      fun hl _ => absurd hl hlast, h.stays⟩
  | joinPrevious b token threads hpc hthreads =>
    have hsw : s.pc.Switches := by simp [hpc, Pc.Switches]
    have hlast := h.notEnded (.inr hsw)
    exact ⟨fun _ hsw => absurd trivial hsw, fun _ => h.flag (.inr hsw), fun _ => hlast,
      fun hl _ => absurd hl hlast, h.stays⟩
  | startNext b token hpc =>
    exact h.endsRow rfl
      (fun _ => .inl ⟨.calling, by simp [startWorker], by simp [Worker.InFlight]⟩)
      (h.notEnded (.inr (by simp [hpc, Pc.Switches])))
  | metaFailed record error hpc hans =>
    exact h.beginClose (by simp [hpc, Pc.Switches]) rfl rfl rfl rfl (by simp [System.beginClose])
  | metaAnswer columns page hpc hans =>
    exact h.endsOther rfl rfl (h.producer_of_same (by simp [hpc, Pc.Switches]) rfl (by simp)
      (by simp)) rfl rfl
  | cancelAnswerClose hpc =>
    exact h.beginClose (by simp [hpc, Pc.Switches]) rfl rfl rfl rfl (by simp [System.beginClose])
  | cancelAnswerFail records hpc =>
    exact h.endsOther rfl rfl (h.producer_of_same (by simp [hpc, Pc.Switches]) rfl rfl rfl) rfl rfl
  | answered i hi =>
    have hlt := (List.getElem?_eq_some_iff.mp hi).1
    exact h.worker rfl rfl rfl rfl
      (.inl ⟨_, List.mem_set hlt _, by simp [Worker.InFlight]⟩)
  | push i outcome hi hqueue => exact h.worker rfl rfl rfl rfl (.inr (by simp))
  | drop i outcome hi hqueue hclosing => exact h.worker rfl rfl rfl rfl (.inr hqueue)
  | park i outcome hi hqueue hclosing => exact h.worker rfl rfl rfl rfl (.inr hqueue)

end Steps

/-! ## The contract -/

/-- Fetching never blocks without a producer, as long as no page without rows is taken from the
queue: in every state of such a run a fetch that waits has a worker in flight or an outcome in the
queue, and every fetch after one that returned `AI_NO_DATA` returns `AI_NO_DATA`. -/
theorem fetch_has_producer (env : QueryEnv δ γ B) (acts : List (Action B)) {s : System δ γ B}
    (hrun : run (guarded (fun s a => takesEmptyPage s a = false) (step env)) .new acts = some s) :
    (s.Awaits → s.HasProducer) ∧ s.returns.IsChain Return.StaysAtEnd := by
  have h : FlagHonest s := by
    refine invariant_run (fun s a s' h hstep => ?_) flagHonest_new hrun
    obtain ⟨hpage, hstep⟩ := guarded_eq_some.mp hstep
    exact flagHonest_step h hpage (step_of_eq_some hstep)
  refine ⟨fun hw => h.producer (h.flag (.inl hw)) ?_, h.stays⟩
  obtain ⟨b, hb⟩ := hw
  simp [hb, Pc.Switches]

/-- The run that executes, lets the worker leave its outcome, and fetches `n` times, the last time
without going on. -/
def fetchAfterPrefetch : ℕ → List (Action Unit)
  | 0 => [.call .execute, .main, .main, .worker 0, .worker 0]
  | n + 1 => fetchAfterPrefetch n ++ [.call (.fetchNextRow fun _ => none)]

/-- The contract at a fetch that waits at the end of the first of two pages with rows. -/
theorem fetch_has_producer_second_page :
    ∃ s, run (guarded (fun s a => takesEmptyPage s a = false)
        (step (scriptedEnv [samplePage [1] "next", samplePage [2] ""]))) .new
        (fetchAfterPrefetch 2) = some s ∧ s.Awaits ∧ s.HasProducer := by
  refine ⟨_, rfl, ⟨fun _ => none, rfl⟩, ?_⟩
  exact (fetch_has_producer (scriptedEnv [samplePage [1] "next", samplePage [2] ""])
    (fetchAfterPrefetch 2) rfl).1 ⟨fun _ => none, rfl⟩

/-! ## A page without rows -/

/-- No reachable state waits without a producer. -/
def NeverStarves (env : QueryEnv δ γ B) : Prop :=
  ∀ s : System δ γ B, Reaches (step env) .new s → s.Awaits → s.HasProducer

/-- When the page after the first one has no rows, the fetch that takes it returns `AI_NO_DATA`
and the next fetch waits although the only worker has finished and the queue is empty. -/
theorem not_neverStarves_empty_last_page :
    ¬ NeverStarves (scriptedEnv [samplePage [1] "next", samplePage [] ""]) := by
  intro h
  have hprod := h _ ⟨fetchAfterPrefetch 2 ++ [.main, .call (.fetchNextRow fun _ => none)], rfl⟩
    ⟨_, rfl⟩
  rcases hprod with ⟨w, hw, hflight⟩ | hqueue
  · exact hflight (List.mem_singleton.mp hw)
  · exact hqueue rfl

/-- A fetch waits at the end of its page, with the flag set. -/
def WaitsAtEnd (s : System δ γ B) : Prop :=
  s.Awaits → s.query.hasAsyncFetch = true ∧
    ∃ c, s.query.cursor = some c ∧ c.increment.1 = false

/-- Only a fetch at the end of its page begins to wait, and no worker touches its cursor. -/
lemma waitsAtEnd_step {env : QueryEnv δ γ B} {s s' : System δ γ B} {a : Action B}
    (h : WaitsAtEnd s) (hstep : Step env s a s') : WaitsAtEnd s' := by
  cases hstep with
  | fetchSwitch b c hpc hc hmore hflag =>
    exact fun _ => ⟨hflag, c.moved, rfl, TimestreamCursor.increment_moved hmore⟩
  | closeEnd next hpc hthreads =>
    rintro ⟨b, hb⟩
    cases next <;> cases hb
  | executeAgain page hpc hans hrows htoken =>
    rintro ⟨b, hb⟩
    exact absurd hb (by simp [hpc])
  | answered | push | drop | park => exact h
  | _ => rintro ⟨b, hb⟩; cases hb

/-- With only finished threads and an empty queue a fetch that waits is stuck. -/
lemma stuck_of_awaits (env : QueryEnv δ γ B) {u : System δ γ B} (hwait : u.Awaits)
    (hthreads : ∀ w ∈ u.threads, w = .finished) (hqueue : u.query.context.queue = []) :
    ∀ a, step env u a = none := by
  obtain ⟨b, hb⟩ := hwait
  intro a
  cases a with
  | call op => simp [step, hb]
  | main => simp [step, mainStep, hb, hqueue]
  | worker i =>
    cases hi : u.threads[i]? with
    | none => simp [step, workerStep, hi]
    | some w =>
      obtain rfl := hthreads w (List.mem_of_getElem? hi)
      simp [step, workerStep, hi]

/-- Before the first close, a page without rows leaves the flag set and nobody to produce: the
fetch that took it returns, and the next fetch waits for ever. -/
theorem starves_after_empty_page (env : QueryEnv δ γ B) {s t u : System δ γ B}
    {b b' : ColumnBindingMap B} (hs : Reaches (step env) .new s)
    (hclosing : s.query.context.isClosing = false) (hpc : s.pc = .waitOutcome b)
    (hpage : s.takesEmptyPage .main = true) (ht : step env s .main = some t)
    (hu : step env t (.call (.fetchNextRow b')) = some u) :
    u.Awaits ∧ ¬ u.HasProducer ∧ ∀ a, step env u a = none := by
  have h := singleFlight_reaches env hs
  have hwait : WaitsAtEnd s := invariant_reaches
    (fun _ _ _ h hstep => waitsAtEnd_step h (step_of_eq_some hstep)) (by rintro ⟨b, hb⟩; cases hb) hs
  obtain ⟨hflag, c, hc, hmore⟩ := hwait ⟨b, hpc⟩
  obtain ⟨page, queue, hqueue, hrows⟩ : ∃ page queue,
      s.query.context.queue = .success page :: queue ∧ page.rows = [] := by
    unfold takesEmptyPage at hpage
    split at hpage
    · next page queue _ hqueue => exact ⟨_, _, hqueue, List.isEmpty_iff.mp hpage⟩
    · cases hpage
  have hnil : queue = [] := by
    have hle := h.queue_le
    rw [hqueue, List.length_cons] at hle
    exact List.eq_nil_of_length_eq_zero (by omega)
  have hfin := h.finished_of_queue hclosing (by simp [hqueue])
  -- the page is taken, and the query is idle with nobody left to produce
  have ht' : s.switchCursor env b (.success page) queue = t := by
    simpa [step, mainStep, hpc, hqueue] using ht
  rw [switchCursor, DataQuery.pageTurn_empty _ hrows] at ht'
  have htpc : t.pc = .idle := by rw [← ht']; rfl
  have htcursor : t.query.cursor = some c := by rw [← ht']; exact hc
  have htflag : t.query.hasAsyncFetch = true := by rw [← ht']; exact hflag
  -- the next fetch finds the flag set
  have hu' : u = { t with
      query := { t.query with cursor := some c.moved }, pc := .waitOutcome b' } := by
    simpa [step, htpc, call, DataQuery.fetchTurn_switch htcursor hmore htflag] using hu.symm
  have huthreads : u.threads = s.threads := by rw [hu', ← ht']; rfl
  have huqueue : u.query.context.queue = [] := by rw [hu', ← ht']; exact hnil
  have huwait : u.Awaits := ⟨b', by rw [hu']⟩
  refine ⟨huwait, ?_, stuck_of_awaits env huwait (huthreads ▸ hfin) huqueue⟩
  rintro (⟨w, hw, hflight⟩ | hne)
  · exact hflight (hfin w (huthreads ▸ hw))
  · exact hne huqueue

end System

end TimestreamOdbc
