import TimestreamOdbc.Query.PageWorker

/-!
# Single-flight prefetch

The protocol between the main thread and its page workers that the source does not spell out: at
most one worker is started and not joined, at most one outcome is in the queue, and the shared
request is written only while no worker exists at all.

A worker can only be held up by a full queue, and before the first close the queue is empty as
long as a worker is in flight; after the first close the flag `isClosing_` stays set and nothing
holds a worker up any more.  So no worker is ever parked and every join ends.
-/

namespace TimestreamOdbc

open TransitionSystem

variable {δ γ B : Type}

namespace Pc

/-- The positions at which the main thread writes the shared request or is about to. -/
def WritesRequest : Pc B → Prop
  | .makeRequestExecute | .query | .startNext _ _ => True
  | _ => False

/-- The position at which `SwitchCursor` joins the previous worker. -/
def JoinsPrevious : Pc B → Prop
  | .joinPrevious _ _ => True
  | _ => False

/-- The positions at which `SwitchCursor` has taken a page and prepares the next prefetch. -/
def Switches : Pc B → Prop
  | .joinPrevious _ _ | .startNext _ _ => True
  | _ => False

/-- The positions outside a close, an execution and a page switch that already has its page. -/
def Quiet (pc : Pc B) : Prop :=
  ¬ pc.WritesRequest ∧ ¬ pc.JoinsPrevious ∧ ¬ pc.IsClosing ∧ ¬ pc.Switches

/-- Closing is a matter of the position alone. -/
@[simp] lemma isClosing_closing (next : AfterClose) :
    (Pc.closing next : Pc B).IsClosing := ⟨next, rfl⟩

/-- No other position is inside a close. -/
lemma not_isClosing {pc : Pc B} (h : ∀ next, pc ≠ .closing next) : ¬ pc.IsClosing :=
  fun ⟨next, hnext⟩ => h next hnext

/-- The positions between operations and before an answer are quiet. -/
@[simp] lemma quiet_idle : (Pc.idle : Pc B).Quiet := by
  simp [Quiet, WritesRequest, JoinsPrevious, IsClosing, Switches]

@[simp] lemma quiet_waitOutcome (b : ColumnBindingMap B) :
    (Pc.waitOutcome b : Pc B).Quiet := by
  simp [Quiet, WritesRequest, JoinsPrevious, IsClosing, Switches]

@[simp] lemma quiet_metaRequest : (Pc.metaRequest : Pc B).Quiet := by
  simp [Quiet, WritesRequest, JoinsPrevious, IsClosing, Switches]

@[simp] lemma quiet_cancelRequest : (Pc.cancelRequest : Pc B).Quiet := by
  simp [Quiet, WritesRequest, JoinsPrevious, IsClosing, Switches]

@[simp] lemma quiet_destroyed : (Pc.destroyed : Pc B).Quiet := by
  simp [Quiet, WritesRequest, JoinsPrevious, IsClosing, Switches]

end Pc

namespace System

/-! ## Fields after the composite effects -/

@[simp] lemma finish_query (op : Op B) (reply : Reply δ γ B) (s : System δ γ B) :
    (s.finish op reply).query = s.query := rfl

@[simp] lemma finish_threads (op : Op B) (reply : Reply δ γ B) (s : System δ γ B) :
    (s.finish op reply).threads = s.threads := rfl

@[simp] lemma finish_pc (op : Op B) (reply : Reply δ γ B) (s : System δ γ B) :
    (s.finish op reply).pc = .idle := rfl

@[simp] lemma finish_requestWrites (op : Op B) (reply : Reply δ γ B) (s : System δ γ B) :
    (s.finish op reply).requestWrites = s.requestWrites := rfl

@[simp] lemma finishRow_threads (env : QueryEnv δ γ B) (b : ColumnBindingMap B)
    (s : System δ γ B) : (s.finishRow env b).threads = s.threads := rfl

@[simp] lemma finishRow_pc (env : QueryEnv δ γ B) (b : ColumnBindingMap B)
    (s : System δ γ B) : (s.finishRow env b).pc = .idle := rfl

@[simp] lemma finishRow_requestWrites (env : QueryEnv δ γ B) (b : ColumnBindingMap B)
    (s : System δ γ B) : (s.finishRow env b).requestWrites = s.requestWrites := rfl

@[simp] lemma finishRow_context (env : QueryEnv δ γ B) (b : ColumnBindingMap B)
    (s : System δ γ B) : (s.finishRow env b).query.context = s.query.context := by
  simp [finishRow]

@[simp] lemma finishRow_result (env : QueryEnv δ γ B) (b : ColumnBindingMap B)
    (s : System δ γ B) : (s.finishRow env b).query.result = s.query.result := by
  simp [finishRow]

@[simp] lemma finishRow_request (env : QueryEnv δ γ B) (b : ColumnBindingMap B)
    (s : System δ γ B) : (s.finishRow env b).query.request = s.query.request := by
  simp [finishRow]

@[simp] lemma finishRow_hasAsyncFetch (env : QueryEnv δ γ B) (b : ColumnBindingMap B)
    (s : System δ γ B) : (s.finishRow env b).query.hasAsyncFetch = s.query.hasAsyncFetch := by
  simp [finishRow]

/-! ## The invariant -/

/-- The single-flight invariant. -/
structure SingleFlight (s : System δ γ B) : Prop where
  /-- At most one worker was started and not joined. -/
  threads_le : s.threads.length ≤ 1
  /-- The queue holds at most one outcome. -/
  queue_le : s.query.context.queue.length ≤ 1
  /-- No worker waits. -/
  noParked : ∀ w ∈ s.threads, ¬ w.Parked
  /-- While the request is written there is no worker. -/
  noWorker : s.pc.WritesRequest → s.threads = []
  /-- A query without a result has no worker, so that an execution may skip the close. -/
  noResult : s.query.result = none → ¬ s.pc.IsClosing → s.threads = []
  /-- Before the first close, an outcome and a worker in flight exclude each other. -/
  exclusive : s.query.context.isClosing = false → (∃ w ∈ s.threads, w.InFlight) →
    s.query.context.queue = []
  /-- Before the first close, an outcome is there only as long as its worker was not joined. -/
  noThread : s.query.context.isClosing = false → s.threads = [] → s.query.context.queue = []
  /-- Before the first close, a page switch joins a worker whose outcome it already has. -/
  joined : s.query.context.isClosing = false → s.pc.JoinsPrevious →
    s.query.context.queue = [] ∧ ∀ w ∈ s.threads, w = .finished
  /-- The closing flag is set inside a close. -/
  closing : s.pc.IsClosing → s.query.context.isClosing = true
  /-- A page switch has a result. -/
  switching : s.pc.Switches → s.query.result ≠ none

/-- A query just constructed satisfies the invariant. -/
lemma singleFlight_new : SingleFlight (System.new : System δ γ B) where
  threads_le := Nat.zero_le 1
  queue_le := Nat.zero_le 1
  noParked := fun _ hw => absurd hw List.not_mem_nil
  noWorker := fun _ => rfl
  noResult := fun _ _ => rfl
  exclusive := fun _ _ => rfl
  noThread := fun _ _ => rfl
  joined := fun _ _ => ⟨rfl, fun _ hw => absurd hw List.not_mem_nil⟩
  closing := by rintro ⟨next, hnext⟩; cases hnext
  switching := False.elim

/-- Without a worker only the queue and the closing flag matter. -/
lemma SingleFlight.of_no_thread {s : System δ γ B} (hthreads : s.threads = [])
    (hqueue : s.query.context.queue.length ≤ 1)
    (hnone : s.query.context.isClosing = false → s.query.context.queue = [])
    (hclosing : s.pc.IsClosing → s.query.context.isClosing = true)
    (hswitch : s.pc.Switches → s.query.result ≠ none) : SingleFlight s where
  threads_le := by simp [hthreads]
  queue_le := hqueue
  noParked := by simp [hthreads]
  noWorker := fun _ => hthreads
  noResult := fun _ _ => hthreads
  exclusive := fun h _ => hnone h
  noThread := fun h _ => hnone h
  joined := fun h _ => ⟨hnone h, by simp [hthreads]⟩
  closing := hclosing
  switching := hswitch

/-- With the closing flag set and a result, only the number of workers and outcomes matters. -/
lemma SingleFlight.of_closing {s : System δ γ B} (hthreads : s.threads.length ≤ 1)
    (hqueue : s.query.context.queue.length ≤ 1) (hparked : ∀ w ∈ s.threads, ¬ w.Parked)
    (hpc : s.pc.IsClosing) (hflag : s.query.context.isClosing = true) : SingleFlight s where
  threads_le := hthreads
  queue_le := hqueue
  noParked := hparked
  noWorker := by
    obtain ⟨next, hnext⟩ := hpc
    simp [hnext, Pc.WritesRequest]
  noResult := fun _ h => absurd hpc h
  exclusive := by simp [hflag]
  noThread := by simp [hflag]
  joined := by simp [hflag]
  closing := fun _ => hflag
  switching := by
    obtain ⟨next, hnext⟩ := hpc
    simp [hnext, Pc.Switches]

section Steps

variable {s s' : System δ γ B}

/-- The invariant in a state with no worker is about its queue. -/
lemma SingleFlight.queue_of_no_thread (h : SingleFlight s) (hthreads : s.threads = []) :
    s.query.context.isClosing = false → s.query.context.queue = [] :=
  fun hflag => h.noThread hflag hthreads

/-- At a quiet position the threads and the context decide, as long as the result is not lost. -/
lemma SingleFlight.quiet (h : SingleFlight s) (hthreads : s'.threads = s.threads)
    (hcontext : s'.query.context = s.query.context)
    (hres : s'.query.result = none → s.query.result = none) (hpc : ¬ s.pc.IsClosing)
    (hquiet : s'.pc.Quiet) : SingleFlight s' where
  threads_le := hthreads ▸ h.threads_le
  queue_le := hcontext ▸ h.queue_le
  noParked := hthreads ▸ h.noParked
  noWorker := fun hw => absurd hw hquiet.1
  noResult := fun hnone _ => hthreads ▸ h.noResult (hres hnone) hpc
  exclusive := hthreads ▸ hcontext ▸ h.exclusive
  noThread := hthreads ▸ hcontext ▸ h.noThread
  joined := fun _ hj => absurd hj hquiet.2.1
  closing := fun hc => absurd hc hquiet.2.2.1
  switching := fun hsw => absurd hsw hquiet.2.2.2

/-- `InternalClose` may begin anywhere. -/
lemma SingleFlight.beginClose (h : SingleFlight s) (hthreads : s'.threads = s.threads)
    (hqueue : s'.query.context.queue = s.query.context.queue) (hpc : s'.pc.IsClosing)
    (hflag : s'.query.context.isClosing = true) : SingleFlight s' :=
  .of_closing (hthreads ▸ h.threads_le) (hqueue ▸ h.queue_le) (hthreads ▸ h.noParked) hpc hflag

/-- `InternalClose` ends without a worker, whatever follows. -/
lemma SingleFlight.endClose (h : SingleFlight s) {next : AfterClose}
    (hpc : s.pc = .closing next) (hthreads : s.threads = []) :
    SingleFlight (s.endClose next) := by
  have hflag := h.closing ⟨next, hpc⟩
  cases next <;> exact .of_no_thread hthreads h.queue_le (fun hn => by
    simp [System.endClose, System.finish, DataQuery.released, hflag] at hn) (fun _ => hflag)
    (by simp [System.endClose, System.finish, Pc.Switches])

/-- A worker may be started when there is none. -/
lemma SingleFlight.start (h : SingleFlight s) (hnone : s.threads = [])
    (hthreads : s'.threads = [.calling]) (hcontext : s'.query.context = s.query.context)
    (hres : s'.query.result ≠ none) (hpc : s'.pc.Quiet) : SingleFlight s' where
  threads_le := by simp [hthreads]
  queue_le := hcontext ▸ h.queue_le
  noParked := by simp [hthreads, Worker.Parked]
  noWorker := fun hw => absurd hw hpc.1
  noResult := fun hn => absurd hn hres
  exclusive := fun hflag _ => by rw [hcontext] at hflag ⊢; exact h.noThread hflag hnone
  noThread := fun _ hn => by simp [hthreads] at hn
  joined := fun _ hj => absurd hj hpc.2.1
  closing := fun hc => absurd hc hpc.2.2.1
  switching := fun _ => hres

/-- Before the first close, an outcome in the queue means that its worker has finished. -/
lemma SingleFlight.finished_of_queue (h : SingleFlight s)
    (hflag : s.query.context.isClosing = false) (hqueue : s.query.context.queue ≠ []) :
    ∀ w ∈ s.threads, w = .finished := by
  intro w hw
  by_contra hne
  exact hqueue (h.exclusive hflag ⟨w, hw, hne⟩)

/-- Taking the outcome from the queue leaves nothing behind, and is allowed at any position but
those of an execution or a close. -/
lemma SingleFlight.pop (h : SingleFlight s) {b : ColumnBindingMap B}
    {outcome : QueryOutcome δ γ} {queue : List (QueryOutcome δ γ)} (hpc : s.pc = .waitOutcome b)
    (hqueue : s.query.context.queue = outcome :: queue) (hthreads : s'.threads = s.threads)
    (hcontext : s'.query.context = { s.query.context with queue })
    (hres : s'.query.result = none → s.query.result = none) (hwrites : ¬ s'.pc.WritesRequest)
    (hclosing : ¬ s'.pc.IsClosing) (hswitch : s'.pc.Switches → s'.query.result ≠ none) :
    SingleFlight s' := by
  have hnil : queue = [] := by
    have hle := h.queue_le
    rw [hqueue, List.length_cons] at hle
    exact List.eq_nil_of_length_eq_zero (by omega)
  have hnone : s'.query.context.queue = [] := by rw [hcontext]; exact hnil
  refine ⟨hthreads ▸ h.threads_le, by simp [hnone], hthreads ▸ h.noParked,
    fun hw => absurd hw hwrites, fun hn _ => ?_, fun _ _ => hnone, fun _ _ => hnone,
    fun hflag _ => ⟨hnone, ?_⟩, fun hc => absurd hc hclosing, hswitch⟩
  · rw [hthreads]
    exact h.noResult (hres hn) (by rintro ⟨next, hnext⟩; rw [hpc] at hnext; cases hnext)
  · rw [hcontext] at hflag
    rw [hthreads]
    exact h.finished_of_queue hflag (by simp [hqueue])

/-- With at most one thread, the one that steps is the only one. -/
lemma SingleFlight.eq_singleton (h : SingleFlight s) {i : ℕ} {w : Worker δ γ}
    (hi : s.threads[i]? = some w) : i = 0 ∧ s.threads = [w] := by
  have hle := h.threads_le
  match hs : s.threads, hi with
  | [v], hi =>
    cases i with
    | zero => simpa using hi
    | succ i => simp at hi
  | _ :: _ :: _, _ => rw [hs, List.length_cons, List.length_cons] at hle; omega

/-- Replacing the only worker keeps the invariant when the new worker is not parked and, before
the first close, leaves room in the queue as long as it is in flight. -/
lemma SingleFlight.setWorker (h : SingleFlight s) {w : Worker δ γ} (w' : Worker δ γ)
    (hw : s.threads = [w]) (hflight : w.InFlight) (hthreads : s'.threads = [w'])
    (hclosing : s'.query.context.isClosing = s.query.context.isClosing)
    (hres : s'.query.result = s.query.result) (hpc : s'.pc = s.pc)
    (hqueue : s'.query.context.queue.length ≤ 1) (hparked : ¬ w'.Parked)
    (hroom : s.query.context.isClosing = false → w'.InFlight → s'.query.context.queue = []) :
    SingleFlight s' where
  threads_le := by simp [hthreads]
  queue_le := hqueue
  noParked := by simpa [hthreads] using hparked
  noWorker := fun hwr => by
    have := h.noWorker (hpc ▸ hwr)
    simp [hw] at this
  noResult := fun hn hc => by
    have := h.noResult (hres ▸ hn) (hpc ▸ hc)
    simp [hw] at this
  exclusive := fun hflag hex => by
    obtain ⟨v, hv, hvf⟩ := hex
    rw [hthreads, List.mem_singleton] at hv
    exact hroom (hclosing ▸ hflag) (hv ▸ hvf)
  noThread := fun _ hn => by simp [hthreads] at hn
  joined := fun hflag hj => by
    have hfin := (h.joined (hclosing ▸ hflag) (hpc ▸ hj)).2 w (by simp [hw])
    exact absurd hfin hflight
  closing := fun hc => hclosing ▸ h.closing (hpc ▸ hc)
  switching := fun hsw => hres ▸ h.switching (hpc ▸ hsw)

omit s' in
/-- A worker that has its outcome is in flight. -/
lemma exists_inFlight {i : ℕ} {outcome : QueryOutcome δ γ}
    (hi : s.threads[i]? = some (.returned outcome) ∨ s.threads[i]? = some (.parked outcome)) :
    ∃ w, s.threads[i]? = some w ∧ w.InFlight := by
  rcases hi with hi | hi
  · exact ⟨_, hi, by simp [Worker.InFlight]⟩
  · exact ⟨_, hi, by simp [Worker.InFlight]⟩

/-- Every step keeps the single-flight invariant. -/
lemma singleFlight_step {env : QueryEnv δ γ B} {a : Action B} (h : SingleFlight s)
    (hstep : Step env s a s') : SingleFlight s' := by
  have hnc : ∀ {pc : Pc B}, s.pc = pc → (∀ next, pc ≠ .closing next) → ¬ s.pc.IsClosing :=
    fun hpc hne => hpc ▸ Pc.not_isClosing hne
  cases hstep with
  | executeClose hpc hres => exact h.beginClose rfl rfl (by simp [beginClose]) rfl
  | executeStart hpc hres =>
    have hnone := h.noResult hres (hnc hpc (by simp))
    exact .of_no_thread hnone h.queue_le (h.queue_of_no_thread hnone) (by simp [Pc.IsClosing])
      (by simp [Pc.Switches])
  | fetchNoCursor b hpc hc => exact h.quiet rfl rfl id (hnc hpc (by simp)) (by simp)
  | fetchRow b c hpc hc hmore => exact h.quiet rfl (by simp) (by simp) (hnc hpc (by simp)) (by simp)
  | fetchSwitch b c hpc hc hmore hflag => exact h.quiet rfl rfl id (hnc hpc (by simp)) (by simp)
  | fetchEnd b c hpc hc hmore hflag => exact h.quiet rfl rfl id (hnc hpc (by simp)) (by simp)
  | cancelRequest hpc hres => exact h.quiet rfl rfl id (hnc hpc (by simp)) (by simp)
  | cancelFail hpc records => exact h.quiet rfl rfl id (hnc hpc (by simp)) (by simp)
  | cancelClose hpc => exact h.beginClose rfl rfl (by simp [beginClose]) rfl
  | close hpc => exact h.beginClose rfl rfl (by simp [beginClose]) rfl
  | metaKnown hpc => exact h.quiet rfl rfl id (hnc hpc (by simp)) (by simp)
  | metaRequest hpc => exact h.quiet rfl rfl id (hnc hpc (by simp)) (by simp)
  | destroyClose hpc hres => exact h.beginClose rfl rfl (by simp [beginClose]) rfl
  | destroy hpc hres => exact h.quiet rfl rfl id (hnc hpc (by simp)) (by simp)
  | closeJoin next threads hpc hthreads =>
    have hle := h.threads_le
    rw [hthreads, List.length_cons] at hle
    refine .of_closing (by simpa using by omega) h.queue_le (fun w hw => h.noParked w ?_)
      (by simp) (h.closing ⟨next, hpc⟩)
    rw [hthreads]
    exact List.mem_cons_of_mem _ hw
  | closeEnd next hpc hthreads => exact h.endClose hpc hthreads
  | prepare hpc =>
    have hnone := h.noWorker (by simp [hpc, Pc.WritesRequest])
    exact .of_no_thread hnone h.queue_le (h.queue_of_no_thread hnone) (by simp [Pc.IsClosing])
      (by simp [Pc.Switches])
  | executeFailed error hpc hans => exact h.beginClose rfl rfl (by simp [beginClose]) rfl
  | executeEmpty page hpc hans hrows htoken =>
    exact h.quiet rfl rfl (by simp) (hnc hpc (by simp)) (by simp)
  | executeAgain page hpc hans hrows htoken =>
    have hnone := h.noWorker (by simp [hpc, Pc.WritesRequest])
    exact .of_no_thread hnone h.queue_le (h.queue_of_no_thread hnone)
      (by simp [hpc, Pc.IsClosing]) (by simp [hpc, Pc.Switches])
  | executePage page hpc hans hrows htoken =>
    exact h.quiet rfl (by simp [DataQuery.onFirstPage]) (by simp [DataQuery.onFirstPage])
      (hnc hpc (by simp)) (by simp)
  | executePageToken page hpc hans hrows htoken =>
    have hnone := h.noWorker (by simp [hpc, Pc.WritesRequest])
    exact h.start hnone (by simp [startWorker, hnone])
      (by simp [startWorker, DataQuery.onFirstPage, DataQuery.setNextToken])
      (by simp [startWorker, DataQuery.onFirstPage]) (by simp)
  | switchFailed b error queue hpc hqueue =>
    exact h.pop hpc hqueue rfl rfl id (by simp [Pc.WritesRequest]) (by simp [Pc.IsClosing])
      (by simp [Pc.Switches])
  | switchEmpty b page queue hpc hqueue hrows =>
    exact h.pop hpc hqueue rfl rfl (by simp) (by simp [Pc.WritesRequest]) (by simp [Pc.IsClosing])
      (by simp [Pc.Switches])
  | switchLast b page queue hpc hqueue hrows htoken =>
    exact h.pop hpc hqueue rfl (by simp) (by simp [DataQuery.onNextPage])
      (by simp [Pc.WritesRequest]) (by simp [Pc.IsClosing]) (by simp [Pc.Switches])
  | switchMore b page queue hpc hqueue hrows htoken =>
    exact h.pop hpc hqueue rfl rfl (by simp [DataQuery.onNextPage]) (by simp [Pc.WritesRequest])
      (by simp [Pc.IsClosing]) (by simp [DataQuery.onNextPage])
  | joinPrevious b token threads hpc hthreads =>
    have hnil : threads = [] := by
      rcases hthreads with hthreads | ⟨-, hthreads⟩
      · have hle := h.threads_le
        rw [hthreads, List.length_cons] at hle
        exact List.eq_nil_of_length_eq_zero (by omega)
      · exact hthreads
    exact .of_no_thread hnil h.queue_le
      (fun hflag => (h.joined hflag (by simp [hpc, Pc.JoinsPrevious])).1) (by simp [Pc.IsClosing])
      (fun _ => h.switching (by simp [hpc, Pc.Switches]))
  | startNext b token hpc =>
    have hnone := h.noWorker (by simp [hpc, Pc.WritesRequest])
    have hres := h.switching (by simp [hpc, Pc.Switches])
    exact h.start hnone (by simp [startWorker, writeToken, hnone])
      (by simp [startWorker, writeToken, DataQuery.setNextToken])
      (by simpa [startWorker, writeToken, DataQuery.setNextToken] using hres) (by simp)
  | metaFailed record error hpc hans => exact h.beginClose rfl rfl (by simp [beginClose]) rfl
  | metaAnswer columns page hpc hans =>
    exact h.quiet rfl (by simp) (by simp) (hnc hpc (by simp)) (by simp)
  | cancelAnswerClose hpc => exact h.beginClose rfl rfl (by simp [beginClose]) rfl
  | cancelAnswerFail records hpc => exact h.quiet rfl rfl id (hnc hpc (by simp)) (by simp)
  | answered i hi =>
    obtain ⟨rfl, hw⟩ := h.eq_singleton hi
    refine h.setWorker (.returned (env.service s.sent.length s.query.request)) hw
      (by simp [Worker.InFlight]) (by simp [hw]) rfl rfl rfl h.queue_le
      (by simp [Worker.Parked]) fun hflag _ => h.exclusive hflag ⟨.calling, ?_, ?_⟩
    · simp [hw]
    · simp [Worker.InFlight]
  | push i outcome hi hqueue =>
    obtain ⟨w, hget, hflight⟩ := exists_inFlight hi
    obtain ⟨rfl, hw⟩ := h.eq_singleton hget
    exact h.setWorker .finished hw hflight (by simp [hw]) rfl rfl rfl (by simp)
      (by simp [Worker.Parked]) (by simp [Worker.InFlight])
  | drop i outcome hi hqueue hclosing =>
    obtain ⟨w, hget, hflight⟩ := exists_inFlight hi
    obtain ⟨rfl, hw⟩ := h.eq_singleton hget
    exact h.setWorker .finished hw hflight (by simp [hw]) rfl rfl rfl h.queue_le
      (by simp [Worker.Parked]) (by simp [Worker.InFlight])
  | park i outcome hi hqueue hclosing =>
    obtain ⟨rfl, hw⟩ := h.eq_singleton hi
    refine absurd (h.exclusive hclosing ⟨.returned outcome, ?_, ?_⟩) hqueue
    · simp [hw]
    · simp [Worker.InFlight]

end Steps

/-- Every reachable state is single-flight. -/
theorem singleFlight_reaches (env : QueryEnv δ γ B) {s : System δ γ B}
    (hs : Reaches (step env) .new s) : SingleFlight s :=
  invariant_reaches (fun _ _ _ h hstep => singleFlight_step h (step_of_eq_some hstep))
    singleFlight_new hs

/-! ## Writes of the shared request -/

/-- A step that writes the shared request, or counts a write of it, starts at a writing
position. -/
lemma writesRequest_of_step {env : QueryEnv δ γ B} {s s' : System δ γ B} {a : Action B}
    (hstep : Step env s a s')
    (hwrite : s'.requestWrites ≠ s.requestWrites ∨ s'.query.request ≠ s.query.request) :
    s.pc.WritesRequest := by
  cases hstep with
  | prepare hpc | startNext _ _ hpc => simp [hpc, Pc.WritesRequest]
  | executeFailed _ hpc | executeEmpty _ hpc | executeAgain _ hpc | executePage _ hpc
  | executePageToken _ hpc => simp [hpc, Pc.WritesRequest]
  | closeEnd next hpc =>
    cases next <;> simp [endClose, DataQuery.released] at hwrite
  | _ => simp [beginClose, DataQuery.onNextPage] at hwrite

/-! ## Joins -/

/-- The worker the main thread is joining. -/
def joining (s : System δ γ B) : Option (Worker δ γ) :=
  match s.pc with
  | .closing _ | .joinPrevious _ _ => s.threads.head?
  | _ => none

/-- The thread a join waits for is the only one. -/
lemma SingleFlight.threads_of_joining {s : System δ γ B} (h : SingleFlight s) {w : Worker δ γ}
    (hw : s.joining = some w) : s.threads = [w] := by
  have hhead : s.threads.head? = some w := by
    unfold joining at hw
    split at hw
    · exact hw
    · exact hw
    · cases hw
  have hget : s.threads[0]? = some w := by rw [← List.head?_eq_getElem?]; exact hhead
  exact (h.eq_singleton hget).2

/-- A join of a finished thread goes on. -/
lemma isSome_step_of_joining_finished (env : QueryEnv δ γ B) {s : System δ γ B}
    (hw : s.joining = some .finished) : (step env s .main).isSome := by
  unfold joining at hw
  unfold step mainStep
  cases hpc : s.pc <;> simp only [hpc, reduceCtorEq] at hw ⊢
  all_goals
    match hs : s.threads, hw with
    | .finished :: _, _ => rfl

/-- A worker with its outcome finishes in one step of its own. -/
lemma SingleFlight.worker_finishes (env : QueryEnv δ γ B) {s : System δ γ B}
    (h : SingleFlight s) {outcome : QueryOutcome δ γ} (hw : s.threads = [.returned outcome]) :
    ∃ s', step env s (.worker 0) = some s' ∧ s'.threads = [.finished] ∧ s'.pc = s.pc := by
  have hstep : step env s (.worker 0) = some (s.deliver 0 outcome) := by
    simp [step, workerStep, hw]
  refine ⟨_, hstep, ?_⟩
  unfold deliver
  split
  · simp [hw]
  · next hqueue =>
    split
    · simp [hw]
    · next hclosing =>
      have hnil := h.exclusive (by simpa using hclosing)
        ⟨.returned outcome, by simp [hw], by simp [Worker.InFlight]⟩
      exact absurd hnil (fun hnil => hqueue (by simp [hnil]))

/-- Every join ends by the own steps of the worker it waits for. -/
lemma SingleFlight.join_ends (env : QueryEnv δ γ B) {s : System δ γ B} (h : SingleFlight s)
    {w : Worker δ γ} (hw : s.joining = some w) :
    ∃ n s', run (step env) s (List.replicate n (.worker 0)) = some s' ∧
      (step env s' .main).isSome := by
  have hthreads := h.threads_of_joining hw
  have hjoin : ∀ {t : System δ γ B}, t.pc = s.pc → t.threads = [.finished] →
      t.joining = some .finished := by
    intro t hpc ht
    unfold joining at hw ⊢
    rw [hpc, ht]
    cases hs : s.pc <;> simp_all
  cases w with
  | finished => exact ⟨0, s, rfl, isSome_step_of_joining_finished env hw⟩
  | parked outcome => exact absurd ⟨outcome, rfl⟩ (h.noParked _ (by simp [hthreads]))
  | returned outcome =>
    obtain ⟨s', hstep, ht, hpc⟩ := h.worker_finishes env hthreads
    exact ⟨1, s', run_cons_eq_some.mpr ⟨s', hstep, rfl⟩,
      isSome_step_of_joining_finished env (hjoin hpc ht)⟩
  | calling =>
    obtain ⟨u, hu⟩ : ∃ u, step env s (.worker 0) = some u := by
      simp [step, workerStep, hthreads]
    have hfu : u = { s with
        threads := [.returned (env.service s.sent.length s.query.request)]
        sent := s.sent ++ [s.query.request] } := by
      simpa [step, workerStep, hthreads] using hu.symm
    have hsu : SingleFlight u := singleFlight_step h (step_of_eq_some hu)
    obtain ⟨s', hstep, ht, hpc⟩ := hsu.worker_finishes env (by rw [hfu])
    refine ⟨2, s', run_cons_eq_some.mpr ⟨u, hu, run_cons_eq_some.mpr ⟨s', hstep, rfl⟩⟩, ?_⟩
    exact isSome_step_of_joining_finished env (hjoin (by rw [hpc, hfu]) ht)

/-! ## The contract -/

/-- Single-flight page prefetch.  In every reachable state at most one worker was started and not
joined and the queue holds at most one outcome; a step that writes the request shared with the
workers finds no worker inside its service call; and the worker that the main thread joins is not
parked and ends by steps of its own, after which the main thread goes on. -/
theorem prefetch_single_flight (env : QueryEnv δ γ B) {s : System δ γ B}
    (hs : Reaches (step env) .new s) :
    s.threads.length ≤ 1 ∧ s.query.context.queue.length ≤ 1 ∧
    (∀ a s', step env s a = some s' →
      s'.requestWrites ≠ s.requestWrites ∨ s'.query.request ≠ s.query.request →
      ∀ w ∈ s.threads, w ≠ .calling) ∧
    ∀ w, s.joining = some w → ¬ w.Parked ∧
      ∃ n s', run (step env) s (List.replicate n (.worker 0)) = some s' ∧
        (step env s' .main).isSome := by
  have h := singleFlight_reaches env hs
  refine ⟨h.threads_le, h.queue_le, fun a s' hstep hwrite w hw => ?_, fun w hw => ?_⟩
  · have hnone := h.noWorker (writesRequest_of_step (step_of_eq_some hstep) hwrite)
    rw [hnone] at hw
    exact absurd hw List.not_mem_nil
  · refine ⟨h.noParked w ?_, h.join_ends env hw⟩
    simp [h.threads_of_joining hw]

/-- The run that closes a query while its worker is inside the service call. -/
def closeDuringPrefetch : List (Action Unit) :=
  [.call .execute, .main, .main, .call .close]

/-- The contract at a close that waits for a worker inside its service call. -/
theorem prefetch_single_flight_close :
    ∃ s, run (step (scriptedEnv [samplePage [1] "next", samplePage [2] ""])) .new
        closeDuringPrefetch = some s ∧
      s.joining = some .calling ∧ s.threads.length ≤ 1 ∧
      ∃ n s', run (step (scriptedEnv [samplePage [1] "next", samplePage [2] ""])) s
          (List.replicate n (.worker 0)) = some s' ∧
        (step (scriptedEnv [samplePage [1] "next", samplePage [2] ""]) s' .main).isSome := by
  refine ⟨_, rfl, rfl, ?_⟩
  have h := prefetch_single_flight (scriptedEnv [samplePage [1] "next", samplePage [2] ""])
    ⟨closeDuringPrefetch, rfl⟩
  exact ⟨h.1, (h.2.2.2 .calling rfl).2⟩

end System

end TimestreamOdbc
