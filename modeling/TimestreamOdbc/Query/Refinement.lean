import TimestreamOdbc.Query.Producer
import TimestreamOdbc.Query.SyncQuery

/-!
# Interleavings refine whole operations

A query that is executed once and then fetched from behaves, under every interleaving with its
workers, as the whole operations of `Query.SyncQuery` do one after the other.

A state of the interleaving is mapped to the state in which the worker in flight has finished and
left its outcome in the queue.  The steps of the workers do not change that state, and each step of
the main thread inside an operation leaves what the operation will come to as it was.
-/

namespace TimestreamOdbc

open TransitionSystem

variable {δ γ B : Type}

namespace System

/-! ## Runs before any close -/

/-- The operations of a first run: fetches, and an execution of a query without a result. -/
def FirstRunCall (s : System δ γ B) (op : Op B) : Prop :=
  (∃ b, op = .fetchNextRow b) ∨ op = .execute ∧ s.query.result = none

/-- The positions of a first run. -/
def FirstRunPc : Pc B → Prop
  | .idle | .closing (.executeFailed _) | .makeRequestExecute | .query | .waitOutcome _
  | .joinPrevious _ _ | .startNext _ _ => True
  | _ => False

/-- The invariant of a first run: the queue is empty whenever a worker is in flight or none was
started, whether or not a failed execution has set the closing flag. -/
structure FirstRun (s : System δ γ B) : Prop where
  flight : SingleFlight s
  exclusive : (∃ w ∈ s.threads, w.InFlight) → s.query.context.queue = []
  noThread : s.threads = [] → s.query.context.queue = []
  joined : s.pc.JoinsPrevious → s.query.context.queue = [] ∧ ∀ w ∈ s.threads, w = .finished
  closing : s.pc.IsClosing → s.threads = []
  pc : FirstRunPc s.pc

/-- A new query is in a first run. -/
lemma firstRun_new : FirstRun (System.new : System δ γ B) where
  flight := singleFlight_new
  exclusive := fun _ => rfl
  noThread := fun _ => rfl
  joined := fun _ => ⟨rfl, fun _ hw => absurd hw List.not_mem_nil⟩
  closing := fun _ => rfl
  pc := trivial

section FirstRunSteps

variable {s s' : System δ γ B}

/-- Without a worker the queue has to be empty. -/
lemma FirstRun.of_no_thread (hflight : SingleFlight s) (hthreads : s.threads = [])
    (hqueue : s.query.context.queue = []) (hpc : FirstRunPc s.pc) : FirstRun s where
  flight := hflight
  exclusive := fun _ => hqueue
  noThread := fun _ => hqueue
  joined := fun _ => ⟨hqueue, by simp [hthreads]⟩
  closing := fun _ => hthreads
  pc := hpc

/-- Where the threads and the queue stay, a position that neither joins nor closes is fine. -/
lemma FirstRun.same (h : FirstRun s) (hflight : SingleFlight s') (hthreads : s'.threads = s.threads)
    (hqueue : s'.query.context.queue = s.query.context.queue) (hpc : FirstRunPc s'.pc)
    (hjoin : ¬ s'.pc.JoinsPrevious) (hclosing : ¬ s'.pc.IsClosing) : FirstRun s' where
  flight := hflight
  exclusive := by rw [hthreads, hqueue]; exact h.exclusive
  noThread := by rw [hthreads, hqueue]; exact h.noThread
  joined := fun hj => absurd hj hjoin
  closing := fun hc => absurd hc hclosing
  pc := hpc

/-- An outcome in the queue means that its worker has finished. -/
lemma FirstRun.finished_of_queue (h : FirstRun s) (hqueue : s.query.context.queue ≠ []) :
    ∀ w ∈ s.threads, w = .finished := by
  intro w hw
  by_contra hne
  exact hqueue (h.exclusive ⟨w, hw, hne⟩)

/-- An outcome that is taken was the only one, and every worker has finished. -/
lemma FirstRun.pop (h : FirstRun s) {outcome : QueryOutcome δ γ}
    {queue : List (QueryOutcome δ γ)} (hqueue : s.query.context.queue = outcome :: queue) :
    queue = [] ∧ ∀ w ∈ s.threads, w = .finished := by
  have hle := h.flight.queue_le
  rw [hqueue, List.length_cons] at hle
  exact ⟨List.eq_nil_of_length_eq_zero (by omega), h.finished_of_queue (by simp [hqueue])⟩

/-- Taking the outcome from the queue. -/
lemma FirstRun.popped (h : FirstRun s) (hflight : SingleFlight s') {outcome : QueryOutcome δ γ}
    {queue : List (QueryOutcome δ γ)} (hqueue : s.query.context.queue = outcome :: queue)
    (hthreads : s'.threads = s.threads) (hqueue' : s'.query.context.queue = queue)
    (hpc : FirstRunPc s'.pc) (hclosing : ¬ s'.pc.IsClosing) : FirstRun s' := by
  obtain ⟨hnil, hfin⟩ := h.pop hqueue
  have hempty : s'.query.context.queue = [] := hqueue'.trans hnil
  exact ⟨hflight, fun _ => hempty, fun _ => hempty, fun _ => ⟨hempty, hthreads ▸ hfin⟩,
    fun hc => absurd hc hclosing, hpc⟩

/-- Starting a worker when there is none. -/
lemma FirstRun.started (h : FirstRun s) (hflight : SingleFlight s') (hnone : s.threads = [])
    (hthreads : s'.threads = [.calling])
    (hqueue : s'.query.context.queue = s.query.context.queue) (hpc : s'.pc = .idle) :
    FirstRun s' where
  flight := hflight
  exclusive := fun _ => hqueue.trans (h.noThread hnone)
  noThread := fun hn => by simp [hthreads] at hn
  joined := by simp [hpc, Pc.JoinsPrevious]
  closing := by simp [hpc, Pc.IsClosing]
  pc := by simp [hpc, FirstRunPc]

/-- A step of the only worker: before it the queue is empty, and after it the worker is in flight
with an empty queue or has finished with an outcome in it. -/
lemma FirstRun.worker (h : FirstRun s) (hflight : SingleFlight s') {w w' : Worker δ γ}
    (hw : s.threads = [w]) (hwf : w.InFlight) (hthreads : s'.threads = [w'])
    (hqueue : w'.InFlight → s'.query.context.queue = []) (hpc : s'.pc = s.pc) :
    FirstRun s' where
  flight := hflight
  exclusive := by
    rintro ⟨v, hv, hvf⟩
    rw [hthreads, List.mem_singleton] at hv
    exact hqueue (hv ▸ hvf)
  noThread := fun hn => by simp [hthreads] at hn
  joined := fun hj => absurd ((h.joined (hpc ▸ hj)).2 w (by simp [hw])) hwf
  closing := fun hc => by
    have := h.closing (hpc ▸ hc)
    simp [hw] at this
  pc := hpc ▸ h.pc

/-- Every step of a first run stays in it. -/
lemma firstRun_step {env : QueryEnv δ γ B} {a : Action B} (h : FirstRun s)
    (hcall : ∀ op, a = .call op → s.FirstRunCall op) (hstep : Step env s a s') :
    FirstRun s' := by
  have hf := singleFlight_step h.flight hstep
  have hpcs := h.pc
  cases hstep with
  | executeClose hpc hres =>
    rcases hcall _ rfl with ⟨b, hb⟩ | ⟨-, hnone⟩
    · cases hb
    · exact absurd hnone hres
  | executeStart hpc hres =>
    have hnone := h.flight.noResult hres (by simp [hpc, Pc.IsClosing])
    exact .of_no_thread hf hnone (h.noThread hnone) trivial
  | fetchNoCursor b hpc hc | fetchEnd b c hpc hc hmore hflag =>
    exact h.same hf rfl rfl trivial (by simp [Pc.JoinsPrevious]) (by simp [Pc.IsClosing])
  | fetchRow b c hpc hc hmore =>
    exact h.same hf rfl (by simp) trivial (by simp [Pc.JoinsPrevious]) (by simp [Pc.IsClosing])
  | fetchSwitch b c hpc hc hmore hflag =>
    exact h.same hf rfl rfl trivial (by simp [Pc.JoinsPrevious]) (by simp [Pc.IsClosing])
  | cancelRequest hpc | cancelFail hpc | cancelClose hpc | close hpc | metaKnown hpc
  | metaRequest hpc | destroyClose hpc | destroy hpc =>
    rcases hcall _ rfl with ⟨b, hb⟩ | ⟨hb, -⟩ <;> cases hb
  | closeJoin next threads hpc hthreads =>
    have := h.closing (by simp [hpc])
    simp [hthreads] at this
  | closeEnd next hpc hthreads =>
    rw [hpc] at hpcs
    cases next with
    | executeFailed record => exact .of_no_thread hf hthreads (h.noThread hthreads) trivial
    | _ => exact absurd hpcs id
  | prepare hpc =>
    have hnone := h.flight.noWorker (by simp [hpc, Pc.WritesRequest])
    exact .of_no_thread hf hnone (h.noThread hnone) trivial
  | executeFailed error hpc hans =>
    have hnone := h.flight.noWorker (by simp [hpc, Pc.WritesRequest])
    exact .of_no_thread hf hnone (h.noThread hnone) trivial
  | executeEmpty page hpc hans hrows htoken =>
    have hnone := h.flight.noWorker (by simp [hpc, Pc.WritesRequest])
    exact .of_no_thread hf hnone (h.noThread hnone) trivial
  | executeAgain page hpc hans hrows htoken =>
    have hnone := h.flight.noWorker (by simp [hpc, Pc.WritesRequest])
    exact .of_no_thread hf hnone (h.noThread hnone) (by simp [hpc, FirstRunPc])
  | executePage page hpc hans hrows htoken =>
    have hnone := h.flight.noWorker (by simp [hpc, Pc.WritesRequest])
    exact .of_no_thread hf hnone (by simpa [DataQuery.onFirstPage] using h.noThread hnone) trivial
  | executePageToken page hpc hans hrows htoken =>
    have hnone := h.flight.noWorker (by simp [hpc, Pc.WritesRequest])
    exact h.started hf hnone (by simp [startWorker, hnone])
      (by simp [startWorker, DataQuery.onFirstPage, DataQuery.setNextToken]) rfl
  | switchFailed b error queue hpc hqueue =>
    exact h.popped hf hqueue rfl rfl trivial (by simp [Pc.IsClosing])
  | switchEmpty b page queue hpc hqueue hrows =>
    exact h.popped hf hqueue rfl rfl trivial (by simp [Pc.IsClosing])
  | switchLast b page queue hpc hqueue hrows htoken =>
    exact h.popped hf hqueue rfl (by simp) trivial (by simp [Pc.IsClosing])
  | switchMore b page queue hpc hqueue hrows htoken =>
    exact h.popped hf hqueue rfl rfl trivial (by simp [Pc.IsClosing])
  | joinPrevious b token threads hpc hthreads =>
    have hnone : threads = [] := hf.noWorker trivial
    exact .of_no_thread hf hnone (h.joined (by simp [hpc, Pc.JoinsPrevious])).1 trivial
  | startNext b token hpc =>
    have hnone := h.flight.noWorker (by simp [hpc, Pc.WritesRequest])
    exact h.started hf hnone (by simp [startWorker, writeToken, hnone])
      (by simp [startWorker, writeToken, DataQuery.setNextToken]) rfl
  | metaFailed _ _ hpc | metaAnswer _ _ hpc | cancelAnswerClose hpc | cancelAnswerFail _ hpc =>
    rw [hpc] at hpcs
    exact absurd hpcs id
  | answered i hi =>
    obtain ⟨rfl, hw⟩ := h.flight.eq_singleton hi
    exact h.worker hf hw (by simp [Worker.InFlight]) (by simp [hw]; rfl)
      (fun _ => h.exclusive ⟨.calling, by simp [hw], by simp [Worker.InFlight]⟩) rfl
  | push i outcome hi hqueue =>
    obtain ⟨w, hget, hwf⟩ := exists_inFlight hi
    obtain ⟨rfl, hw⟩ := h.flight.eq_singleton hget
    exact h.worker hf hw hwf (by simp [hw]) (fun hfl => absurd rfl hfl) rfl
  | drop i outcome hi hqueue hclosing =>
    obtain ⟨w, hget, hwf⟩ := exists_inFlight hi
    exact absurd (h.exclusive ⟨w, List.mem_of_getElem? hget, hwf⟩) hqueue
  | park i outcome hi hqueue hclosing =>
    exact absurd (h.exclusive ⟨_, List.mem_of_getElem? hi, by simp [Worker.InFlight]⟩) hqueue

end FirstRunSteps

/-! ## The state with its worker finished -/

/-- The queue once the worker in flight has left its outcome. -/
def settledQueue (env : QueryEnv δ γ B) (s : System δ γ B) : List (QueryOutcome δ γ) :=
  match s.threads with
  | .calling :: _ => [env.service s.sent.length s.query.request]
  | .returned outcome :: _ => [outcome]
  | .parked outcome :: _ => [outcome]
  | _ => s.query.context.queue

/-- The requests sent once the worker in flight has finished. -/
def settledSent (s : System δ γ B) : List QueryRequest :=
  match s.threads with
  | .calling :: _ => s.sent ++ [s.query.request]
  | _ => s.sent

/-- The whole-operation state of a state of the interleaving. -/
def settled (env : QueryEnv δ γ B) (s : System δ γ B) : SyncQuery δ γ :=
  { query := s.query.withQueue (s.settledQueue env), sent := s.settledSent }

/-- With only finished workers nothing is pending. -/
lemma settled_of_finished (env : QueryEnv δ γ B) {s : System δ γ B}
    (h : ∀ w ∈ s.threads, w = .finished) : s.settled env = ⟨s.query, s.sent⟩ := by
  unfold settled settledQueue settledSent
  match hs : s.threads with
  | [] => simp
  | .finished :: _ => simp
  | .calling :: _ => exact absurd (h .calling (by simp [hs])) (by simp)
  | .returned outcome :: _ => exact absurd (h (.returned outcome) (by simp [hs])) (by simp)
  | .parked outcome :: _ => exact absurd (h (.parked outcome) (by simp [hs])) (by simp)

/-- Without a worker nothing is pending. -/
lemma settled_of_no_thread (env : QueryEnv δ γ B) {s : System δ γ B} (h : s.threads = []) :
    s.settled env = ⟨s.query, s.sent⟩ :=
  settled_of_finished env (by simp [h])

/-- What is pending depends on the threads, the queue, the requests and the shared request. -/
lemma settled_eq_of_same (env : QueryEnv δ γ B) {s s' : System δ γ B}
    (hthreads : s'.threads = s.threads)
    (hqueue : s'.query.context.queue = s.query.context.queue) (hsent : s'.sent = s.sent)
    (hrequest : s'.query.request = s.query.request) :
    s'.settled env = ⟨s'.query.withQueue (s.settledQueue env), s.settledSent⟩ := by
  unfold settled settledQueue settledSent
  rw [hthreads, hqueue, hsent, hrequest]

/-- A worker that was just started settles as a prefetch. -/
lemma settled_of_started (env : QueryEnv δ γ B) {s : System δ γ B}
    (hthreads : s.threads = [.calling]) :
    s.settled env = SyncQuery.prefetch env ⟨s.query, s.sent⟩ := by
  unfold settled settledQueue settledSent
  rw [hthreads]
  rfl

/-- The steps of the workers of a first run do not change the settled state. -/
lemma FirstRun.settled_worker {env : QueryEnv δ γ B} {s s' : System δ γ B} {i : ℕ}
    (h : FirstRun s) (hstep : Step env s (.worker i) s') :
    s'.settled env = s.settled env ∧ s'.pc = s.pc ∧ s'.returns = s.returns := by
  cases hstep with
  | answered i hi =>
    obtain ⟨rfl, hw⟩ := h.flight.eq_singleton hi
    simp [settled, settledQueue, settledSent, hw]
  | push i outcome hi hqueue =>
    obtain ⟨w, hget, -⟩ := exists_inFlight hi
    obtain ⟨rfl, hw⟩ := h.flight.eq_singleton hget
    rcases hi with hi | hi <;>
    · rw [hget, Option.some.injEq] at hi
      subst hi
      simp [settled, settledQueue, settledSent, hw, DataQuery.withQueue]
  | drop i outcome hi hqueue hclosing =>
    obtain ⟨w, hget, hwf⟩ := exists_inFlight hi
    exact absurd (h.exclusive ⟨w, List.mem_of_getElem? hget, hwf⟩) hqueue
  | park i outcome hi hqueue hclosing =>
    exact absurd (h.exclusive ⟨_, List.mem_of_getElem? hi, by simp [Worker.InFlight]⟩) hqueue

/-! ## What an operation will come to -/

/-- The operation in progress will end with the reply and leave the state. -/
def Resumes (env : QueryEnv δ γ B) (s : System δ γ B) (op : Op B) (reply : Reply δ γ B)
    (t : SyncQuery δ γ) : Prop :=
  match s.pc with
  | .makeRequestExecute => op = .execute ∧ ∃ fuel r,
      SyncQuery.makeRequestExecute env fuel (s.settled env) = some (r, t) ∧
        reply = .result r.1 r.2
  | .query => op = .execute ∧ ∃ fuel r,
      SyncQuery.executeLoop env fuel (s.settled env) = some (r, t) ∧ reply = .result r.1 r.2
  | .closing (.executeFailed record) =>
      op = .execute ∧ reply = .result .aiError [record] ∧ t = (s.settled env).internalClose
  | .waitOutcome b => op = .fetchNextRow b ∧ ∃ fetched,
      (s.settled env).switchCursor env b = some (fetched, t) ∧ reply = .fetched fetched
  | .joinPrevious token b | .startNext token b => op = .fetchNextRow b ∧ ∃ fetched,
      (s.settled env).startNext env token b = (fetched, t) ∧ reply = .fetched fetched
  | _ => False

section Resumes

variable {env : QueryEnv δ γ B} {s : System δ γ B} {op : Op B} {reply : Reply δ γ B}
  {t : SyncQuery δ γ}

/-- Before the loop of an execution the whole execution is to come. -/
lemma resumes_makeRequestExecute (hpc : s.pc = .makeRequestExecute) :
    Resumes env s op reply t ↔ op = .execute ∧ ∃ fuel r,
      SyncQuery.makeRequestExecute env fuel (s.settled env) = some (r, t) ∧
        reply = .result r.1 r.2 := by
  unfold Resumes; rw [hpc]

/-- In the loop of an execution the rest of the loop is to come. -/
lemma resumes_query (hpc : s.pc = .query) :
    Resumes env s op reply t ↔ op = .execute ∧ ∃ fuel r,
      SyncQuery.executeLoop env fuel (s.settled env) = some (r, t) ∧
        reply = .result r.1 r.2 := by
  unfold Resumes; rw [hpc]

/-- In the close of a failed execution its error is to come. -/
lemma resumes_closing {record : DiagnosticRecord} (hpc : s.pc = .closing (.executeFailed record)) :
    Resumes env s op reply t ↔ op = .execute ∧ reply = .result .aiError [record] ∧
      t = (s.settled env).internalClose := by
  unfold Resumes; rw [hpc]

/-- In the wait of a fetch the page switch is to come. -/
lemma resumes_waitOutcome {b : ColumnBindingMap B} (hpc : s.pc = .waitOutcome b) :
    Resumes env s op reply t ↔ op = .fetchNextRow b ∧ ∃ fetched,
      (s.settled env).switchCursor env b = some (fetched, t) ∧ reply = .fetched fetched := by
  unfold Resumes; rw [hpc]

/-- In a page switch the next prefetch is to come. -/
lemma resumes_switches {b : ColumnBindingMap B} {token : String}
    (hpc : s.pc = .joinPrevious token b ∨ s.pc = .startNext token b) :
    Resumes env s op reply t ↔ op = .fetchNextRow b ∧ ∃ fetched,
      (s.settled env).startNext env token b = (fetched, t) ∧ reply = .fetched fetched := by
  unfold Resumes
  rcases hpc with hpc | hpc <;> rw [hpc]

end Resumes

/-- A whole operation ends with the reply and leaves the state. -/
def Performs (env : QueryEnv δ γ B) (s : SyncQuery δ γ) (op : Op B) (reply : Reply δ γ B)
    (t : SyncQuery δ γ) : Prop :=
  match op with
  | .execute => ∃ fuel r, s.execute env fuel = some (r, t) ∧ reply = .result r.1 r.2
  | .fetchNextRow b => ∃ fetched, s.fetchNextRow env b = some (fetched, t) ∧
      reply = .fetched fetched
  | _ => False

/-- The step ended the operation: the reply was appended, and it is what the operation was to come
to. -/
def EndsWith (env : QueryEnv δ γ B) (s s' : System δ γ B)
    (comes : Op B → Reply δ γ B → SyncQuery δ γ → Prop) : Prop :=
  ∃ r, s'.returns = s.returns ++ [r] ∧ comes r.op r.reply (s'.settled env) ∧
    r.rowNumber = (s'.settled env).query.rowNumber

/-- The row number does not depend on the queue. -/
lemma rowNumber_settled (env : QueryEnv δ γ B) (s : System δ γ B) :
    (s.settled env).query.rowNumber = s.query.rowNumber := rfl

/-- A row read by the interleaving is the row read by the whole operation. -/
lemma settled_finishRow (env : QueryEnv δ γ B) (s t : System δ γ B) (b : ColumnBindingMap B)
    (hthreads : t.threads = s.threads) (hqueue : t.query.context.queue = s.query.context.queue)
    (hsent : t.sent = s.sent) (hrequest : t.query.request = s.query.request) :
    SyncQuery.finishRow env b ⟨t.query.withQueue (s.settledQueue env), s.settledSent⟩ =
      ((t.query.readRow env b).1, (t.finishRow env b).settled env) := by
  have hsettled : (t.finishRow env b).settled env =
      ⟨(t.finishRow env b).query.withQueue (s.settledQueue env), s.settledSent⟩ :=
    settled_eq_of_same env hthreads (by simpa using hqueue) hsent (by simpa using hrequest)
  rw [hsettled, SyncQuery.finishRow, DataQuery.readRow_withQueue]
  rfl

section Simulation

variable {env : QueryEnv δ γ B} {s s' : System δ γ B}

/-- The beginning of an operation of a first run: either it ends at once as the whole operation
does, or what it will come to is what the whole operation comes to. -/
lemma FirstRun.call_step {op : Op B} (h : FirstRun s) (hcall : s.FirstRunCall op)
    (hstep : Step env s (.call op) s') :
    (s'.pc = .idle → EndsWith env s s' fun op' reply t =>
      op' = op ∧ Performs env (s.settled env) op' reply t) ∧
    (s'.pc ≠ .idle → s'.returns = s.returns ∧ ∀ op' reply t, Resumes env s' op' reply t ↔
      op' = op ∧ Performs env (s.settled env) op' reply t) := by
  cases hstep with
  | executeClose hpc hres =>
    rcases hcall with ⟨b, hb⟩ | ⟨-, hnone⟩
    · cases hb
    · exact absurd hnone hres
  | executeStart hpc hres =>
    have hnone := h.flight.noResult hres (by simp [hpc, Pc.IsClosing])
    refine ⟨fun hidle => by simp at hidle, fun _ => ⟨rfl, fun op' reply t => ?_⟩⟩
    rw [resumes_makeRequestExecute rfl, settled_of_no_thread env hnone,
      settled_of_no_thread env (by exact hnone)]
    refine and_congr_right fun hop => ?_
    subst hop
    simp [Performs, SyncQuery.execute, hres]
  | fetchNoCursor b hpc hc =>
    refine ⟨fun _ => ⟨_, rfl, ⟨rfl, _, ?_, rfl⟩, rfl⟩, fun hidle => absurd rfl hidle⟩
    have hturn : (s.settled env).query.fetchTurn = _ := DataQuery.fetchTurn_none hc
    rw [SyncQuery.fetchNextRow, hturn]
    rfl
  | fetchEnd b c hpc hc hmore hflag =>
    refine ⟨fun _ => ⟨_, rfl, ⟨rfl, _, ?_, rfl⟩, rfl⟩, fun hidle => absurd rfl hidle⟩
    have hturn : (s.settled env).query.fetchTurn = _ := DataQuery.fetchTurn_end hc hmore hflag
    rw [SyncQuery.fetchNextRow, hturn]
    rfl
  | fetchRow b c hpc hc hmore =>
    refine ⟨fun _ => ⟨_, rfl, ⟨rfl, _, ?_, rfl⟩, rfl⟩, fun hidle => absurd rfl hidle⟩
    have hturn : (s.settled env).query.fetchTurn = _ := DataQuery.fetchTurn_row hc hmore
    rw [SyncQuery.fetchNextRow, hturn]
    exact congrArg some (settled_finishRow env s
      { s with query := { s.query with cursor := some c.moved } } b rfl rfl rfl rfl)
  | fetchSwitch b c hpc hc hmore hflag =>
    refine ⟨fun hidle => by simp at hidle, fun _ => ⟨rfl, fun op' reply t => ?_⟩⟩
    have hturn : (s.settled env).query.fetchTurn = _ := DataQuery.fetchTurn_switch hc hmore hflag
    rw [resumes_waitOutcome rfl]
    refine and_congr_right fun hop => ?_
    subst hop
    simp only [Performs, SyncQuery.fetchNextRow, hturn]
    rfl
  | cancelRequest hpc | cancelFail hpc | cancelClose hpc | close hpc | metaKnown hpc
  | metaRequest hpc | destroyClose hpc | destroy hpc =>
    rcases hcall with ⟨b, hb⟩ | ⟨hb, -⟩ <;> cases hb

/-- A step of the main thread inside an operation of a first run: either it ends the operation as
it was to come to, or it leaves what the operation will come to. -/
lemma FirstRun.main_step (h : FirstRun s) (hstep : Step env s .main s') :
    (s'.pc = .idle → EndsWith env s s' (Resumes env s)) ∧
    (s'.pc ≠ .idle → s'.returns = s.returns ∧ ∀ op reply t, Resumes env s' op reply t →
      Resumes env s op reply t) := by
  have hpcs := h.pc
  cases hstep with
  | closeJoin next threads hpc hthreads =>
    have := h.closing (by simp [hpc])
    simp [hthreads] at this
  | closeEnd next hpc hthreads =>
    rw [hpc] at hpcs
    cases next with
    | executeFailed record =>
      have hflag := h.flight.closing ⟨_, hpc⟩
      have hend : (s.endClose (.executeFailed record)).settled env =
          ⟨s.query.released, s.sent⟩ := settled_of_no_thread env hthreads
      refine ⟨fun _ => ⟨_, rfl, (resumes_closing hpc).mpr ⟨rfl, rfl, ?_⟩, rfl⟩,
        fun hidle => absurd rfl hidle⟩
      rw [hend, settled_of_no_thread env hthreads]
      simp [SyncQuery.internalClose, DataQuery.released, ← hflag]
    | _ => exact absurd hpcs id
  | prepare hpc =>
    have hnone := h.flight.noWorker (by simp [hpc, Pc.WritesRequest])
    refine ⟨fun hidle => by simp at hidle, fun _ => ⟨rfl, fun op reply t hres => ?_⟩⟩
    obtain ⟨hop, fuel, r, hr, hreply⟩ := (resumes_query rfl).mp hres
    refine (resumes_makeRequestExecute hpc).mpr ⟨hop, fuel, r, ?_, hreply⟩
    rw [settled_of_no_thread env (by exact hnone)] at hr ⊢
    exact hr
  | executeFailed error hpc hans =>
    have hnone := h.flight.noWorker (by simp [hpc, Pc.WritesRequest])
    refine ⟨fun hidle => by simp [beginClose] at hidle, fun _ => ⟨rfl, fun op reply t hres => ?_⟩⟩
    obtain ⟨hop, hreply, ht⟩ := (resumes_closing rfl).mp hres
    refine (resumes_query hpc).mpr ⟨hop, 1, (.aiError, [DataQuery.executeFailure env]), ?_, hreply⟩
    rw [ht, settled_of_no_thread env hnone, settled_of_no_thread env (by exact hnone),
      SyncQuery.executeLoop, hans]
    rfl
  | executeEmpty page hpc hans hrows htoken =>
    have hnone := h.flight.noWorker (by simp [hpc, Pc.WritesRequest])
    refine ⟨fun _ => ⟨_, rfl, (resumes_query hpc).mpr ⟨rfl, 1, (.aiNoData, []), ?_, rfl⟩, rfl⟩,
      fun hidle => absurd rfl hidle⟩
    rw [settled_of_no_thread env hnone, SyncQuery.executeLoop, hans,
      DataQuery.executeTurn_empty env s.query hrows htoken,
      settled_of_no_thread env (by exact hnone)]
    rfl
  | executeAgain page hpc hans hrows htoken =>
    have hnone := h.flight.noWorker (by simp [hpc, Pc.WritesRequest])
    refine ⟨fun hidle => by simp [hpc] at hidle, fun _ => ⟨rfl, fun op reply t hres => ?_⟩⟩
    obtain ⟨hop, fuel, r, hr, hreply⟩ := (resumes_query (by exact hpc)).mp hres
    refine (resumes_query hpc).mpr ⟨hop, fuel + 1, r, ?_, hreply⟩
    rw [settled_of_no_thread env (by exact hnone)] at hr ⊢
    rw [SyncQuery.executeLoop, hans, DataQuery.executeTurn_again env s.query hrows htoken]
    exact hr
  | executePage page hpc hans hrows htoken =>
    have hnone := h.flight.noWorker (by simp [hpc, Pc.WritesRequest])
    refine ⟨fun _ => ⟨_, rfl, (resumes_query hpc).mpr ⟨rfl, 1, (.aiSuccess, []), ?_, rfl⟩, rfl⟩,
      fun hidle => absurd rfl hidle⟩
    rw [settled_of_no_thread env hnone, SyncQuery.executeLoop, hans,
      DataQuery.executeTurn_page env s.query hrows htoken,
      settled_of_no_thread env (by exact hnone)]
    rfl
  | executePageToken page hpc hans hrows htoken =>
    have hnone := h.flight.noWorker (by simp [hpc, Pc.WritesRequest])
    refine ⟨fun _ => ⟨_, rfl, (resumes_query hpc).mpr ⟨rfl, 1, (.aiSuccess, []), ?_, rfl⟩, rfl⟩,
      fun hidle => absurd rfl hidle⟩
    rw [settled_of_no_thread env hnone, SyncQuery.executeLoop, hans,
      DataQuery.executeTurn_page_token env s.query hrows htoken,
      settled_of_started env (by simp [startWorker, hnone])]
    rfl
  | switchFailed b error queue hpc hqueue =>
    obtain ⟨hnil, hfin⟩ := h.pop hqueue
    refine ⟨fun _ => ⟨_, rfl, (resumes_waitOutcome hpc).mpr ⟨rfl, _, ?_, rfl⟩, rfl⟩,
      fun hidle => absurd rfl hidle⟩
    rw [settled_of_finished env hfin, settled_of_finished env (by exact hfin)]
    simp only [SyncQuery.switchCursor, hqueue, DataQuery.pageTurn]
    rfl
  | switchEmpty b page queue hpc hqueue hrows =>
    obtain ⟨hnil, hfin⟩ := h.pop hqueue
    refine ⟨fun _ => ⟨_, rfl, (resumes_waitOutcome hpc).mpr ⟨rfl, _, ?_, rfl⟩, rfl⟩,
      fun hidle => absurd rfl hidle⟩
    rw [settled_of_finished env hfin, settled_of_finished env (by exact hfin)]
    simp only [SyncQuery.switchCursor, hqueue, DataQuery.pageTurn_empty _ hrows]
    rfl
  | switchLast b page queue hpc hqueue hrows htoken =>
    obtain ⟨hnil, hfin⟩ := h.pop hqueue
    refine ⟨fun _ => ⟨_, rfl, (resumes_waitOutcome hpc).mpr ⟨rfl, _, ?_, rfl⟩, rfl⟩,
      fun hidle => absurd rfl hidle⟩
    rw [settled_of_finished env hfin, settled_of_finished env (by exact hfin)]
    simp only [SyncQuery.switchCursor, hqueue, DataQuery.pageTurn_last _ hrows htoken]
    rfl
  | switchMore b page queue hpc hqueue hrows htoken =>
    obtain ⟨hnil, hfin⟩ := h.pop hqueue
    refine ⟨fun hidle => by simp at hidle, fun _ => ⟨rfl, fun op reply t hres => ?_⟩⟩
    obtain ⟨hop, fetched, hf, hreply⟩ := (resumes_switches (.inl rfl)).mp hres
    refine (resumes_waitOutcome hpc).mpr ⟨hop, fetched, ?_, hreply⟩
    rw [settled_of_finished env (by exact hfin)] at hf ⊢
    simp only [SyncQuery.switchCursor, hqueue, DataQuery.pageTurn_more _ hrows htoken]
    exact congrArg some hf
  | joinPrevious b token threads hpc hthreads =>
    have hnone : threads = [] := (singleFlight_step h.flight (.joinPrevious b token threads hpc
      hthreads : Step env s .main _)).noWorker trivial
    have hfin := (h.joined (by simp [hpc, Pc.JoinsPrevious])).2
    refine ⟨fun hidle => by simp at hidle, fun _ => ⟨rfl, fun op reply t hres => ?_⟩⟩
    obtain ⟨hop, fetched, hf, hreply⟩ := (resumes_switches (.inr rfl)).mp hres
    refine (resumes_switches (.inl hpc)).mpr ⟨hop, fetched, ?_, hreply⟩
    rw [settled_of_no_thread env (by exact hnone)] at hf
    rw [settled_of_finished env hfin]
    exact hf
  | startNext b token hpc =>
    have hnone := h.flight.noWorker (by simp [hpc, Pc.WritesRequest])
    refine ⟨fun _ => ⟨_, rfl, (resumes_switches (.inr hpc)).mpr ⟨rfl, _, ?_, rfl⟩, rfl⟩,
      fun hidle => absurd rfl hidle⟩
    rw [settled_of_no_thread env hnone,
      settled_of_started env (by simp [startWorker, writeToken, hnone])]
    exact SyncQuery.finishRow_prefetch env b _ _
  | metaFailed _ _ hpc | metaAnswer _ _ hpc | cancelAnswerClose hpc | cancelAnswerFail _ hpc =>
    rw [hpc] at hpcs
    exact absurd hpcs id

end Simulation

/-! ## Runs -/

/-- Whole operations, one after the other, give the replies and leave the state. -/
def PerformsAll (env : QueryEnv δ γ B) :
    SyncQuery δ γ → List (Return δ γ B) → SyncQuery δ γ → Prop
  | s, [], t => s = t
  | s, r :: rs, t => ∃ u, Performs env s r.op r.reply u ∧ r.rowNumber = u.query.rowNumber ∧
      PerformsAll env u rs t

/-- What is to come depends on the position and the settled state. -/
lemma resumes_of_same {env : QueryEnv δ γ B} {s s' : System δ γ B} {op : Op B}
    {reply : Reply δ γ B} {t : SyncQuery δ γ} (hpc : s'.pc = s.pc)
    (hsettled : s'.settled env = s.settled env) (h : Resumes env s' op reply t) :
    Resumes env s op reply t := by
  unfold Resumes at h ⊢
  rwa [hpc, hsettled] at h

/-- A run with fetches only ends with the replies of the whole operations, the first of which is
what the operation in progress was to come to. -/
lemma FirstRun.run_refines {env : QueryEnv δ γ B} {s s' : System δ γ B} {acts : List (Action B)}
    (h : FirstRun s) (hacts : ∀ op, .call op ∈ acts → ∃ b, op = .fetchNextRow b)
    (hrun : run (step env) s acts = some s') (hidle : s'.pc = .idle) :
    ∃ rs, s'.returns = s.returns ++ rs ∧
      (s.pc = .idle → (∀ r ∈ rs, ∃ b, r.op = .fetchNextRow b) ∧
        PerformsAll env (s.settled env) rs (s'.settled env)) ∧
      (s.pc ≠ .idle → ∃ r rs' t, rs = r :: rs' ∧ Resumes env s r.op r.reply t ∧
        r.rowNumber = t.query.rowNumber ∧ (∀ r ∈ rs', ∃ b, r.op = .fetchNextRow b) ∧
        PerformsAll env t rs' (s'.settled env)) := by
  induction acts generalizing s with
  | nil =>
    cases hrun
    exact ⟨[], by simp, fun _ => ⟨by simp, rfl⟩, fun hne => absurd hidle hne⟩
  | cons a acts ih =>
    obtain ⟨u, ha, hrest⟩ := run_cons_eq_some.mp hrun
    have hstep := step_of_eq_some ha
    have hcall : ∀ op, a = .call op → s.FirstRunCall op :=
      fun op hop => .inl (hacts op (by simp [hop]))
    have hu := firstRun_step h hcall hstep
    obtain ⟨rs, hreturns, hperf, hresume⟩ :=
      ih hu (fun op hop => hacts op (List.mem_cons_of_mem _ hop)) hrest
    cases a with
    | worker i =>
      obtain ⟨hsettled, hpc, hret⟩ := h.settled_worker hstep
      refine ⟨rs, by rw [hreturns, hret], fun hs => ?_, fun hs => ?_⟩
      · rw [← hsettled]
        exact hperf (hpc.trans hs)
      · obtain ⟨r, rs', t, hrs, hres, hrest⟩ := hresume (fun hn => hs (hpc ▸ hn))
        exact ⟨r, rs', t, hrs, resumes_of_same hpc hsettled hres, hrest⟩
    | main =>
      have hs : s.pc ≠ .idle := by
        intro hs
        simp [step, mainStep, hs] at ha
      obtain ⟨hends, hgoes⟩ := h.main_step hstep
      by_cases hui : u.pc = .idle
      · obtain ⟨r, hret, hcomes, hrow⟩ := hends hui
        obtain ⟨hops, hall⟩ := hperf hui
        refine ⟨r :: rs, by rw [hreturns, hret]; simp, fun hn => absurd hn hs, fun _ => ?_⟩
        exact ⟨r, rs, _, rfl, hcomes, hrow, hops, hall⟩
      · obtain ⟨hret, hback⟩ := hgoes hui
        obtain ⟨r, rs', t, hrs, hres, hrest⟩ := hresume hui
        exact ⟨rs, by rw [hreturns, hret], fun hn => absurd hn hs,
          fun _ => ⟨r, rs', t, hrs, hback _ _ _ hres, hrest⟩⟩
    | call op =>
      have hs : s.pc = .idle := by
        cases hpc : s.pc <;> simp [step, hpc] at ha ⊢
      obtain ⟨b, hb⟩ := hacts op (by simp)
      obtain ⟨hends, hgoes⟩ := h.call_step (hcall op rfl) hstep
      by_cases hui : u.pc = .idle
      · obtain ⟨r, hret, ⟨hop, hcomes⟩, hrow⟩ := hends hui
        obtain ⟨hops, hall⟩ := hperf hui
        refine ⟨r :: rs, by rw [hreturns, hret]; simp, fun _ => ⟨?_, _, hcomes, hrow, hall⟩,
          fun hn => absurd hs hn⟩
        exact List.forall_mem_cons.mpr ⟨⟨b, hop.trans hb⟩, hops⟩
      · obtain ⟨hret, hback⟩ := hgoes hui
        obtain ⟨r, rs', t, rfl, hres, hrow, hops, hall⟩ := hresume hui
        obtain ⟨hop, hcomes⟩ := (hback _ _ _).mp hres
        refine ⟨r :: rs', by rw [hreturns, hret], fun _ => ⟨?_, _, hcomes, hrow, hall⟩,
          fun hn => absurd hs hn⟩
        exact List.forall_mem_cons.mpr ⟨⟨b, hop.trans hb⟩, hops⟩

/-- A run that executes a new query and then only fetches from it gives, whatever the
interleaving, the replies of the whole operations one after the other. -/
theorem first_run_refines (env : QueryEnv δ γ B) {s : System δ γ B} {acts : List (Action B)}
    (hacts : ∀ op, .call op ∈ acts → ∃ b, op = .fetchNextRow b)
    (hrun : run (step env) .new (.call .execute :: acts) = some s) (hidle : s.pc = .idle) :
    ∃ r rs, s.returns = r :: rs ∧ r.op = .execute ∧ (∀ r ∈ rs, ∃ b, r.op = .fetchNextRow b) ∧
      PerformsAll env .new s.returns (s.settled env) := by
  obtain ⟨u, ha, hrest⟩ := run_cons_eq_some.mp hrun
  have hstep := step_of_eq_some ha
  have hcall : FirstRunCall (System.new : System δ γ B) .execute := .inr ⟨rfl, rfl⟩
  have hu : FirstRun u := firstRun_step firstRun_new
    (fun op hop => by cases hop; exact hcall) hstep
  have hpc : u.pc ≠ .idle := by
    simp only [step, new, call, Option.some.injEq] at ha
    rw [← ha]
    simp [DataQuery.new]
  obtain ⟨hret, hback⟩ := (firstRun_new.call_step hcall hstep).2 hpc
  obtain ⟨rs, hreturns, -, hresume⟩ := hu.run_refines hacts hrest hidle
  obtain ⟨r, rs', t, rfl, hres, hrow, hops, hall⟩ := hresume hpc
  obtain ⟨hop, hcomes⟩ := (hback _ _ _).mp hres
  have hs : s.returns = r :: rs' := by rw [hreturns, hret]; rfl
  refine ⟨r, rs', hs, hop, hops, ?_⟩
  rw [hs]
  exact ⟨t, hcomes, hrow, hall⟩

/-! ## Progress -/

/-- No action of the list calls an operation. -/
def NoCalls (acts : List (Action B)) : Prop := ∀ op, Action.call op ∉ acts

/-- The operation in progress can be brought to its end. -/
def Completes (env : QueryEnv δ γ B) (s : System δ γ B) : Prop :=
  ∃ acts s', NoCalls acts ∧ run (step env) s acts = some s' ∧ s'.pc = .idle

section Progress

variable {env : QueryEnv δ γ B} {s s' : System δ γ B}

/-- An idle state has nothing to complete. -/
lemma completes_of_idle (h : s.pc = .idle) : Completes env s :=
  ⟨[], s, fun _ => List.not_mem_nil, rfl, h⟩

/-- A step other than a call may come first. -/
lemma Completes.head {a : Action B} (h : Completes env s') (ha : ∀ op, a ≠ .call op)
    (hstep : step env s a = some s') : Completes env s := by
  obtain ⟨acts, t, hacts, hrun, hidle⟩ := h
  refine ⟨a :: acts, t, fun op hop => ?_, run_cons_eq_some.mpr ⟨s', hstep, hrun⟩, hidle⟩
  rcases List.mem_cons.mp hop with hop | hop
  · exact ha op hop.symm
  · exact hacts op hop

/-- The workers of a first run can finish, which leaves the main thread where it is. -/
lemma FirstRun.completes_of_finished (h : FirstRun s)
    (hfin : ∀ t : System δ γ B, FirstRun t → (∀ w ∈ t.threads, w = .finished) → t.pc = s.pc →
      t.settled env = s.settled env → Completes env t) : Completes env s := by
  have hworker : ∀ {u : System δ γ B}, FirstRun u → u.pc = s.pc →
      u.settled env = s.settled env → ∀ {w}, u.threads = [w] → w.InFlight →
      ∃ v, step env u (.worker 0) = some v ∧ FirstRun v ∧ v.pc = s.pc ∧
        v.settled env = s.settled env := by
    intro u hu hpc hsettled w hw hwf
    have hsome : ∃ v, step env u (.worker 0) = some v := by
      cases w with
      | calling | returned outcome => simp [step, workerStep, hw]
      | parked outcome => exact absurd ⟨outcome, rfl⟩ (hu.flight.noParked _ (by simp [hw]))
      | finished => exact absurd rfl hwf
    obtain ⟨v, hv⟩ := hsome
    have hstep := step_of_eq_some hv
    obtain ⟨hvs, hvpc, -⟩ := hu.settled_worker hstep
    exact ⟨v, hv, firstRun_step hu (by simp) hstep, hvpc.trans hpc, hvs.trans hsettled⟩
  have hreturned : ∀ {u : System δ γ B}, FirstRun u → u.pc = s.pc →
      u.settled env = s.settled env → ∀ {outcome}, u.threads = [.returned outcome] →
      Completes env u := by
    intro u hu hpc hsettled outcome hw
    obtain ⟨v, hv, hthreads, -⟩ := hu.flight.worker_finishes env hw
    obtain ⟨v', hv', hvr, hvpc, hvs⟩ := hworker hu hpc hsettled hw (by simp [Worker.InFlight])
    obtain rfl : v = v' := by rw [hv, Option.some.injEq] at hv'; exact hv'
    exact (hfin v hvr (by simp [hthreads]) hvpc hvs).head (by simp) hv
  rcases hs : s.threads with _ | ⟨w, _ | ⟨w', threads⟩⟩
  · exact hfin s h (by simp [hs]) rfl rfl
  · cases w with
    | finished => exact hfin s h (by simp [hs]) rfl rfl
    | parked outcome => exact absurd ⟨outcome, rfl⟩ (h.flight.noParked _ (by simp [hs]))
    | returned outcome => exact hreturned h rfl rfl hs
    | calling =>
      obtain ⟨v, hv, hvr, hvpc, hvs⟩ := hworker h rfl rfl hs (by simp [Worker.InFlight])
      have hthreads : v.threads = [.returned (env.service s.sent.length s.query.request)] := by
        simp only [step, workerStep, hs, List.getElem?_cons_zero, Option.some.injEq] at hv
        rw [← hv]
        rfl
      exact (hreturned hvr hvpc hvs hthreads).head (by simp) hv
  · have hle := h.flight.threads_le
    rw [hs, List.length_cons, List.length_cons] at hle
    omega

/-- A fetch that is about to start the next prefetch completes. -/
lemma completes_of_startNext {token : String} {b : ColumnBindingMap B}
    (hpc : s.pc = .startNext token b) : Completes env s :=
  (completes_of_idle rfl).head (a := .main) (by simp) (by rw [step, mainStep, hpc])

/-- A page switch completes. -/
lemma FirstRun.completes_of_joinPrevious (h : FirstRun s) {token : String}
    {b : ColumnBindingMap B} (hpc : s.pc = .joinPrevious token b) : Completes env s := by
  have hfin := (h.joined (by simp [hpc, Pc.JoinsPrevious])).2
  have hstep : ∃ threads, step env s .main =
      some { s with threads, pc := .startNext token b } := by
    rw [step, mainStep, hpc]
    rcases hs : s.threads with _ | ⟨w, threads⟩
    · exact ⟨[], by simp⟩
    · cases w with
      | finished => exact ⟨threads, by simp⟩
      | calling => exact absurd (hfin .calling (by simp [hs])) (by simp)
      | returned o => exact absurd (hfin (.returned o) (by simp [hs])) (by simp)
      | parked o => exact absurd (hfin (.parked o) (by simp [hs])) (by simp)
  obtain ⟨threads, hstep⟩ := hstep
  exact (completes_of_startNext rfl).head (by simp) hstep

/-- A fetch that waits completes when the settled queue holds an outcome. -/
lemma FirstRun.completes_of_waitOutcome (h : FirstRun s) {b : ColumnBindingMap B}
    (hpc : s.pc = .waitOutcome b) (hqueue : (s.settled env).query.context.queue ≠ []) :
    Completes env s := by
  refine h.completes_of_finished fun t ht hfin htpc hts => ?_
  rw [← hts, settled_of_finished env hfin] at hqueue
  have hpc' : t.pc = .waitOutcome b := htpc.trans hpc
  obtain ⟨outcome, queue, hcons⟩ := List.exists_cons_of_ne_nil hqueue
  have hcons' : t.query.context.queue = outcome :: queue := hcons
  obtain ⟨u, hu⟩ : ∃ u, step env t .main = some u := by simp [step, mainStep, hpc', hcons']
  refine Completes.head ?_ (by simp) hu
  have hstep := step_of_eq_some hu
  have hur := firstRun_step ht (by simp) hstep
  cases hstep with
  | switchMore b' page queue' hpc'' hqueue' hrows htoken => exact hur.completes_of_joinPrevious rfl
  | switchFailed | switchEmpty | switchLast => exact completes_of_idle rfl
  | closeJoin _ _ hne | closeEnd _ hne | prepare hne | executeFailed _ hne | executeEmpty _ hne
  | executeAgain _ hne | executePage _ hne | executePageToken _ hne | joinPrevious _ _ _ hne
  | startNext _ _ hne | metaFailed _ _ hne | metaAnswer _ _ hne | cancelAnswerClose hne
  | cancelAnswerFail _ hne => rw [hpc'] at hne; cases hne

/-- The close of a failed execution completes. -/
lemma FirstRun.completes_of_closing (h : FirstRun s) {record : DiagnosticRecord}
    (hpc : s.pc = .closing (.executeFailed record)) : Completes env s := by
  have hnone := h.closing (by simp [hpc])
  exact (completes_of_idle rfl).head (a := .main) (by simp)
    (by simp only [step, mainStep, hpc, hnone]; rfl)

/-- The loop of an execution completes when the loop of the whole operation does. -/
lemma FirstRun.completes_of_query (h : FirstRun s) (hpc : s.pc = .query) (fuel : ℕ)
    (hloop : (SyncQuery.executeLoop env fuel (s.settled env)).isSome) : Completes env s := by
  induction fuel generalizing s with
  | zero => simp [SyncQuery.executeLoop] at hloop
  | succ fuel ih =>
    have hnone := h.flight.noWorker (by simp [hpc, Pc.WritesRequest])
    rw [settled_of_no_thread env hnone, SyncQuery.executeLoop] at hloop
    obtain ⟨u, hu⟩ : ∃ u, step env s .main = some u := by simp [step, mainStep, hpc]
    refine Completes.head ?_ (by simp) hu
    have hstep := step_of_eq_some hu
    have hur := firstRun_step h (by simp) hstep
    cases hstep with
    | executeFailed error hpc' hans => exact hur.completes_of_closing rfl
    | executeAgain page hpc' hans hrows htoken =>
      rw [hans, DataQuery.executeTurn_again env s.query hrows htoken] at hloop
      refine ih hur hpc' ?_
      rw [settled_of_no_thread env (by exact hnone)]
      exact hloop
    | executeEmpty | executePage | executePageToken => exact completes_of_idle rfl
    | closeJoin _ _ hne | closeEnd _ hne | prepare hne | joinPrevious _ _ _ hne
    | startNext _ _ hne | metaFailed _ _ hne | metaAnswer _ _ hne | cancelAnswerClose hne
    | cancelAnswerFail _ hne | switchMore _ _ _ hne | switchFailed _ _ _ hne
    | switchEmpty _ _ _ hne | switchLast _ _ _ hne => rw [hpc] at hne; cases hne

/-- An operation in progress completes when it is to come to something. -/
lemma FirstRun.completes (h : FirstRun s) {op : Op B} {reply : Reply δ γ B} {t : SyncQuery δ γ}
    (hres : Resumes env s op reply t) : Completes env s := by
  have hpcs := h.pc
  cases hpc : s.pc with
  | idle => exact completes_of_idle hpc
  | closing next =>
    cases next with
    | executeFailed record => exact h.completes_of_closing hpc
    | _ => rw [hpc] at hpcs; exact absurd hpcs id
  | makeRequestExecute =>
    obtain ⟨-, fuel, r, hr, -⟩ := (resumes_makeRequestExecute hpc).mp hres
    have hnone := h.flight.noWorker (by simp [hpc, Pc.WritesRequest])
    obtain ⟨u, hu⟩ : ∃ u, step env s .main = some u := by simp [step, mainStep, hpc]
    refine Completes.head ?_ (by simp) hu
    have hur := firstRun_step h (by simp) (step_of_eq_some hu)
    simp only [step, mainStep, hpc, Option.some.injEq] at hu
    subst hu
    refine hur.completes_of_query rfl fuel ?_
    rw [settled_of_no_thread env (by exact hnone)] at hr ⊢
    rw [SyncQuery.makeRequestExecute] at hr
    simp [hr]
  | query =>
    obtain ⟨-, fuel, r, hr, -⟩ := (resumes_query hpc).mp hres
    exact h.completes_of_query hpc fuel (by simp [hr])
  | waitOutcome b =>
    obtain ⟨-, fetched, hf, -⟩ := (resumes_waitOutcome hpc).mp hres
    refine h.completes_of_waitOutcome hpc fun hnil => ?_
    simp [SyncQuery.switchCursor, hnil] at hf
  | joinPrevious token b => exact h.completes_of_joinPrevious hpc
  | startNext token b => exact completes_of_startNext hpc
  | metaRequest | cancelRequest | destroyed => rw [hpc] at hpcs; exact absurd hpcs id

/-- The number of operations called so far. -/
def calls (s : System δ γ B) : ℕ :=
  s.returns.length + match s.pc with
    | .idle => 0
    | _ => 1

/-- Between operations every call has returned. -/
lemma calls_of_idle (h : s.pc = .idle) : s.calls = s.returns.length := by
  simp [calls, h]

/-- Inside an operation one call has not returned. -/
lemma calls_of_ne_idle (h : s.pc ≠ .idle) : s.calls = s.returns.length + 1 := by
  unfold calls
  split
  · next hpc => exact absurd hpc h
  · rfl

/-- A step other than a call does not change the number of calls. -/
lemma FirstRun.calls_step (h : FirstRun s) {a : Action B} (ha : ∀ op, a ≠ .call op)
    (hstep : step env s a = some s') : s'.calls = s.calls := by
  have hcases := step_of_eq_some hstep
  cases a with
  | call op => exact absurd rfl (ha op)
  | worker i =>
    obtain ⟨-, hpc, hret⟩ := h.settled_worker hcases
    unfold calls
    rw [hpc, hret]
  | main =>
    have hs : s.pc ≠ .idle := by
      intro hs
      simp [step, mainStep, hs] at hstep
    obtain ⟨hends, hgoes⟩ := h.main_step hcases
    rw [calls_of_ne_idle hs]
    by_cases hi : s'.pc = .idle
    · obtain ⟨r, hret, -⟩ := hends hi
      rw [calls_of_idle hi, hret, List.length_append]
      rfl
    · rw [calls_of_ne_idle hi, (hgoes hi).1]

/-- A run without calls does not change the number of calls. -/
lemma FirstRun.calls_run (h : FirstRun s) {acts : List (Action B)} (hacts : NoCalls acts)
    (hrun : run (step env) s acts = some s') : s'.calls = s.calls := by
  induction acts generalizing s with
  | nil => cases hrun; rfl
  | cons a acts ih =>
    obtain ⟨u, hu, hrest⟩ := run_cons_eq_some.mp hrun
    have ha : ∀ op, a ≠ .call op := fun op hop => hacts op (by simp [hop])
    have hur := firstRun_step h (fun op hop => absurd hop (ha op)) (step_of_eq_some hu)
    exact (ih hur (fun op hop => hacts op (List.mem_cons_of_mem _ hop)) hrest).trans
      (h.calls_step ha hu)

/-- A run of one call from an idle state to an idle state returns once. -/
lemma FirstRun.returns_call (h : FirstRun s) {op : Op B}
    (hcall : s.FirstRunCall op) {acts : List (Action B)} (hacts : NoCalls acts)
    (hrun : run (step env) s (.call op :: acts) = some s') (hidle : s'.pc = .idle) :
    s'.returns.length = s.returns.length + 1 := by
  obtain ⟨u, hu, hrest⟩ := run_cons_eq_some.mp hrun
  have hstep := step_of_eq_some hu
  have hur := firstRun_step h (fun op' hop => by cases hop; exact hcall) hstep
  obtain ⟨hends, hgoes⟩ := h.call_step hcall hstep
  rw [← calls_of_idle hidle, hur.calls_run hacts hrest]
  by_cases hi : u.pc = .idle
  · obtain ⟨r, hret, -⟩ := hends hi
    rw [calls_of_idle hi, hret, List.length_append]
    rfl
  · rw [calls_of_ne_idle hi, (hgoes hi).1]

/-- A run of a first run stays in it. -/
lemma FirstRun.of_run (h : FirstRun s) {acts : List (Action B)}
    (hacts : ∀ op, .call op ∈ acts → ∃ b, op = .fetchNextRow b)
    (hrun : run (step env) s acts = some s') : FirstRun s' := by
  induction acts generalizing s with
  | nil => cases hrun; exact h
  | cons a acts ih =>
    obtain ⟨u, hu, hrest⟩ := run_cons_eq_some.mp hrun
    exact ih (firstRun_step h (fun op hop => .inl (hacts op (by simp [hop])))
      (step_of_eq_some hu)) (fun op hop => hacts op (List.mem_cons_of_mem _ hop)) hrest

/-- A whole operation of a first run can be called and brought to its end. -/
theorem FirstRun.call_completes (h : FirstRun s) (hpc : s.pc = .idle) {op : Op B}
    (hcall : s.FirstRunCall op) {reply : Reply δ γ B} {t : SyncQuery δ γ}
    (hperf : Performs env (s.settled env) op reply t) :
    ∃ acts s', NoCalls acts ∧ run (step env) s (.call op :: acts) = some s' ∧ s'.pc = .idle := by
  obtain ⟨u, hu⟩ : ∃ u, step env s (.call op) = some u := by simp [step, hpc]
  have hstep := step_of_eq_some hu
  have hur := firstRun_step h (fun op' hop => by cases hop; exact hcall) hstep
  have hcomp : Completes env u := by
    by_cases hui : u.pc = .idle
    · exact completes_of_idle hui
    · obtain ⟨-, hback⟩ := (h.call_step hcall hstep).2 hui
      exact hur.completes ((hback op reply t).mpr ⟨rfl, hperf⟩)
  obtain ⟨acts, s', hacts, hrun, hidle⟩ := hcomp
  exact ⟨acts, s', hacts, run_cons_eq_some.mpr ⟨u, hu, hrun⟩, hidle⟩

end Progress

end System

end TimestreamOdbc
