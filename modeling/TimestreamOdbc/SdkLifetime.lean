import Mathlib.Data.Finset.Card
import TimestreamOdbc.Lib.TransitionSystem
import TimestreamOdbc.Utils

/-!
# The lifetime of the AWS SDK

The constructors of all connections share a flag that says that the SDK is initialised, a mutex and a
count of the connections.  A constructor looks at the flag, and again when it has the mutex, initialises
the SDK if need be, and counts itself when it has given the mutex back; a destructor counts the
connection off without the mutex, and shuts the SDK down if it was the last one.  Each of these is a
step, and the steps of different connections come in any order.
-/

namespace TimestreamOdbc

/-! ## The steps -/

/-- `Aws::Utils::Logging::LogLevel`. -/
inductive AwsLogLevel where
  | off
  | fatal
  | error
  | warn
  | info
  | debug
  | trace
  deriving DecidableEq, Repr

/-- `GetAWSLogLevelFromString`. -/
def getAWSLogLevelFromString (awsLogLvl : Text) : AwsLogLevel :=
  let upper := awsLogLvl.map Char.toUpper
  if upper = "OFF".toList then .off
  else if upper = "FATAL".toList then .fatal
  else if upper = "ERROR".toList then .error
  else if upper = "WARN".toList then .warn
  else if upper = "INFO".toList then .info
  else if upper = "DEBUG".toList then .debug
  else if upper = "TRACE".toList then .trace
  else .warn

/-- A call of the SDK, with the level of logging in its options. The driver sets no other option. -/
inductive ApiCall where
  | initAPI (options : AwsLogLevel)
  | shutdownAPI (options : AwsLogLevel)
  deriving DecidableEq, Repr

/-- What a connection does next. -/
inductive Phase where
  /-- The constructor was not called. -/
  | absent
  /-- The flag was not set: takes the mutex. -/
  | waiting
  /-- Has the mutex: looks at the flag again. -/
  | locked
  /-- Has the mutex: calls `InitAPI`. -/
  | initialising
  /-- Has the mutex: sets the flag. -/
  | initialised
  /-- Has the mutex: gives it back. -/
  | unlocking
  /-- Counts itself. -/
  | counting
  /-- The constructor is done. -/
  | live
  /-- The destructor was called: counts itself off. -/
  | closing
  /-- Was the last one: calls `ShutdownAPI`. -/
  | shutting
  /-- Resets the flag. -/
  | resetting
  /-- The destructor is done. -/
  | gone
  deriving DecidableEq, Repr

/-- A phase with the mutex. -/
def Phase.HasMutex (p : Phase) : Prop := p ∈ [.locked, .initialising, .initialised, .unlocking]

/-- A phase that is counted. -/
def Phase.IsCounted (p : Phase) : Prop := p = .live ∨ p = .closing

/-- `awsSDKReady_`, `refCount_` and `mutex_` of all connections, `options_` of each of them, and the
calls of the SDK, the last one first. -/
structure AwsSdk where
  awsSDKReady : Bool
  refCount : ℤ
  mutex : Option ℕ
  options : ℕ → AwsLogLevel
  phase : ℕ → Phase
  calls : List ApiCall

/-- A connection takes its next step. The environment variable `TS_AWS_LOG_LEVEL` is what it is then. -/
structure ConnectionStep where
  connection : ℕ
  awsLogLvl : Text

namespace AwsSdk

/-- Before the first connection. The options of a connection are new ones. -/
def new (newOptions : AwsLogLevel) : AwsSdk :=
  { awsSDKReady := false, refCount := 0, mutex := none, options := fun _ => newOptions
    phase := fun _ => .absent, calls := [] }

/-- A connection goes on to a phase. -/
def goTo (c : ℕ) (p : Phase) (s : AwsSdk) : AwsSdk := { s with phase := Function.update s.phase c p }

/-- The next step of a connection, unless it waits for the mutex or is gone. -/
def step (s : AwsSdk) (a : ConnectionStep) : Option AwsSdk :=
  let c := a.connection
  match s.phase c with
  -- the constructor
  | .absent => some (s.goTo c (if s.awsSDKReady then .counting else .waiting))
  | .waiting => if s.mutex = none then some ({ s with mutex := some c }.goTo c .locked) else none
  | .locked => some (s.goTo c (if s.awsSDKReady then .unlocking else .initialising))
  | .initialising =>
    let options := getAWSLogLevelFromString a.awsLogLvl
    some ({ s with
      options := Function.update s.options c options
      calls := .initAPI options :: s.calls }.goTo c .initialised)
  | .initialised => some ({ s with awsSDKReady := true }.goTo c .unlocking)
  | .unlocking => some ({ s with mutex := none }.goTo c .counting)
  | .counting => some ({ s with refCount := s.refCount + 1 }.goTo c .live)
  -- the destructor
  | .live => some (s.goTo c .closing)
  | .closing =>
    some ({ s with refCount := s.refCount - 1 }.goTo c
      (if s.refCount - 1 = 0 then .shutting else .gone))
  | .shutting => some ({ s with calls := .shutdownAPI (s.options c) :: s.calls }.goTo c .resetting)
  | .resetting => some ({ s with awsSDKReady := false }.goTo c .gone)
  | .gone => none

/-! ## What is claimed -/

/-- The calls alternate, beginning with `InitAPI`, and `ShutdownAPI` has the options of the `InitAPI`
before it. The last call is the first of the list. -/
def Alternate : List ApiCall → Prop
  | [] => True
  | .initAPI _ :: calls => (∀ options, calls.head? ≠ some (.initAPI options)) ∧ Alternate calls
  | .shutdownAPI options :: calls => calls.head? = some (.initAPI options) ∧ Alternate calls

/-- The SDK is initialised: the last call was that of `InitAPI`. -/
def IsInitialised (s : AwsSdk) : Prop := ∃ options, s.calls.head? = some (.initAPI options)

/-- The SDK is initialised while a connection lives, and the calls alternate. -/
structure ServesConnections (s : AwsSdk) : Prop where
  initialised : ∀ c, s.phase c = .live → s.IsInitialised
  alternate : Alternate s.calls

/-- No step looks at the flag while the SDK is shut down and the flag is still set, and the last connection
counts itself off when no constructor is between its look at the flag and its count, and only if it
has the options that the SDK was initialised with. -/
def IsSafe (s : AwsSdk) (a : ConnectionStep) : Prop :=
  match s.phase a.connection with
  | .absent | .locked =>
    s.awsSDKReady = true → ∀ d, s.phase d ≠ .shutting ∧ s.phase d ≠ .resetting
  | .closing =>
    s.refCount = 1 → (∀ d, s.phase d ≠ .unlocking ∧ s.phase d ≠ .counting) ∧
      s.calls.head? = some (.initAPI (s.options a.connection))
  | _ => True

/-! ## Stages -/

/-- The stages that the SDK goes through: it is down, a connection has initialised it and not set the
flag yet, it is up, the last connection is to shut it down, or to reset the flag. -/
inductive Stage where
  | down
  | raised (c : ℕ)
  | up
  | leaving (c : ℕ)
  | left (c : ℕ)

/-- Where a connection can be at a stage. -/
def Stage.Admits (d : ℕ) (p : Phase) : Stage → Prop
  | .down => p ∈ [.absent, .waiting, .locked, .initialising, .gone]
  | .raised c => if d = c then p = .initialised else p ∈ [.absent, .waiting, .gone]
  | .up => p ∈ [.absent, .waiting, .locked, .unlocking, .counting, .live, .closing, .gone]
  | .leaving c => if d = c then p = .shutting else p ∈ [.absent, .waiting, .locked, .gone]
  | .left c => if d = c then p = .resetting else p ∈ [.absent, .waiting, .locked, .gone]

/-- The flag and the SDK at a stage. -/
def Stage.Shared (s : AwsSdk) : Stage → Prop
  | .down => s.awsSDKReady = false ∧ ¬ s.IsInitialised
  | .raised _ => s.awsSDKReady = false ∧ s.IsInitialised
  | .up => s.awsSDKReady = true ∧ s.IsInitialised
  | .leaving c => s.awsSDKReady = true ∧ s.calls.head? = some (.initAPI (s.options c))
  | .left _ => s.awsSDKReady = true ∧ ¬ s.IsInitialised

/-- The SDK is at a stage, at most one connection has the mutex, those that are counted are as many as
the count, and the calls alternate. -/
structure Inv (s : AwsSdk) : Prop where
  stage : ∃ stage : Stage, stage.Shared s ∧ ∀ d, stage.Admits d (s.phase d)
  mutex : ∀ d, (s.phase d).HasMutex ↔ s.mutex = some d
  count : ∃ counted : Finset ℕ, (∀ d, d ∈ counted ↔ (s.phase d).IsCounted) ∧
    s.refCount = counted.card
  alternate : Alternate s.calls

section Steps

variable {s s' : AwsSdk} {c : ℕ} {p q : Phase}

/-- Where the connections are when one of them goes on. -/
lemma forall_goTo {Q : ℕ → Phase → Prop} (hself : Q c p) (hothers : ∀ d, d ≠ c → Q d (s.phase d)) :
    ∀ d, Q d ((s.goTo c p).phase d) := by
  intro d
  by_cases hd : d = c
  · subst hd
    simpa [goTo] using hself
  · simpa [goTo, Function.update_of_ne hd] using hothers d hd

/-- A connection that goes on without taking or giving back the mutex. -/
lemma mutex_goTo (h : ∀ d, (s.phase d).HasMutex ↔ s.mutex = some d) (hphase : s.phase c = q)
    (hp : p.HasMutex ↔ q.HasMutex) :
    ∀ d, ((s.goTo c p).phase d).HasMutex ↔ (s.goTo c p).mutex = some d :=
  forall_goTo (Q := fun d p => p.HasMutex ↔ s.mutex = some d) ((hphase ▸ hp).trans (h c)) fun d _ => h d

/-- A connection that goes on without counting itself. -/
lemma count_goTo (h : ∃ counted : Finset ℕ, (∀ d, d ∈ counted ↔ (s.phase d).IsCounted) ∧
      s.refCount = counted.card) (hphase : s.phase c = q) (hp : p.IsCounted ↔ q.IsCounted) :
    ∃ counted : Finset ℕ, (∀ d, d ∈ counted ↔ ((s.goTo c p).phase d).IsCounted) ∧
      (s.goTo c p).refCount = counted.card := by
  obtain ⟨counted, hcounted, hcard⟩ := h
  exact ⟨counted, forall_goTo (Q := fun d p => d ∈ counted ↔ p.IsCounted)
    ((hcounted c).trans (hphase ▸ hp.symm)) fun d _ => hcounted d, hcard⟩

/-- At most one connection has the mutex, whatever steps are taken. -/
lemma mutex_step {a : ConnectionStep} (h : ∀ d, (s.phase d).HasMutex ↔ s.mutex = some d)
    (hstep : s.step a = some s') : ∀ d, (s'.phase d).HasMutex ↔ s'.mutex = some d := by
  have hself := h a.connection
  cases hphase : s.phase a.connection with
  | waiting =>
    simp only [step, hphase] at hstep
    split at hstep
    · next hfree =>
      obtain rfl := Option.some.inj hstep
      refine forall_goTo (Q := fun d p => p.HasMutex ↔ some a.connection = some d) ?_ ?_
      · simp [Phase.HasMutex]
      · intro d hd
        rw [show ({ s with mutex := some a.connection } : AwsSdk).phase d = s.phase d from rfl, h d, hfree]
        simp [Ne.symm hd]
    · cases hstep
  | unlocking =>
    simp only [step, hphase] at hstep
    obtain rfl := Option.some.inj hstep
    have hheld : s.mutex = some a.connection := hself.mp (by rw [hphase]; simp [Phase.HasMutex])
    refine forall_goTo (Q := fun d p => p.HasMutex ↔ none = some d) (by simp [Phase.HasMutex]) ?_
    intro d hd
    rw [show ({ s with mutex := none } : AwsSdk).phase d = s.phase d from rfl, h d, hheld]
    simp [Ne.symm hd]
  | gone => simp [step, hphase] at hstep
  | absent | locked | closing =>
    simp only [step, hphase] at hstep
    obtain rfl := Option.some.inj hstep
    refine mutex_goTo h hphase ?_
    split <;> simp [Phase.HasMutex]
  | initialising | initialised | counting | live | shutting | resetting =>
    simp only [step, hphase] at hstep
    obtain rfl := Option.some.inj hstep
    exact mutex_goTo h hphase (by simp [Phase.HasMutex])

/-- The connections that are counted are as many as the count, whatever steps are taken. -/
lemma count_step {a : ConnectionStep}
    (h : ∃ counted : Finset ℕ, (∀ d, d ∈ counted ↔ (s.phase d).IsCounted) ∧ s.refCount = counted.card)
    (hstep : s.step a = some s') :
    ∃ counted : Finset ℕ, (∀ d, d ∈ counted ↔ (s'.phase d).IsCounted) ∧
      s'.refCount = counted.card := by
  cases hphase : s.phase a.connection with
  | counting =>
    simp only [step, hphase] at hstep
    obtain rfl := Option.some.inj hstep
    obtain ⟨counted, hcounted, hcard⟩ := h
    have hnot : a.connection ∉ counted := by rw [hcounted, hphase]; simp [Phase.IsCounted]
    refine ⟨insert a.connection counted, ?_, ?_⟩
    · refine forall_goTo (Q := fun d p => d ∈ insert a.connection counted ↔ p.IsCounted) ?_ ?_
      · simp [Phase.IsCounted]
      · intro d hd
        rw [Finset.mem_insert, or_iff_right hd]
        exact hcounted d
    · rw [Finset.card_insert_of_notMem hnot, Int.natCast_add, ← hcard]
      rfl
  | closing =>
    simp only [step, hphase] at hstep
    obtain rfl := Option.some.inj hstep
    obtain ⟨counted, hcounted, hcard⟩ := h
    have hmem : a.connection ∈ counted := by rw [hcounted, hphase]; simp [Phase.IsCounted]
    refine ⟨counted.erase a.connection, ?_, ?_⟩
    · refine forall_goTo (Q := fun d p => d ∈ counted.erase a.connection ↔ p.IsCounted) ?_ ?_
      · split <;> simp [Phase.IsCounted]
      · intro d hd
        rw [Finset.mem_erase, and_iff_right hd]
        exact hcounted d
    · have hpos := Finset.card_pos.mpr ⟨_, hmem⟩
      rw [Finset.card_erase_of_mem hmem]
      change s.refCount - 1 = _
      omega
  | gone => simp [step, hphase] at hstep
  | waiting =>
    simp only [step, hphase] at hstep
    split at hstep
    · obtain rfl := Option.some.inj hstep
      exact count_goTo h hphase (by simp [Phase.IsCounted])
    · cases hstep
  | absent | locked =>
    simp only [step, hphase] at hstep
    obtain rfl := Option.some.inj hstep
    refine count_goTo h hphase ?_
    split <;> simp [Phase.IsCounted]
  | initialising | initialised | unlocking | live | shutting | resetting =>
    simp only [step, hphase] at hstep
    obtain rfl := Option.some.inj hstep
    exact count_goTo h hphase (by simp [Phase.IsCounted])

/-- A connection that goes on where the stage admits it. -/
lemma stage_goTo (stage : Stage) (hshared : stage.Shared s) (hadmits : ∀ d, stage.Admits d (s.phase d))
    (hp : stage.Admits c p) :
    ∃ stage : Stage, stage.Shared (s.goTo c p) ∧ ∀ d, stage.Admits d ((s.goTo c p).phase d) :=
  ⟨stage, by cases stage <;> exact hshared,
    forall_goTo (Q := fun d p => stage.Admits d p) hp fun d _ => hadmits d⟩

/-- A look at the flag while the SDK is shut down is not safe. -/
lemma not_leaving_of_flag (hready : s.awsSDKReady = true)
    (hsafe : s.awsSDKReady = true → ∀ d, s.phase d ≠ .shutting ∧ s.phase d ≠ .resetting) {e : ℕ} :
    ¬ (Stage.leaving e).Admits e (s.phase e) ∧ ¬ (Stage.left e).Admits e (s.phase e) := by
  have := hsafe hready e
  simp [Stage.Admits, this]

/-- Of the connections at the stage up, the only one that is counted is the last one. -/
lemma Inv.not_isCounted_of_last (h : s.Inv) (hc : (s.phase c).IsCounted) (hlast : s.refCount = 1) {d : ℕ}
    (hd : d ≠ c) : ¬ (s.phase d).IsCounted := by
  obtain ⟨counted, hcounted, hcard⟩ := h.count
  have hone : counted.card = 1 := by omega
  obtain ⟨e, rfl⟩ := Finset.card_eq_one.mp hone
  intro hother
  have hce := Finset.mem_singleton.mp ((hcounted c).mpr hc)
  have hde := Finset.mem_singleton.mp ((hcounted d).mpr hother)
  exact hd (hde.trans hce.symm)

/-- A safe step leads from a stage to the same or to the next one, and the calls go on to alternate. -/
lemma Inv.stage_step (h : s.Inv) {a : ConnectionStep} (hsafe : s.IsSafe a) (hstep : s.step a = some s') :
    (∃ stage : Stage, stage.Shared s' ∧ ∀ d, stage.Admits d (s'.phase d)) ∧ Alternate s'.calls := by
  obtain ⟨stage, hshared, hadmits⟩ := h.stage
  have hc := hadmits a.connection
  cases hphase : s.phase a.connection with
  | absent =>
    simp only [step, hphase] at hstep
    obtain rfl := Option.some.inj hstep
    refine ⟨stage_goTo stage hshared hadmits ?_, h.alternate⟩
    simp only [IsSafe, hphase] at hsafe
    rw [hphase] at hc
    cases stage with
    | down => simp [Stage.Admits, hshared.1]
    | raised e =>
      have hne : a.connection ≠ e := fun he => by simp [Stage.Admits, he] at hc
      simp [Stage.Admits, hshared.1, hne]
    | up => simp [Stage.Admits, hshared.1]
    | leaving e => exact absurd (hadmits e) (not_leaving_of_flag hshared.1 hsafe).1
    | left e => exact absurd (hadmits e) (not_leaving_of_flag hshared.1 hsafe).2
  | waiting =>
    simp only [step, hphase] at hstep
    split at hstep
    · next hfree =>
      obtain rfl := Option.some.inj hstep
      refine ⟨stage_goTo stage hshared hadmits ?_, h.alternate⟩
      rw [hphase] at hc
      cases stage with
      | down | up => simp [Stage.Admits]
      | raised e =>
        -- the connection that initialised the SDK has the mutex
        have he : s.phase e = .initialised := by simpa [Stage.Admits] using hadmits e
        have hheld := (h.mutex e).mp (by simp [he, Phase.HasMutex])
        rw [hfree] at hheld
        contradiction
      | leaving e | left e =>
        have hne : a.connection ≠ e := fun he => by simp [Stage.Admits, he] at hc
        simp [Stage.Admits, hne]
    · cases hstep
  | locked =>
    simp only [step, hphase] at hstep
    obtain rfl := Option.some.inj hstep
    refine ⟨stage_goTo stage hshared hadmits ?_, h.alternate⟩
    simp only [IsSafe, hphase] at hsafe
    rw [hphase] at hc
    cases stage with
    | down | up => simp [Stage.Admits, hshared.1]
    | raised e => exact absurd hc (by simp [Stage.Admits])
    | leaving e => exact absurd (hadmits e) (not_leaving_of_flag hshared.1 hsafe).1
    | left e => exact absurd (hadmits e) (not_leaving_of_flag hshared.1 hsafe).2
  | initialising =>
    simp only [step, hphase] at hstep
    obtain rfl := Option.some.inj hstep
    rw [hphase] at hc
    cases stage with
    | down =>
      refine ⟨⟨.raised a.connection, ⟨hshared.1, _, rfl⟩, ?_⟩, ?_, h.alternate⟩
      · refine forall_goTo (Q := fun d p => (Stage.raised a.connection).Admits d p) ?_ ?_
        · simp [Stage.Admits]
        · intro d hd
          -- no other connection has the mutex
          have hheld := (h.mutex a.connection).mp (by simp [hphase, Phase.HasMutex])
          have hnot : ¬ (s.phase d).HasMutex := by
            rw [h.mutex d, hheld]
            simp [Ne.symm hd]
          have hd' := hadmits d
          change (Stage.raised a.connection).Admits d (s.phase d)
          revert hnot hd'
          simp only [Stage.Admits, if_neg hd]
          cases s.phase d <;> simp [Phase.HasMutex]
      · intro options hhead
        exact hshared.2 ⟨options, hhead⟩
    | up => exact absurd hc (by simp [Stage.Admits])
    | raised e | leaving e | left e =>
      exact absurd hc (by simp [Stage.Admits])
  | initialised =>
    simp only [step, hphase] at hstep
    obtain rfl := Option.some.inj hstep
    rw [hphase] at hc
    cases stage with
    | raised e =>
      refine ⟨⟨.up, ⟨rfl, hshared.2⟩, ?_⟩, h.alternate⟩
      refine forall_goTo (Q := fun d p => Stage.up.Admits d p) (by simp [Stage.Admits]) ?_
      intro d hd
      have he : a.connection = e := by
        by_contra hne
        simp [Stage.Admits, hne] at hc
      have hd' := hadmits d
      change Stage.up.Admits d (s.phase d)
      revert hd'
      simp only [Stage.Admits, if_neg (he ▸ hd)]
      cases s.phase d <;> simp
    | down | up => exact absurd hc (by simp [Stage.Admits])
    | leaving e | left e => exact absurd hc (by simp [Stage.Admits])
  | unlocking | counting | live =>
    simp only [step, hphase] at hstep
    obtain rfl := Option.some.inj hstep
    rw [hphase] at hc
    cases stage with
    | up => exact ⟨stage_goTo .up hshared hadmits (by simp [Stage.Admits]), h.alternate⟩
    | down => exact absurd hc (by simp [Stage.Admits])
    | raised e | leaving e | left e => exact absurd hc (by simp [Stage.Admits])
  | closing =>
    simp only [step, hphase] at hstep
    obtain rfl := Option.some.inj hstep
    rw [hphase] at hc
    simp only [IsSafe, hphase] at hsafe
    cases stage with
    | up =>
      refine ⟨?_, h.alternate⟩
      split
      · next hlast =>
        obtain ⟨hnone, hoptions⟩ := hsafe (by omega)
        refine ⟨.leaving a.connection, ⟨hshared.1, hoptions⟩, ?_⟩
        refine forall_goTo (Q := fun d p => (Stage.leaving a.connection).Admits d p) ?_ ?_
        · simp [Stage.Admits]
        · intro d hd
          have hnot := h.not_isCounted_of_last (c := a.connection) (by simp [hphase, Phase.IsCounted])
            (by omega) hd
          have hd' := hadmits d
          have hnone' := hnone d
          change (Stage.leaving a.connection).Admits d (s.phase d)
          revert hnot hd' hnone'
          simp only [Stage.Admits, if_neg hd]
          cases s.phase d <;> simp [Phase.IsCounted]
      · exact stage_goTo (s := { s with refCount := s.refCount - 1 }) .up hshared hadmits
          (by simp [Stage.Admits])
    | down => exact absurd hc (by simp [Stage.Admits])
    | raised e | leaving e | left e => exact absurd hc (by simp [Stage.Admits])
  | shutting =>
    simp only [step, hphase] at hstep
    obtain rfl := Option.some.inj hstep
    rw [hphase] at hc
    cases stage with
    | leaving e =>
      obtain rfl : a.connection = e := by
        by_contra hne
        simp [Stage.Admits, hne] at hc
      refine ⟨⟨.left a.connection, ⟨hshared.1, ?_⟩, ?_⟩, hshared.2, h.alternate⟩
      · rintro ⟨options, hhead⟩
        simp [goTo] at hhead
      · refine forall_goTo (Q := fun d p => (Stage.left a.connection).Admits d p) ?_ ?_
        · simp [Stage.Admits]
        · intro d hd
          have hd' := hadmits d
          simp only [Stage.Admits, if_neg hd] at hd' ⊢
          exact hd'
    | down | up => exact absurd hc (by simp [Stage.Admits])
    | raised e | left e => exact absurd hc (by simp [Stage.Admits])
  | resetting =>
    simp only [step, hphase] at hstep
    obtain rfl := Option.some.inj hstep
    rw [hphase] at hc
    cases stage with
    | left e =>
      obtain rfl : a.connection = e := by
        by_contra hne
        simp [Stage.Admits, hne] at hc
      refine ⟨⟨.down, ⟨rfl, hshared.2⟩, ?_⟩, h.alternate⟩
      refine forall_goTo (Q := fun d p => Stage.down.Admits d p) (by simp [Stage.Admits]) ?_
      intro d hd
      have hd' := hadmits d
      change Stage.down.Admits d (s.phase d)
      revert hd'
      simp only [Stage.Admits, if_neg hd]
      cases s.phase d <;> simp
    | down | up => exact absurd hc (by simp [Stage.Admits])
    | raised e | leaving e => exact absurd hc (by simp [Stage.Admits])
  | gone => simp [step, hphase] at hstep

end Steps

/-! ## Runs -/

/-- Before the first connection the SDK is down. -/
lemma inv_new (newOptions : AwsLogLevel) : (new newOptions).Inv where
  stage := ⟨.down, ⟨rfl, by simp [IsInitialised, new]⟩, fun d => by simp [Stage.Admits, new]⟩
  mutex := fun d => by simp [Phase.HasMutex, new]
  count := ⟨∅, fun d => by simp [Phase.IsCounted, new], rfl⟩
  alternate := trivial

/-- A connection that lives does so while the SDK is up. -/
lemma Inv.servesConnections {s : AwsSdk} (h : s.Inv) : s.ServesConnections := by
  obtain ⟨stage, hshared, hadmits⟩ := h.stage
  refine ⟨?_, h.alternate⟩
  intro c hlive
  have hc := hadmits c
  rw [hlive] at hc
  cases stage with
  | up => exact hshared.2
  | down => exact absurd hc (by simp [Stage.Admits])
  | raised e | leaving e | left e => exact absurd hc (by simp [Stage.Admits])

/-- In every state of a run of safe steps, the SDK is initialised while a connection lives, and the calls
alternate with the same options. -/
theorem servesConnections_run (newOptions : AwsLogLevel) {as : List ConnectionStep} {s : AwsSdk}
    (hsafe : TransitionSystem.Meets IsSafe step (new newOptions) as)
    (hrun : TransitionSystem.run step (new newOptions) as = some s) : s.ServesConnections := by
  refine Inv.servesConnections ?_
  refine TransitionSystem.invariant_run_meets ?_ hsafe (inv_new newOptions) hrun
  intro s a s' hsafe h hstep
  obtain ⟨hstage, halternate⟩ := h.stage_step hsafe hstep
  exact ⟨hstage, mutex_step h.mutex hstep, count_step h.count hstep, halternate⟩

/-- A number of steps of one connection. -/
def steps (connection count : ℕ) : List ConnectionStep := List.replicate count ⟨connection, []⟩

/-- A connection that is constructed and destroyed. -/
theorem servesConnections_run_one :
    ∃ s, TransitionSystem.run step (new .off) (steps 0 11) = some s ∧ s.phase 0 = .gone ∧
      s.ServesConnections := by
  have hrun : (TransitionSystem.run step (new .off) (steps 0 11)).map (fun s => s.phase 0) =
      some .gone := by decide
  obtain ⟨s, hs, hgone⟩ := Option.map_eq_some_iff.mp hrun
  refine ⟨s, hs, hgone, servesConnections_run .off ?_ hs⟩
  refine (TransitionSystem.meets_cons rfl).mpr ⟨fun h => absurd h (by decide), ?_⟩
  refine (TransitionSystem.meets_cons rfl).mpr ⟨trivial, ?_⟩
  refine (TransitionSystem.meets_cons rfl).mpr ⟨fun h => absurd h (by decide), ?_⟩
  refine (TransitionSystem.meets_cons rfl).mpr ⟨trivial, ?_⟩
  refine (TransitionSystem.meets_cons rfl).mpr ⟨trivial, ?_⟩
  refine (TransitionSystem.meets_cons rfl).mpr ⟨trivial, ?_⟩
  refine (TransitionSystem.meets_cons rfl).mpr ⟨trivial, ?_⟩
  refine (TransitionSystem.meets_cons rfl).mpr ⟨trivial, ?_⟩
  refine (TransitionSystem.meets_cons rfl).mpr ⟨fun _ => ⟨?_, rfl⟩, ?_⟩
  · intro d
    by_cases hd : d = 0 <;> simp [goTo, new, hd]
  · refine (TransitionSystem.meets_cons rfl).mpr ⟨trivial, ?_⟩
    exact (TransitionSystem.meets_cons rfl).mpr ⟨trivial, trivial⟩

/-- The last connection shuts the SDK down while another one is between its look at the flag and its
count, and lives without the SDK after that; and of two connections, the last one shuts the SDK down
with its own options, which are not those that the first one has initialised it with. -/
theorem not_servesConnections :
    ¬ (∀ (newOptions : AwsLogLevel) (as : List ConnectionStep) (s : AwsSdk),
        TransitionSystem.run step (new newOptions) as = some s →
          ∀ c, s.phase c = .live → s.IsInitialised) ∧
      ¬ ∀ (newOptions : AwsLogLevel) (as : List ConnectionStep) (s : AwsSdk),
        TransitionSystem.run step (new newOptions) as = some s → Alternate s.calls := by
  constructor
  · intro h
    have hrun : (TransitionSystem.run step (new .off)
        (steps 0 7 ++ steps 1 1 ++ steps 0 3 ++ steps 1 1)).map (fun s => (s.phase 1, s.calls)) =
          some (.live, [.shutdownAPI .warn, .initAPI .warn]) := by decide
    obtain ⟨s, hs, hstate⟩ := Option.map_eq_some_iff.mp hrun
    obtain ⟨hlive, hcalls⟩ := Prod.mk.inj hstate
    obtain ⟨options, hhead⟩ := h _ _ s hs 1 hlive
    rw [hcalls] at hhead
    exact absurd hhead (by simp)
  · intro h
    have hrun : (TransitionSystem.run step (new .off)
        (steps 0 7 ++ steps 1 2 ++ steps 0 2 ++ steps 1 3)).map AwsSdk.calls =
          some [.shutdownAPI .off, .initAPI .warn] := by decide
    obtain ⟨s, hs, hcalls⟩ := Option.map_eq_some_iff.mp hrun
    have halternate := h _ _ s hs
    rw [hcalls] at halternate
    exact absurd halternate.1 (by simp)

end AwsSdk

end TimestreamOdbc
