import DeviceStandby.State.Evaluation
import DeviceStandby.State.History

/-!
# Requests and the results that answer them

`EndEvalCurrentState` carries no request: the current state object takes a result for the answer to
what it would itself ask next (`consumedRequest`, and `stateEndEval_spec` for what it does with it).
`Answered` says of a history that this guess was right every time. It stays right in the runs whose
steps meet `KeepsRequest` (`results_answer_requests`); each of its conditions rules out one way in
which the state or its phase moves on between a request and its result.
-/

namespace DeviceStandby

open Relation

/-! ## Requests and their answers -/

/-- The latest request of the history. -/
def lastRequest : List Trace → Option ConstraintEvalParam
  | [] => none
  | .startEval params :: _ => some params
  | _ :: rest => lastRequest rest

/-- The latest request that the constraint manager took. -/
def lastAccepted : List Trace → Option ConstraintEvalParam
  | [] => none
  | .acceptEval params :: _ => some params
  | _ :: rest => lastAccepted rest

/-- Every result was taken as the answer to the latest request, which is the one that was being
evaluated. -/
def Answered : List Trace → Prop
  | [] => True
  | .endEval consumed :: rest =>
    (consumed ≠ none ∧ lastRequest rest = consumed ∧ lastAccepted rest = consumed) ∧ Answered rest
  | _ :: rest => Answered rest

instance Answered.decidable : DecidablePred Answered
  | [] => inferInstanceAs (Decidable True)
  | entry :: rest =>
    have : Decidable (Answered rest) := Answered.decidable rest
    match entry with
    | .endEval consumed => inferInstanceAs (Decidable ((consumed ≠ none ∧
        lastRequest rest = consumed ∧ lastAccepted rest = consumed) ∧ Answered rest))
    | .handled _ | .dispatched _ | .transited .. | .sleepRebegun | .startEval _ | .acceptEval _ =>
      inferInstanceAs (Decidable (Answered rest))

/-- The entries that `Answered` reads. -/
def Trace.isEval : Trace → Bool
  | .startEval _ | .acceptEval _ | .endEval _ => true
  | _ => false

/-- Other entries change nothing. -/
theorem answered_append {entries : List Trace} (trace : List Trace)
    (h : ∀ entry ∈ entries, entry.isEval = false) :
    lastRequest (entries ++ trace) = lastRequest trace ∧
      lastAccepted (entries ++ trace) = lastAccepted trace ∧
      (Answered (entries ++ trace) ↔ Answered trace) := by
  induction entries with
  | nil => exact ⟨rfl, rfl, Iff.rfl⟩
  | cons entry entries ih =>
    have hentry := h entry List.mem_cons_self
    obtain ⟨h1, h2, h3⟩ := ih fun e he => h e (List.mem_cons_of_mem _ he)
    cases entry with
    | startEval | acceptEval | endEval => cases hentry
    | handled | dispatched | transited | sleepRebegun => exact ⟨h1, h2, h3⟩

/-- The state for which the state object of a state takes a result. -/
def evaluatedState (cfg : StandbyConfig) : StandbyState → StandbyState
  | .working => .dark
  | .dark => cfg.darkNextState
  | .nap => .sleep
  | state => state

/-- A transition task of `state` calls `EnterStandby`. -/
structure Enters (cfg : StandbyConfig) (s : Service) (state : StandbyState) : Prop where
  curState : s.curState ≠ .maintenance
  nextState : nextStateOf cfg state s ≠ .maintenance
  lt : s.curState.toNat < (nextStateOf cfg state s).toNat
  isBlocked : s.isBlocked = false

/-- The step asks for nothing that the current state would take for another request, and it neither
changes the state or phase under a running evaluation nor stops the service during one. -/
structure KeepsRequest (cfg : StandbyConfig) (s : Service) (a : Action) : Prop where
  /-- A transition task enters the state that the current one evaluates, from NAP after its last
  phase. -/
  transit : ∀ state p, a = .runTask (.transitNextState state) p → Enters cfg s state →
    nextStateOf cfg state s = evaluatedState cfg s.curState ∧
      (s.curState = .nap → s.napState.curPhase = NapStatePhase.END)
  /-- A phase task runs before the last phase has ended. -/
  napPhase : ∀ acquire p, a = .runTask (.transitToNapPhase acquire) p →
    s.napState.curPhase ≠ NapStatePhase.END
  sleepPhase : ∀ acquire p, a = .runTask (.transitToSleepPhase acquire) p →
    s.sleepState.curPhase < SleepStatePhase.END
  /-- The repeated detection runs in the last phase of SLEEP. -/
  repeated : ∀ p, a = .runTask .repeatedDetection p →
    s.curState = .sleep ∧ s.sleepState.curPhase = SleepStatePhase.END
  /-- No event holds the device asleep from another state during an evaluation. -/
  hold : ∀ action, Handles s a action → action.isHold = true →
    action = .enterForceSleep ∨ s.isScreenOn = false → s.curState ≠ .sleep →
      s.isEvalution = false
  /-- No user-sleep-false event resets the phase of SLEEP during an evaluation. -/
  rebegin : Handles s a (.userSleepStateChanged (some false)) → s.isScreenOn = false →
    s.curState = .sleep → s.preState ≠ .maintenance → s.isEvalution = false
  uninit : UninitIdle s a

section
variable {cfg : StandbyConfig} {s₀ : Service} {a : Action} {s t : Service}

/-- Under `KeepsRequest` the current state takes a result as the answer to what is asked. -/
theorem Request.consumed {params : ConstraintEvalParam} (hown : OwnTasks s₀)
    (hok : KeepsRequest cfg s₀ a) (h : Request cfg s₀ a s params) :
    consumedRequest cfg s = some params := by
  cases h with
  | @enter nextState hask hcur hnext hlt hblocked hfree =>
    cases hask with
    | wake => exact absurd hlt (Nat.not_lt_zero _)
    | dark hw => simp [consumedRequest, Service.curInnerPhase, hw]
    | @task state p ha hmem hsame =>
      rw [hsame.curState] at hcur hlt
      rcases hfree with hdark | hfree
      · -- only WORKING lies below DARK
        rw [hdark] at hlt ⊢
        have hw : s.curState = .working := by
          rw [hsame.curState]
          exact StandbyState.toNat_inj (Nat.lt_one_iff.1 hlt)
        simp [consumedRequest, Service.curInnerPhase, hw]
      · obtain ⟨heq, hend⟩ := hok.transit state p ha ⟨hcur, hnext, hlt, hfree⟩
        rw [heq] at hlt ⊢
        rw [← hsame.curState] at hcur hlt hend ⊢
        rw [← hsame.napState] at hend
        cases hs : s.curState with
        | working => simp [consumedRequest, Service.curInnerPhase, hs, evaluatedState]
        | dark => simp [consumedRequest, Service.curInnerPhase, hs, evaluatedState]
        | nap =>
          simp [consumedRequest, Service.curInnerPhase, hs, evaluatedState, hend hs]
        | maintenance => exact absurd hs hcur
        | sleep =>
          rw [hs] at hlt
          exact absurd hlt (Nat.lt_irrefl _)
  | @napPhase acquire p ha hmem hsame =>
    have hphase := hok.napPhase acquire p ha
    rw [← hsame.napState] at hphase
    have hcur : s.curState = .nap := hsame.curState.trans (hown.napPhase acquire hmem)
    simp [consumedRequest, hcur, hphase]
  | @sleepPhase acquire p ha hmem hsame =>
    have hphase := hok.sleepPhase acquire p ha
    rw [← hsame.sleepPhase] at hphase
    have hcur : s.curState = .sleep := hsame.curState.trans (hown.sleepPhase acquire hmem)
    simp [consumedRequest, hcur, hphase]
  | @repeated p ha hmem hsame =>
    obtain ⟨hcur, hphase⟩ := hok.repeated p ha
    rw [← hsame.curState] at hcur
    rw [← hsame.sleepPhase] at hphase
    simp [consumedRequest, hcur, hphase]

/-- What a running evaluation is taken to answer changes with the state only, or when SLEEP begins
anew. -/
theorem Effect.consumed (he : Effect cfg s₀ a s t) (hev : t.isEvalution = true) :
    consumedRequest cfg t = consumedRequest cfg s ∨ (∃ nextState, Transition cfg s₀ a s nextState) ∨
      (Handles s₀ a (.userSleepStateChanged (some false)) ∧ s₀.isScreenOn = false ∧
        s₀.curState = .sleep ∧ s₀.preState ≠ .maintenance ∧ s₀.isEvalution = true) ∨
      (s.isServiceReady = false ∧ consumedRequest cfg t = some chargeParams) := by
  cases he with
  | @record _ action queue p =>
    obtain ⟨_, _, _, h⟩ := recordEvent_frame cfg p action { s with handler.queue := queue }
    rw [h]
    exact .inl rfl
  | block p =>
    obtain ⟨_, _, _, h⟩ := blockCurrentState_frame cfg p s
    rw [h]
    exact .inl rfl
  | stop =>
    obtain ⟨_, _, _, _, h⟩ := stopEvalution_frame (s := s)
    rw [h]
    exact .inl rfl
  | finish =>
    obtain ⟨_, _, _, h⟩ := finishEvalution_frame (s := s)
    rw [h]
    exact .inl rfl
  | halfHour c =>
    obtain ⟨_, _, _, h⟩ := onScreenOffHalfHourInner_frame (c := c) (r := false) (s := s)
    rw [h]
    exact .inl rfl
  | transit p htr => exact .inr (.inl ⟨_, htr⟩)
  | @napPhase _ evalResult _ _ _ hidle =>
    obtain ⟨_, _, _, h⟩ := NapState.setPhaseTransitTask_frame evalResult s
    rw [h, hidle] at hev
    cases hev
  | @sleepPhase p _ evalResult _ _ _ hidle =>
    obtain ⟨_, _, _, _, h⟩ := SleepState.endEvalPhase_frame cfg p evalResult s
    rw [h, hidle] at hev
    cases hev
  | @rebegin p _ ha hcur hsame hpre hs hscreen =>
    obtain ⟨hphase, -⟩ := SleepState.beginState_sleepState cfg p (s.log .sleepRebegun)
    obtain ⟨_, _, _, _, _, h⟩ := SleepState.beginState_frame cfg p (s.log .sleepRebegun)
    by_cases hm : s.preState = .maintenance
    · left
      have hphase' : (SleepState.beginState cfg p (s.log .sleepRebegun)).sleepState.curPhase =
          s.sleepState.curPhase := hphase.trans (if_pos hm)
      have hcur' : (SleepState.beginState cfg p (s.log .sleepRebegun)).curState = .sleep := by
        rw [h]
        exact hcur
      simp only [consumedRequest, hcur', hcur, hphase']
    · refine .inr (.inr (.inl ⟨ha, hscreen, hsame.symm.trans hcur, hpre ▸ hm, ?_⟩))
      rw [h] at hev
      exact hs.symm.trans hev
  | callback _ _ hne =>
    obtain ⟨_, hrun, -⟩ := runCallback_frame (s := { s with
      timeService.callbacks := s.timeService.callbacks.erase _ }) hne
    rw [hrun]
    exact .inl rfl
  | fire hfire =>
    obtain ⟨_, rfl⟩ := timerFire_frame hfire
    exact .inl rfl
  | @init p _ hready =>
    obtain ⟨_, _, h⟩ := initReadyState_frame cfg p hready
    rw [h]
    exact .inr (.inr (.inr ⟨hready, rfl⟩))
  | resetStates =>
    obtain ⟨_, _, h⟩ := StateManagerAdapter.resetStates_frame cfg s
    rw [h]
    exact .inl rfl
  | unblock | startRejected | startAccepted | startMotion | startSensor | startSensorFailed
  | setRepeated | runningLock | sleepFlag | holdTimers | skip | takeTask | stopDetection
  | takeHalfHour | sensorEvent | post | conditionChanged | unInitConstraints => exact .inl rfl

/-- Results so far were answers, and a running evaluation is of the latest request, which is what
the current state will take its result to answer. -/
structure Matched (cfg : StandbyConfig) (s : Service) : Prop where
  answered : Answered s.trace
  current : s.isEvalution = true → ∃ params, consumedRequest cfg s = some params ∧
    lastRequest s.trace = some params ∧ lastAccepted s.trace = some params

/-- Under `KeepsRequest` a transition happens between evaluations only. -/
theorem Transition.idle {nextState : StandbyState} (hok : KeepsRequest cfg s₀ a)
    (h : Transition cfg s₀ a s nextState) (hm : Matched cfg s) : s.isEvalution = false := by
  cases h with
  | exit _ _ _ _ _ hev => exact hev
  | maint _ hne hmaint _ hev =>
    rcases hev with rfl | hev
    · -- MAINTENANCE takes no results
      have hcur : s.curState = .maintenance := hmaint.resolve_left nofun
      refine Bool.eq_false_iff.2 fun hev => ?_
      obtain ⟨params, hc, -⟩ := hm.current hev
      rw [consumedRequest, hcur] at hc
      cases hc
    · exact hev
  | workingResult _ _ hev => exact hev
  | darkResult _ _ _ hev => exact hev
  | napResult _ _ hev => exact hev
  | hold ha hhold _ hcur hsame _ hev hscreen =>
    rw [hev]
    exact hok.hold _ ha hhold hscreen (hsame ▸ hcur)

/-- A silent step asks for nothing and tells no result. -/
theorem Silent.isEval {entries : List Trace} (h : Silent entries) :
    ∀ entry ∈ entries, entry.isEval = false := by
  intro entry hmem
  obtain ⟨_, rfl, -⟩ := h entry hmem
  rfl

/-- Nor does a message that is logged while a condition holds. -/
theorem isEval_dispatched {c : Prop} [Decidable c] {message : StandbyMessage} :
    ∀ entry ∈ (if c then [Trace.dispatched message] else []), entry.isEval = false := by
  intro entry hmem
  rw [List.mem_singleton.1 (List.mem_ite_nil_right.1 hmem).2]
  rfl

/-- Over an effect that asks for nothing, the request in the history stays the one that the current
state takes a result to answer. -/
theorem Matched.still (hok : KeepsRequest cfg s₀ a) (he : Effect cfg s₀ a s t) (hb : Basic s)
    (h : Matched cfg s) (ht : t.isEvalution = true) (hs : s.isEvalution = true)
    (hrequest : lastRequest t.trace = lastRequest s.trace)
    (haccepted : lastAccepted t.trace = lastAccepted s.trace) :
    ∃ params, consumedRequest cfg t = some params ∧ lastRequest t.trace = some params ∧
      lastAccepted t.trace = some params := by
  obtain ⟨params, hc, hr, ha⟩ := h.current hs
  refine ⟨params, ?_, hrequest.trans hr, haccepted.trans ha⟩
  rcases he.consumed ht with heq | ⟨nextState, htr⟩ | ⟨hh, hscreen, hcur, hpre, hev⟩ | ⟨hn, heq⟩
  · rw [heq, hc]
  · rw [htr.idle hok h] at hs
    cases hs
  · rw [hok.rebegin hh hscreen hcur hpre] at hev
    cases hev
  · rw [heq, ← hc, consumedRequest, hb.notReady hn]

/-- An effect that asks for nothing and tells no result keeps `Matched`. -/
theorem Matched.neutral (hok : KeepsRequest cfg s₀ a) (he : Effect cfg s₀ a s t) (hb : Basic s)
    (h : Matched cfg s) {entries : List Trace} (htrace : t.trace = entries ++ s.trace)
    (hneutral : ∀ entry ∈ entries, entry.isEval = false)
    (hev : t.isEvalution = true → s.isEvalution = true) : Matched cfg t := by
  obtain ⟨hrequest, haccepted, hanswered⟩ := answered_append s.trace hneutral
  rw [← htrace] at hrequest haccepted hanswered
  exact ⟨hanswered.2 h.answered, fun ht => h.still hok he hb ht (hev ht) hrequest haccepted⟩

/-- A request that is refused is the one that is being evaluated. -/
theorem Matched.rejected {params : ConstraintEvalParam} (hown : OwnTasks s₀)
    (hok : KeepsRequest cfg s₀ a) (hb : Basic s) (h : Matched cfg s)
    (hreq : Request cfg s₀ a s params) (hbusy : s.constraintManager.isEvaluation = true)
    (hsame : consumedRequest cfg t = consumedRequest cfg s)
    (htrace : t.trace = .startEval params :: s.trace) : Matched cfg t := by
  have hc : consumedRequest cfg s = some params := hreq.consumed hown hok
  obtain ⟨params', hc', -, ha⟩ := h.current (hb.evaluation hbusy)
  obtain rfl : params' = params := Option.some.inj (hc'.symm.trans hc)
  refine ⟨by rw [htrace]; exact h.answered, fun _ => ⟨params', hsame.trans hc, ?_, ?_⟩⟩
  · rw [htrace]
    rfl
  · rw [htrace]
    exact ha

/-- A request that is accepted is what the current state takes a result to answer. -/
theorem Matched.accepted {params : ConstraintEvalParam} (hown : OwnTasks s₀)
    (hok : KeepsRequest cfg s₀ a) (h : Matched cfg s) (hreq : Request cfg s₀ a s params)
    (hsame : consumedRequest cfg t = consumedRequest cfg s)
    (htrace : t.trace = .acceptEval params :: .startEval params :: s.trace) : Matched cfg t := by
  refine ⟨by rw [htrace]; exact h.answered,
    fun _ => ⟨params, hsame.trans (hreq.consumed hown hok), ?_, ?_⟩⟩
  · rw [htrace]
    rfl
  · rw [htrace]
    rfl

/-- A result answers the request that was being evaluated. -/
theorem Matched.ended (h : Matched cfg s) (hev : s.isEvalution = true) (ht : t.isEvalution = false)
    (htrace : t.trace = .endEval (consumedRequest cfg s) :: s.trace) : Matched cfg t := by
  obtain ⟨params, hc, hr, ha⟩ := h.current hev
  refine ⟨?_, fun hev' => ?_⟩
  · rw [htrace]
    refine ⟨⟨?_, hr.trans hc.symm, ha.trans hc.symm⟩, h.answered⟩
    rw [hc]
    nofun
  · rw [ht] at hev'
    cases hev'

/-- An effect keeps `Matched`. -/
theorem Matched.effect (hown : OwnTasks s₀) (hok : KeepsRequest cfg s₀ a)
    (he : Effect cfg s₀ a s t) (halive : t.crashed = false) (hb : Basic s) (h : Matched cfg s) :
    Matched cfg t := by
  obtain ⟨entries, htrace, hist⟩ := he.history halive
  have hneutral : (∀ entry ∈ entries, entry.isEval = false) →
      (t.isEvalution = true → s.isEvalution = true) → Matched cfg t :=
    h.neutral hok he hb htrace
  cases hist with
  | silent hs hev => exact hneutral hs.isEval hev
  | condition _ _ hev => exact hneutral isEval_dispatched (by rw [hev]; exact id)
  | handled _ _ hev => exact hneutral (by simp [Trace.isEval]) (by rw [hev]; exact id)
  | rejected hreq hbusy hsame => exact h.rejected hown hok hb hreq hbusy hsame htrace
  | accepted hreq hidle hsame => exact h.accepted hown hok hreq hsame htrace
  | ended hev ht => exact h.ended hev ht htrace
  | transited htr ht hs =>
    refine hneutral ?_ fun hev => ?_
    · refine List.forall_mem_append.2 ⟨isEval_dispatched, List.forall_mem_append.2 ⟨hs.isEval, ?_⟩⟩
      simp [Trace.isEval]
    · rw [ht] at hev
      simpa using hev
  | @rebegun p _ _ _ _ _ _ ht hs =>
    obtain ⟨_, _, _, _, _, hf⟩ := SleepState.beginState_frame cfg p (s.log .sleepRebegun)
    refine hneutral (List.forall_mem_append.2 ⟨hs.isEval, by simp [Trace.isEval]⟩) fun hev => ?_
    rw [ht, hf] at hev
    exact hev
  | @napPhase evalResult _ _ _ ht =>
    obtain ⟨_, _, _, hf⟩ := NapState.setPhaseTransitTask_frame evalResult s
    refine hneutral isEval_dispatched fun hev => ?_
    rw [ht, hf] at hev
    exact hev
  | @sleepPhase p evalResult _ _ _ ht =>
    obtain ⟨_, _, _, _, hf⟩ := SleepState.endEvalPhase_frame cfg p evalResult s
    refine hneutral isEval_dispatched fun hev => ?_
    rw [ht, hf] at hev
    exact hev

/-- What the current state does with a result is what `consumedRequest` says: for a request of the
same state it advances the phase, and for another state `true` is the transition to that state,
unless NAP has no next state. -/
theorem stateEndEval_spec {p : Platform} {params : ConstraintEvalParam}
    (h : consumedRequest cfg s = some params) :
    params.curState = s.curState ∧ params.curPhase = s.curInnerPhase ∧
      (params.nextState = s.curState → params.isRepeatedDetection = false → ∀ evalResult,
        (stateEndEval cfg p evalResult s).curState = s.curState ∧
          (stateEndEval cfg p evalResult s).curInnerPhase = params.nextPhase) ∧
      (params.nextState ≠ s.curState →
        (stateEndEval cfg p true s).curState = params.nextState ∨
          (s.curState = .nap ∧ s.napState.nextState = .nap ∧ stateEndEval cfg p true s = s)) := by
  unfold consumedRequest at h
  cases hs : s.curState with
  | working =>
    rw [hs] at h
    cases h
    refine ⟨rfl, by simp [Service.curInnerPhase, hs], (by rintro ⟨⟩), fun _ => .inl ?_⟩
    simp [stateEndEval, hs, WorkingState.endEvalCurrentState]
  | dark =>
    rw [hs] at h
    cases h
    refine ⟨rfl, by simp [Service.curInnerPhase, hs], ?_, ?_⟩
    · intro hnext _ evalResult
      have hcur : (stateEndEval cfg p evalResult s).curState = .dark := by
        simp only [stateEndEval, hs, DarkState.endEvalCurrentState]
        split_ifs with _ hne
        · exact absurd hnext hne
        · exact hs
        · rw [blockCurrentState_curState, hs]
      exact ⟨hcur, by simp [Service.curInnerPhase, hcur]⟩
    · intro hnext
      left
      simp [stateEndEval, hs, DarkState.endEvalCurrentState, hnext]
  | nap =>
    simp only [hs] at h
    split_ifs at h with hphase
    · cases h
      refine ⟨rfl, by simp [Service.curInnerPhase, hs, hphase], (by rintro ⟨⟩), fun _ => ?_⟩
      by_cases hnext : s.napState.nextState = .nap
      · right
        simp [stateEndEval, hs, NapState.endEvalCurrentState, NapState.handleEvalResToSleepState,
          hphase, hnext]
      · left
        simp [stateEndEval, hs, NapState.endEvalCurrentState, NapState.handleEvalResToSleepState,
          hphase, hnext]
    · cases h
      refine ⟨rfl, by simp [Service.curInnerPhase, hs], ?_, fun h => absurd rfl h⟩
      intro _ _ evalResult
      obtain ⟨_, _, _, hf⟩ := NapState.setPhaseTransitTask_frame evalResult s
      have hstep : stateEndEval cfg p evalResult s = NapState.setPhaseTransitTask evalResult s := by
        simp only [stateEndEval, hs, NapState.endEvalCurrentState, if_neg hphase]
      rw [hstep, hf]
      exact ⟨hs, by simp [Service.curInnerPhase, hs]⟩
  | maintenance =>
    rw [hs] at h
    cases h
  | sleep =>
    simp only [hs] at h
    split_ifs at h with hphase
    · cases h
      refine ⟨rfl, by simp [Service.curInnerPhase, hs], ?_, fun h => absurd rfl h⟩
      intro _ _ evalResult
      obtain ⟨_, _, _, _, hf⟩ := SleepState.endEvalPhase_frame cfg p evalResult s
      have hstep :
          stateEndEval cfg p evalResult s = SleepState.endEvalPhase cfg p evalResult s := by
        simp only [stateEndEval, hs, SleepState.endEvalCurrentState, if_pos hphase]
      rw [hstep, hf]
      exact ⟨hs, by simp [Service.curInnerPhase, hs]⟩
    · cases h
      exact ⟨rfl, by simp [Service.curInnerPhase, hs], fun _ => by rintro ⟨⟩,
        fun h => absurd rfl h⟩

/-- In every run whose steps meet `KeepsRequest`, every result was consumed as the answer to the
latest request, and a motion result that is still pending belongs to a running evaluation of the
request that the current state will take it to answer. -/
theorem results_answer_requests (h : Lts.ReachableUnder (system cfg) (KeepsRequest cfg) s) :
    Answered s.trace ∧ ∀ task ∈ s.handler.tasks, task.name = .motionDection →
      ∃ params, lastRequest s.trace = some params ∧ lastAccepted s.trace = some params ∧
        consumedRequest cfg s = some params := by
  have hm : Basic s ∧ Matched cfg s := run_invariant (I := fun s => Basic s ∧ Matched cfg s)
    ⟨.init, trivial, nofun⟩
    (fun hr hok _ _ he halive hi => ⟨hi.1.effect he halive,
      Matched.effect (ownTasks_reachable hr) hok he halive hi.1 hi.2⟩) h
  have hi : Evaluating s := evaluating_reachable (fun hok => hok.uninit) h
  refine ⟨hm.2.answered, fun task hmem hname => ?_⟩
  obtain ⟨m, hsens⟩ := hi.tasks task hmem hname
  obtain ⟨params, hc, hr, ha⟩ := hm.2.current hsens.isEvalution
  exact ⟨params, hr, ha, hc⟩

/-- A test that suffices for `KeepsRequest`: no event is handled during an evaluation, the service
is not stopped, and no repeated detection runs. -/
def requestTest (cfg : StandbyConfig) (s : Service) (a : Action) : Bool :=
  match a with
  | .runTask (.transitNextState state) _ =>
    nextStateOf cfg state s = evaluatedState cfg s.curState ∧
      (s.curState = .nap → s.napState.curPhase = NapStatePhase.END)
  | .runTask (.transitToNapPhase _) _ => s.napState.curPhase ≠ NapStatePhase.END
  | .runTask (.transitToSleepPhase _) _ => s.sleepState.curPhase < SleepStatePhase.END
  | .runTask .repeatedDetection _ | .uninitReadyState _ => false
  | .dispatch _ => s.isEvalution = false
  | _ => true

theorem keepsRequest_of_test (s : Service) (a : Action) (h : requestTest cfg s a = true) :
    KeepsRequest cfg s a where
  transit := by
    rintro state p rfl -
    exact of_decide_eq_true h
  napPhase := by
    rintro acquire p rfl
    exact of_decide_eq_true h
  sleepPhase := by
    rintro acquire p rfl
    exact of_decide_eq_true h
  repeated := by
    rintro p rfl
    cases h
  hold := by
    rintro action ⟨p, rfl, -⟩ - - -
    exact of_decide_eq_true h
  rebegin := by
    rintro ⟨p, rfl, -⟩ - - -
    exact of_decide_eq_true h
  uninit := by
    rintro p rfl
    cases h

/-- NAP asks for SLEEP after its last phase, and the total timeout of its motion detection is the
answer. -/
theorem results_answer_sleep : ∃ s, Lts.Reachable (system sampleConfig) s ∧ s.curState = .sleep ∧
    .endEval (some motionDetectParams) ∈ s.trace ∧ Answered s.trace := by
  obtain ⟨s, hr, hs⟩ := (system sampleConfig).exists_check (KeepsRequest sampleConfig)
    (requestTest sampleConfig) keepsRequest_of_test
    (fun s => s.curState = .sleep ∧ .endEval (some motionDetectParams) ∈ s.trace)
    (evaluatingRun ++ [.runTask .motionTotalTimeOut samplePlatform]) (by decide)
  obtain ⟨hcur, hmem⟩ := of_decide_eq_true hs
  exact ⟨s, hr.reachable, hcur, hmem, (results_answer_requests hr).1⟩

/-- Not in every run: forced sleep during the evaluation of NAP delivers its result to SLEEP, which
takes it for an advance of its first phase. -/
theorem results_not_answers : ¬ ∀ (cfg : StandbyConfig) (s : Service),
    Lts.Reachable (system cfg) s → Answered s.trace := by
  intro h
  obtain ⟨s, hr, hnot⟩ := (system sampleConfig).exists_run
    (evaluatingRun ++ handling .enterForceSleep samplePlatform ++
      [.runTask .motionTotalTimeOut samplePlatform])
    (Lts.System.runMeets_of_forall (fun _ _ => True) fun _ _ _ => trivial)
    (fun s => ¬ Answered s.trace) (by decide)
  exact hnot (h sampleConfig s hr)

end

end DeviceStandby
