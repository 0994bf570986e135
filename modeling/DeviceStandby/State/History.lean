import DeviceStandby.State.Constraints

/-!
# How the history grows

`Effect.history` says once what each effect adds to the trace, so that a property of runs that is
stated over the trace needs one case for each kind of addition.
-/

namespace DeviceStandby

open Relation

/-- The messages that only the state manager and the day and night switch post: they report a change
of state, phase or condition. -/
def StandbyMessage.isReport : StandbyMessage → Bool
  | .stateTransit .. | .phaseTransit .. | .resCtrlConditionChanged _ => true
  | _ => false

/-- Entries that report no change: messages of other kinds. -/
def Silent (entries : List Trace) : Prop :=
  ∀ entry ∈ entries, ∃ message : StandbyMessage,
    entry = .dispatched message ∧ message.isReport = false

/-- What an effect from `s` to `t` adds to the trace, newest first. -/
inductive History (cfg : StandbyConfig) (s₀ : Service) (a : Action) (s t : Service) :
    List Trace → Prop where
  | silent {entries : List Trace} (h : Silent entries)
      (hev : t.isEvalution = true → s.isEvalution = true) : History cfg s₀ a s t entries
  | condition (condition : ConditionType) (hcur : s.curState = .sleep)
      (hev : t.isEvalution = s.isEvalution) :
      History cfg s₀ a s t
        (if s.isServiceReady then [.dispatched (.resCtrlConditionChanged condition)] else [])
  | handled {action : CommonEvent} (ha : Handles s₀ a action) (hs : s = s₀)
      (hev : t.isEvalution = s.isEvalution) : History cfg s₀ a s t [.handled action]
  | rejected {params : ConstraintEvalParam} (hreq : Request cfg s₀ a s params)
      (hbusy : s.constraintManager.isEvaluation = true)
      (hsame : consumedRequest cfg t = consumedRequest cfg s) :
      History cfg s₀ a s t [.startEval params]
  | accepted {params : ConstraintEvalParam} (hreq : Request cfg s₀ a s params)
      (hidle : s.constraintManager.isEvaluation = false)
      (hsame : consumedRequest cfg t = consumedRequest cfg s) :
      History cfg s₀ a s t [.acceptEval params, .startEval params]
  | ended (hev : s.isEvalution = true) (ht : t.isEvalution = false) :
      History cfg s₀ a s t [.endEval (consumedRequest cfg s)]
  /-- A transition reports itself while the service is ready. -/
  | transited {p : Platform} {nextState : StandbyState} {entries : List Trace}
      (htr : Transition cfg s₀ a s nextState) (ht : t = transitToStateInner cfg p nextState s)
      (h : Silent entries) :
      History cfg s₀ a s t
        ((if s.isServiceReady then [.dispatched (.stateTransit s.curState nextState)] else []) ++
          (entries ++ [.transited s.curState nextState]))
  | rebegun {p : Platform} {entries : List Trace}
      (ha : Handles s₀ a (.userSleepStateChanged (some false))) (hcur : s.curState = .sleep)
      (hsame : s.curState = s₀.curState) (hpre : s.preState = s₀.preState)
      (hscreen : s₀.isScreenOn = false)
      (ht : t = SleepState.beginState cfg p (s.log .sleepRebegun)) (h : Silent entries) :
      History cfg s₀ a s t (entries ++ [.sleepRebegun])
  /-- A phase of NAP or SLEEP reports its advance when its result is `true`. -/
  | napPhase {evalResult : Bool} (hans : Answer cfg s₀ a s evalResult)
      (hcur : s.curState = .nap) (hphase : s.napState.curPhase ≠ NapStatePhase.END)
      (ht : t = NapState.setPhaseTransitTask evalResult s) :
      History cfg s₀ a s t (if evalResult = true ∧ s.isServiceReady = true then
        [.dispatched (.phaseTransit .nap s.napState.curPhase (s.napState.curPhase + 1))] else [])
  | sleepPhase {p : Platform} {evalResult : Bool} (hans : Answer cfg s₀ a s evalResult)
      (hcur : s.curState = .sleep) (hphase : s.sleepState.curPhase < SleepStatePhase.END)
      (ht : t = SleepState.endEvalPhase cfg p evalResult s) :
      History cfg s₀ a s t (if evalResult = true ∧ s.isServiceReady = true then
        [.dispatched (.phaseTransit .sleep s.sleepState.curPhase (s.sleepState.curPhase + 1))]
        else [])

section
variable {cfg : StandbyConfig} {s₀ : Service} {a : Action} {p : Platform} {s t : Service}

/-- Nothing is silent. -/
theorem silent_nil : Silent [] := nofun

/-- A message is logged when the service is ready. -/
theorem dispatchEvent_trace (message : StandbyMessage) (s : Service) :
    (s.dispatchEvent message).trace =
      (if s.isServiceReady then [.dispatched message] else []) ++ s.trace := by
  unfold Service.dispatchEvent
  split_ifs <;> rfl

/-- A message that reports no transition is silent. -/
theorem silent_dispatched {message : StandbyMessage} (h : message.isReport = false) :
    Silent (if s.isServiceReady then [.dispatched message] else []) := by
  intro entry hmem
  split_ifs at hmem
  · exact ⟨message, List.mem_singleton.1 hmem, h⟩
  · cases hmem

/-- The half-hour control reports at most its own change. -/
theorem onScreenOffHalfHourInner_trace (c r : Bool) (s : Service) : ∃ entries, Silent entries ∧
    (onScreenOffHalfHourInner c r s).trace = entries ++ s.trace := by
  unfold onScreenOffHalfHourInner
  split_ifs
  · exact ⟨[], silent_nil, rfl⟩
  · exact ⟨[], silent_nil, rfl⟩
  · exact ⟨_, silent_dispatched rfl, dispatchEvent_trace _ _⟩

/-- Beginning SLEEP reports at most the half-hour control. -/
theorem SleepState.beginState_trace (cfg : StandbyConfig) (p : Platform) (s : Service) :
    ∃ entries, Silent entries ∧ (SleepState.beginState cfg p s).trace = entries ++ s.trace := by
  unfold SleepState.beginState SleepState.checkScrenOffHalfHour
  dsimp only
  split_ifs
  · exact ⟨[], silent_nil, rfl⟩
  · exact ⟨[], silent_nil, rfl⟩
  · exact onScreenOffHalfHourInner_trace _ _ _
  · exact ⟨[], silent_nil, rfl⟩

/-- Beginning a state is silent. -/
theorem beginState_trace (cfg : StandbyConfig) (p : Platform) (state : StandbyState) (s : Service) :
    ∃ entries, Silent entries ∧ (beginState cfg p state s).trace = entries ++ s.trace := by
  cases state with
  | working | maintenance => exact ⟨[], silent_nil, rfl⟩
  | dark =>
    simp only [beginState, DarkState.beginState]
    split_ifs <;> exact ⟨[], silent_nil, rfl⟩
  | nap =>
    obtain ⟨_, _, _, h⟩ := NapState.beginState_frame cfg p s
    exact ⟨[], silent_nil, by rw [beginState, h]; rfl⟩
  | sleep => exact SleepState.beginState_trace cfg p s

/-- A transition reports itself last, while the service is ready. -/
theorem transitToStateInner_trace (cfg : StandbyConfig) (p : Platform) (nextState : StandbyState)
    (halive : s.statesAlive = true) : ∃ entries, Silent entries ∧
    (transitToStateInner cfg p nextState s).trace =
      ((if s.isServiceReady then [.dispatched (.stateTransit s.curState nextState)] else []) ++
        (entries ++ [.transited s.curState nextState])) ++ s.trace := by
  obtain ⟨_, _, hrep⟩ := replaceState_frame cfg nextState s
  obtain ⟨entries, hsilent, htrace⟩ :=
    beginState_trace cfg p nextState (replaceState cfg nextState s)
  refine ⟨entries, hsilent, ?_⟩
  rw [transitToStateInner_eq halive]
  simp only [sendNotification, Service.releaseStandbyRunningLock, Service.dispatchEvent, if_true,
    beginState_isServiceReady, beginState_toStateManagerAdapter, htrace]
  simp only [hrep]
  split_ifs <;> simp

/-- A phase reports its advance when its result is `true`. -/
theorem NapState.setPhaseTransitTask_trace (evalResult : Bool) (s : Service) :
    (NapState.setPhaseTransitTask evalResult s).trace =
      (if evalResult = true ∧ s.isServiceReady = true then
        [.dispatched (.phaseTransit .nap s.napState.curPhase (s.napState.curPhase + 1))]
      else []) ++ s.trace := by
  unfold NapState.setPhaseTransitTask transitToPhaseInner
  cases evalResult <;> dsimp only <;> split_ifs <;>
    simp_all [Service.postTask, Service.releaseStandbyRunningLock, dispatchEvent_trace]

/-- A phase of SLEEP that ends with success reports the next one. -/
theorem SleepState.endEvalPhase_trace (cfg : StandbyConfig) (p : Platform) (evalResult : Bool)
    (s : Service) :
    (SleepState.endEvalPhase cfg p evalResult s).trace =
      (if evalResult = true ∧ s.isServiceReady = true then
        [.dispatched (.phaseTransit .sleep s.sleepState.curPhase (s.sleepState.curPhase + 1))]
      else []) ++ s.trace := by
  unfold SleepState.endEvalPhase transitToPhaseInner
  dsimp only
  cases evalResult with
  | false =>
    obtain ⟨_, _, _, h⟩ := SleepState.setPhaseTransitOrRepeatedTask_frame cfg p s
    rw [if_neg Bool.false_ne_true, h]
    simp
  | true =>
    obtain ⟨_, _, _, h⟩ := SleepState.setPhaseTransitOrRepeatedTask_frame cfg p
      (s.dispatchEvent (.phaseTransit .sleep s.sleepState.curPhase (s.sleepState.curPhase + 1)))
    rw [if_pos rfl, h]
    simp [dispatchEvent_trace]

/-- What every effect adds to the trace. -/
theorem Effect.history (he : Effect cfg s₀ a s t) (halive : t.crashed = false) :
    ∃ entries, t.trace = entries ++ s.trace ∧ History cfg s₀ a s t entries := by
  cases he with
  | @record _ action queue p ha hqueue hs =>
    obtain ⟨_, _, _, h⟩ := recordEvent_frame cfg p action { s with handler.queue := queue }
    rw [h]
    exact ⟨[.handled action], rfl, .handled ⟨p, ha, queue, hqueue⟩ hs rfl⟩
  | block p =>
    obtain ⟨_, _, _, h⟩ := blockCurrentState_frame cfg p s
    rw [h]
    exact ⟨[], rfl, .silent silent_nil id⟩
  | stop =>
    obtain ⟨_, _, _, _, h⟩ := stopEvalution_frame (s := s)
    rw [h]
    exact ⟨[], rfl, .silent silent_nil nofun⟩
  | finish _ hev =>
    obtain ⟨_, _, _, h⟩ := finishEvalution_frame (s := s)
    rw [h]
    exact ⟨[.endEval (consumedRequest cfg s)], rfl, .ended hev rfl⟩
  | halfHour c =>
    obtain ⟨entries, hsilent, h⟩ := onScreenOffHalfHourInner_trace c false s
    exact ⟨entries, h, .silent hsilent (by simp)⟩
  | transit p htr =>
    obtain ⟨entries, hsilent, h⟩ :=
      transitToStateInner_trace cfg p _ (transitToStateInner_alive halive).2
    exact ⟨_, h, .transited htr rfl hsilent⟩
  | startRejected hreq hbusy => exact ⟨_, rfl, .rejected hreq hbusy rfl⟩
  | startAccepted hreq hidle => exact ⟨_, rfl, .accepted hreq hidle rfl⟩
  | @napPhase _ evalResult hans hcur hphase =>
    exact ⟨_, NapState.setPhaseTransitTask_trace _ _, .napPhase hans hcur hphase rfl⟩
  | @sleepPhase p _ evalResult hans hcur hphase =>
    exact ⟨_, SleepState.endEvalPhase_trace cfg p _ _, .sleepPhase hans hcur hphase rfl⟩
  | @rebegin p _ ha hcur hsame hpre _ hscreen =>
    obtain ⟨entries, hsilent, h⟩ := SleepState.beginState_trace cfg p (s.log .sleepRebegun)
    refine ⟨entries ++ [.sleepRebegun], ?_, .rebegun ha hcur hsame hpre hscreen rfl hsilent⟩
    rw [h, List.append_assoc]
    rfl
  | callback _ _ hne =>
    obtain ⟨task, hrun, -⟩ := runCallback_frame (s := { s with
      timeService.callbacks := s.timeService.callbacks.erase _ }) hne
    rw [hrun]
    exact ⟨[], rfl, .silent silent_nil id⟩
  | fire hfire =>
    obtain ⟨_, rfl⟩ := timerFire_frame hfire
    exact ⟨[], rfl, .silent silent_nil id⟩
  | @post _ message hext =>
    refine ⟨_, dispatchEvent_trace _ _, .silent (silent_dispatched ?_) id⟩
    cases message <;> first | rfl | cases hext
  | conditionChanged condition hcur =>
    exact ⟨_, dispatchEvent_trace _ _, .condition condition hcur rfl⟩
  | @init p _ hready =>
    obtain ⟨_, _, h⟩ := initReadyState_frame cfg p hready
    rw [h]
    exact ⟨[], rfl, .silent silent_nil id⟩
  | resetStates =>
    obtain ⟨_, _, h⟩ := StateManagerAdapter.resetStates_frame cfg s
    rw [h]
    exact ⟨[], rfl, .silent silent_nil id⟩
  | unblock | startMotion | startSensor | startSensorFailed | setRepeated | runningLock | sleepFlag
  | holdTimers | skip | takeTask | stopDetection | takeHalfHour | sensorEvent
  | unInitConstraints => exact ⟨[], rfl, .silent silent_nil id⟩

/-- A transition of a live service adds itself, silent messages and its own message. -/
theorem Basic.transit_trace (hb : Basic s) {nextState : StandbyState}
    (halive : (transitToStateInner cfg p nextState s).crashed = false) : ∃ entries, Silent entries ∧
    (transitToStateInner cfg p nextState s).trace =
      .dispatched (.stateTransit s.curState nextState) ::
        (entries ++ .transited s.curState nextState :: s.trace) := by
  have hstates := (transitToStateInner_alive halive).2
  have hready : s.isServiceReady = true := hb.alive ▸ hstates
  obtain ⟨entries, hsilent, htrace⟩ := transitToStateInner_trace cfg p nextState hstates
  rw [hready, if_pos rfl, List.append_assoc, List.append_assoc] at htrace
  exact ⟨entries, hsilent, htrace⟩

/-! ## A whole step -/

/-- What an effect adds to the trace tells of no event but the one that the step handles. -/
theorem History.handled_mem {entries : List Trace} {action : CommonEvent}
    (h : History cfg s₀ a s t entries) (hmem : .handled action ∈ entries) :
    Handles s₀ a action := by
  have hsilent : ∀ {l : List Trace}, Silent l → .handled action ∉ l := by
    intro l hl hm
    obtain ⟨_, h, -⟩ := hl _ hm
    cases h
  cases h with
  | silent h => exact absurd hmem (hsilent h)
  | handled ha =>
    cases List.mem_singleton.1 hmem
    exact ha
  | rejected | ended => cases List.mem_singleton.1 hmem
  | accepted => simp at hmem
  | transited _ _ h =>
    rcases List.mem_append.1 hmem with hm | hm
    · split_ifs at hm
      · cases List.mem_singleton.1 hm
      · cases hm
    · rcases List.mem_append.1 hm with hm | hm
      · exact absurd hm (hsilent h)
      · cases List.mem_singleton.1 hm
  | rebegun _ _ _ _ _ _ h =>
    rcases List.mem_append.1 hmem with hm | hm
    · exact absurd hm (hsilent h)
    · cases List.mem_singleton.1 hm
  | condition | napPhase | sleepPhase =>
    split_ifs at hmem
    · cases List.mem_singleton.1 hmem
    · cases hmem

/-- The trace only grows, by no event but the one that the step handles. -/
theorem Chain.trace (h : Chain cfg s₀ a s t) (halive : t.crashed = false) :
    ∃ entries, t.trace = entries ++ s.trace ∧
      ∀ action, .handled action ∈ entries → Handles s₀ a action := by
  induction h with
  | refl => exact ⟨[], rfl, nofun⟩
  | tail hc he ih =>
    obtain ⟨entries, htrace, hhandled⟩ := ih (he.outcome.crashed halive)
    obtain ⟨entries', htrace', hist⟩ := he.history halive
    refine ⟨entries' ++ entries, by rw [htrace', htrace, List.append_assoc], fun action hm => ?_⟩
    exact (List.mem_append.1 hm).elim hist.handled_mem (hhandled action)

/-- An action handles one event. -/
theorem Handles.unique {action action' : CommonEvent} (h : Handles s₀ a action)
    (h' : Handles s₀ a action') : action = action' := by
  obtain ⟨_, _, _, hq⟩ := h
  obtain ⟨_, _, _, hq'⟩ := h'
  rw [hq] at hq'
  injection hq' with hm
  exact StandbyMessage.commonEvent.inj hm

/-- What a step adds to the trace: the event that it handles, and no other. -/
theorem act_trace (hown : OwnTasks s) (h : act cfg s a = some t) (halive : t.crashed = false) :
    ∃ entries, t.trace = entries ++ s.trace ∧
      ∀ action, .handled action ∈ entries ↔ Handles s a action := by
  by_cases hnone : ∃ action, Handles s a action
  · obtain ⟨action, hh⟩ := hnone
    obtain ⟨p, rfl, queue, hqueue⟩ := hh
    obtain rfl := act_commonEvent hqueue h
    obtain ⟨entries, htrace, hmem⟩ := Chain.trace (chain_handleCommonEvent hqueue) halive
    obtain ⟨_, _, _, hrec⟩ := recordEvent_frame cfg p action { s with handler.queue := queue }
    rw [hrec] at htrace
    refine ⟨entries ++ [.handled action], by rw [htrace, List.append_assoc]; rfl,
      fun action' => ⟨fun hm => ?_, fun hh' => ?_⟩⟩
    · rcases List.mem_append.1 hm with hm | hm
      · exact hmem action' hm
      · cases List.mem_singleton.1 hm
        exact ⟨p, rfl, queue, hqueue⟩
    · rw [hh'.unique ⟨p, rfl, queue, hqueue⟩]
      exact List.mem_append_right _ (List.mem_singleton.2 rfl)
  · obtain ⟨entries, htrace, hmem⟩ := Chain.trace (chain_act hown h) halive
    exact ⟨entries, htrace, fun action => ⟨hmem action, fun hh => absurd ⟨action, hh⟩ hnone⟩⟩

end

end DeviceStandby
