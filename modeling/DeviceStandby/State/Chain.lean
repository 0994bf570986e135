import DeviceStandby.State.Effect

/-!
# A step is a chain of effects

One lemma per function of the manager, from the inside out, and `step_chain` for the whole step.
What a guard says about the state carries over from one write to the next because the writes in
between leave the deciding fields alone (`Alike`).
-/

namespace DeviceStandby

open Relation

/-- A sequence of effects within one step. -/
abbrev Chain (cfg : StandbyConfig) (s₀ : Service) (a : Action) : Service → Service → Prop :=
  ReflTransGen (Effect cfg s₀ a)

/-- Two states agree on the fields that requests and answers depend on. -/
structure Alike (s t : Service) : Prop where
  curState : t.curState = s.curState
  preState : t.preState = s.preState
  isScreenOn : t.isScreenOn = s.isScreenOn
  napState : t.napState = s.napState
  maintState : t.maintState = s.maintState
  sleepPhase : t.sleepState.curPhase = s.sleepState.curPhase
  constraintMap : t.constraintManager.constraintMap = s.constraintManager.constraintMap

section
variable {cfg : StandbyConfig} {s₀ : Service} {a : Action} {p : Platform} {s t : Service}
  {nextState : StandbyState} {params : ConstraintEvalParam}

/-- Services that are alike to a third one are alike. -/
theorem Alike.trans {u : Service} (h : Alike s t) (h' : Alike t u) : Alike s u where
  curState := h'.curState.trans h.curState
  preState := h'.preState.trans h.preState
  isScreenOn := h'.isScreenOn.trans h.isScreenOn
  napState := h'.napState.trans h.napState
  maintState := h'.maintState.trans h.maintState
  sleepPhase := h'.sleepPhase.trans h.sleepPhase
  constraintMap := h'.constraintMap.trans h.constraintMap

/-! ## Guards in states that agree -/

/-- What was the same since a state is so in a service alike. -/
theorem SameSince.alike (hs : SameSince s₀ s) (h : Alike s t) : SameSince s₀ t where
  curState := h.curState.trans hs.curState
  preState := h.preState.trans hs.preState
  isScreenOn := h.isScreenOn.trans hs.isScreenOn
  napState := h.napState.trans hs.napState
  maintState := h.maintState.trans hs.maintState
  sleepPhase := h.sleepPhase.trans hs.sleepPhase

/-- A transition that was asked for is asked for in a service alike. -/
theorem Asked.alike (hs : Asked cfg s₀ a s nextState) (h : Alike s t) :
    Asked cfg s₀ a t nextState := by
  cases hs with
  | wake => exact .wake
  | dark hcur hscreen => exact .dark (h.curState.trans hcur) (h.isScreenOn.trans hscreen)
  | task ha hmem hsame => exact .task ha hmem (hsame.alike h)

/-- Services alike are in the same phase. -/
theorem Alike.curInnerPhase (h : Alike s t) : t.curInnerPhase = s.curInnerPhase := by
  simp only [Service.curInnerPhase, h.curState, h.napState, h.sleepPhase]

/-- A request comes from a service alike as well. -/
theorem Request.alike (hs : Request cfg s₀ a s params) (h : Alike s t)
    (hblocked : t.isBlocked = s.isBlocked) : Request cfg s₀ a t params := by
  cases hs with
  | enter hask hcur hnext hlt hb hsame =>
    rw [← h.curState, ← h.curInnerPhase]
    rw [← h.curState] at hcur hlt
    exact .enter (hask.alike h) hcur hnext hlt (hblocked.trans hb) hsame
  | napPhase ha hmem hsame =>
    rw [← h.napState]
    exact .napPhase ha hmem (hsame.alike h)
  | sleepPhase ha hmem hsame =>
    rw [← h.sleepPhase]
    exact .sleepPhase ha hmem (hsame.alike h)
  | repeated ha hmem hsame =>
    rw [← h.sleepPhase]
    exact .repeated ha hmem (hsame.alike h)

/-- An answer goes to a service alike as well. -/
theorem Answer.alike {evalResult : Bool} (hs : Answer cfg s₀ a s evalResult) (h : Alike s t)
    (hblocked : t.isBlocked = s.isBlocked) : Answer cfg s₀ a t evalResult := by
  cases hs with
  | motion ha htask hev hsame => exact .motion ha htask hev (hsame.alike h)
  | atOnce hreq hfalse hmonitor =>
    refine .atOnce (hreq.alike h hblocked) ?_ ?_
    · rwa [h.constraintMap]
    · rwa [h.constraintMap]

/-! ## Writes that leave the guards alone -/

/-- Stopping an evaluation leaves the service alike. -/
theorem alike_stopEvalution : Alike s (stopEvalution s) := by
  obtain ⟨_, _, _, _, h⟩ := stopEvalution_frame (s := s)
  rw [h]
  exact ⟨rfl, rfl, rfl, rfl, rfl, rfl, rfl⟩

/-- So does ending one. -/
theorem alike_finishEvalution (entry : Trace) : Alike s ((finishEvalution s).log entry) := by
  obtain ⟨_, _, _, h⟩ := finishEvalution_frame (s := s)
  rw [h]
  exact ⟨rfl, rfl, rfl, rfl, rfl, rfl, rfl⟩

/-- So does lifting the half-hour control. -/
theorem alike_liftHalfHourCtrl : Alike s (liftHalfHourCtrl s) := by
  obtain ⟨_, _, _, h⟩ := liftHalfHourCtrl_frame s
  rw [h]
  exact ⟨rfl, rfl, rfl, rfl, rfl, rfl, rfl⟩

/-! ## Transitions -/

/-- Lifting the half-hour control is a chain. -/
theorem chain_liftHalfHourCtrl : Chain cfg s₀ a s (liftHalfHourCtrl s) := by
  unfold liftHalfHourCtrl
  split_ifs
  · exact .single (.halfHour false s)
  · exact .refl

/-- `ExitStandby` stops the evaluation, unblocks the state and lifts the half-hour control before
it transits. -/
theorem chain_exitStandby (hp : a.platform? = some p) (hask : Asked cfg s₀ a s nextState)
    (hcur : s.curState ≠ .maintenance) (hnext : nextState ≠ .maintenance)
    (hlt : nextState.toNat < s.curState.toNat)
    (hvalid : checkTransitionValid s.curState nextState = true) :
    Chain cfg s₀ a s (exitStandby cfg p nextState s) := by
  have hstop := alike_stopEvalution (s := s)
  have hunblock : Alike s (unblockCurrentState (stopEvalution s)) :=
    ⟨hstop.1, hstop.2, hstop.3, hstop.4, hstop.5, hstop.6, hstop.7⟩
  have halike := hunblock.trans alike_liftHalfHourCtrl
  have hev : (stopEvalution s).isEvalution = false := by
    obtain ⟨_, _, _, _, h⟩ := stopEvalution_frame (s := s)
    rw [h]
  have hchain : Chain cfg s₀ a s (unblockCurrentState (stopEvalution s)) :=
    .tail (.single (.stop s)) (.unblock _)
  refine .tail (hchain.trans chain_liftHalfHourCtrl) (.transit p (.exit (hask.alike halike)
    (halike.curState ▸ hcur) hnext (halike.curState ▸ hlt) (halike.curState ▸ hvalid) ?_ ?_
    liftHalfHourCtrl_scrOffHalfHourCtrl) hp)
  · simpa [unblockCurrentState] using hev
  · simp [unblockCurrentState]

/-- `TransitWithMaint` lifts the half-hour control on the way to WORKING, and transits. -/
theorem chain_transitWithMaint (hp : a.platform? = some p) (hask : Asked cfg s₀ a s nextState)
    (hne : s.curState ≠ nextState)
    (hmaint : nextState = .maintenance ∨ s.curState = .maintenance)
    (hvalid : checkTransitionValid s.curState nextState = true)
    (hev : nextState = .working ∨ s.isEvalution = false) :
    Chain cfg s₀ a s (transitWithMaint cfg p nextState s) := by
  by_cases hwork : nextState = .working
  · have halike := alike_liftHalfHourCtrl (s := s)
    have heq : transitWithMaint cfg p nextState s =
        transitToStateInner cfg p nextState (liftHalfHourCtrl s) := by
      simp only [transitWithMaint, liftHalfHourCtrl, hwork, true_and]
    rw [heq]
    exact .tail chain_liftHalfHourCtrl (.transit p (.maint (hask.alike halike)
      (halike.curState ▸ hne) (halike.curState ▸ hmaint) (halike.curState ▸ hvalid)
      (.inl hwork) fun _ => liftHalfHourCtrl_scrOffHalfHourCtrl) hp)
  · simp only [transitWithMaint, hwork, false_and, if_false]
    exact .single (.transit p (.maint hask hne hmaint hvalid hev fun h => absurd h hwork) hp)

/-- `TransitToState` is a chain when its way into standby is one. -/
theorem chain_transitToStateWith {enter : StandbyState → Service → ErrCode × Service}
    (hp : a.platform? = some p) (hask : Asked cfg s₀ a s nextState)
    (hev : nextState = .working ∨ nextState = .dark ∨ s.isEvalution = false)
    (henter : s.curState ≠ .maintenance → nextState ≠ .maintenance →
      s.curState.toNat < nextState.toNat → Chain cfg s₀ a s (enter nextState s).2) :
    Chain cfg s₀ a s (transitToStateWith cfg p enter nextState s).2 := by
  simp only [transitToStateWith]
  split_ifs with hvalid heq hmaint hlt
  · exact .single (.unblock s)
  · refine chain_transitWithMaint hp hask heq hmaint hvalid ?_
    rcases hev with hev | hev | hev
    · exact .inl hev
    · -- DARK cannot follow MAINTENANCE
      subst hev
      rcases hmaint with h | h
      · cases h
      · rw [h] at hvalid
        cases hvalid
    · exact .inr hev
  · exact henter (fun h => hmaint (.inr h)) (fun h => hmaint (.inl h)) hlt
  · have hne : s.curState.toNat ≠ nextState.toNat := fun h =>
      heq (by revert h; cases s.curState <;> cases nextState <;> decide)
    exact chain_exitStandby hp hask (fun h => hmaint (.inr h)) (fun h => hmaint (.inl h))
      (by omega) hvalid
  · exact .refl

/-- A request for WORKING is a chain in every state. -/
theorem chain_transitToWorking (hp : a.platform? = some p) :
    Chain cfg s₀ a s (transitToWorking cfg p s) :=
  chain_transitToStateWith hp .wake (.inl rfl) fun _ _ h => absurd h (Nat.not_lt_zero _)

/-! ## Evaluations -/

/-- The current state takes a result. -/
theorem chain_stateEndEval {evalResult : Bool} (hp : a.platform? = some p)
    (hans : Answer cfg s₀ a s evalResult) (hev : s.isEvalution = false) :
    Chain cfg s₀ a s (stateEndEval cfg p evalResult s) := by
  unfold stateEndEval
  split
  case h_1 hcur =>
    simp only [WorkingState.endEvalCurrentState]
    split_ifs with hres
    · exact .single (.transit p (.workingResult (hres ▸ hans) hcur hev) hp)
    · exact .single (.block p (.result (Bool.eq_false_iff.2 hres ▸ hans)) hp)
  case h_2 hcur =>
    simp only [DarkState.endEvalCurrentState]
    split_ifs with hres hnext
    · exact .single (.transit p (.darkResult (hres ▸ hans) hcur hnext hev) hp)
    · exact .refl
    · exact .single (.block p (.result (Bool.eq_false_iff.2 hres ▸ hans)) hp)
  case h_3 hcur =>
    simp only [NapState.endEvalCurrentState]
    split_ifs with hphase
    · simp only [NapState.handleEvalResToSleepState]
      split_ifs with hres hnext
      · exact .single (.transit p (.napResult (hres ▸ hans) hcur hev hphase hnext) hp)
      · exact .refl
      · exact chain_transitToWorking hp
    · exact .single (.napPhase hans hcur hphase hev)
  case h_4 => exact .refl
  case h_5 hcur =>
    simp only [SleepState.endEvalCurrentState]
    split_ifs with hphase
    · exact .single (.sleepPhase p hans hcur hphase hev hp)
    · exact .tail (chain_transitToWorking hp) (.setRepeated false _)
    · exact .single (.setRepeated false s)

/-- `EndEvalCurrentState` is a chain when the result is an answer. -/
theorem chain_endEvalCurrentState {evalResult : Bool} (hp : a.platform? = some p)
    (hans : Answer cfg s₀ a s evalResult) :
    Chain cfg s₀ a s (endEvalCurrentState cfg p evalResult s) := by
  unfold endEvalCurrentState
  split_ifs with hev
  · obtain ⟨_, _, _, h⟩ := finishEvalution_frame (s := s)
    refine .head (.finish hans hev)
      (chain_stateEndEval hp (hans.alike (alike_finishEvalution _) ?_) ?_)
    · rw [h]; rfl
    · rw [h]; rfl
  · exact .refl

/-- `PeriodlyStartMotionDetection` starts the sensors, or blocks the state. -/
theorem chain_periodlyStartMotionDetection {m : Monitor} (hp : a.platform? = some p)
    (hsens : Sensing cfg s₀ a m s) :
    Chain cfg s₀ a s (periodlyStartMotionDetection cfg p m s) := by
  unfold periodlyStartMotionDetection
  split
  case h_1 monitor h => exact .single (.startSensor hsens h)
  case h_2 err monitor hne h =>
    refine .head (.startSensorFailed hsens hne h) (.single (.block p (.sensor (m := m) ?_) hp))
    cases hsens with
    | begun hev heval hcur hkind hreq =>
      exact .begun hev heval hcur hkind (hreq.alike ⟨rfl, rfl, rfl, rfl, rfl, rfl, rfl⟩ rfl)
    | periodic ha hmem hev hcm hsame =>
      exact .periodic ha hmem hev hcm (hsame.alike ⟨rfl, rfl, rfl, rfl, rfl, rfl, rfl⟩)

/-- `StartEvalCurrentState` is a chain when its request is one. -/
theorem chain_startEvalCurrentState (hp : a.platform? = some p)
    (hreq : Request cfg s₀ a s params) :
    Chain cfg s₀ a s (startEvalCurrentState cfg p params s) := by
  have hreq' : Request cfg s₀ a (s.accepted params) params :=
    hreq.alike ⟨rfl, rfl, rfl, rfl, rfl, rfl, rfl⟩ rfl
  obtain ⟨hbusy, heq⟩ | ⟨hidle, m, hm, heq⟩ | ⟨hidle, hnone, -, heq⟩ | ⟨hidle, -, -, heq⟩ :=
    startEvalCurrentState_cases cfg p params s
  all_goals rw [heq]
  · exact .single (.startRejected hreq hbusy)
  · refine .head (.startAccepted hreq hidle) ?_
    unfold startMonitoring
    have hsens : m.kind ≠ .charge → Sensing cfg s₀ a m (s.accepted params) := fun hkind =>
      .begun rfl rfl hm hkind hreq'
    have hmotion : m.kind ≠ .charge → Chain cfg s₀ a (s.accepted params)
        (periodlyStartMotionDetection cfg p m
          ((s.accepted params).postTask .motionTotalTimeOut)) := fun hkind => by
      refine .head (.startMotion (hsens hkind) rfl hm) ?_
      exact chain_periodlyStartMotionDetection hp (.begun rfl rfl hm hkind
        (hreq'.alike ⟨rfl, rfl, rfl, rfl, rfl, rfl, rfl⟩ rfl))
    split
    case h_1 hkind =>
      refine chain_endEvalCurrentState hp (.atOnce hreq' (fun _ => ⟨m, hm, hkind⟩) fun m' hm' => ?_)
      rwa [← Option.some.inj (hm.symm.trans hm')]
    case h_2 hkind => exact hmotion (by rw [hkind]; decide)
    case h_3 hkind => exact hmotion (by rw [hkind]; decide)
  · refine .head (.startAccepted hreq hidle) (chain_endEvalCurrentState hp
      (.atOnce hreq' nofun fun m hm => ?_))
    exact absurd (hnone.symm.trans hm) nofun
  · exact .single (.startAccepted hreq hidle)

/-- `TransitToState` is a chain for every next state it is asked for. -/
theorem chain_transitToState (hp : a.platform? = some p) (hask : Asked cfg s₀ a s nextState)
    (hev : nextState = .working ∨ nextState = .dark ∨ s.isEvalution = false)
    (hsame : nextState = .dark ∨ s.isBlocked = s₀.isBlocked) :
    Chain cfg s₀ a s (transitToState cfg p nextState s).2 := by
  refine chain_transitToStateWith hp hask hev fun hcur hnext hlt => ?_
  unfold enterStandby
  split_ifs with hblocked
  · exact .refl
  · have hfree := Bool.eq_false_iff.2 hblocked
    exact chain_startEvalCurrentState hp (.enter hask hcur hnext hlt hfree
      (hsame.imp_right fun h => h.symm.trans hfree))

/-! ## Common events -/

/-- Recording an event writes the screen status, the half-hour timer and the history. -/
theorem recordEvent_frame (cfg : StandbyConfig) (p : Platform) (action : CommonEvent)
    (s : Service) : ∃ isScreenOn halfHour timeService,
    recordEvent cfg p action s =
      { s with
        isScreenOn := isScreenOn
        halfHour := halfHour
        timeService := timeService
        trace := .handled action :: s.trace } := by
  unfold recordEvent handleScrOffHalfHour
  cases action <;> dsimp only [handleScreenStatus] <;> split_ifs <;> exact ⟨_, _, _, rfl⟩

/-- A common event is recorded with what it says of the screen. -/
theorem recordEvent_isScreenOn (cfg : StandbyConfig) (p : Platform) (action : CommonEvent)
    (s : Service) :
    (recordEvent cfg p action s).isScreenOn = screenOnAfter action s := by
  unfold recordEvent handleScrOffHalfHour
  cases action with
  | screenOn | screenOff => rfl
  | _ => dsimp only [handleScreenStatus]; split_ifs <;> rfl

/-- What is known right after an event was recorded. -/
structure Recorded (s₀ s : Service) (action : CommonEvent) : Prop where
  curState : s.curState = s₀.curState
  preState : s.preState = s₀.preState
  isEvalution : s.isEvalution = s₀.isEvalution
  isScreenOn : s.isScreenOn = screenOnAfter action s₀
  logged : s.trace.head? = some (.handled action)

/-- `TransitHoldSleepState` is a chain for the events that hold the device asleep. -/
theorem chain_transitHoldSleepState {action : CommonEvent} (hp : a.platform? = some p)
    (ha : Handles s₀ a action) (hhold : action.isHold = true) (hrec : Recorded s₀ s action)
    (hscreen : action = .enterForceSleep ∨ s₀.isScreenOn = false) :
    Chain cfg s₀ a s (transitHoldSleepState cfg p s) := by
  simp only [transitHoldSleepState]
  split_ifs with hcur
  · refine .tail ?_ (.holdTimers ha hhold hscreen ?_)
    · exact .tail (.single (.unblock s)) (.transit p (.hold ha hhold hrec.logged hcur
        hrec.curState hrec.preState hrec.isEvalution hscreen) hp)
    · simp
  · exact .single (.holdTimers ha hhold hscreen (by simpa using hcur))

/-- `HandleUserSleepState` is a chain. -/
theorem chain_handleUserSleepState {isSleep : Option Bool} (hp : a.platform? = some p)
    (ha : Handles s₀ a (.userSleepStateChanged isSleep))
    (hrec : Recorded s₀ s (.userSleepStateChanged isSleep)) :
    Chain cfg s₀ a s (handleUserSleepState cfg p isSleep s) := by
  unfold handleUserSleepState
  split_ifs with hscreen
  · exact .refl
  · have hoff : s₀.isScreenOn = false := hrec.isScreenOn.symm.trans (Bool.eq_false_iff.2 hscreen)
    cases isSleep with
    | none => exact .refl
    | some isSleepState =>
      refine .head (.sleepFlag isSleepState s) ?_
      dsimp only
      split_ifs with hsleep hcur
      · subst hsleep
        exact chain_transitHoldSleepState hp ha rfl
          ⟨hrec.curState, hrec.preState, hrec.isEvalution, hrec.isScreenOn, hrec.logged⟩
          (.inr hoff)
      · have hfalse : isSleepState = false := Bool.eq_false_iff.2 hsleep
        subst hfalse
        exact .single (.rebegin ha hcur hrec.curState hrec.preState hrec.isEvalution hoff)
      · exact .refl

/-- What `HandleCommonEvent` does for the action itself is a chain. -/
theorem chain_respond {action : CommonEvent} (hp : a.platform? = some p)
    (ha : Handles s₀ a action) (hrec : Recorded s₀ s action) :
    Chain cfg s₀ a s (respond cfg p action s) := by
  unfold respond
  split_ifs with hwake
  · exact chain_transitToWorking hp
  · cases action with
    | userSleepStateChanged isSleep => exact chain_handleUserSleepState hp ha hrec
    | enterForceSleep => exact chain_transitHoldSleepState hp ha rfl hrec (.inl rfl)
    | screenOn | screenUnlocked | charging | usbDeviceAttached | lidOpen =>
      exact absurd rfl hwake
    | screenOff | discharging | usbDeviceDetached | other => exact .refl

/-- The attempt to enter DARK is a chain. -/
theorem chain_transitToDark (hp : a.platform? = some p) (hcur : s.curState = .working)
    (hscreen : s.isScreenOn = false) : Chain cfg s₀ a s (transitToState cfg p .dark s).2 :=
  chain_transitToState hp (.dark hcur hscreen) (.inr (.inl rfl)) (.inl rfl)

/-- `CheckEnterDarkState` asks for the screen only. -/
theorem checkEnterDarkState_eq {action : CommonEvent} :
    checkEnterDarkState action s = !s.isScreenOn := by
  unfold checkEnterDarkState
  cases s.isScreenOn <;> simp

/-- The way to DARK is a chain. -/
theorem chain_tryEnterDark {action : CommonEvent} (hp : a.platform? = some p) :
    Chain cfg s₀ a s (tryEnterDark cfg p action s) := by
  unfold tryEnterDark
  rw [checkEnterDarkState_eq]
  split_ifs with hcur hscreen
  · exact .refl
  · exact chain_transitToDark hp (by simpa using hcur) (by simpa using hscreen)
  · exact .refl

/-! ## Tasks -/

/-- The state objects' next states are those of the beginning of the step. -/
theorem SameSince.nextStateOf (h : SameSince s₀ s) (state : StandbyState) :
    nextStateOf cfg state s = nextStateOf cfg state s₀ := by
  cases state <;> simp only [DeviceStandby.nextStateOf, h.napState, h.maintState]

/-- The task of `StartTransitNextState` is a chain. -/
theorem chain_runTransitNextState {state : StandbyState}
    (ha : a = .runTask (.transitNextState state) p)
    (hmem : .transitNextState state ∈ s₀.handler.tasks) (hsame : SameSince s₀ s)
    (hblocked : s.isBlocked = s₀.isBlocked) :
    Chain cfg s₀ a s (runTransitNextState cfg p state s) := by
  have hstop : Chain cfg s₀ a s (stopEvalution s.acquireStandbyRunningLock) :=
    .tail (.single (.runningLock true s)) (.stop _)
  have hsame' : SameSince s₀ (stopEvalution s.acquireStandbyRunningLock) :=
    (hsame.alike (t := s.acquireStandbyRunningLock) ⟨rfl, rfl, rfl, rfl, rfl, rfl, rfl⟩).alike
      alike_stopEvalution
  obtain ⟨_, _, _, _, hframe⟩ := stopEvalution_frame (s := s.acquireStandbyRunningLock)
  have hev : (stopEvalution s.acquireStandbyRunningLock).isEvalution = false := by rw [hframe]
  have hsame'' : (stopEvalution s.acquireStandbyRunningLock).isBlocked = s₀.isBlocked := by
    rw [hframe]
    exact hblocked
  have hp : a.platform? = some p := by rw [ha]; rfl
  have htransit := hstop.trans (chain_transitToState hp (.task ha hmem hsame')
    (.inr (.inr hev)) (.inr hsame''))
  rw [← hsame'.nextStateOf] at htransit
  simp only [runTransitNextState]
  split
  case h_1 h => rwa [h] at htransit
  case h_2 h =>
    rw [h] at htransit
    exact .tail (.tail htransit (.block p (.task ha hmem) hp)) (.runningLock false _)

/-- The tasks that a state posts for itself are gone when it is left: a screen check is pending in
WORKING only, a phase task only in the state whose phase it advances. -/
structure OwnTasks (s : Service) : Prop where
  checkScreen : .checkScreenStatus ∈ s.handler.tasks → s.curState = .working
  napPhase : ∀ acquire, .transitToNapPhase acquire ∈ s.handler.tasks → s.curState = .nap
  sleepPhase : ∀ acquire, .transitToSleepPhase acquire ∈ s.handler.tasks → s.curState = .sleep

/-- Taking the running lock, or not, leaves the guards alone. -/
theorem chain_acquire (acquire : Bool) (hsame : SameSince s₀ s) :
    Chain cfg s₀ a s (if acquire then s.acquireStandbyRunningLock else s) ∧
      SameSince s₀ (if acquire then s.acquireStandbyRunningLock else s) := by
  split_ifs
  · exact ⟨.single (.runningLock true s), hsame.alike ⟨rfl, rfl, rfl, rfl, rfl, rfl, rfl⟩⟩
  · exact ⟨.refl, hsame⟩

/-- What a pending task does is a chain. -/
theorem chain_runTask {task : Task} (hown : OwnTasks s₀) (ha : a = .runTask task p)
    (hmem : task ∈ s₀.handler.tasks) (hsame : SameSince s₀ s)
    (hblocked : s.isBlocked = s₀.isBlocked)
    (hev : s.isEvalution = s₀.isEvalution) (hcm : s.constraintManager = s₀.constraintManager) :
    Chain cfg s₀ a s (runTask cfg p task s) := by
  have hp : a.platform? = some p := by rw [ha]; rfl
  have hmotion : ∀ evalResult : Bool,
      task = (if evalResult then .motionTotalTimeOut else .motionDetected) →
      Chain cfg s₀ a s (endEvalCurrentState cfg p evalResult s) := fun _ htask => by
    by_cases he : s.isEvalution = true
    · exact chain_endEvalCurrentState hp (.motion ha htask (hev ▸ he) hsame)
    · rw [endEvalCurrentState, if_pos he]
  cases task with
  | transitNextState state => exact chain_runTransitNextState ha hmem hsame hblocked
  | checkScreenStatus =>
    simp only [runTask, WorkingState.checkScreenStatus]
    split_ifs with hscreen
    · exact .refl
    · exact chain_transitToDark hp (hsame.curState.trans (hown.checkScreen hmem))
        (Bool.eq_false_iff.2 hscreen)
  | transitToNapPhase acquire =>
    obtain ⟨hlock, hsame'⟩ : Chain cfg s₀ a s _ ∧ _ := chain_acquire acquire hsame
    exact hlock.trans (chain_startEvalCurrentState hp (.napPhase ha hmem hsame'))
  | transitToSleepPhase acquire =>
    obtain ⟨hlock, hsame'⟩ : Chain cfg s₀ a s _ ∧ _ := chain_acquire acquire hsame
    exact hlock.trans (chain_startEvalCurrentState hp (.sleepPhase ha hmem hsame'))
  | repeatedDetection =>
    refine .head (.setRepeated true s) (chain_startEvalCurrentState hp (.repeated ha hmem ?_))
    exact hsame.alike ⟨rfl, rfl, rfl, rfl, rfl, rfl, rfl⟩
  | motionTotalTimeOut => exact hmotion true rfl
  | motionDetected => exact hmotion false rfl
  | stopMotionDetection m => exact .single (.stopDetection ha hmem)
  | periodlyStartMotionDetection m =>
    exact chain_periodlyStartMotionDetection hp (.periodic ha hmem hev hcm hsame)

/-! ## The whole step -/

/-- `UninitReadyState` is a chain. -/
theorem chain_uninitReadyState (ha : a = .uninitReadyState p) :
    Chain cfg s₀ a s₀ (uninitReadyState cfg p s₀) := by
  simp only [uninitReadyState]
  split_ifs with hready
  · refine .tail (.head (.unInitConstraints ha rfl hready) ?_) (.resetStates ha ?_ ?_) <;>
      rw [transitToState_working]
    · exact chain_transitToWorking (by rw [ha]; rfl)
    · exact transitToWorking_curState
    · rw [transitToWorking_constraintMap]
      rfl
  · exact .refl

/-- After an event has been recorded, what is left of `HandleCommonEvent` is a chain. -/
theorem chain_handleCommonEvent {action : CommonEvent} {queue : List StandbyMessage}
    (hqueue : s₀.handler.queue = .commonEvent action :: queue) :
    Chain cfg s₀ (.dispatch p) (recordEvent cfg p action { s₀ with handler.queue := queue })
      (handleCommonEvent cfg p action { s₀ with handler.queue := queue }) := by
  rw [handleCommonEvent_eq]
  refine (chain_respond rfl ⟨p, rfl, queue, hqueue⟩ ?_).trans (chain_tryEnterDark rfl)
  have hscreen := recordEvent_isScreenOn cfg p action { s₀ with handler.queue := queue }
  obtain ⟨_, _, _, h⟩ := recordEvent_frame cfg p action { s₀ with handler.queue := queue }
  rw [h] at hscreen ⊢
  exact ⟨rfl, rfl, rfl, hscreen, rfl⟩

/-- What an action does is a chain of effects. -/
theorem chain_act (hown : OwnTasks s₀) (h : act cfg s₀ a = some t) : Chain cfg s₀ a s₀ t := by
  cases a with
  | timerFire callback => exact .single (.fire h)
  | timerCallback callback =>
    obtain ⟨hmem, rfl⟩ := act_timerCallback h
    by_cases hc : callback = .screenOffHalfHour
    · subst hc
      exact .tail (.single (.takeHalfHour s₀)) (.halfHour true _)
    · exact .single (.callback hmem rfl hc)
  | sensorEvent m =>
    obtain ⟨hactive, rfl⟩ := act_sensorEvent h
    exact .single (.sensorEvent hactive)
  | runTask task p =>
    obtain ⟨hmem, rfl⟩ := act_runTask h
    exact .head (.takeTask rfl hmem rfl)
      (chain_runTask hown rfl hmem ⟨rfl, rfl, rfl, rfl, rfl, rfl⟩ rfl rfl rfl)
  | post message =>
    obtain ⟨hext, rfl⟩ := act_post h
    exact .single (.post hext)
  | dispatch p =>
    obtain ⟨message, queue, hqueue, rfl⟩ := act_dispatch h
    unfold handleEvent
    split
    · exact .head (.record (p := p) rfl hqueue rfl) (chain_handleCommonEvent hqueue)
    · exact .single (.skip rfl hqueue rfl)
  | dayNightSwitch condition =>
    cases h
    split_ifs with hsleep
    · exact .single (.conditionChanged condition hsleep.2)
    · exact .refl
  | initReadyState p =>
    obtain ⟨hidle, rfl⟩ := act_initReadyState h
    cases hready : s₀.isServiceReady with
    | true => rw [initReadyState_of_ready hready]
    | false =>
      rw [hready] at hidle
      obtain ⟨hcallbacks, htasks⟩ := hidle.resolve_left (by decide)
      exact .single (.init hready hcallbacks htasks)
  | uninitReadyState p =>
    cases h
    exact chain_uninitReadyState rfl

end

end DeviceStandby
