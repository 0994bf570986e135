import DeviceStandby.State.Wake

/-!
# Holding SLEEP

`TransitHoldSleepState` stops the timers of SLEEP once. What was posted before and what the held
stay posts itself goes on: a transition task may still leave SLEEP, and the end of the last phase
arms the repeated detection anew. `held_still` says which steps a run must avoid for the hold to
last.
-/

namespace DeviceStandby

/-- SLEEP waits for the result of a repeated detection. -/
def Detecting (s : Service) : Prop :=
  s.isEvalution = true ∧ s.sleepState.isRepeatedDetection = true ∧
    s.sleepState.curPhase = SleepStatePhase.END

/-- Whether SLEEP is held after an event: from one that executes `TransitHoldSleepState`, until the
user's sleep ends or the device wakes. -/
def heldAfterEvent (s : Service) (action : CommonEvent) (held : Bool) : Bool :=
  match action with
  | .enterForceSleep => true
  | .userSleepStateChanged (some isSleep) => if s.isScreenOn then held else isSleep
  | _ => held && !action.isWakeUp

/-- Whether SLEEP is held after a step. -/
def heldAfter (s : Service) (a : Action) (t : Service) (held : Bool) : Bool :=
  match a, s.handler.queue with
  | .dispatch _, .commonEvent action :: _ => heldAfterEvent s action held
  | _, _ => held && decide (t.curState ≠ .working)

/-- The service, with whether SLEEP is held. -/
def heldSystem (cfg : StandbyConfig) : Lts.System (Service × Bool) Action :=
  (system cfg).withGhost false heldAfter

/-- The step executes `TransitHoldSleepState`. -/
def HoldsSleep (s : Service) (a : Action) : Prop :=
  ∃ action, Handles s a action ∧ (action = .enterForceSleep ∨
    action = .userSleepStateChanged (some true) ∧ s.isScreenOn = false)

/-- An event that holds SLEEP does so with the screen off, and ENTER_FORCE_SLEEP always. -/
theorem Handles.holdsSleep {s : Service} {a : Action} {action : CommonEvent}
    (h : Handles s a action) (hhold : action.isHold = true)
    (hscreen : action = .enterForceSleep ∨ s.isScreenOn = false) :
    HoldsSleep s a := by
  cases action with
  | enterForceSleep => exact ⟨_, h, .inl rfl⟩
  | userSleepStateChanged isSleep =>
    have htrue : isSleep = some true := by
      revert hhold
      unfold CommonEvent.isHold
      split <;> simp_all
    subst htrue
    exact ⟨_, h, .inr ⟨rfl, hscreen.resolve_left nofun⟩⟩
  | _ => cases hhold

/-- SLEEP is current, its timers are stopped, and no pending task leaves it or may do so. -/
structure HeldStill (cfg : StandbyConfig) (s : Service) : Prop where
  curState : s.curState = .sleep
  timer : ¬ s.timeService.Started (.startTransitNextState .sleep)
  repeated : ¬ s.timeService.Started .startPeriodlyMotionDetection
  tasks : ∀ task ∈ s.handler.tasks,
    task.name ≠ .transitNextStateTimed ∧ task.name ≠ .repeatedMotionDetection
  stays : ∀ task p t, (system cfg).step s (.runTask task p) = some t → t.curState = .sleep

/-- The entry of the hold ends a state that takes all timed tasks with it, and finds no motion that
SLEEP is waiting for. -/
structure HoldsCleanly (s : Service) : Prop where
  tasks : ∀ task ∈ s.handler.tasks,
    task.name = .transitNextStateTimed ∨ task.name = .repeatedMotionDetection →
      s.curState ≠ .sleep ∧ task.name ∈ endedTasks s.curState
  motion : s.curState = .sleep → .motionDetected ∈ s.handler.tasks → ¬ Detecting s

/-- The task ends the last phase of SLEEP. -/
def EndsLastPhase (s : Service) (task : Task) : Prop :=
  s.sleepState.curPhase + 1 = SleepStatePhase.END ∧
    match task with
    | .transitToSleepPhase _ => s.constraintManager.isEvaluation = false
    | .motionTotalTimeOut | .motionDetected => s.isEvalution = true
    | _ => False

/-- The step keeps the hold: it enters it cleanly, does not end the last phase where that arms the
repeated detection, reports no motion that SLEEP is waiting for, and runs no callback that was
delivered before the timers were stopped. -/
structure KeepsHold (cfg : StandbyConfig) (s : Service × Bool) (a : Action) : Prop where
  hold : HoldsSleep s.1 a → HoldsCleanly s.1
  phase : s.2 = true → ∀ task p, a = .runTask task p → EndsLastPhase s.1 task →
    ¬ (cfg.detectMotion = true ∧ p.startRepeatedTimer = true)
  sensor : s.2 = true → ∀ m, a = .sensorEvent m → ¬ Detecting s.1
  callback : s.2 = true → ∀ callback, a = .timerCallback callback → callback = .screenOffHalfHour

/-- SLEEP is current, its timers are stopped and no timed task is pending. -/
structure Lull (s : Service) : Prop where
  curState : s.curState = .sleep
  timers : ∀ callback, callback.owner = some .sleep → ¬ s.timeService.Started callback
  tasks : ∀ task ∈ s.handler.tasks,
    task.name ≠ .transitNextStateTimed ∧ task.name ≠ .repeatedMotionDetection

/-- What a hold keeps from step to step. -/
structure Held (s : Service) : Prop extends Lull s where
  motion : .motionDetected ∈ s.handler.tasks → ¬ Detecting s

section
variable {cfg : StandbyConfig} {a : Action} {p : Platform} {s t : Service}
  {action : CommonEvent} {evalResult : Bool}

/-- A write that starts no timer and posts no timed task. -/
theorem Lull.of_le (h : Lull s) (hcur : t.curState = s.curState)
    (htimers : ∀ callback, callback.owner = some .sleep → t.timeService.Started callback →
      s.timeService.Started callback)
    (htasks : ∀ task ∈ t.handler.tasks, task ∈ s.handler.tasks ∨
      (task.name ≠ .transitNextStateTimed ∧ task.name ≠ .repeatedMotionDetection)) : Lull t where
  curState := hcur.trans h.curState
  timers callback ho hst := h.timers callback ho (htimers callback ho hst)
  tasks task hmem := (htasks task hmem).elim (h.tasks task) id

/-- A write that leaves timers and tasks alone. -/
theorem Lull.of_eq (h : Lull s) (hcur : t.curState = s.curState)
    (htimers : t.timeService = s.timeService) (htasks : t.handler.tasks = s.handler.tasks) :
    Lull t :=
  h.of_le hcur (fun _ _ hst => htimers ▸ hst) fun _ hmem => .inl (htasks ▸ hmem)

/-- A write that does not begin to wait for a motion either. -/
theorem Held.of_lull (h : Held s) (hl : Lull t)
    (htasks : .motionDetected ∈ t.handler.tasks → .motionDetected ∈ s.handler.tasks)
    (hdetecting : Detecting t → Detecting s) : Held t where
  toLull := hl
  motion hmem hdet := h.motion (htasks hmem) (hdetecting hdet)

/-- Nothing is waited for between evaluations. -/
theorem Held.of_idle (h : Lull s) (hidle : s.isEvalution = false) : Held s where
  toLull := h
  motion _ hdet := by
    have hev := hdet.1
    rw [hidle] at hev
    cases hev

/-! ## Results and requests in SLEEP -/

/-- A phase ends quietly unless it is the last and arms the repeated detection. -/
theorem Lull.endEvalPhase (h : Lull s) (evalResult : Bool)
    (harm : s.sleepState.curPhase + 1 = SleepStatePhase.END →
      ¬ (cfg.detectMotion = true ∧ p.startRepeatedTimer = true))
    (hphase : s.sleepState.curPhase < SleepStatePhase.END) :
    Lull (SleepState.endEvalPhase cfg p evalResult s) := by
  have hnot : ¬ s.sleepState.curPhase + 1 < SleepStatePhase.END →
      ¬ (cfg.detectMotion = true ∧ p.startRepeatedTimer = true) := fun hlt =>
    harm (Nat.le_antisymm hphase (Nat.not_lt.1 hlt))
  have hset : ∀ u : Service, Lull u → u.sleepState.curPhase = s.sleepState.curPhase →
      Lull (SleepState.setPhaseTransitOrRepeatedTask cfg p u) := fun u hu hsame => by
    unfold SleepState.setPhaseTransitOrRepeatedTask
    dsimp only
    by_cases hlt : s.sleepState.curPhase + 1 < SleepStatePhase.END
    · rw [hsame, if_pos hlt]
      refine hu.of_le rfl (fun _ _ hst => hst) fun task hmem => ?_
      refine (List.mem_append.1 hmem).imp_right fun hmem => ?_
      rw [List.mem_singleton.1 hmem]
      exact ⟨by decide, by decide⟩
    · rw [hsame, if_neg hlt, if_neg (hnot hlt)]
      exact hu.of_eq rfl rfl rfl
  unfold SleepState.endEvalPhase
  cases evalResult with
  | false => exact hset s h rfl
  | true => exact hset _ (h.of_eq rfl rfl rfl) rfl

/-- A result that is delivered does not wake SLEEP unless it is a motion that SLEEP is waiting
for. -/
theorem Lull.endEvalCurrentState (h : Lull s) (hev : s.isEvalution = true)
    (hres : evalResult = true ∨ ¬ Detecting s)
    (hbound : s.sleepState.curPhase ≤ SleepStatePhase.END)
    (harm : s.sleepState.curPhase + 1 = SleepStatePhase.END →
      ¬ (cfg.detectMotion = true ∧ p.startRepeatedTimer = true)) :
    Held (endEvalCurrentState cfg p evalResult s) := by
  have hlog : Lull ((finishEvalution s).log (.endEval (consumedRequest cfg
      (finishEvalution s)))) := by
    obtain ⟨_, _, _, hf⟩ := finishEvalution_frame (s := s)
    refine h.of_le ?_ (fun callback _ hst => ?_) fun task hmem =>
      .inl (mem_finishEvalution_tasks hmem)
    · rw [hf]
      rfl
    · rw [hf] at hst
      exact hst
  obtain ⟨_, _, _, hf⟩ := finishEvalution_frame (s := s)
  have hidle : ((finishEvalution s).log (.endEval (consumedRequest cfg
      (finishEvalution s)))).isEvalution = false := by rw [hf]; rfl
  have hsleep : ((finishEvalution s).log (.endEval (consumedRequest cfg
      (finishEvalution s)))).sleepState = s.sleepState := by rw [hf]; rfl
  unfold DeviceStandby.endEvalCurrentState
  rw [if_neg (not_not_intro hev)]
  dsimp only
  generalize (finishEvalution s).log (.endEval (consumedRequest cfg (finishEvalution s))) = u
    at hlog hidle hsleep ⊢
  simp only [stateEndEval, hlog.curState, SleepState.endEvalCurrentState]
  split_ifs with hphase hwake
  · refine .of_idle (hlog.endEvalPhase evalResult ?_ hphase) ?_
    · rw [hsleep]
      exact harm
    · obtain ⟨_, _, _, _, hf⟩ := SleepState.endEvalPhase_frame cfg p evalResult u
      rw [hf, hidle]
  · -- SLEEP was waiting for a motion
    rw [hsleep] at hphase hwake
    rcases hres with hres | hres
    · exact absurd hres hwake.1
    · exact absurd ⟨hev, hwake.2, Nat.le_antisymm hbound (Nat.not_lt.1 hphase)⟩ hres
  · exact .of_idle (hlog.of_eq rfl rfl rfl) hidle

/-- A request for which no monitor is registered ends at once, or is refused. -/
theorem Held.startEvalCurrentState (h : Held s) {params : ConstraintEvalParam}
    (hlookup : s.constraintManager.constraintMap.lookup params.getHashValue = none)
    (hmanager : s.constraintManager.hasStateManager = true)
    (hagree : s.constraintManager.isEvaluation = true → s.isEvalution = true)
    (hbound : s.sleepState.curPhase ≤ SleepStatePhase.END)
    (harm : s.constraintManager.isEvaluation = false →
      s.sleepState.curPhase + 1 = SleepStatePhase.END →
      ¬ (cfg.detectMotion = true ∧ p.startRepeatedTimer = true)) :
    Held (startEvalCurrentState cfg p params s) := by
  simp only [DeviceStandby.startEvalCurrentState, ConstraintManagerAdapter.startEvalution, hlookup,
    hmanager, if_true]
  by_cases hbusy : s.constraintManager.isEvaluation = true
  · rw [if_pos hbusy]
    exact h.of_lull (h.of_eq rfl rfl rfl) id fun hdet => ⟨hagree hbusy, hdet.2.1, hdet.2.2⟩
  · rw [if_neg hbusy]
    exact Lull.endEvalCurrentState (h.of_eq rfl rfl rfl) rfl (.inl rfl) hbound
      (harm (Bool.eq_false_iff.2 hbusy))

/-- Starting the sensors, or failing to, touches no timer of SLEEP. -/
theorem Held.periodlyStartMotionDetection (h : Held s) (m : Monitor) :
    Held (periodlyStartMotionDetection cfg p m s) := by
  unfold DeviceStandby.periodlyStartMotionDetection
  split
  case h_1 =>
    refine h.of_lull (h.of_le rfl (fun _ _ hst => hst) fun task hmem => ?_) (fun hmem => ?_) id
    · simp only [Service.mem_postTask] at hmem
      rcases hmem with (hmem | rfl) | rfl
      · exact .inl hmem
      · exact .inr ⟨by simp [Task.name], by simp [Task.name]⟩
      · exact .inr ⟨by simp [Task.name], by simp [Task.name]⟩
    · simpa [Service.mem_postTask, Service.setMonitor] using hmem
  case h_2 err monitor _ _ =>
    have hcur : (s.setMonitor m monitor).curState = .sleep := h.curState
    simp only [blockCurrentState, hcur]
    exact h.of_lull (h.of_eq h.curState.symm rfl rfl) id id

/-- No monitor is registered for an advance of a phase of SLEEP. -/
theorem Registered.lookup_sleepPhase (h : Registered s) (hbasic : Basic s) :
    s.constraintManager.constraintMap.lookup (⟨.sleep, s.sleepState.curPhase, .sleep,
      s.sleepState.curPhase + 1, false⟩ : ConstraintEvalParam).getHashValue = none :=
  h.lookup_phase hbasic.sleepPhase (Nat.succ_le_succ hbasic.sleepPhase)

/-! ## SLEEP stays current -/

/-- A result that SLEEP does not take for a motion. -/
theorem endEvalCurrentState_sleep (hcur : s.curState = .sleep)
    (hres : s.isEvalution = true → evalResult = true ∨ ¬ Detecting s)
    (hbound : s.sleepState.curPhase ≤ SleepStatePhase.END) :
    (endEvalCurrentState cfg p evalResult s).curState = .sleep := by
  obtain ⟨_, _, _, hf⟩ := finishEvalution_frame (s := s)
  unfold DeviceStandby.endEvalCurrentState
  split_ifs with hev
  · simp only [hf, Service.log, stateEndEval, hcur, SleepState.endEvalCurrentState]
    split_ifs with hphase hwake
    · rw [endEvalPhase_curState]
    · rcases hres hev with hres | hres
      · exact absurd hres hwake.1
      · exact absurd ⟨hev, hwake.2, Nat.le_antisymm hbound (Nat.not_lt.1 hphase)⟩ hres
    · rfl
  · exact hcur

/-- A request for which no monitor is registered. -/
theorem startEvalCurrentState_sleep {params : ConstraintEvalParam} (hcur : s.curState = .sleep)
    (hlookup : s.constraintManager.constraintMap.lookup params.getHashValue = none)
    (hbound : s.sleepState.curPhase ≤ SleepStatePhase.END) :
    (startEvalCurrentState cfg p params s).curState = .sleep := by
  simp only [DeviceStandby.startEvalCurrentState, ConstraintManagerAdapter.startEvalution, hlookup]
  split_ifs
  · exact hcur
  · exact endEvalCurrentState_sleep hcur (fun _ => .inl rfl) hbound
  · exact hcur

/-- The pending tasks of a held SLEEP are its phase tasks and those of its motion detection. -/
theorem Held.mem_tasks (h : Held s) (hown : OwnTasks s) {task : Task}
    (hmem : task ∈ s.handler.tasks) :
    (∃ acquire, task = .transitToSleepPhase acquire) ∨ task = .motionTotalTimeOut ∨
      task = .motionDetected ∨ (∃ m, task = .stopMotionDetection m) ∨
      ∃ m, task = .periodlyStartMotionDetection m := by
  obtain ⟨htimed, hrepeated⟩ := h.tasks task hmem
  cases task with
  | transitNextState state => exact absurd rfl htimed
  | repeatedDetection => exact absurd rfl hrepeated
  | checkScreenStatus =>
    have hcur := hown.checkScreen hmem
    rw [h.curState] at hcur
    cases hcur
  | transitToNapPhase acquire =>
    have hcur := hown.napPhase acquire hmem
    rw [h.curState] at hcur
    cases hcur
  | transitToSleepPhase acquire => exact .inl ⟨acquire, rfl⟩
  | motionTotalTimeOut => exact .inr (.inl rfl)
  | motionDetected => exact .inr (.inr (.inl rfl))
  | stopMotionDetection m => exact .inr (.inr (.inr (.inl ⟨m, rfl⟩)))
  | periodlyStartMotionDetection m => exact .inr (.inr (.inr (.inr ⟨m, rfl⟩)))

/-- A pending task of a held SLEEP. -/
theorem Held.runTask_curState (h : Held s) (hbasic : Basic s) (hreg : Registered s)
    (hown : OwnTasks s) {task : Task} (hmem : task ∈ s.handler.tasks) :
    (runTask cfg p task { s with handler.tasks := s.handler.tasks.erase task }).curState =
      .sleep := by
  obtain ⟨acquire, rfl⟩ | rfl | rfl | ⟨m, rfl⟩ | ⟨m, rfl⟩ := h.mem_tasks hown hmem
  · have hlookup := hreg.lookup_sleepPhase hbasic
    cases acquire <;> exact startEvalCurrentState_sleep h.curState hlookup hbasic.sleepPhase
  · exact endEvalCurrentState_sleep h.curState (fun _ => .inl rfl) hbasic.sleepPhase
  · exact endEvalCurrentState_sleep h.curState (fun _ => .inr (h.motion hmem)) hbasic.sleepPhase
  · exact h.curState
  · exact periodlyStartMotionDetection_curState.trans h.curState

/-- What a hold keeps is what it is for. -/
theorem Held.still (h : Held s) (hr : Lts.Reachable (system cfg) s) : HeldStill cfg s where
  curState := h.curState
  timer := h.timers _ rfl
  repeated := h.timers _ rfl
  tasks := h.tasks
  stays task p t hs := by
    obtain ⟨hact, -⟩ := (system_step_iff cfg).1 hs
    obtain ⟨hmem, rfl⟩ := act_runTask hact
    exact h.runTask_curState (basic_reachable hr) (registered_reachable hr) (ownTasks_reachable hr)
      hmem

/-! ## Steps of a hold -/

/-- A pending task of a held SLEEP. -/
theorem Held.runTask (h : Held s) (hbasic : Basic s) (hreg : Registered s) (hown : OwnTasks s)
    {task : Task} (hmem : task ∈ s.handler.tasks)
    (harm : EndsLastPhase s task → ¬ (cfg.detectMotion = true ∧ p.startRepeatedTimer = true)) :
    Held (runTask cfg p task { s with handler.tasks := s.handler.tasks.erase task }) := by
  have htaken : Held { s with handler.tasks := s.handler.tasks.erase task } :=
    h.of_lull (h.of_le rfl (fun _ _ hst => hst) fun _ hmem => .inl (List.mem_of_mem_erase hmem))
      List.mem_of_mem_erase id
  have hready : s.isServiceReady = true := hbasic.ready (by rw [h.curState]; nofun)
  have hresult : ∀ evalResult, (evalResult = true ∨ ¬ Detecting s) →
      (s.isEvalution = true → s.sleepState.curPhase + 1 = SleepStatePhase.END →
        ¬ (cfg.detectMotion = true ∧ p.startRepeatedTimer = true)) →
      Held (DeviceStandby.endEvalCurrentState cfg p evalResult
        { s with handler.tasks := s.handler.tasks.erase task }) := by
    intro evalResult hres harm
    by_cases hev : s.isEvalution = true
    · exact htaken.toLull.endEvalCurrentState hev hres hbasic.sleepPhase (harm hev)
    · rw [DeviceStandby.endEvalCurrentState, if_pos hev]
      exact htaken
  obtain ⟨acquire, rfl⟩ | rfl | rfl | ⟨m, rfl⟩ | ⟨m, rfl⟩ := h.mem_tasks hown hmem
  · have hlookup := hreg.lookup_sleepPhase hbasic
    have hphase : ∀ u : Service, Held u → u.constraintManager = s.constraintManager →
        u.isEvalution = s.isEvalution → u.sleepState = s.sleepState →
        Held (transitToPhase cfg p .sleep u.sleepState.curPhase (u.sleepState.curPhase + 1) u) := by
      intro u hu hcm hev hsleep
      refine hu.startEvalCurrentState ?_ ?_ ?_ ?_ ?_ <;> simp only [hcm, hev, hsleep]
      · exact hlookup
      · exact hreg.hasStateManager hready
      · exact hbasic.evaluation
      · exact hbasic.sleepPhase
      · exact fun hidle hlast => harm ⟨hlast, hidle⟩
    cases acquire with
    | true => exact hphase _ (htaken.of_lull (htaken.of_eq rfl rfl rfl) id id) rfl rfl rfl
    | false => exact hphase _ htaken rfl rfl rfl
  · exact hresult true (.inl rfl) fun hev hlast => harm ⟨hlast, hev⟩
  · exact hresult false (.inr (h.motion hmem)) fun hev hlast => harm ⟨hlast, hev⟩
  · exact htaken.of_lull (htaken.of_eq rfl rfl rfl) id id
  · exact htaken.periodlyStartMotionDetection m

/-- Beginning SLEEP forgets a repeated detection. -/
theorem SleepState.beginState_isRepeatedDetection (cfg : StandbyConfig) (p : Platform)
    (s : Service) : (SleepState.beginState cfg p s).sleepState.isRepeatedDetection = false := by
  unfold SleepState.beginState SleepState.checkScrenOffHalfHour
  dsimp only
  split_ifs
  · rfl
  · rfl
  · rw [onScreenOffHalfHourInner_sleepState]
    rfl
  · rfl

/-- Stopping the timers of SLEEP. -/
theorem Lull.stopTimers (hcur : s.curState = .sleep)
    (htasks : ∀ task ∈ s.handler.tasks,
      task.name ≠ .transitNextStateTimed ∧ task.name ≠ .repeatedMotionDetection) :
    Lull (stopRepeatedTimedTask cfg (stopTransitTimedTask cfg .sleep s)) where
  curState := hcur
  timers callback ho hst := by
    obtain ⟨hst, hne⟩ := stopRepeatedTimedTask_started hst
    obtain ⟨-, hne'⟩ := stopTransitTimedTask_started hst
    cases callback with
    | startTransitNextState state =>
      cases ho
      exact hne' rfl
    | startPeriodlyMotionDetection => exact hne rfl
    | screenOffHalfHour => cases ho
  tasks := htasks

/-- The entry of a hold. -/
theorem HoldsCleanly.held (h : HoldsCleanly s)
    (halive : (transitHoldSleepState cfg p s).crashed = false) :
    Held (transitHoldSleepState cfg p s) := by
  simp only [transitHoldSleepState] at halive ⊢
  by_cases hcur : s.curState = .sleep
  · rw [if_neg (not_not_intro hcur)]
    refine ⟨.stopTimers hcur fun task hmem => ?_, fun hmem hdet => h.motion hcur hmem hdet⟩
    constructor <;> intro hname
    · exact (h.tasks task hmem (.inl hname)).1 hcur
    · exact (h.tasks task hmem (.inr hname)).1 hcur
  · rw [if_pos hcur] at halive ⊢
    refine ⟨.stopTimers (by simp) fun task hmem => ?_, fun _ hdet => ?_⟩
    · rcases mem_transit_tasks hmem with ⟨hs, hnot⟩ | hnew
      · constructor <;> intro hname
        · exact hnot (h.tasks task hs (.inl hname)).2
        · exact hnot (h.tasks task hs (.inr hname)).2
      · cases hnew
        exact ⟨by decide, by decide⟩
    · have hrep := hdet.2.1
      have hstates := (transitToStateInner_alive (s := unblockCurrentState s) halive).2
      simp only [stopRepeatedTimedTask, stopTransitTimedTask] at hrep
      rw [transitToStateInner_eq hstates] at hrep
      exact absurd hrep (Bool.eq_false_iff.1 (SleepState.beginState_isRepeatedDetection cfg p _))

/-- Recording an event does not end the hold. -/
theorem Held.recordEvent (h : Held s) : Held (recordEvent cfg p action s) := by
  obtain ⟨hstarted, -⟩ := recordEvent_timeService cfg p action s
  obtain ⟨_, _, _, hf⟩ := recordEvent_frame cfg p action s
  refine h.of_lull (h.of_le ?_ (fun callback => hstarted callback .sleep) ?_) ?_ ?_ <;> rw [hf]
  exacts [fun _ hmem => .inl hmem, id, id]

/-- Recording an event leaves nothing behind for the hold. -/
theorem HoldsCleanly.recordEvent (h : HoldsCleanly s) :
    HoldsCleanly (recordEvent cfg p action s) := by
  obtain ⟨_, _, _, hf⟩ := recordEvent_frame cfg p action s
  rw [hf]
  exact ⟨h.tasks, h.motion⟩

/-- DARK is not tried from SLEEP. -/
theorem tryEnterDark_sleep (hcur : s.curState = .sleep) : tryEnterDark cfg p action s = s := by
  rw [tryEnterDark_eq, if_neg]
  rintro ⟨hw, -⟩
  rw [hcur] at hw
  cases hw

/-- An event of a run, after which SLEEP is held. -/
theorem held_handleCommonEvent {held : Bool} (h : held = true → Held s)
    (hhold : action = .enterForceSleep ∨
      action = .userSleepStateChanged (some true) ∧ s.isScreenOn = false → HoldsCleanly s)
    (halive : (handleCommonEvent cfg p action s).crashed = false)
    (hheld : heldAfterEvent s action held = true) : Held (handleCommonEvent cfg p action s) := by
  have hclean : action = .enterForceSleep ∨
      action = .userSleepStateChanged (some true) ∧ s.isScreenOn = false →
      HoldsCleanly (recordEvent cfg p action s) := fun hc => (hhold hc).recordEvent
  have hstill : held = true → Held (recordEvent cfg p action s) := fun hc => (h hc).recordEvent
  have hscreen := recordEvent_isScreenOn cfg p action s
  rw [handleCommonEvent_eq] at halive ⊢
  generalize recordEvent cfg p action s = u at hclean hstill hscreen halive ⊢
  -- no event of a hold leaves SLEEP, so DARK is not tried
  have hkeep : Held u → respond cfg p action u = u →
      Held (tryEnterDark cfg p action (respond cfg p action u)) := fun hu heq => by
    rwa [heq, tryEnterDark_sleep hu.curState]
  have henter : ∀ v, HoldsCleanly v → respond cfg p action u = transitHoldSleepState cfg p v →
      Held (tryEnterDark cfg p action (respond cfg p action u)) := fun v hv heq => by
    rw [heq, tryEnterDark_sleep transitHoldSleepState_curState] at halive ⊢
    exact hv.held halive
  cases action with
  | screenOn | screenUnlocked | charging | usbDeviceAttached | lidOpen =>
    simp [heldAfterEvent, CommonEvent.isWakeUp] at hheld
  | screenOff | discharging | usbDeviceDetached | other =>
    exact hkeep (hstill (Bool.and_eq_true_iff.1 hheld).1) rfl
  | enterForceSleep => exact henter u (hclean (.inl rfl)) rfl
  | userSleepStateChanged isSleep =>
    have hsame : u.isScreenOn = s.isScreenOn := hscreen
    have hignored : u.isScreenOn = true →
        respond cfg p (.userSleepStateChanged isSleep) u = u := fun hon => by
      simp [respond, CommonEvent.isWakeUp, handleAction, handleUserSleepState, hon]
    cases isSleep with
    | none =>
      refine hkeep (hstill (Bool.and_eq_true_iff.1 hheld).1) ?_
      by_cases hon : u.isScreenOn = true
      · exact hignored hon
      · simp [respond, CommonEvent.isWakeUp, handleAction, handleUserSleepState]
    | some isSleep =>
      simp only [heldAfterEvent, ← hsame] at hheld hclean
      by_cases hon : u.isScreenOn = true
      · rw [if_pos hon] at hheld
        exact hkeep (hstill hheld) (hignored hon)
      · rw [if_neg hon] at hheld
        subst hheld
        have hc := hclean (.inr ⟨rfl, Bool.eq_false_iff.2 hon⟩)
        refine henter { u with isSleepState := true } ⟨hc.tasks, hc.motion⟩ ?_
        simp [respond, CommonEvent.isWakeUp, handleAction, handleUserSleepState, hon]

/-- A step after which SLEEP is held. -/
theorem held_after_step {held : Bool} (hr : Lts.Reachable (system cfg) s)
    (hok : KeepsHold cfg (s, held) a) (h : held = true → Held s)
    (hs : (system cfg).step s a = some t) (hheld : heldAfter s a t held = true) : Held t := by
  have hbasic : Basic s := basic_reachable hr
  obtain ⟨hact, hcrash⟩ := (system_step_iff cfg).1 hs
  cases a with
  | timerFire callback =>
    have hh := h (Bool.and_eq_true_iff.1 hheld).1
    obtain ⟨-, -, hst⟩ := timerFire_spec hact
    obtain ⟨_, rfl⟩ := timerFire_frame hact
    exact hh.of_lull (hh.of_le rfl (fun _ _ => hst _) fun _ hmem => .inl hmem) id id
  | timerCallback callback =>
    obtain ⟨htrue, -⟩ := Bool.and_eq_true_iff.1 hheld
    have hh := h htrue
    obtain ⟨-, rfl⟩ := act_timerCallback hact
    cases hok.callback htrue callback rfl
    simp only [runCallback]
    refine hh.of_lull (hh.of_le ?_ (fun callback _ hst => ?_) fun task hmem => .inl ?_) ?_ ?_
    · simp
    · rw [onScreenOffHalfHourInner_timeService] at hst
      cases callback <;> exact hst
    · simpa using hmem
    · simp
    · simp [Detecting]
  | sensorEvent m =>
    obtain ⟨htrue, -⟩ := Bool.and_eq_true_iff.1 hheld
    have hh := h htrue
    obtain ⟨-, rfl⟩ := act_sensorEvent hact
    refine ⟨hh.of_le rfl (fun _ _ hst => hst) fun task hmem => ?_, fun _ => hok.sensor htrue m rfl⟩
    refine (List.mem_append.1 hmem).imp_right fun hmem => ?_
    rw [List.mem_singleton.1 hmem]
    exact ⟨by decide, by decide⟩
  | runTask task p =>
    obtain ⟨htrue, -⟩ := Bool.and_eq_true_iff.1 hheld
    obtain ⟨hmem, rfl⟩ := act_runTask hact
    exact (h htrue).runTask hbasic (registered_reachable hr) (ownTasks_reachable hr) hmem
      (hok.phase htrue task p rfl)
  | post message =>
    have hh := h (Bool.and_eq_true_iff.1 hheld).1
    obtain ⟨-, rfl⟩ := act_post hact
    exact hh.of_lull (hh.of_eq rfl rfl rfl) id id
  | dayNightSwitch condition =>
    have hh := h (Bool.and_eq_true_iff.1 hheld).1
    cases hact
    split_ifs
    · exact hh.of_lull (hh.of_eq rfl rfl rfl) id id
    · exact hh
  | initReadyState p =>
    have hh := h (Bool.and_eq_true_iff.1 hheld).1
    have hready : s.isServiceReady = true := hbasic.ready (by rw [hh.curState]; rintro ⟨⟩)
    obtain ⟨-, rfl⟩ := act_initReadyState hact
    rw [initReadyState_of_ready hready]
    exact hh
  | uninitReadyState p =>
    obtain ⟨htrue, hne⟩ := Bool.and_eq_true_iff.1 hheld
    have hready : s.isServiceReady = true := hbasic.ready (by rw [(h htrue).curState]; rintro ⟨⟩)
    cases hact
    obtain ⟨_, _, hf⟩ := StateManagerAdapter.resetStates_frame cfg
      (transitToWorking cfg p (ConstraintManagerAdapter.unInit s))
    simp only [uninitReadyState, hready, not_true_eq_false, if_false, StateManagerAdapter.unInit,
      transitToState_working, hf, transitToWorking_curState, ne_eq, decide_false,
      Bool.false_eq_true] at hne
  | dispatch p =>
    obtain ⟨message, queue, hqueue, rfl⟩ := act_dispatch hact
    have hh : held = true → Held { s with handler.queue := queue } := fun htrue =>
      (h htrue).of_lull ((h htrue).of_eq rfl rfl rfl) id id
    unfold handleEvent at hcrash hheld ⊢
    cases message with
    | commonEvent action =>
      have hhandles : Handles s (.dispatch p) action := ⟨p, rfl, queue, hqueue⟩
      simp only [heldAfter, hqueue] at hheld
      refine held_handleCommonEvent (s := { s with handler.queue := queue }) hh (fun hc => ?_)
        hcrash hheld
      have hc := hok.hold ⟨action, hhandles, hc⟩
      exact ⟨hc.tasks, hc.motion⟩
    | _ =>
      simp only [heldAfter, hqueue] at hheld
      exact hh (Bool.and_eq_true_iff.1 hheld).1

/-- In a run whose steps keep the hold, a held SLEEP has no timer armed and no pending task that
leaves it. -/
theorem held_still (h : Lts.ReachableUnder (heldSystem cfg) (KeepsHold cfg) (s, true)) :
    HeldStill cfg s := by
  have hheld : (s, true).2 = true → Held (s, true).1 := by
    refine h.invariant (I := fun s => s.2 = true → Held s.1) (fun h => absurd h Bool.false_ne_true)
      fun {s t a} hr hok hs hi ht => ?_
    obtain ⟨hstep, hflag⟩ := Lts.System.withGhost_step_iff.1 hs
    exact held_after_step hr.of_withGhost hok hi hstep (hflag ▸ ht)
  exact (hheld rfl).still h.of_withGhost

/-- A forced sleep, and the three tasks that advance its phases. -/
def holdRun (p : Platform) : List Action :=
  [.initReadyState p] ++ handling .enterForceSleep p ++
    [.runTask (.transitToSleepPhase true) p, .runTask (.transitToSleepPhase false) p,
      .runTask (.transitToSleepPhase false) p]

/-- A test that suffices for `KeepsHold`. -/
def holdTest (s : Service × Bool) (a : Action) : Bool :=
  match a with
  | .initReadyState _ | .post _ => true
  | .dispatch _ => s.1.curState ≠ .sleep ∧ ∀ task ∈ s.1.handler.tasks,
      task.name ≠ .transitNextStateTimed ∧ task.name ≠ .repeatedMotionDetection
  | .runTask _ p => s.1.sleepState.curPhase + 1 ≠ SleepStatePhase.END ∨ ¬ p.startRepeatedTimer
  | _ => false

/-- The test suffices. -/
theorem keepsHold_of_test (s : Service × Bool) (a : Action) (h : holdTest s a = true) :
    KeepsHold cfg s a := by
  have hno : (∀ p, a ≠ .dispatch p) → ¬ HoldsSleep s.1 a :=
    fun hno ⟨_, ⟨p, ha, _⟩, _⟩ => hno p ha
  unfold holdTest at h
  split at h
  · exact {
      hold := fun hh => absurd hh (hno fun _ ha => nomatch ha)
      phase := fun _ _ _ ha => nomatch ha
      sensor := fun _ _ ha => nomatch ha
      callback := fun _ _ ha => nomatch ha }
  · exact {
      hold := fun hh => absurd hh (hno fun _ ha => nomatch ha)
      phase := fun _ _ _ ha => nomatch ha
      sensor := fun _ _ ha => nomatch ha
      callback := fun _ _ ha => nomatch ha }
  · obtain ⟨hcur, htasks⟩ := of_decide_eq_true h
    exact {
      hold := fun _ => {
        tasks := fun task hmem hname => hname.elim
          (fun hname => absurd hname (htasks task hmem).1)
          fun hname => absurd hname (htasks task hmem).2
        motion := fun hsleep => absurd hsleep hcur }
      phase := fun _ _ _ ha => nomatch ha
      sensor := fun _ _ ha => nomatch ha
      callback := fun _ _ ha => nomatch ha }
  · exact {
      hold := fun hh => absurd hh (hno fun _ ha => nomatch ha)
      phase := fun _ task p ha hlast harm => by
        cases ha
        exact (of_decide_eq_true h).elim (· hlast.1) (· harm.2)
      sensor := fun _ _ ha => nomatch ha
      callback := fun _ _ ha => nomatch ha }
  · cases h

/-- A forced sleep, in all its phases, when the repeated timer does not start. -/
theorem held_still_forced : ∃ s, s.sleepState.curPhase = SleepStatePhase.END ∧
    HeldStill sampleConfig s := by
  obtain ⟨⟨s, held⟩, hr, hs⟩ := (heldSystem sampleConfig).exists_check (KeepsHold sampleConfig)
    holdTest keepsHold_of_test
    (fun s => s.2 = true ∧ s.1.sleepState.curPhase = SleepStatePhase.END)
    (holdRun { samplePlatform with startRepeatedTimer := false }) (by decide)
  obtain ⟨hheld, hphase⟩ := of_decide_eq_true hs
  cases hheld
  exact ⟨s, hphase, held_still hr⟩

/-- A held SLEEP is not always still: the end of its last phase arms the repeated detection. -/
theorem held_not_always_still : ¬ ∀ (cfg : StandbyConfig) (s : Service),
    Lts.Reachable (heldSystem cfg) (s, true) → HeldStill cfg s := by
  intro h
  obtain ⟨⟨s, held⟩, hr, hheld, hst⟩ := (heldSystem sampleConfig).exists_run
    (holdRun samplePlatform)
    (Lts.System.runMeets_of_forall _ fun _ _ _ => trivial)
    (fun s => s.2 = true ∧ s.1.timeService.repeatedDetectionTimer.isSome = true) (by decide)
  cases hheld
  refine (h sampleConfig s hr).repeated fun hnone => ?_
  rw [hnone] at hst
  cases hst

end

end DeviceStandby
