import DeviceStandby.State.Timeout

/-!
# The standby running lock

A transition task and the first phase task of NAP and SLEEP take the running lock; a transition, the
last phase of a state and a blocked NAP give it back. While it is held the phases of NAP or SLEEP
are on their way to their end (`LockAccounted`). A user-sleep event begins SLEEP anew and posts its
first phase task again without removing the one that is pending; when the phases are over by the
time the last of them runs, it takes the lock and nothing gives it back (`KeepsLock`).
-/

namespace DeviceStandby

open Relation

/-- The pending tasks that advance a phase. -/
def phaseTasks (s : Service) : List Task :=
  s.handler.tasks.filter (·.name = .transitNextPhaseInstant)

/-- The task that a phase of NAP is waiting for. -/
def napPhaseTasks (curPhase : Nat) : List Task :=
  if curPhase = NapStatePhase.CONNECTION then [.transitToNapPhase true]
  else if curPhase < NapStatePhase.END then [.transitToNapPhase false]
  else []

/-- NAP without a next state: nothing is evaluated, no timer is to end it, and the only phase task
is that of its phase. -/
structure Resting (s : Service) : Prop where
  isEvalution : s.isEvalution = false
  timeout : ¬ TimeoutPending .nap s
  tasks : phaseTasks s = napPhaseTasks s.napState.curPhase

/-- A NAP without a next state rests. -/
def NapRests (s : Service) : Prop :=
  s.curState = .nap → s.napState.nextState = .nap → Resting s

/-- The phases of the current state have an end ahead. A NAP with a next state ends after its last
phase as well. -/
def Advancing (s : Service) : Prop :=
  match s.curState with
  | .nap => s.napState.nextState = .nap → s.napState.curPhase < NapStatePhase.END
  | .sleep => s.sleepState.curPhase < SleepStatePhase.END
  | .working | .dark | .maintenance => False

/-- A result or a phase task is still to come. -/
def Awaiting (s : Service) : Prop :=
  s.isEvalution = true ∨ phaseTasks s ≠ []

/-- While the running lock is held, the phases are on their way to their end. -/
def LockAccounted (s : Service) : Prop :=
  s.runningLockStatus = true → Advancing s ∧ Awaiting s

/-- The step does not run the first phase task of SLEEP after the last phase. -/
def KeepsLock (s : Service) (a : Action) : Prop :=
  ∀ p, a = .runTask (.transitToSleepPhase true) p → s.sleepState.curPhase ≠ SleepStatePhase.END

section
variable {cfg : StandbyConfig} {s₀ : Service} {a : Action} {p : Platform} {s t : Service}
  {nextState : StandbyState} {action : CommonEvent} {evalResult : Bool}

/-! ## Phase tasks -/

/-- The phase tasks are those of the name `TRANSIT_NEXT_PHASE_INSTANT`. -/
theorem mem_phaseTasks {task : Task} :
    task ∈ phaseTasks s ↔ task ∈ s.handler.tasks ∧ task.name = .transitNextPhaseInstant := by
  simp [phaseTasks]

/-- A task of another name is no phase task. -/
theorem phaseTasks_postTask {task : Task} (hname : task.name ≠ .transitNextPhaseInstant) :
    phaseTasks (s.postTask task) = phaseTasks s := by
  simp [phaseTasks, Service.postTask, hname]

/-- Nor is it missed among them. -/
theorem phaseTasks_erase {task : Task} (hname : task.name ≠ .transitNextPhaseInstant) :
    phaseTasks { s with handler.tasks := s.handler.tasks.erase task } = phaseTasks s := by
  simp only [phaseTasks, ← List.erase_filter]
  exact List.erase_of_not_mem fun hmem => hname (by simpa using (List.mem_filter.1 hmem).2)

/-- `StopMonitoring` leaves the phase tasks. -/
theorem phaseTasks_stopMonitoring {m : Monitor} :
    phaseTasks (stopMonitoring m s) = phaseTasks s := by
  unfold stopMonitoring
  cases m.kind with
  | charge => rfl
  | motion | repeatedMotion =>
    simp only [phaseTasks, Service.setMonitor, Service.removeTask, List.filter_filter]
    refine List.filter_congr fun task _ => ?_
    cases task <;> simp [Task.name]

/-- So does the constraint manager's `StopEvalution`. -/
theorem phaseTasks_constraintStop :
    phaseTasks (ConstraintManagerAdapter.stopEvalution s) = phaseTasks s := by
  unfold ConstraintManagerAdapter.stopEvalution
  split_ifs
  · dsimp only
    split
    · rfl
    · exact phaseTasks_stopMonitoring (s := { s with constraintManager.isEvaluation := false })
  · rfl

/-- So does the state manager's. -/
theorem phaseTasks_stopEvalution : phaseTasks (stopEvalution s) = phaseTasks s := by
  unfold stopEvalution
  split_ifs
  · exact phaseTasks_constraintStop
  · rfl

/-- So does the end of an evaluation. -/
theorem phaseTasks_finishEvalution : phaseTasks (finishEvalution s) = phaseTasks s :=
  phaseTasks_constraintStop (s := { s with isEvalution := false })

/-- The phase tasks are those of the current state. -/
theorem OwnTasks.phaseTasks_eq_nil (h : OwnTasks s) (hnap : s.curState ≠ .nap)
    (hsleep : s.curState ≠ .sleep) : phaseTasks s = [] := by
  refine List.eq_nil_iff_forall_not_mem.2 fun task hmem => ?_
  obtain ⟨hmem, hname⟩ := mem_phaseTasks.1 hmem
  cases task with
  | transitToNapPhase acquire => exact hnap (h.napPhase acquire hmem)
  | transitToSleepPhase acquire => exact hsleep (h.sleepPhase acquire hmem)
  | _ => cases hname

/-! ## A NAP without a next state -/

/-- Outside NAP nothing is asked of its phase. -/
theorem NapRests.of_ne (h : t.curState ≠ .nap) : NapRests t := fun hcur => absurd hcur h

/-- A write that starts no timer of NAP and leaves the phases of NAP alone. -/
theorem NapRests.of_le (h : NapRests s) (hcur : t.curState = s.curState)
    (hnext : t.napState.nextState = .nap → s.napState.nextState = .nap)
    (hphase : t.napState.curPhase = s.napState.curPhase)
    (hev : s.isEvalution = false → t.isEvalution = false)
    (htimeout : TimeoutPending .nap t → TimeoutPending .nap s)
    (htasks : phaseTasks t = phaseTasks s) : NapRests t := fun hnap hn => by
  obtain ⟨hidle, hno, hown⟩ := h (hcur ▸ hnap) (hnext hn)
  exact ⟨hev hidle, fun hp => hno (htimeout hp), by rw [htasks, hphase, hown]⟩

/-- The same, where nothing changes but what the rest does not read. -/
theorem NapRests.of_eq (h : NapRests s) (hcur : t.curState = s.curState)
    (hnap : t.napState = s.napState) (hev : t.isEvalution = s.isEvalution)
    (htime : t.timeService = s.timeService) (htasks : t.handler.tasks = s.handler.tasks) :
    NapRests t := by
  refine h.of_le hcur (by rw [hnap]; exact id) (by rw [hnap]) (by rw [hev]; exact id) ?_ ?_
  · simp only [TimeoutPending, htime, htasks]
    exact id
  · simp only [phaseTasks, htasks]

/-- Nothing but its phase tasks asks for an evaluation of a NAP without a next state. -/
theorem Request.napNext {params : ConstraintEvalParam} (hown₀ : OwnTasks s₀) (hs₀ : Scheduled s₀)
    (ha : ∀ acquire p, a ≠ .runTask (.transitToNapPhase acquire) p)
    (h : Request cfg s₀ a s params) (hcur : s.curState = .nap) : s.napState.nextState ≠ .nap := by
  intro hnext
  cases h with
  | enter hask _ _ hlt =>
    obtain ⟨state, -, -, hmem, hsame, hn⟩ :=
      hask.task_inv (by rw [hcur]; decide) (by rintro rfl; exact Nat.not_lt_zero _ hlt)
    obtain ⟨rfl, -⟩ := hs₀.transit _ hmem
    rw [hn, ← hsame.curState, hcur, nextStateOf, ← hsame.napState, hnext] at hlt
    exact Nat.lt_irrefl _ hlt
  | napPhase hrun => exact ha _ _ hrun
  | sleepPhase _ hmem hsame =>
    rw [hsame.curState, hown₀.sleepPhase _ hmem] at hcur
    cases hcur
  | repeated _ hmem hsame =>
    rw [hsame.curState, hs₀.repeated hmem] at hcur
    cases hcur

/-- A transition to NAP comes after the evaluation. -/
theorem Transition.nap_isEvalution (h : Transition cfg s₀ a s nextState)
    (hnext : nextState = .nap) : s.isEvalution = false := by
  cases h with
  | exit _ _ _ _ _ hev => exact hev
  | maint _ _ _ _ hev => exact hev.resolve_left (by rw [hnext]; decide)
  | workingResult => cases hnext
  | darkResult _ _ _ hev => exact hev
  | napResult => cases hnext
  | hold => cases hnext

/-- SLEEP is not left for NAP. -/
theorem Transition.nap_curState (h : Transition cfg s₀ a s nextState) (hnext : nextState = .nap) :
    s.curState ≠ .nap ∧ s.curState ≠ .sleep := by
  cases h with
  | exit _ _ _ hlt hvalid =>
    subst hnext
    cases hcur : s.curState <;> rw [hcur] at hlt hvalid <;> revert hlt hvalid <;> decide
  | maint _ hne _ hvalid =>
    subst hnext
    cases hcur : s.curState <;> rw [hcur] at hne hvalid <;> revert hne hvalid <;> decide
  | workingResult => cases hnext
  | darkResult _ hcur =>
    rw [hcur]
    exact ⟨by rintro ⟨⟩, by rintro ⟨⟩⟩
  | napResult => cases hnext
  | hold => cases hnext

/-- NAP that begins without a next state starts from its first phase, with no timer. -/
theorem beginState_rests (hown : OwnTasks s) (hsched : Scheduled s) (hev : s.isEvalution = false)
    (hcur : s.curState ≠ .nap ∧ s.curState ≠ .sleep)
    (hnext : (transitToStateInner cfg p .nap s).napState.nextState = .nap)
    (halive : s.statesAlive = true) : Resting (transitToStateInner cfg p .nap s) := by
  have hnil := hown.phaseTasks_eq_nil hcur.1 hcur.2
  have hno : ¬ TimeoutPending .nap s := by
    rintro (h | h | h)
    · exact hcur.1 (hsched.started _ .nap rfl h).1.symm
    · exact hcur.1 (hsched.callbacks _ .nap rfl h).1.symm
    · exact hcur.1 (hsched.transit _ h).1.symm
  obtain ⟨hphase, hnextState⟩ := @transit_napState cfg p s .nap halive
  have hmaint : s.curState ≠ .maintenance := fun hm => by
    rw [hnextState, if_neg (not_not_intro rfl), if_pos hm] at hnext
    cases hnext
  have hswitch : cfg.sleepSwitch = false := Bool.eq_false_iff.2 fun hon => by
    rw [hnextState, if_neg (not_not_intro rfl), if_neg hmaint, if_pos hon] at hnext
    cases hnext
  -- the new state object posts its first phase task and starts no timer
  have hbegin : (transitToStateInner cfg p .nap s).timeService =
        (endState cfg s.curState s).timeService ∧
      (transitToStateInner cfg p .nap s).handler.tasks =
        (endState cfg s.curState s).handler.tasks ++ [.transitToNapPhase true] := by
    rw [transitToStateInner_eq halive]
    have hpre : (replaceState cfg .nap s).preState ≠ .maintenance := hmaint
    simp only [beginState, NapState.beginState, if_neg hpre, hswitch, Bool.false_eq_true, if_false]
    exact ⟨rfl, rfl⟩
  refine ⟨?_, fun hp => hno ?_, ?_⟩
  · simpa using hev
  · unfold TimeoutPending at hp
    rw [hbegin.1, hbegin.2] at hp
    refine hp.imp (fun h => (endState_started h).1) (Or.imp (fun h => (endState_callbacks h).1) ?_)
    intro h
    rcases List.mem_append.1 h with h | h
    · exact (mem_endState_tasks.1 h).1
    · cases List.mem_singleton.1 h
  · rw [hphase, if_pos ⟨rfl, hmaint⟩]
    have hleft : (endState cfg s.curState s).handler.tasks.filter
        (·.name = .transitNextPhaseInstant) = [] := by
      refine List.filter_eq_nil_iff.2 fun task hmem => ?_
      have hnot := List.filter_eq_nil_iff.1 hnil task (mem_endState_tasks.1 hmem).1
      exact hnot
    simp only [phaseTasks, hbegin.2, List.filter_append, hleft]
    rfl

/-- Setting the task of the next phase keeps the state that NAP leads to. -/
theorem setPhaseTransitTask_nextState :
    (NapState.setPhaseTransitTask evalResult s).napState.nextState = s.napState.nextState := by
  obtain ⟨_, _, _, hf⟩ := NapState.setPhaseTransitTask_frame evalResult s
  rw [hf]

/-! ### What each kind of effect leaves of the rest -/

/-- A NAP that begins without a next state comes from below, after the evaluation. -/
theorem NapRests.transit (hown : OwnTasks s) (hsched : Scheduled s)
    (htr : Transition cfg s₀ a s nextState)
    (halive : (transitToStateInner cfg p nextState s).crashed = false) :
    NapRests (transitToStateInner cfg p nextState s) := by
  by_cases hnext : nextState = .nap
  · subst hnext
    intro _ hn
    exact beginState_rests hown hsched (htr.nap_isEvalution rfl) (htr.nap_curState rfl) hn
      (transitToStateInner_alive halive).2
  · exact .of_ne (by simpa using hnext)

/-- A blocked NAP has a maintenance window ahead, or no intervals. -/
theorem NapRests.block (h : NapRests s) : NapRests (blockCurrentState cfg p s) := by
  simp only [blockCurrentState]
  split
  · simp only [NapState.onStateBlocked]
    split_ifs
    · rintro _ ⟨⟩
    · exact h.of_eq rfl rfl rfl rfl rfl
  · exact h.of_eq rfl rfl rfl rfl rfl

/-- The stop of an evaluation takes tasks of monitors only. -/
theorem NapRests.stop (h : NapRests s) : NapRests (stopEvalution s) := by
  have htasks := phaseTasks_stopEvalution (s := s)
  have hmem : .transitNextState .nap ∈ (stopEvalution s).handler.tasks →
      .transitNextState .nap ∈ s.handler.tasks := mem_stopEvalution_tasks
  obtain ⟨_, _, _, _, hf⟩ := stopEvalution_frame (s := s)
  rw [hf] at htasks hmem ⊢
  exact h.of_le rfl id rfl (fun _ => rfl) (Or.imp_right (Or.imp_right hmem)) htasks

/-- So does its end. -/
theorem NapRests.finish (h : NapRests s) (entry : Trace) :
    NapRests ((finishEvalution s).log entry) := by
  have htasks := phaseTasks_finishEvalution (s := s)
  have hmem : .transitNextState .nap ∈ (finishEvalution s).handler.tasks →
      .transitNextState .nap ∈ s.handler.tasks := mem_finishEvalution_tasks
  obtain ⟨_, _, _, hf⟩ := finishEvalution_frame (s := s)
  rw [hf] at htasks hmem ⊢
  exact h.of_le rfl id rfl (fun _ => rfl) (Or.imp_right (Or.imp_right hmem)) htasks

/-- No evaluation is asked for in such a NAP. -/
theorem NapRests.startEval (hown₀ : OwnTasks s₀) (hs₀ : Scheduled s₀)
    (ha : ∀ acquire p, a ≠ .runTask (.transitToNapPhase acquire) p) {params : ConstraintEvalParam}
    (hreq : Request cfg s₀ a s params) (hcur : t.curState = s.curState)
    (hnap : t.napState = s.napState) : NapRests t := fun hc hn =>
  absurd (hnap ▸ hn) (hreq.napNext hown₀ hs₀ ha (hcur ▸ hc))

/-- Motion tasks and monitors have no part in it. -/
theorem NapRests.postMotion (h : NapRests s) {task : Task} (hname : task.name = .motionDection) :
    NapRests (s.postTask task) :=
  h.of_le rfl id rfl id
    (Or.imp_right <| Or.imp_right fun hm => (List.mem_append.1 hm).resolve_right fun hm => by
      rw [← List.mem_singleton.1 hm] at hname
      cases hname)
    (phaseTasks_postTask (by rw [hname]; decide))

/-- A phase ends with a result, which in such a NAP only a phase task can bring. -/
theorem NapRests.napResult (hown₀ : OwnTasks s₀) (hs₀ : Scheduled s₀) (h₀ : NapRests s₀)
    (ha : ∀ acquire p, a ≠ .runTask (.transitToNapPhase acquire) p)
    (hans : Answer cfg s₀ a s evalResult) (hcur : s.curState = .nap) :
    NapRests (NapState.setPhaseTransitTask evalResult s) := by
  intro _ hn
  rw [setPhaseTransitTask_nextState] at hn
  cases hans with
  | motion _ _ hev hsame =>
    rw [(h₀ (hsame.curState ▸ hcur) (hsame.napState ▸ hn)).isEvalution] at hev
    cases hev
  | atOnce hreq => exact absurd hn (hreq.napNext hown₀ hs₀ ha hcur)

/-- A task that is taken to run is no phase task, except one of SLEEP. -/
theorem NapRests.takeTask (h : NapRests s) (hown : OwnTasks s) {task : Task}
    (hmem : task ∈ s.handler.tasks) (ha : ∀ acquire, task ≠ .transitToNapPhase acquire) :
    NapRests { s with handler.tasks := s.handler.tasks.erase task } := by
  by_cases hsleep : s.curState = .sleep
  · exact .of_ne (hsleep.trans_ne (by decide))
  · refine h.of_le rfl id rfl id (Or.imp_right (Or.imp_right List.mem_of_mem_erase))
      (phaseTasks_erase ?_)
    cases task with
    | transitToNapPhase acquire => exact absurd rfl (ha acquire)
    | transitToSleepPhase acquire => exact absurd (hown.sleepPhase acquire hmem) hsleep
    | _ => rintro ⟨⟩

/-- The task of NAP is posted by a callback of NAP. -/
theorem NapRests.callback (h : NapRests s) {callback : TimerCallback}
    (hmem : callback ∈ s.timeService.callbacks) (hne : callback ≠ .screenOffHalfHour) :
    NapRests (runCallback callback
      { s with timeService.callbacks := s.timeService.callbacks.erase callback }) := by
  obtain ⟨task, hrun, htask⟩ := runCallback_frame (s := { s with
    timeService.callbacks := s.timeService.callbacks.erase callback }) hne
  rw [hrun]
  refine h.of_le rfl id rfl id (Or.imp_right fun hp => ?_) (phaseTasks_postTask ?_)
  · rcases hp with hp | hp
    · exact .inl (List.mem_of_mem_erase hp)
    · rcases List.mem_append.1 hp with hp | hp
      · exact .inr hp
      · have htimeout := List.mem_singleton.1 hp
        clear hp
        rcases htask with ⟨-, rfl⟩ | ⟨state, rfl, rfl⟩
        · cases htimeout
        · cases htimeout
          exact .inl hmem
  · rcases htask with ⟨-, rfl⟩ | ⟨state, -, rfl⟩ <;> rintro ⟨⟩

/-- A callback of NAP is delivered by a timer of NAP. -/
theorem NapRests.fire (h : NapRests s) {callback : TimerCallback}
    (hfire : timerFire callback s = some t) : NapRests t := by
  obtain ⟨hfired, hcallbacks, hstarted⟩ := timerFire_spec hfire
  obtain ⟨_, rfl⟩ := timerFire_frame hfire
  refine h.of_le rfl id rfl id (fun hp => ?_) rfl
  rcases hp with hp | hp | hp
  · exact .inl (hstarted _ hp)
  · rw [hcallbacks] at hp
    rcases List.mem_cons.1 hp with rfl | hp
    · exact .inl hfired
    · exact .inr (.inl hp)
  · exact .inr (.inr hp)

/-- What a common event records starts no timer of a state. -/
theorem NapRests.record (h : NapRests s) (queue : List StandbyMessage) :
    NapRests (recordEvent cfg p action { s with handler.queue := queue }) := by
  obtain ⟨hstarted, hcallbacks⟩ :=
    recordEvent_timeService cfg p action { s with handler.queue := queue }
  obtain ⟨_, _, _, hf⟩ := recordEvent_frame cfg p action { s with handler.queue := queue }
  have hstarted := hstarted (.startTransitNextState .nap) .nap rfl
  rw [hf] at hstarted hcallbacks ⊢
  exact h.of_le rfl id rfl id (Or.imp hstarted (Or.imp_left (hcallbacks ·))) rfl

/-- A step other than a phase task of NAP keeps a NAP without a next state at rest. -/
theorem NapRests.effect (hown₀ : OwnTasks s₀) (hs₀ : Scheduled s₀) (h₀ : NapRests s₀)
    (ha : ∀ acquire p, a ≠ .runTask (.transitToNapPhase acquire) p)
    (he : Effect cfg s₀ a s t) (halive : t.crashed = false) (hown : OwnTasks s)
    (hsched : Scheduled s) (h : NapRests s) : NapRests t := by
  have hsensor : ∀ {m : Monitor} {monitor : MotionSensorMonitor},
      NapRests (s.setMonitor m monitor) :=
    h.of_eq rfl rfl rfl rfl rfl
  cases he with
  | transit p htr => exact .transit hown hsched htr halive
  | block => exact h.block
  | stop => exact h.stop
  | finish => exact h.finish _
  | halfHour c =>
    obtain ⟨_, _, _, hf⟩ := onScreenOffHalfHourInner_frame (c := c) (r := false) (s := s)
    rw [hf]
    exact h.of_eq rfl rfl rfl rfl rfl
  | startRejected hreq => exact .startEval hown₀ hs₀ ha hreq rfl rfl
  | startAccepted hreq => exact .startEval hown₀ hs₀ ha hreq rfl rfl
  | startMotion => exact h.postMotion rfl
  | startSensor => exact (hsensor.postMotion rfl).postMotion rfl
  | startSensorFailed => exact hsensor
  | sensorEvent => exact h.postMotion rfl
  | napPhase hans hcur => exact .napResult hown₀ hs₀ h₀ ha hans hcur
  | sleepPhase p _ hcur =>
    refine .of_ne ?_
    rw [endEvalPhase_curState, hcur]
    decide
  | @rebegin p _ _ hcur =>
    obtain ⟨_, _, _, _, _, hf⟩ := SleepState.beginState_frame cfg p (s.log .sleepRebegun)
    rw [hf]
    exact .of_ne (hcur.trans_ne (by decide))
  | holdTimers _ _ _ hcur => exact .of_ne (hcur.trans_ne (by decide))
  | @takeTask _ task p hrun hmem hs =>
    subst hs
    refine h.takeTask hown₀ hmem ?_
    rintro acquire rfl
    exact ha acquire p hrun
  | callback hmem _ hne => exact h.callback hmem hne
  | fire hfire => exact h.fire hfire
  | record => exact h.record _
  | takeHalfHour =>
    exact h.of_le rfl id rfl id (Or.imp_right (Or.imp_left List.mem_of_mem_erase)) rfl
  | @init p _ hready =>
    obtain ⟨_, _, hf⟩ := initReadyState_frame cfg p hready
    exact .of_ne (by rw [hf]; rintro ⟨⟩)
  | resetStates _ hcur =>
    obtain ⟨_, _, hf⟩ := StateManagerAdapter.resetStates_frame cfg s
    rw [hf]
    exact .of_ne (hcur.trans_ne (by decide))
  | unblock | setRepeated | runningLock | sleepFlag | skip | stopDetection | post
  | conditionChanged | unInitConstraints => exact h.of_eq rfl rfl rfl rfl rfl

/-- The phase task that runs is the only one. -/
theorem napPhaseTasks_erase {curPhase : Nat} {task : Task} (h : task ∈ napPhaseTasks curPhase) :
    curPhase ≠ NapStatePhase.END ∧ (napPhaseTasks curPhase).erase task = [] := by
  unfold napPhaseTasks at h ⊢
  split_ifs at h ⊢ with hfirst hlast
  · rw [hfirst, List.mem_singleton.1 h]
    exact ⟨by rintro ⟨⟩, by simp⟩
  · rw [List.mem_singleton.1 h]
    exact ⟨Nat.ne_of_lt hlast, by simp⟩
  · cases h

/-- A request that no monitor answers succeeds at once: the current state takes the result, and
only tasks of the monitors are gone. -/
theorem startEvalCurrentState_none {params : ConstraintEvalParam}
    (hidle : s.constraintManager.isEvaluation = false)
    (hmanager : s.constraintManager.hasStateManager = true)
    (hnone : s.constraintManager.constraintMap.lookup params.getHashValue = none) :
    ∃ curMonitor monitors tasks trace,
      startEvalCurrentState cfg p params s = stateEndEval cfg p true { s with
        isEvalution := false
        constraintManager.isEvaluation := false
        constraintManager.curMonitor := curMonitor
        monitors := monitors
        handler.tasks := tasks
        trace := trace } ∧
      phaseTasks { s with handler.tasks := tasks } = phaseTasks s ∧
      ∀ task ∈ tasks, task ∈ s.handler.tasks := by
  let u : Service := { s with
    isEvalution := true
    constraintManager.isEvaluation := true
    constraintManager.curMonitor := none
    trace := .acceptEval params :: .startEval params :: s.trace }
  have hstart : startEvalCurrentState cfg p params s = endEvalCurrentState cfg p true u := by
    simp [u, startEvalCurrentState, ConstraintManagerAdapter.startEvalution, hidle, hmanager, hnone]
  have htasks : phaseTasks (finishEvalution u) = phaseTasks u := phaseTasks_finishEvalution
  have hmem : ∀ task ∈ (finishEvalution u).handler.tasks, task ∈ u.handler.tasks :=
    fun _ => mem_finishEvalution_tasks
  obtain ⟨_, _, _, hf⟩ := finishEvalution_frame (s := u)
  rw [hstart, endEvalCurrentState, if_neg (not_not_intro rfl)]
  rw [hf] at htasks hmem ⊢
  exact ⟨_, _, _, _, rfl, htasks, hmem⟩

/-- The task that a phase of NAP posts, but for the last. -/
theorem napPhaseTasks_succ (curPhase : Nat) :
    napPhaseTasks (curPhase + 1) =
      if curPhase + 1 < NapStatePhase.END then [.transitToNapPhase false] else [] := by
  rw [napPhaseTasks, if_neg (Nat.succ_ne_zero _)]

/-- A phase of a NAP without a next state ends, and the next one waits for its task. -/
theorem Resting.setPhaseTransitTask (hev : s.isEvalution = false)
    (hno : ¬ TimeoutPending .nap s) (htasks : phaseTasks s = []) :
    Resting (NapState.setPhaseTransitTask true s) := by
  have hnext := napPhaseTasks_succ s.napState.curPhase
  simp only [NapState.setPhaseTransitTask, if_true]
  split_ifs at hnext ⊢ with hlast
  · refine ⟨hev, fun hp => hno ?_, Eq.trans ?_ hnext.symm⟩
    · refine hp.imp_right (Or.imp_right fun hm => ?_)
      refine (List.mem_append.1 hm).resolve_right fun hm => ?_
      cases List.mem_singleton.1 hm
    · show (s.handler.tasks ++ [_]).filter _ = _
      rw [List.filter_append]
      exact congrArg (· ++ _) htasks
  · exact ⟨hev, hno, htasks.trans hnext.symm⟩

/-- A request for the next phase of NAP, the task of which has been taken. -/
theorem napRests_transitToPhase (hcur : s.curState = .nap)
    (hbusy : s.constraintManager.isEvaluation = true → s.isEvalution = true)
    (hmanager : s.constraintManager.hasStateManager = true)
    (hnone : s.constraintManager.constraintMap.lookup (⟨.nap, s.napState.curPhase, .nap,
      s.napState.curPhase + 1, false⟩ : ConstraintEvalParam).getHashValue = none)
    (h : s.napState.nextState = .nap → s.isEvalution = false ∧ ¬ TimeoutPending .nap s ∧
      phaseTasks s = [] ∧ s.napState.curPhase ≠ NapStatePhase.END) :
    NapRests (transitToPhase cfg p .nap s.napState.curPhase (s.napState.curPhase + 1) s) := by
  unfold transitToPhase
  by_cases hb : s.constraintManager.isEvaluation = true
  · -- a NAP at rest is not evaluating
    simp only [startEvalCurrentState, ConstraintManagerAdapter.startEvalution, hb, if_true]
    intro _ hn
    have hev := hbusy hb
    rw [(h hn).1] at hev
    cases hev
  · obtain ⟨_, _, _, _, heq, htasks, htimed⟩ :=
      @startEvalCurrentState_none cfg p s _ (Bool.eq_false_iff.2 hb) hmanager hnone
    rw [heq]
    simp only [stateEndEval, hcur, NapState.endEvalCurrentState,
      NapState.handleEvalResToSleepState, not_true_eq_false, if_false]
    split_ifs with hend hn
    · exact .of_ne (by simp)
    · exact absurd hend (h (not_not.1 hn)).2.2.2
    · intro _ hn
      rw [setPhaseTransitTask_nextState] at hn
      obtain ⟨-, hno, hnil, -⟩ := h hn
      exact .setPhaseTransitTask rfl (fun hp => hno (hp.imp_right (Or.imp_right (htimed _))))
        (htasks.trans hnil)

/-- A phase task keeps a NAP without a next state at rest. -/
theorem NapRests.runPhase (hb : Basic s) (hreg : Registered s) (hown : OwnTasks s)
    (h : NapRests s) {acquire : Bool} (hmem : .transitToNapPhase acquire ∈ s.handler.tasks) :
    NapRests (runTask cfg p (.transitToNapPhase acquire)
      { s with handler.tasks := s.handler.tasks.erase (.transitToNapPhase acquire) }) := by
  have hcur := hown.napPhase acquire hmem
  have hmanager := hreg.hasStateManager (hb.ready (by rw [hcur]; rintro ⟨⟩))
  have hnone := @Registered.lookup_phase s hreg .nap _ _ hb.napPhase (Nat.succ_le_succ hb.napPhase)
  have htaken : s.napState.nextState = .nap → s.isEvalution = false ∧
      ¬ TimeoutPending .nap
        { s with handler.tasks := s.handler.tasks.erase (.transitToNapPhase acquire) } ∧
      phaseTasks { s with handler.tasks := s.handler.tasks.erase (.transitToNapPhase acquire) } =
        [] ∧ s.napState.curPhase ≠ NapStatePhase.END := fun hn => by
    obtain ⟨hev, hno, htasks⟩ := h hcur hn
    have hphase := mem_phaseTasks.2 ⟨hmem, rfl⟩
    rw [htasks] at hphase
    obtain ⟨hend, hnil⟩ := napPhaseTasks_erase hphase
    refine ⟨hev, fun hp => hno ?_, ?_, hend⟩
    · exact hp.imp_right (Or.imp_right List.mem_of_mem_erase)
    · rw [← hnil, ← htasks]
      exact List.erase_filter.symm
  cases acquire <;> exact napRests_transitToPhase hcur hb.evaluation hmanager hnone htaken

/-- Within a step, what the effects keep of a NAP without a next state. -/
structure Rested (s : Service) : Prop where
  basic : Basic s
  scheduled : Scheduled s
  own : OwnTasks s
  rests : NapRests s

/-- In every run, when `StopTimer` leaves no callback in flight, a NAP without a next state
rests. -/
theorem napRests_reachable (hdrains : cfg.stopTimerDrains = true)
    {ok : Service → Action → Prop} (h : Lts.ReachableUnder (system cfg) ok s) : NapRests s :=
  have h0 : NapRests {} := .of_ne (by rintro ⟨⟩)
  h.invariant (I := NapRests) h0 fun {s t a} hr _ hs hi => by
    have hown := ownTasks_reachable hr
    have hsched := scheduled_reachable hdrains hr
    by_cases ha : ∀ acquire p, a ≠ .runTask (.transitToNapPhase acquire) p
    · have h0 : Rested s := ⟨basic_reachable hr, hsched, hown, hi⟩
      exact (step_invariant (I := Rested) hown hs h0 fun _ he halive h =>
        ⟨h.basic.effect he halive,
          .effect hdrains hown hsched he halive h.basic h.scheduled, h.own.effect he,
          .effect hown hsched hi ha he halive h.own h.scheduled h.rests⟩).rests
    · simp only [not_forall, not_not] at ha
      obtain ⟨acquire, p, rfl⟩ := ha
      obtain ⟨hact, -⟩ := (system_step_iff cfg).1 hs
      obtain ⟨hmem, rfl⟩ := act_runTask hact
      exact hi.runPhase (basic_reachable hr) (registered_reachable hr) hown hmem

/-! ## The lock and the phases -/

/-- A lock that is free needs no account. -/
theorem LockAccounted.of_free (h : s.runningLockStatus = false) : LockAccounted s := fun hlock => by
  rw [h] at hlock
  cases hlock

/-- Only NAP and SLEEP have phases. -/
theorem LockAccounted.free (h : LockAccounted s) (hnap : s.curState ≠ .nap)
    (hsleep : s.curState ≠ .sleep) : s.runningLockStatus = false := by
  refine Bool.eq_false_iff.2 fun hlock => ?_
  have hadv := (h hlock).1
  unfold Advancing at hadv
  cases hcur : s.curState <;> simp_all

/-- Whether a state still advances depends on the state and on its phase. -/
theorem Advancing.of_eq (h : Advancing s) (hcur : t.curState = s.curState)
    (hnap : t.napState = s.napState) (hsleep : t.sleepState.curPhase = s.sleepState.curPhase) :
    Advancing t := by
  unfold Advancing at h ⊢
  rwa [hcur, hnap, hsleep]

/-- A write that leaves the phases alone. -/
theorem LockAccounted.of_le (h : LockAccounted s)
    (hlock : t.runningLockStatus = true → s.runningLockStatus = true)
    (hcur : t.curState = s.curState) (hnap : t.napState = s.napState)
    (hsleep : t.sleepState.curPhase = s.sleepState.curPhase)
    (hawait : Awaiting s → Awaiting t) : LockAccounted t := fun hl =>
  (h (hlock hl)).imp (·.of_eq hcur hnap hsleep) hawait

/-- The same, where nothing changes but what the account does not read. -/
theorem LockAccounted.of_eq (h : LockAccounted s)
    (hlock : t.runningLockStatus = s.runningLockStatus)
    (hcur : t.curState = s.curState) (hnap : t.napState = s.napState)
    (hsleep : t.sleepState.curPhase = s.sleepState.curPhase)
    (hev : s.isEvalution = true → t.isEvalution = true)
    (htasks : t.handler.tasks = s.handler.tasks) : LockAccounted t :=
  h.of_le (hlock ▸ id) hcur hnap hsleep (Or.imp hev fun h => by
    unfold phaseTasks at h ⊢
    rwa [htasks])

/-- A task that is posted takes nothing away. -/
theorem Awaiting.postTask {task : Task} (h : Awaiting s) : Awaiting (s.postTask task) :=
  h.imp_right fun hne hnil => hne (by
    simp only [phaseTasks, Service.postTask, List.filter_append, List.append_eq_nil_iff] at hnil
    exact hnil.1)

/-- A task more does not take what gives the lock back. -/
theorem LockAccounted.postTask {task : Task} (h : LockAccounted s) :
    LockAccounted (s.postTask task) :=
  h.of_le id rfl rfl rfl .postTask

/-- A phase task that is posted is still to come. -/
theorem awaiting_postTask {task : Task} (hname : task.name = .transitNextPhaseInstant) :
    Awaiting (s.postTask task) :=
  .inr fun hnil => by simp [phaseTasks, Service.postTask, hname] at hnil

/-- Every transition gives the lock back. -/
theorem LockAccounted.transit (halive : (transitToStateInner cfg p nextState s).crashed = false) :
    LockAccounted (transitToStateInner cfg p nextState s) := by
  rw [transitToStateInner_eq (transitToStateInner_alive halive).2]
  exact .of_free rfl

/-- A request for WORKING gives the lock back, unless WORKING is current. -/
theorem LockAccounted.transitToWorking (h : s.curState = .working → s.runningLockStatus = false)
    (halive : (transitToWorking cfg p s).crashed = false) :
    LockAccounted (transitToWorking cfg p s) := by
  rw [transitToWorking_eq] at halive ⊢
  split_ifs at halive ⊢ with hcur
  · exact .of_free (h hcur)
  · exact .transit halive
  · exact .transit halive

/-- Blocking a state keeps what the lock waits for, and a blocked NAP gives it back. -/
theorem LockAccounted.block (h : LockAccounted s) : LockAccounted (blockCurrentState cfg p s) := by
  simp only [blockCurrentState]
  split
  · exact .of_free rfl
  · exact h.of_eq rfl rfl rfl rfl id rfl

/-! ## Results -/

/-- A phase of NAP that ends is followed by the next one, or gives the lock back. -/
theorem LockAccounted.setPhaseTransitTask (hcur : s.curState = .nap) :
    LockAccounted (NapState.setPhaseTransitTask evalResult s) := by
  unfold NapState.setPhaseTransitTask
  dsimp only
  have hadv : ∀ u : Service, u.curState = .nap → u.napState.curPhase < NapStatePhase.END →
      Advancing u := fun u hu hlt => by
    simp only [Advancing, hu]
    exact fun _ => hlt
  split_ifs with hlast
  · exact fun _ => ⟨hadv _ hcur hlast, awaiting_postTask rfl⟩
  · exact fun _ => ⟨hadv _ hcur hlast, awaiting_postTask rfl⟩
  · exact .of_free rfl
  · exact .of_free rfl

/-- A phase of SLEEP that ends is followed by the next one, or gives the lock back. -/
theorem LockAccounted.endEvalPhase (hcur : s.curState = .sleep) :
    LockAccounted (SleepState.endEvalPhase cfg p evalResult s) := by
  have hset : ∀ u : Service, u.curState = .sleep →
      LockAccounted (SleepState.setPhaseTransitOrRepeatedTask cfg p u) := fun u hu => by
    unfold SleepState.setPhaseTransitOrRepeatedTask
    dsimp only
    split_ifs with hlast
    · refine fun _ => ⟨?_, awaiting_postTask rfl⟩
      simp only [Advancing, Service.postTask, hu]
      exact hlast
    · exact .of_free rfl
    · exact .of_free rfl
  unfold SleepState.endEvalPhase
  dsimp only
  split_ifs
  · exact hset _ hcur
  · exact hset _ hcur

/-- The current state takes a result: its phases advance, or DARK is left. -/
theorem stateEndEval_lock (h : s.runningLockStatus = true → Advancing s ∨
      (s.curState = .dark ∧ evalResult = true ∧ cfg.darkNextState ≠ .dark))
    (halive : (stateEndEval cfg p evalResult s).crashed = false) :
    LockAccounted (stateEndEval cfg p evalResult s) := by
  have hfree : (¬ Advancing s) → ¬ (s.curState = .dark ∧ evalResult = true ∧
      cfg.darkNextState ≠ .dark) → s.runningLockStatus = false := fun hadv hdark =>
    Bool.eq_false_iff.2 fun hl => (h hl).elim hadv hdark
  unfold Advancing at hfree
  unfold stateEndEval at halive ⊢
  cases hcur : s.curState with
  | working =>
    simp only [hcur, WorkingState.endEvalCurrentState] at halive hfree ⊢
    split_ifs at halive ⊢
    · exact .transit halive
    · exact LockAccounted.block (.of_free (hfree id (by simp)))
  | dark =>
    simp only [hcur, DarkState.endEvalCurrentState] at halive hfree ⊢
    split_ifs at halive ⊢ with hres hnext
    · exact .transit halive
    · exact .of_free (hfree id fun hd => hnext hd.2.2)
    · exact LockAccounted.block (.of_free (hfree id fun hd => hres hd.2.1))
  | nap =>
    simp only [hcur, NapState.endEvalCurrentState, NapState.handleEvalResToSleepState]
      at halive hfree ⊢
    split_ifs at halive ⊢ with hphase hres hnext
    · exact .transit halive
    · -- a NAP without a next state does not hold the lock after its last phase
      refine .of_free (hfree (fun hadv => ?_) (by simp))
      have hlt := hadv (not_not.1 hnext)
      rw [hphase] at hlt
      exact Nat.lt_irrefl _ hlt
    · exact .transitToWorking (by rw [hcur]; rintro ⟨⟩) halive
    · exact .setPhaseTransitTask hcur
  | maintenance =>
    simp only [hcur] at hfree ⊢
    exact .of_free (hfree id (by simp))
  | sleep =>
    simp only [hcur, SleepState.endEvalCurrentState] at halive hfree ⊢
    split_ifs at halive ⊢ with hphase hres
    · exact .endEvalPhase hcur
    · exact (LockAccounted.transitToWorking (by rw [hcur]; rintro ⟨⟩) halive).of_eq
        rfl rfl rfl rfl id rfl
    · exact (LockAccounted.of_free (hfree hphase (by simp))).of_eq rfl rfl rfl rfl id rfl

/-- The end of an evaluation. -/
theorem endEval_lock (h : s.runningLockStatus = true → Advancing s ∨
      (s.curState = .dark ∧ evalResult = true ∧ cfg.darkNextState ≠ .dark))
    (hev : s.isEvalution = true)
    (halive : (endEvalCurrentState cfg p evalResult s).crashed = false) :
    LockAccounted (endEvalCurrentState cfg p evalResult s) := by
  rw [endEvalCurrentState, if_neg (not_not_intro hev)] at halive ⊢
  obtain ⟨_, _, _, hf⟩ := finishEvalution_frame (s := s)
  rw [hf] at halive ⊢
  exact stateEndEval_lock h halive

/-- A motion task that delivers a result, or finds no evaluation. -/
theorem LockAccounted.endEvalCurrentState (h : LockAccounted s)
    (halive : (endEvalCurrentState cfg p evalResult s).crashed = false) :
    LockAccounted (endEvalCurrentState cfg p evalResult s) := by
  by_cases hev : s.isEvalution = true
  · exact endEval_lock (fun hl => .inl (h hl).1) hev halive
  · rw [DeviceStandby.endEvalCurrentState, if_pos hev]
    exact h

/-! ## Requests -/

/-- Starting the sensors of a motion monitor, or failing to. -/
theorem LockAccounted.periodlyStartMotionDetection (h : LockAccounted s) (m : Monitor) :
    LockAccounted (periodlyStartMotionDetection cfg p m s) := by
  unfold DeviceStandby.periodlyStartMotionDetection
  split
  · exact LockAccounted.postTask (.postTask (h.of_eq rfl rfl rfl rfl id rfl))
  · exact LockAccounted.block (h.of_eq rfl rfl rfl rfl id rfl)

/-- DARK is about to be left: no monitor is registered for the request. -/
structure LeavesDark (cfg : StandbyConfig) (params : ConstraintEvalParam) (s : Service) :
    Prop where
  curState : s.curState = .dark
  next : cfg.darkNextState ≠ .dark
  idle : s.constraintManager.isEvaluation = false
  hasStateManager : s.constraintManager.hasStateManager = true
  lookup : s.constraintManager.constraintMap.lookup params.getHashValue = none

/-- A request keeps the lock accounted for: its result is still to come, or has arrived at once. -/
theorem startEval_lock {params : ConstraintEvalParam}
    (h : s.runningLockStatus = true → Advancing s ∨ LeavesDark cfg params s)
    (halive : (startEvalCurrentState cfg p params s).crashed = false) :
    LockAccounted (startEvalCurrentState cfg p params s) := by
  obtain ⟨hbusy, heq⟩ | ⟨-, m, hm, heq⟩ | ⟨-, -, -, heq⟩ | ⟨-, -, hmanager, heq⟩ :=
    startEvalCurrentState_cases cfg p params s
  all_goals rw [heq] at halive ⊢
  · refine fun hl => ⟨(h hl).resolve_right fun hd => ?_, .inl rfl⟩
    rw [hd.idle] at hbusy
    cases hbusy
  · have hadv : s.runningLockStatus = true → Advancing s := fun hl =>
      (h hl).resolve_right fun hd => by
        rw [hd.lookup] at hm
        cases hm
    unfold startMonitoring at halive ⊢
    split at halive
    case h_1 => exact endEval_lock (fun hl => .inl (hadv hl)) rfl halive
    all_goals
      refine LockAccounted.periodlyStartMotionDetection ?_ m
      exact LockAccounted.postTask fun hl => ⟨hadv hl, .inl rfl⟩
  · exact endEval_lock (fun hl => (h hl).imp_right fun hd => ⟨hd.curState, rfl, hd.next⟩) rfl halive
  · refine fun hl => ⟨(h hl).resolve_right fun hd => ?_, .inl rfl⟩
    rw [hd.hasStateManager] at hmanager
    cases hmanager

/-- The task of `StartTransitNextState` gives the lock back when its request is refused, and else
leaves it to the request. -/
theorem LockAccounted.afterRequest (hne : s.curState ≠ nextState)
    (h : s.curState.toNat < nextState.toNat → nextState ≠ .maintenance →
      s.curState ≠ .maintenance → Advancing s ∨
        LeavesDark cfg ⟨s.curState, s.curInnerPhase, nextState, 0, false⟩ s)
    (halive : (afterRequest cfg p (transitToState cfg p nextState s)).crashed = false) :
    LockAccounted (afterRequest cfg p (transitToState cfg p nextState s)) := by
  unfold transitToState transitToStateWith at halive ⊢
  dsimp only at halive ⊢
  split_ifs at halive ⊢ with hvalid hmaint hlt
  · exact .transit halive
  · unfold enterStandby at halive ⊢
    split_ifs at halive ⊢
    · exact .of_free rfl
    · rw [not_or] at hmaint
      exact startEval_lock (fun _ => h hlt hmaint.1 hmaint.2) halive
  · exact .transit halive
  · exact .of_free rfl

/-- What a transition task finds: its state object is current and has a next state to go to. -/
theorem transitTask_next (ht : Timed cfg s) (hsched : Scheduled s)
    (hrests : NapRests s) {state : StandbyState}
    (hmem : .transitNextState state ∈ s.handler.tasks) :
    s.curState = state ∧ state ≠ nextStateOf cfg state s := by
  obtain ⟨rfl, -⟩ := hsched.transit state hmem
  refine ⟨rfl, ?_⟩
  have htimer := ht.tasks _ hmem
  cases hcur : s.curState with
  | working =>
    rw [hcur] at htimer
    exact htimer.elim
  | dark =>
    rw [hcur] at htimer
    exact fun h => htimer h.symm
  | nap =>
    rw [hcur] at hmem
    exact fun h => (hrests hcur h.symm).timeout (.inr (.inr hmem))
  | maintenance =>
    rw [nextStateOf, hsched.maintNext hcur]
    rcases hsched.maintPre hcur with h | h <;> rw [h] <;> decide
  | sleep => rintro ⟨⟩

/-- The task of `StartTransitNextState` keeps the lock accounted for. -/
theorem runTransitNextState_lock {state : StandbyState} (hm : Managed cfg s)
    (hcur : s.curState = state) (hne : state ≠ nextStateOf cfg state s)
    (halive : (runTransitNextState cfg p state s).crashed = false) :
    LockAccounted (runTransitNextState cfg p state s) := by
  have hidle := hm.stopEvalution_isEvaluation
  have hlocked : SameSince s s.acquireStandbyRunningLock := ⟨rfl, rfl, rfl, rfl, rfl, rfl⟩
  have hsame := hlocked.alike alike_stopEvalution
  have hmap : (stopEvalution s.acquireStandbyRunningLock).constraintManager.constraintMap =
        s.constraintManager.constraintMap ∧
      (stopEvalution s.acquireStandbyRunningLock).constraintManager.hasStateManager =
        s.constraintManager.hasStateManager := by
    obtain ⟨_, _, _, _, hf⟩ := stopEvalution_frame (s := s.acquireStandbyRunningLock)
    rw [hf]
    exact ⟨rfl, rfl⟩
  rw [runTransitNextState_eq, hsame.nextStateOf] at halive ⊢
  generalize stopEvalution s.acquireStandbyRunningLock = u at hidle hsame hmap halive ⊢
  have hcur' := hsame.curState.trans hcur
  refine LockAccounted.afterRequest (by rw [hcur']; exact hne) (fun _ hnext hmaint => ?_) halive
  rw [hcur'] at hmaint ⊢
  cases state with
  | working => exact absurd rfl hne
  | dark =>
    have hdue : s.curState.Due cfg := by
      rw [hcur]
      exact hne.symm
    refine .inr ⟨hcur', hne.symm, hidle, hmap.2.trans (hm.hasStateManager hdue), ?_⟩
    rw [hmap.1]
    simp only [Service.curInnerPhase, hcur']
    exact hm.dark _
  | nap =>
    left
    simp only [Advancing, hcur', hsame.napState]
    exact fun h => absurd h.symm hne
  | maintenance => exact absurd rfl hmaint
  | sleep => exact absurd rfl hnext

/-! ## Tasks -/

/-- Taking a task that advances no phase. -/
theorem LockAccounted.take (h : LockAccounted s) (task : Task)
    (hname : task.name ≠ .transitNextPhaseInstant) :
    LockAccounted { s with handler.tasks := s.handler.tasks.erase task } :=
  h.of_le id rfl rfl rfl (Or.imp_right fun hne => by rwa [phaseTasks_erase hname])

/-- A request for DARK, which WORKING makes without the lock. -/
theorem transitToDark_lock (hcur : s.curState = .working) (hfree : s.runningLockStatus = false)
    (halive : (transitToState cfg p .dark s).2.crashed = false) :
    LockAccounted (transitToState cfg p .dark s).2 := by
  by_cases hblocked : s.isBlocked = true
  · rw [transitToDark_blocked hcur hblocked]
    exact .of_free hfree
  · rw [transitToDark_eq hcur (Bool.eq_false_iff.2 hblocked)] at halive ⊢
    refine startEval_lock (fun hl => ?_) halive
    rw [hfree] at hl
    cases hl

/-- A phase task of NAP comes before the end of the phases when NAP has no next state. -/
theorem NapRests.advancing (h : NapRests s) (hb : Basic s) (hcur : s.curState = .nap)
    {task : Task} (hmem : task ∈ phaseTasks s) : Advancing s := by
  simp only [Advancing, hcur]
  intro hn
  rw [(h hcur hn).tasks] at hmem
  exact Nat.lt_of_le_of_ne hb.napPhase (napPhaseTasks_erase hmem).1

/-- A pending task keeps the lock accounted for. -/
theorem runTask_lock {task : Task} (hb : Basic s) (ht : Timed cfg s) (hsched : Scheduled s)
    (hm : Managed cfg s) (hown : OwnTasks s) (hrests : NapRests s)
    (hok : KeepsLock s (.runTask task p)) (h : LockAccounted s) (hmem : task ∈ s.handler.tasks)
    (halive : (runTask cfg p task { s with handler.tasks := s.handler.tasks.erase task }).crashed =
      false) :
    LockAccounted (runTask cfg p task { s with handler.tasks := s.handler.tasks.erase task }) := by
  cases task with
  | transitNextState state =>
    obtain ⟨hcur, hne⟩ := transitTask_next ht hsched hrests hmem
    refine runTransitNextState_lock ⟨hm.evaluation, hm.hasStateManager, hm.dark⟩ hcur ?_ halive
    cases state <;> exact hne
  | checkScreenStatus =>
    have hcur := hown.checkScreen hmem
    have hfree := h.free (by rw [hcur]; rintro ⟨⟩) (by rw [hcur]; rintro ⟨⟩)
    simp only [runTask, WorkingState.checkScreenStatus] at halive ⊢
    split_ifs at halive ⊢
    · exact .of_free hfree
    · exact transitToDark_lock hcur hfree halive
  | transitToNapPhase acquire =>
    have hadv := hrests.advancing hb (hown.napPhase acquire hmem) (mem_phaseTasks.2 ⟨hmem, rfl⟩)
    cases acquire with
    | true => exact startEval_lock (fun _ => .inl (hadv.of_eq rfl rfl rfl)) halive
    | false => exact startEval_lock (fun _ => .inl (hadv.of_eq rfl rfl rfl)) halive
  | transitToSleepPhase acquire =>
    cases acquire with
    | true =>
      have hadv : Advancing s := by
        simp only [Advancing, hown.sleepPhase true hmem]
        exact Nat.lt_of_le_of_ne hb.sleepPhase (hok p rfl)
      exact startEval_lock (fun _ => .inl (hadv.of_eq rfl rfl rfl)) halive
    | false => exact startEval_lock (fun hl => .inl ((h hl).1.of_eq rfl rfl rfl)) halive
  | repeatedDetection =>
    exact startEval_lock (fun hl => .inl ((h hl).1.of_eq rfl rfl rfl)) halive
  | motionTotalTimeOut =>
    exact (h.take .motionTotalTimeOut (by rintro ⟨⟩)).endEvalCurrentState halive
  | motionDetected => exact (h.take .motionDetected (by rintro ⟨⟩)).endEvalCurrentState halive
  | stopMotionDetection m =>
    exact (h.take (.stopMotionDetection m) (by rintro ⟨⟩)).of_eq rfl rfl rfl rfl id rfl
  | periodlyStartMotionDetection m =>
    exact (h.take (.periodlyStartMotionDetection m) (by rintro ⟨⟩)).periodlyStartMotionDetection m

/-! ## Events -/

/-- SLEEP that begins anew starts from its first phase, or resumes after MAINTENANCE. -/
theorem LockAccounted.rebegin (h : LockAccounted s) (hcur : s.curState = .sleep) :
    LockAccounted (SleepState.beginState cfg p s) := by
  obtain ⟨hphase, hposted⟩ := SleepState.beginState_sleepState cfg p s
  by_cases hpre : s.preState = .maintenance
  · simp only [SleepState.beginState, hpre, if_true]
    split_ifs <;> exact h.of_eq rfl rfl rfl rfl id rfl
  · rw [if_neg hpre] at hphase
    have hposted := hposted hpre
    obtain ⟨_, _, _, _, _, hf⟩ := SleepState.beginState_frame cfg p s
    refine fun _ => ⟨?_, .inr (List.ne_nil_of_mem (mem_phaseTasks.2 ⟨hposted, rfl⟩))⟩
    have hcur' : (SleepState.beginState cfg p s).curState = .sleep := by rw [hf, hcur]
    simp only [Advancing, hcur', hphase]
    decide

/-- `TransitHoldSleepState` leaves the lock accounted for. -/
theorem LockAccounted.holdSleep (h : LockAccounted s)
    (halive : (transitHoldSleepState cfg p s).crashed = false) :
    LockAccounted (transitHoldSleepState cfg p s) := by
  simp only [transitHoldSleepState] at halive ⊢
  split_ifs at halive ⊢
  · exact (LockAccounted.transit halive).of_eq rfl rfl rfl rfl id rfl
  · exact h.of_eq rfl rfl rfl rfl id rfl

/-- So does what a common event leads to. -/
theorem LockAccounted.respond (h : LockAccounted s)
    (halive : (respond cfg p action s).crashed = false) :
    LockAccounted (respond cfg p action s) := by
  unfold DeviceStandby.respond at halive ⊢
  split_ifs at halive ⊢ with hwake
  · refine .transitToWorking (fun hcur => ?_) halive
    exact h.free (by rw [hcur]; rintro ⟨⟩) (by rw [hcur]; rintro ⟨⟩)
  · cases action with
    | screenOn | screenUnlocked | charging | usbDeviceAttached | lidOpen => exact absurd rfl hwake
    | screenOff | discharging | usbDeviceDetached | other => exact h
    | enterForceSleep => exact h.holdSleep halive
    | userSleepStateChanged isSleep =>
      cases isSleep with
      | none =>
        simp only [handleAction, handleUserSleepState]
        split_ifs <;> exact h
      | some isSleepState =>
        have hset : LockAccounted { s with isSleepState := isSleepState } :=
          h.of_eq rfl rfl rfl rfl id rfl
        simp only [handleAction, handleUserSleepState] at halive ⊢
        split_ifs at halive ⊢ with _ _ hcur
        · exact h
        · exact hset.holdSleep halive
        · exact LockAccounted.rebegin (hset.of_eq rfl rfl rfl rfl id rfl) hcur
        · exact hset

/-- An event keeps the lock accounted for. -/
theorem handleCommonEvent_lock (h : LockAccounted s)
    (halive : (handleCommonEvent cfg p action s).crashed = false) :
    LockAccounted (handleCommonEvent cfg p action s) := by
  rw [handleCommonEvent_eq] at halive ⊢
  have hrecord : LockAccounted (recordEvent cfg p action s) := by
    obtain ⟨_, _, _, hf⟩ := recordEvent_frame cfg p action s
    rw [hf]
    exact h.of_eq rfl rfl rfl rfl id rfl
  have htry : Chain cfg s (.dispatch p) (respond cfg p action (recordEvent cfg p action s))
      (tryEnterDark cfg p action (respond cfg p action (recordEvent cfg p action s))) :=
    chain_tryEnterDark rfl
  have hresponse := hrecord.respond (htry.alive halive)
  rw [tryEnterDark_eq] at halive ⊢
  split_ifs at halive ⊢ with hdark
  · exact transitToDark_lock hdark.1
      (hresponse.free (by rw [hdark.1]; rintro ⟨⟩) (by rw [hdark.1]; rintro ⟨⟩)) halive
  · exact hresponse

/-! ## Steps -/

/-- A step that meets the condition keeps the lock accounted for. -/
theorem lock_step (hdrains : cfg.stopTimerDrains = true) (hr : Lts.Reachable (system cfg) s)
    (hok : KeepsLock s a) (h : LockAccounted s) (hs : (system cfg).step s a = some t) :
    LockAccounted t := by
  obtain ⟨hact, halive⟩ := (system_step_iff cfg).1 hs
  cases a with
  | timerFire callback =>
    obtain ⟨_, rfl⟩ := timerFire_frame hact
    exact h.of_eq rfl rfl rfl rfl id rfl
  | timerCallback callback =>
    obtain ⟨-, rfl⟩ := act_timerCallback hact
    have htaken : LockAccounted { s with
        timeService.callbacks := s.timeService.callbacks.erase callback } :=
      h.of_eq rfl rfl rfl rfl id rfl
    cases callback with
    | startTransitNextState | startPeriodlyMotionDetection => exact htaken.postTask
    | screenOffHalfHour =>
      obtain ⟨_, _, _, hf⟩ := onScreenOffHalfHourInner_frame (c := true) (r := false)
        (s := { s with timeService.callbacks := s.timeService.callbacks.erase .screenOffHalfHour })
      rw [runCallback, hf]
      exact h.of_eq rfl rfl rfl rfl id rfl
  | sensorEvent m =>
    obtain ⟨-, rfl⟩ := act_sensorEvent hact
    exact h.postTask
  | runTask task p =>
    obtain ⟨hmem, rfl⟩ := act_runTask hact
    exact runTask_lock (basic_reachable hr) (timed_reachable hr) (scheduled_reachable hdrains hr)
      (managed_reachable hr) (ownTasks_reachable hr) (napRests_reachable hdrains hr) hok h hmem
      halive
  | post message =>
    obtain ⟨-, rfl⟩ := act_post hact
    exact h.of_eq rfl rfl rfl rfl id rfl
  | dispatch p =>
    obtain ⟨message, queue, -, rfl⟩ := act_dispatch hact
    have htaken : LockAccounted { s with handler.queue := queue } :=
      h.of_eq rfl rfl rfl rfl id rfl
    unfold handleEvent at halive ⊢
    split at halive
    · exact handleCommonEvent_lock htaken halive
    · exact htaken
  | dayNightSwitch condition =>
    cases hact
    split_ifs
    · exact h.of_eq rfl rfl rfl rfl id rfl
    · exact h
  | initReadyState p =>
    obtain ⟨-, rfl⟩ := act_initReadyState hact
    cases hready : s.isServiceReady with
    | true =>
      rw [initReadyState_of_ready hready]
      exact h
    | false =>
      obtain ⟨_, _, hf⟩ := initReadyState_frame cfg p hready
      exact .of_free (by rw [hf])
  | uninitReadyState p =>
    cases hact
    simp only [uninitReadyState, StateManagerAdapter.unInit]
    split_ifs
    · obtain ⟨_, _, hf⟩ := StateManagerAdapter.resetStates_frame cfg
        (transitToState cfg p .working (ConstraintManagerAdapter.unInit s)).2
      exact .of_free (by rw [hf])
    · exact h

/-- A request for the next phase of SLEEP after the last one advances nothing. -/
theorem not_accounted_transitToPhase (hcur : s.curState = .sleep)
    (hlock : s.runningLockStatus = true) (hphase : s.sleepState.curPhase = SleepStatePhase.END)
    (hmanager : s.constraintManager.hasStateManager = true)
    (hnone : s.constraintManager.constraintMap.lookup (⟨.sleep, s.sleepState.curPhase, .sleep,
      s.sleepState.curPhase + 1, false⟩ : ConstraintEvalParam).getHashValue = none) :
    ¬ LockAccounted
      (transitToPhase cfg p .sleep s.sleepState.curPhase (s.sleepState.curPhase + 1) s) := by
  have hheld : ∀ u : Service, u.runningLockStatus = true → u.curState = .sleep →
      u.sleepState.curPhase = SleepStatePhase.END → ¬ LockAccounted u := fun u hl hu hp h => by
    have hadv := (h hl).1
    simp only [Advancing, hu, hp] at hadv
    exact Nat.lt_irrefl _ hadv
  unfold transitToPhase
  by_cases hbusy : s.constraintManager.isEvaluation = true
  · simp only [startEvalCurrentState, ConstraintManagerAdapter.startEvalution, hbusy, if_true]
    exact hheld _ hlock hcur hphase
  · obtain ⟨_, _, _, _, heq, -, -⟩ :=
      @startEvalCurrentState_none cfg p s _ (Bool.eq_false_iff.2 hbusy) hmanager hnone
    rw [heq]
    simp only [stateEndEval, hcur, SleepState.endEvalCurrentState, hphase,
      Nat.lt_irrefl, if_false, not_true_eq_false, false_and]
    exact hheld _ hlock rfl rfl

/-- The first phase task of SLEEP, run after the last phase, takes the lock for nothing. -/
theorem first_phase_after_last (hb : Basic s) (hreg : Registered s) (hown : OwnTasks s)
    (hmem : .transitToSleepPhase true ∈ s.handler.tasks)
    (hphase : s.sleepState.curPhase = SleepStatePhase.END) :
    ¬ LockAccounted (runTask cfg p (.transitToSleepPhase true)
      { s with handler.tasks := s.handler.tasks.erase (.transitToSleepPhase true) }) := by
  have hcur := hown.sleepPhase true hmem
  have hmanager := hreg.hasStateManager (hb.ready (by rw [hcur]; rintro ⟨⟩))
  exact not_accounted_transitToPhase (s := Service.acquireStandbyRunningLock { s with
      handler.tasks := s.handler.tasks.erase (.transitToSleepPhase true) }) hcur rfl hphase hmanager
    (hreg.lookup_phase hb.sleepPhase (Nat.succ_le_succ hb.sleepPhase))

/-- The condition is exact for a step. -/
theorem lock_step_iff (hdrains : cfg.stopTimerDrains = true) (hr : Lts.Reachable (system cfg) s)
    (h : LockAccounted s) (hs : (system cfg).step s a = some t) :
    LockAccounted t ↔ KeepsLock s a := by
  refine ⟨fun ht p ha hphase => ?_, fun hok => lock_step hdrains hr hok h hs⟩
  subst ha
  obtain ⟨hmem, rfl⟩ := act_runTask ((system_step_iff cfg).1 hs).1
  exact first_phase_after_last (basic_reachable hr) (registered_reachable hr)
    (ownTasks_reachable hr) hmem hphase ht

/-- In the runs that run no first phase task of SLEEP after its last phase, the running lock is not
held when no transition task, no phase task and no result of an evaluation is still to come; and the
next step leaves it accounted for if and only if it runs none either. -/
theorem running_lock_released (hdrains : cfg.stopTimerDrains = true)
    (h : Lts.ReachableUnder (system cfg) KeepsLock s) :
    (s.isEvalution = false →
      (∀ task ∈ s.handler.tasks, task.name ≠ .transitNextPhaseInstant) →
        s.runningLockStatus = false) ∧
    ∀ a t, (system cfg).step s a = some t → (LockAccounted t ↔ KeepsLock s a) := by
  have h0 : LockAccounted {} := .of_free rfl
  have haccounted : LockAccounted s := h.invariant (I := LockAccounted) h0
    fun hr hok hs hi => lock_step hdrains hr.reachable hok hi hs
  refine ⟨fun hev hphase => Bool.eq_false_iff.2 fun hl => ?_,
    fun a t hs => lock_step_iff hdrains h.reachable haccounted hs⟩
  rcases (haccounted hl).2 with hawait | hawait
  · rw [hev] at hawait
    cases hawait
  · obtain ⟨task, hmem⟩ := List.exists_mem_of_ne_nil _ hawait
    obtain ⟨hmem, hname⟩ := mem_phaseTasks.1 hmem
    exact hphase task hmem hname

/-- A test that suffices for `KeepsLock`. -/
def lockTest (s : Service) (a : Action) : Bool :=
  match a with
  | .runTask (.transitToSleepPhase true) _ => s.sleepState.curPhase ≠ SleepStatePhase.END
  | _ => true

/-- The test suffices. -/
theorem keepsLock_of_test (s : Service) (a : Action) (h : lockTest s a = true) :
    KeepsLock s a := by
  rintro p rfl
  exact of_decide_eq_true h

/-- The tasks run, in this order. -/
def running (tasks : List Task) (p : Platform) : List Action :=
  tasks.map fun task => .runTask task p

/-- The device is held asleep, and SLEEP runs through its phases. -/
def forcedSleepRun : List Action :=
  .initReadyState samplePlatform :: handling .screenOff samplePlatform ++
    [.dispatch samplePlatform] ++ handling .enterForceSleep samplePlatform ++
    running [.transitToSleepPhase true, .transitToSleepPhase false, .transitToSleepPhase false]
      samplePlatform

/-- A forced sleep has given the lock back after its last phase. -/
theorem running_lock_released_sleep : ∃ s : Service, s.curState = .sleep ∧
    s.sleepState.curPhase = SleepStatePhase.END ∧ s.runningLockStatus = false := by
  obtain ⟨s, hr, hs⟩ := (system sampleConfig).exists_check KeepsLock lockTest keepsLock_of_test
    (fun s => s.curState = .sleep ∧ s.sleepState.curPhase = SleepStatePhase.END ∧
      s.isEvalution = false ∧ ∀ task ∈ s.handler.tasks, task.name ≠ .transitNextPhaseInstant)
    forcedSleepRun (by decide)
  obtain ⟨hcur, hphase, hev, htasks⟩ := of_decide_eq_true hs
  exact ⟨s, hcur, hphase, (running_lock_released rfl hr).1 hev htasks⟩

/-- Three user-sleep events reach the forced SLEEP before its first phase task does. The fourth
first task runs after the last phase. -/
def rebegunRun : List Action :=
  .initReadyState samplePlatform :: handling .screenOff samplePlatform ++
    [.dispatch samplePlatform, .post (.commonEvent .enterForceSleep)] ++
    List.replicate 3 (.post (.commonEvent (.userSleepStateChanged (some false)))) ++
    List.replicate 4 (.dispatch samplePlatform) ++
    running (List.replicate 4 (.transitToSleepPhase true) ++
      List.replicate 2 (.transitToSleepPhase false)) samplePlatform

/-- The running lock is left held, with nothing to come that would give it back. -/
theorem running_lock_not_always_released : ¬ ∀ (cfg : StandbyConfig) (s : Service),
    cfg.stopTimerDrains = true → Lts.Reachable (system cfg) s → s.isEvalution = false →
    (∀ task ∈ s.handler.tasks,
      task.name ≠ .transitNextStateTimed ∧ task.name ≠ .transitNextPhaseInstant) →
    s.runningLockStatus = false := by
  intro h
  obtain ⟨s, hr, hev, htasks, hlock⟩ := (system sampleConfig).exists_run rebegunRun
    (Lts.System.runMeets_of_forall _ fun _ _ _ => trivial)
    (fun s => s.isEvalution = false ∧ (∀ task ∈ s.handler.tasks,
      task.name ≠ .transitNextStateTimed ∧ task.name ≠ .transitNextPhaseInstant) ∧
      s.runningLockStatus = true) (by decide)
  have hfree := h sampleConfig s rfl hr hev htasks
  rw [hlock] at hfree
  cases hfree

end

end DeviceStandby
