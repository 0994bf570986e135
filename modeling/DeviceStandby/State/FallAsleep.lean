import DeviceStandby.State.StandbyLock
import DeviceStandby.State.Trapped

/-!
# The way to SLEEP

Whatever has happened before, a device that is ready can fall asleep by itself: the screen goes on
and off again and the timers do the rest, on a platform that is not charging and that starts its
timers and sensors. `sleep_reachable_iff` says that the only state from which this cannot happen is
the WORKING of `Trapped`. Every section leads one state further, and what it needs of the state
before is a lemma or a structure of its own.
-/

namespace DeviceStandby

open Relation

/-- A platform on which the device may fall asleep. -/
structure Platform.Calm (p : Platform) : Prop where
  isCharging : p.isCharging = false
  startTimer : ∀ state, p.startTimer state = true
  startRepeatedTimer : p.startRepeatedTimer = true
  subscribeSensor : ∀ kind sensor, p.subscribeSensor kind sensor = true
  activateSensor : ∀ kind sensor, p.activateSensor kind sensor = true

/-- An unforced step on a given platform. -/
def UnforcedOn (p : Platform) (s : Service) (a : Action) : Prop :=
  Unforced s a ∧ ∀ q, a.platform? = some q → q = p

/-- Unforced steps on a platform lead from one state to another. -/
abbrev Leads (cfg : StandbyConfig) (p : Platform) : Service → Service → Prop :=
  ReflTransGen ((system cfg).StepUnder (UnforcedOn p))

/-- A reachable state of a service that is ready. -/
structure Running (cfg : StandbyConfig) (s : Service) : Prop where
  reachable : Lts.Reachable (system cfg) s
  ready : s.isServiceReady = true

/-- No evaluation is running in WORKING. -/
def Free (s : Service) : Prop :=
  s.curState = .working → s.constraintManager.isEvaluation = false

section
variable {cfg : StandbyConfig} {p : Platform} {s t : Service} {a : Action} {action : CommonEvent}

/-! ## Single steps -/

/-- An action that calls no platform forces nothing. -/
theorem unforcedOn_of_none (h : a.platform? = none) : UnforcedOn p s a := by
  have hne : ∀ q, a.platform? ≠ some q := fun q hq => by
    rw [h] at hq
    cases hq
  refine ⟨⟨fun q ha => hne q (by rw [ha]; rfl), ?_⟩, fun q hq => absurd hq (hne q)⟩
  rintro action ⟨q, ha, -⟩
  exact absurd (by rw [ha]; rfl) (hne q)

/-- A task holds nothing asleep. -/
theorem unforcedOn_runTask (task : Task) : UnforcedOn p s (.runTask task p) := by
  refine ⟨⟨fun q ha => ?_, ?_⟩, fun q hq => (Option.some.inj hq).symm⟩
  · cases ha
  · rintro action ⟨q, ha, -⟩
    cases ha

/-- An enabled action of a running service is a step of a running service. -/
theorem Running.act (h : Running cfg s) (hok : UnforcedOn p s a) (hact : act cfg s a = some t) :
    Leads cfg p s t ∧ Running cfg t := by
  obtain ⟨hs, hready⟩ := step_of_act h.reachable h.ready hok.1.1 hact
  exact ⟨.single ⟨a, hok, hs⟩, h.reachable.step trivial hs, hready⟩

/-- A pending task runs. -/
theorem Running.runTask (h : Running cfg s) (p : Platform) {task : Task}
    (hmem : task ∈ s.handler.tasks) :
    (system cfg).step s (.runTask task p) = some
        (DeviceStandby.runTask cfg p task
          { s with handler.tasks := s.handler.tasks.erase task }) ∧
      Leads cfg p s (DeviceStandby.runTask cfg p task
        { s with handler.tasks := s.handler.tasks.erase task }) ∧
      Running cfg (DeviceStandby.runTask cfg p task
        { s with handler.tasks := s.handler.tasks.erase task }) := by
  have hact : DeviceStandby.act cfg s (.runTask task p) = some (DeviceStandby.runTask cfg p task
      { s with handler.tasks := s.handler.tasks.erase task }) := if_pos hmem
  have hok : UnforcedOn p s (.runTask task p) := unforcedOn_runTask task
  exact ⟨(step_of_act h.reachable h.ready hok.1.1 hact).1, h.act hok hact⟩

/-- The first message of the queue is handled, when it does not hold the device asleep. -/
theorem Running.dispatch (h : Running cfg s) (p : Platform) {message : StandbyMessage}
    {queue : List StandbyMessage} (hqueue : s.handler.queue = message :: queue)
    (hhold : ∀ action, message = .commonEvent action → action.isHold = false) :
    Leads cfg p s (handleEvent cfg p message { s with handler.queue := queue }) ∧
      Running cfg (handleEvent cfg p message { s with handler.queue := queue }) := by
  refine h.act (a := .dispatch p) ⟨⟨nofun, ?_⟩, fun _ hq => (Option.some.inj hq).symm⟩ ?_
  · rintro action ⟨q, -, queue', hqueue'⟩
    rw [hqueue] at hqueue'
    exact hhold action (List.cons.inj hqueue').1
  · simp only [DeviceStandby.act, hqueue]

/-! ## The queue -/

/-- After the message of a step was taken, its effects add to the queue. -/
theorem Chain.queue_grows {s₀ : Service} (hc : Chain cfg s₀ a s t) (halive : t.crashed = false)
    (hlt : s₀.trace.length < s.trace.length) :
    ∃ messages, t.handler.queue = s.handler.queue ++ messages := by
  have hall : s₀.trace.length < t.trace.length ∧
      ∃ messages, t.handler.queue = s.handler.queue ++ messages := by
    induction hc with
    | refl => exact ⟨hlt, [], (List.append_nil _).symm⟩
    | tail _ he ih =>
      obtain ⟨hlt', messages, hqueue⟩ := ih (he.outcome.crashed halive)
      obtain ⟨entries, htrace, -⟩ := he.history halive
      refine ⟨?_, ?_⟩
      · rw [htrace, List.length_append]
        exact Nat.lt_of_lt_of_le hlt' (Nat.le_add_left _ _)
      · rcases he.posted with ⟨messages', hposted, -⟩ | ⟨_, _, _, -, hs, -⟩
        · exact ⟨messages ++ messages', by rw [hposted, hqueue, List.append_assoc]⟩
        · rw [hs] at hlt'
          exact absurd hlt' (Nat.lt_irrefl _)
  exact hall.2

/-- What is handled adds its own messages at the end of the queue. -/
theorem handleEvent_queue {message : StandbyMessage} {queue : List StandbyMessage}
    (hqueue : s.handler.queue = message :: queue)
    (halive : (handleEvent cfg p message { s with handler.queue := queue }).crashed = false) :
    ∃ messages, (handleEvent cfg p message { s with handler.queue := queue }).handler.queue =
      queue ++ messages := by
  unfold handleEvent at halive ⊢
  split at halive
  · rename_i action
    have hc : Chain cfg s (.dispatch p) _ _ := chain_handleCommonEvent hqueue
    have hgrows := hc.queue_grows halive
    obtain ⟨_, _, _, hf⟩ := recordEvent_frame cfg p action { s with handler.queue := queue }
    rw [hf] at hgrows
    exact hgrows (Nat.lt_succ_self _)
  · exact ⟨[], (List.append_nil _).symm⟩

/-! ## Waking up -/

/-- A result that WORKING takes leaves no evaluation running. -/
theorem endEvalCurrentState_working_idle {evalResult : Bool} (hcur : s.curState = .working)
    (hev : s.isEvalution = true) :
    (endEvalCurrentState cfg p evalResult s).constraintManager.isEvaluation = false := by
  obtain ⟨_, _, _, hf⟩ := finishEvalution_frame (s := s)
  simp only [endEvalCurrentState, hev, not_true_eq_false, if_false, hf, Service.log, stateEndEval,
    hcur, WorkingState.endEvalCurrentState]
  cases evalResult <;> simp [blockCurrentState]

/-- A request for DARK leaves no evaluation running, when none was. -/
theorem transitToDark_idle {m : Monitor} (hcur : s.curState = .working)
    (hidle : s.constraintManager.isEvaluation = false)
    (hcharge : s.constraintManager.constraintMap.lookup chargeParams.getHashValue = some m)
    (hkind : m.kind = .charge) :
    (transitToState cfg p .dark s).2.constraintManager.isEvaluation = false := by
  by_cases hblocked : s.isBlocked = true
  · rw [transitToDark_blocked hcur hblocked]
    exact hidle
  · rw [transitToDark_eq hcur (Bool.eq_false_iff.2 hblocked)]
    simp only [startEvalCurrentState, ConstraintManagerAdapter.startEvalution, hidle,
      Bool.false_eq_true, if_false, hcharge, startMonitoring, hkind]
    exact endEvalCurrentState_working_idle hcur rfl

/-- Outside of WORKING, an event that does not wake the device and does not hold it asleep leaves
the state and the evaluation alone. -/
theorem respond_other (hwake : action.isWakeUp = false) (hhold : action.isHold = false) :
    (respond cfg p action s).curState = s.curState ∧
      (respond cfg p action s).constraintManager = s.constraintManager := by
  rw [respond, if_neg (by rw [hwake]; exact Bool.false_ne_true)]
  cases action with
  | screenOn | screenUnlocked | charging | usbDeviceAttached | lidOpen => cases hwake
  | screenOff | discharging | usbDeviceDetached | other => exact ⟨rfl, rfl⟩
  | enterForceSleep => cases hhold
  | userSleepStateChanged isSleep =>
    simp only [handleAction, handleUserSleepState]
    rcases isSleep with _ | isSleep
    · split_ifs <;> exact ⟨rfl, rfl⟩
    · cases isSleep with
      | true => cases hhold
      | false =>
        simp only [Bool.false_eq_true, if_false]
        split_ifs
        · exact ⟨rfl, rfl⟩
        · obtain ⟨_, _, _, _, _, hf⟩ := SleepState.beginState_frame cfg p
            (({ s with isSleepState := false } : Service).log .sleepRebegun)
          rw [hf]
          exact ⟨rfl, rfl⟩
        · exact ⟨rfl, rfl⟩

/-- What an event needs to know of the service that handles it. -/
structure Handled (s : Service) : Prop where
  evaluation : s.constraintManager.isEvaluation = true → s.isEvalution = true
  maintIdle : s.curState = .maintenance → s.isEvalution = false
  charge : s.constraintManager.constraintMap.lookup chargeParams.getHashValue =
    some ⟨.charge, s.constraintManager.generation⟩

/-- No evaluation is left in a WORKING that an event wakes to. -/
theorem Handled.wake_idle (h : Handled s) (hfree : Free s) :
    (transitToWorking cfg p s).constraintManager.isEvaluation = false := by
  by_cases hcur : s.curState = .working
  · rw [transitToWorking_eq, if_pos hcur]
    exact hfree hcur
  · refine transitToWorking_isEvaluation (fun hev => ⟨h.evaluation hev, fun hmaint => ?_⟩) hcur
    have hnot := h.maintIdle hmaint
    rw [h.evaluation hev] at hnot
    cases hnot

/-- An event that does not hold the device asleep leaves no evaluation running in WORKING. -/
theorem Handled.free (h : Handled s) (hfree : Free s) (hhold : action.isHold = false) :
    Free (handleCommonEvent cfg p action s) := by
  rw [handleCommonEvent_eq]
  obtain ⟨_, _, _, hf⟩ := recordEvent_frame cfg p action s
  have hrecord : Handled (recordEvent cfg p action s) ∧ Free (recordEvent cfg p action s) := by
    rw [hf]
    exact ⟨⟨h.evaluation, h.maintIdle, h.charge⟩, hfree⟩
  generalize recordEvent cfg p action s = u at hrecord ⊢
  obtain ⟨hu, hfree⟩ := hrecord
  have hrespond : Free (respond cfg p action u) ∧
      ∃ m, (respond cfg p action u).constraintManager.constraintMap.lookup
        chargeParams.getHashValue = some m ∧ m.kind = .charge := by
    cases hwake : action.isWakeUp with
    | true =>
      rw [respond, if_pos hwake, transitToWorking_constraintMap]
      exact ⟨fun _ => hu.wake_idle hfree, _, hu.charge, rfl⟩
    | false =>
      obtain ⟨hcur, hmanager⟩ := @respond_other cfg p u action hwake hhold
      rw [hmanager]
      exact ⟨fun hworking => by rw [hmanager]; exact hfree (hcur ▸ hworking), _, hu.charge, rfl⟩
  obtain ⟨hfree', m, hcharge, hkind⟩ := hrespond
  rw [tryEnterDark_eq]
  split_ifs with hdark
  · exact fun _ => transitToDark_idle hdark.1 (hfree' hdark.1) hcharge hkind
  · exact hfree'

/-- A running service stays one while its first message is handled. -/
theorem Running.handled (hdrains : cfg.stopTimerDrains = true) (h : Running cfg s)
    (queue : List StandbyMessage) : Handled { s with handler.queue := queue } where
  evaluation := (basic_reachable h.reachable).evaluation
  maintIdle := (scheduled_reachable hdrains h.reachable).maintIdle
  charge := (registered_reachable h.reachable).charge h.ready

/-- The first message of the queue is handled, and no evaluation is left in WORKING. -/
theorem Running.handle (hdrains : cfg.stopTimerDrains = true) (p : Platform) (h : Running cfg s)
    (hfree : Free s) {message : StandbyMessage} {queue : List StandbyMessage}
    (hqueue : s.handler.queue = message :: queue)
    (hhold : ∀ action, message = .commonEvent action → action.isHold = false) :
    let t := handleEvent cfg p message { s with handler.queue := queue }
    Leads cfg p s t ∧ Running cfg t ∧ Free t ∧ ∃ messages, t.handler.queue = queue ++ messages := by
  obtain ⟨hleads, hrun⟩ := h.dispatch p hqueue hhold
  refine ⟨hleads, hrun, ?_, handleEvent_queue hqueue (alive_reachable hrun.reachable)⟩
  unfold handleEvent
  split
  · exact (h.handled hdrains _).free hfree (hhold _ rfl)
  · exact hfree

/-- The messages of the queue are handled one after another. -/
theorem Running.drain (hdrains : cfg.stopTimerDrains = true) (p : Platform)
    (queue : List StandbyMessage) : ∀ {s : Service} {later : List StandbyMessage}, Running cfg s →
      Free s → s.handler.queue = queue ++ later →
      (∀ action, .commonEvent action ∈ queue → action.isHold = false) →
      ∃ t messages, Leads cfg p s t ∧ Running cfg t ∧ Free t ∧
        t.handler.queue = later ++ messages := by
  induction queue with
  | nil => exact fun hrun hfree hqueue _ => ⟨_, [], .refl, hrun, hfree, by simpa using hqueue⟩
  | cons message queue ih =>
    intro s later hrun hfree hqueue hhold
    have hqueue : s.handler.queue = message :: (queue ++ later) := hqueue
    obtain ⟨hleads, hrun', hfree', messages, hgrows⟩ :=
      hrun.handle hdrains p hfree hqueue fun action hm => hhold action (by simp [hm])
    rw [List.append_assoc] at hgrows
    obtain ⟨t, messages', hleads', ht⟩ := ih hrun' hfree' hgrows
      fun action hm => hhold action (List.mem_cons_of_mem _ hm)
    refine ⟨t, messages ++ messages', hleads.trans hleads', ht.1, ht.2.1, ?_⟩
    rw [ht.2.2, List.append_assoc]

/-- A message that comes from outside is posted. -/
theorem Running.post (h : Running cfg s) (p : Platform) (hfree : Free s) (message : StandbyMessage)
    (hexternal : message.isExternal = true) :
    Leads cfg p s (s.dispatchEvent message) ∧ Running cfg (s.dispatchEvent message) ∧
      Free (s.dispatchEvent message) ∧
      (s.dispatchEvent message).handler.queue = s.handler.queue ++ [message] := by
  obtain ⟨hleads, hrun⟩ :=
    h.act (unforcedOn_of_none (p := p) (a := .post message) rfl) (if_pos hexternal)
  exact ⟨hleads, hrun, hfree, if_pos h.ready⟩

/-- The screen goes on: the device is woken, and DARK is not tried. -/
theorem handle_screenOn (cfg : StandbyConfig) (p : Platform) (s : Service) :
    handleCommonEvent cfg p .screenOn s =
      transitToWorking cfg p (recordEvent cfg p .screenOn s) := by
  have hon : (recordEvent cfg p .screenOn s).isScreenOn = true := recordEvent_isScreenOn ..
  have hrespond : ∀ u, respond cfg p .screenOn u = transitToWorking cfg p u := fun _ => rfl
  rw [handleCommonEvent_eq, tryEnterDark_eq, hrespond]
  refine if_neg fun h => ?_
  have hsame : (transitToWorking cfg p (recordEvent cfg p .screenOn s)).isScreenOn =
      (recordEvent cfg p .screenOn s).isScreenOn := by
    by_cases hcur : (recordEvent cfg p .screenOn s).curState = .working
    · rw [transitToWorking_eq, if_pos hcur]
      rfl
    · exact (transitToWorking_flags cfg p hcur).2.2.2
  rw [hsame, hon] at h
  cases h.2

/-- SCREEN_ON wakes the device. -/
theorem handle_screenOn_curState : (handleCommonEvent cfg p .screenOn s).curState = .working := by
  rw [handle_screenOn]
  exact transitToWorking_curState

/-- In WORKING, the screen going on lifts a block. -/
theorem handle_screenOn_working (hcur : s.curState = .working) :
    (handleCommonEvent cfg p .screenOn s).isBlocked = false := by
  obtain ⟨_, _, _, hf⟩ := recordEvent_frame cfg p .screenOn s
  rw [handle_screenOn, transitToWorking_eq, if_pos (by rw [hf]; exact hcur)]
  rfl

/-- The screen goes off in a WORKING that is not blocked: DARK begins, and its timer with it. -/
theorem handle_screenOff (cfg : StandbyConfig) (hstart : ∀ state, p.startTimer state = true)
    (hcharging : p.isCharging = false) (h : Handled s) (hcur : s.curState = .working)
    (hblocked : s.isBlocked = false) (hfree : Free s)
    (halive : (handleCommonEvent cfg p .screenOff s).crashed = false) :
    (handleCommonEvent cfg p .screenOff s).curState = .dark ∧
      (handleCommonEvent cfg p .screenOff s).isBlocked = false ∧
      TransitionPending cfg (handleCommonEvent cfg p .screenOff s) := by
  have hworking : TransitionPending cfg s := .of_not_due (by rw [hcur]; exact id)
  refine and_assoc.1 ⟨?_, handleCommonEvent_pending hstart hworking halive⟩
  have hrespond : ∀ u, respond cfg p .screenOff u = u := fun _ => rfl
  have hoff : (recordEvent cfg p .screenOff s).isScreenOn = false := recordEvent_isScreenOn ..
  obtain ⟨_, _, _, hf⟩ := recordEvent_frame cfg p .screenOff s
  rw [handleCommonEvent_eq, hrespond, tryEnterDark_eq, if_pos ⟨by rw [hf]; exact hcur, hoff⟩]
  obtain ⟨h1, h2⟩ := transitToDark_spec cfg p (s := recordEvent cfg p .screenOff s)
    (by rw [hf]; exact hcur) (by rw [hf]; exact hblocked) (by rw [hf]; exact hfree hcur)
    (by rw [hf]; exact h.charge) rfl
  rw [hcharging] at h1 h2
  exact ⟨h1, h2⟩

/-- The first event of the queue is handled. -/
theorem Running.handleEvent (hdrains : cfg.stopTimerDrains = true) (p : Platform)
    (h : Running cfg s) (hfree : Free s) {queue : List StandbyMessage}
    (hqueue : s.handler.queue = .commonEvent action :: queue) (hhold : action.isHold = false) :
    ∃ t messages, t = handleCommonEvent cfg p action { s with handler.queue := queue } ∧
      Leads cfg p s t ∧ Running cfg t ∧ Free t ∧ t.handler.queue = queue ++ messages := by
  obtain ⟨hleads, hrun, hfree', messages, hgrows⟩ :=
    h.handle hdrains p hfree hqueue (by rintro _ ⟨⟩; exact hhold)
  exact ⟨_, messages, rfl, hleads, hrun, hfree', hgrows⟩

/-- The screen goes on. -/
theorem Running.wake (hdrains : cfg.stopTimerDrains = true) (p : Platform) (h : Running cfg s)
    (hfree : Free s) {queue : List StandbyMessage}
    (hqueue : s.handler.queue = .commonEvent .screenOn :: queue) :
    ∃ t messages, Leads cfg p s t ∧ Running cfg t ∧ Free t ∧
      t.handler.queue = queue ++ messages ∧ t.curState = .working ∧
      (s.curState = .working → t.isBlocked = false) := by
  obtain ⟨t, messages, heq, hleads, hrun, hfree', hgrows⟩ :=
    h.handleEvent hdrains p hfree hqueue rfl
  refine ⟨t, messages, hleads, hrun, hfree', hgrows, ?_, fun hcur => ?_⟩
  · rw [heq]
    exact handle_screenOn_curState
  · rw [heq]
    exact handle_screenOn_working hcur

/-- The screen goes off in a WORKING that is not blocked. -/
theorem Running.darken (hdrains : cfg.stopTimerDrains = true) (hp : p.Calm) (h : Running cfg s)
    (hfree : Free s) (hcur : s.curState = .working) (hblocked : s.isBlocked = false)
    {queue : List StandbyMessage} (hqueue : s.handler.queue = .commonEvent .screenOff :: queue) :
    ∃ t, Leads cfg p s t ∧ Running cfg t ∧ t.curState = .dark ∧ t.isBlocked = false ∧
      TransitionPending cfg t := by
  obtain ⟨t, _, heq, hleads, hrun, -, -⟩ := h.handleEvent hdrains p hfree hqueue rfl
  have hdark := handle_screenOff cfg hp.startTimer hp.isCharging (h.handled hdrains queue)
    hcur hblocked hfree (heq ▸ alive_reachable hrun.reachable)
  rw [← heq] at hdark
  exact ⟨t, hleads, hrun, hdark⟩

/-- A device that is woken falls into DARK when the screen goes off. A block of MAINTENANCE takes a
second event to be lifted. -/
theorem Running.leads_dark (hdrains : cfg.stopTimerDrains = true) (hp : p.Calm)
    (h : Running cfg s) (hfree : Free s)
    (hhold : ∀ action, .commonEvent action ∈ s.handler.queue → action.isHold = false) :
    ∃ t, Leads cfg p s t ∧ Running cfg t ∧ t.curState = .dark ∧ t.isBlocked = false ∧
      TransitionPending cfg t := by
  obtain ⟨hl₁, h₁, hfree₁, hq₁⟩ := h.post p hfree (.commonEvent .screenOn) rfl
  obtain ⟨hl₂, h₂, hfree₂, hq₂⟩ := h₁.post p hfree₁ (.commonEvent .screenOn) rfl
  obtain ⟨hl₃, h₃, hfree₃, hq₃⟩ := h₂.post p hfree₂ (.commonEvent .screenOff) rfl
  rw [hq₂, hq₁, List.append_assoc, List.append_assoc] at hq₃
  obtain ⟨t, _, hlt, ht, hfreet, hqt⟩ := h₃.drain hdrains p _ hfree₃ hq₃ hhold
  obtain ⟨u, _, hlu, hu, hfreeu, hqu, hcuru, -⟩ := ht.wake hdrains p hfreet hqt
  obtain ⟨v, _, hlv, hv, hfreev, hqv, hcurv, hblocked⟩ := hu.wake hdrains p hfreeu hqu
  obtain ⟨w, hlw, hw⟩ := hv.darken hdrains hp hfreev hcurv (hblocked hcuru) hqv
  exact ⟨w, (((hl₁.trans hl₂).trans hl₃).trans hlt).trans ((hlu.trans hlv).trans hlw), hw⟩

/-! ## From DARK to NAP -/

/-- A timer's callback that was delivered posts its task. -/
theorem Running.deliver (h : Running cfg s) (p : Platform) {state : StandbyState}
    (hmem : .startTransitNextState state ∈ s.timeService.callbacks) :
    ∃ timeService tasks,
      Leads cfg p s { s with timeService := timeService, handler.tasks := tasks } ∧
      Running cfg { s with timeService := timeService, handler.tasks := tasks } ∧
      .transitNextState state ∈ tasks := by
  obtain ⟨hleads, hrun⟩ := h.act (unforcedOn_of_none (p := p)
    (a := .timerCallback (.startTransitNextState state)) rfl) (if_pos hmem)
  exact ⟨_, _, hleads, hrun, List.mem_append_right _ (List.mem_singleton.2 rfl)⟩

/-- A timeout that is pending elapses. -/
theorem Running.elapse (h : Running cfg s) (p : Platform) {state : StandbyState}
    (hpending : TimeoutPending state s) :
    ∃ timeService tasks,
      Leads cfg p s { s with timeService := timeService, handler.tasks := tasks } ∧
      Running cfg { s with timeService := timeService, handler.tasks := tasks } ∧
      .transitNextState state ∈ tasks := by
  rcases hpending with hstarted | hmem | hmem
  · obtain ⟨t, htimer⟩ := Option.ne_none_iff_exists'.1 hstarted
    have hfire : DeviceStandby.act cfg s (.timerFire (.startTransitNextState state)) =
        some { s with
          timeService.enterStandbyTimer :=
            Function.update s.timeService.enterStandbyTimer state none
          timeService.callbacks := .startTransitNextState state :: s.timeService.callbacks } := by
      simp only [DeviceStandby.act, timerFire, htimer, Option.map_some]
    obtain ⟨hleads, hrun⟩ := h.act (unforcedOn_of_none (p := p)
      (a := .timerFire (.startTransitNextState state)) rfl) hfire
    obtain ⟨_, _, hleads', hrun', htask⟩ := hrun.deliver p List.mem_cons_self
    exact ⟨_, _, hleads.trans hleads', hrun', htask⟩
  · exact h.deliver p hmem
  · exact ⟨_, _, .refl, h, hmem⟩

/-- A state that is not blocked asks for a deeper one: an evaluation starts. -/
theorem transitToState_deeper (hblocked : s.isBlocked = false) {nextState : StandbyState}
    (hdeeper : s.curState = .dark ∧ (nextState = .nap ∨ nextState = .sleep) ∨
      s.curState = .nap ∧ nextState = .sleep) :
    transitToState cfg p nextState s = (.ok, startEvalCurrentState cfg p
      ⟨s.curState, s.curInnerPhase, nextState, 0, false⟩ s) := by
  have hvalid : checkTransitionValid s.curState nextState = true ∧ s.curState ≠ nextState ∧
      ¬ (nextState = .maintenance ∨ s.curState = .maintenance) ∧
      s.curState.toNat < nextState.toNat := by
    rcases hdeeper with ⟨hcur, rfl | rfl⟩ | ⟨hcur, rfl⟩ <;> rw [hcur] <;> decide
  obtain ⟨hvalid, hne, hmaint, hlt⟩ := hvalid
  unfold transitToState transitToStateWith
  dsimp only
  rw [if_neg (not_not_intro hvalid), if_neg hne, if_neg hmaint, if_pos hlt, enterStandby,
    if_neg (by rw [hblocked]; exact Bool.false_ne_true)]

/-- What a transition task finds once it has ended the evaluation that was running. -/
structure Stilled (s u : Service) : Prop where
  toStateManagerAdapter : u.toStateManagerAdapter = { s.toStateManagerAdapter with
    isEvalution := false }
  napState : u.napState = s.napState
  constraintMap : u.constraintManager.constraintMap = s.constraintManager.constraintMap
  hasStateManager : u.constraintManager.hasStateManager = s.constraintManager.hasStateManager
  isEvaluation : u.constraintManager.isEvaluation = false

/-- A transition task stills the evaluation before it asks for its own. -/
theorem Managed.stilled (hm : Managed cfg s) :
    Stilled s (stopEvalution s.acquireStandbyRunningLock) := by
  have hidle := hm.stopEvalution_isEvaluation
  obtain ⟨_, _, _, _, hf⟩ := stopEvalution_frame (s := s.acquireStandbyRunningLock)
  rw [hf] at hidle ⊢
  exact ⟨rfl, rfl, rfl, rfl, hidle⟩

/-- DARK leads to NAP or to SLEEP. -/
theorem StandbyConfig.darkNextState_cases (hsleep : cfg.sleepSwitch = true) :
    cfg.darkNextState = .nap ∨ cfg.darkNextState = .sleep := by
  unfold StandbyConfig.darkNextState
  rw [if_pos hsleep]
  split_ifs
  · exact .inl rfl
  · exact .inr rfl

/-- A device that may sleep does not stay in DARK. -/
theorem StandbyConfig.darkNextState_ne (hsleep : cfg.sleepSwitch = true) :
    cfg.darkNextState ≠ .dark := by
  rcases cfg.darkNextState_cases hsleep with h | h <;> rw [h] <;> decide

/-- DARK takes a success for its way out. -/
theorem stateEndEval_dark (hcur : s.curState = .dark) (hne : cfg.darkNextState ≠ .dark) :
    stateEndEval cfg p true s = transitToStateInner cfg p cfg.darkNextState s := by
  simp only [stateEndEval, hcur, DarkState.endEvalCurrentState, not_true_eq_false, if_false]
  rw [if_pos hne]

/-- The task of DARK ends it, when it is not blocked. -/
theorem runTransitNextState_dark (hm : Managed cfg s) (hsleep : cfg.sleepSwitch = true)
    (hcur : s.curState = .dark) (hblocked : s.isBlocked = false) :
    ∃ u, runTransitNextState cfg p .dark s = transitToStateInner cfg p cfg.darkNextState u ∧
      u.curState = .dark ∧ u.isBlocked = false ∧ u.isEvalution = false := by
  have hne := cfg.darkNextState_ne hsleep
  have hu := hm.stilled
  rw [runTransitNextState_eq]
  generalize stopEvalution s.acquireStandbyRunningLock = u at hu ⊢
  have hcur' : u.curState = .dark :=
    (congrArg StateManagerAdapter.curState hu.toStateManagerAdapter).trans hcur
  have hblocked' : u.isBlocked = false :=
    (congrArg StateManagerAdapter.isBlocked hu.toStateManagerAdapter).trans hblocked
  have hmanager : u.constraintManager.hasStateManager = true :=
    hu.hasStateManager.trans (hm.hasStateManager (by rw [hcur]; exact hne))
  have hnone : u.constraintManager.constraintMap.lookup (⟨u.curState, u.curInnerPhase,
      cfg.darkNextState, 0, false⟩ : ConstraintEvalParam).getHashValue = none := by
    rw [hu.constraintMap, Service.curInnerPhase, hcur']
    exact hm.dark _
  obtain ⟨_, _, _, _, heq, -⟩ :=
    @startEvalCurrentState_none cfg p u _ hu.isEvaluation hmanager hnone
  show ∃ w, afterRequest cfg p (transitToState cfg p cfg.darkNextState u) = _ ∧ _
  rw [transitToState_deeper hblocked' (.inl ⟨hcur', cfg.darkNextState_cases hsleep⟩), afterRequest,
    heq]
  exact ⟨_, stateEndEval_dark hcur' hne, hcur', hblocked', rfl⟩

/-- NAP that no event has moved: it leads to SLEEP, its timer runs, and the task of its phase is
pending. -/
structure Napping (cfg : StandbyConfig) (s : Service) : Prop where
  curState : s.curState = .nap
  isBlocked : s.isBlocked = false
  isEvalution : s.isEvalution = false
  nextState : s.napState.nextState = .sleep
  pending : TransitionPending cfg s
  task : s.napState.curPhase < NapStatePhase.END →
    ∃ acquire, .transitToNapPhase acquire ∈ s.handler.tasks

/-- DARK is left for NAP. -/
theorem napping_of_dark (hstart : ∀ state, p.startTimer state = true)
    (hsleep : cfg.sleepSwitch = true) (hcur : s.curState = .dark) (hblocked : s.isBlocked = false)
    (hidle : s.isEvalution = false) (halive : (transitToStateInner cfg p .nap s).crashed = false) :
    Napping cfg (transitToStateInner cfg p .nap s) := by
  have hm : s.curState ≠ .maintenance := by
    rw [hcur]
    decide
  have hstates := (transitToStateInner_alive halive).2
  refine ⟨by simp, by simpa using hblocked, by simpa using hidle, ?_,
    transit_pending hstart (fun _ hmaint => absurd hmaint hm) halive, fun _ => ⟨true, ?_⟩⟩
  · rw [(transit_napState hstates).2, if_neg (not_not_intro rfl), if_neg hm, if_pos hsleep]
  · have hpre : (replaceState cfg .nap s).preState ≠ .maintenance := hm
    rw [transitToStateInner_eq hstates]
    simp only [beginState, NapState.beginState, if_neg hpre]
    exact List.mem_append_right _ (List.mem_singleton.2 rfl)

/-- DARK that is not blocked leads to NAP, or past it to SLEEP. -/
theorem Running.leads_nap (hp : p.Calm) (hsleep : cfg.sleepSwitch = true) (h : Running cfg s)
    (hcur : s.curState = .dark) (hblocked : s.isBlocked = false)
    (hpending : TransitionPending cfg s) :
    ∃ t, Leads cfg p s t ∧ Running cfg t ∧ (t.curState = .sleep ∨ Napping cfg t) := by
  have htimeout : TimeoutPending .dark s := by
    rcases hpending (by rw [hcur]; exact cfg.darkNextState_ne hsleep) with h | h
    · rwa [hcur] at h
    · rw [h.curState] at hcur
      cases hcur
  obtain ⟨timeService, tasks, hleads, hrun, htask⟩ := h.elapse p htimeout
  obtain ⟨-, hleads', hrun'⟩ := hrun.runTask p htask
  have halive := alive_reachable hrun'.reachable
  have hm := managed_reachable hrun.reachable
  refine ⟨_, hleads.trans hleads', hrun', ?_⟩
  obtain ⟨u, heq, hcuru, hblockedu, hevu⟩ := @runTransitNextState_dark cfg p
    { s with
      timeService := timeService
      handler.tasks := tasks.erase (.transitNextState .dark) }
    ⟨hm.evaluation, hm.hasStateManager, hm.dark⟩ hsleep hcur hblocked
  simp only [DeviceStandby.runTask] at halive ⊢
  rw [heq] at halive ⊢
  rcases cfg.darkNextState_cases hsleep with hnap | hnext
  · rw [hnap] at halive ⊢
    exact .inr (napping_of_dark hp.startTimer hsleep hcuru hblockedu hevu halive)
  · rw [hnext]
    exact .inl (by simp)

/-! ## The phases of NAP -/

/-- No monitor answers for a phase of NAP: the phase ends at once. -/
theorem transitToPhase_nap (hcur : s.curState = .nap)
    (hlt : s.napState.curPhase < NapStatePhase.END)
    (hidle : s.constraintManager.isEvaluation = false)
    (hmanager : s.constraintManager.hasStateManager = true)
    (hnone : s.constraintManager.constraintMap.lookup (⟨.nap, s.napState.curPhase, .nap,
      s.napState.curPhase + 1, false⟩ : ConstraintEvalParam).getHashValue = none) :
    ∃ u, transitToPhase cfg p .nap s.napState.curPhase (s.napState.curPhase + 1) s =
        NapState.setPhaseTransitTask true u ∧
      u.curState = .nap ∧ u.isBlocked = s.isBlocked ∧ u.isEvalution = false ∧
      u.napState = s.napState := by
  obtain ⟨_, _, _, _, heq, -⟩ := @startEvalCurrentState_none cfg p s _ hidle hmanager hnone
  rw [transitToPhase, heq]
  simp only [stateEndEval, hcur, NapState.endEvalCurrentState, if_neg (Nat.ne_of_lt hlt)]
  exact ⟨_, rfl, rfl, rfl, rfl, rfl⟩

/-- A phase of NAP that has ended is followed by the next one, if there is one. -/
theorem setPhaseTransitTask_next :
    (NapState.setPhaseTransitTask evalResult s).napState.curPhase = s.napState.curPhase + 1 ∧
      (s.napState.curPhase + 1 < NapStatePhase.END → .transitToNapPhase false ∈
        (NapState.setPhaseTransitTask evalResult s).handler.tasks) := by
  unfold NapState.setPhaseTransitTask
  dsimp only
  by_cases hlt : s.napState.curPhase + 1 < NapStatePhase.END
  · rw [if_pos hlt]
    exact ⟨rfl, fun _ => List.mem_append_right _ (List.mem_singleton.2 rfl)⟩
  · rw [if_neg hlt]
    exact ⟨rfl, fun h => absurd h hlt⟩

/-- A phase of NAP runs. -/
theorem Running.napPhase (hp : p.Calm) (h : Running cfg s) (hn : Napping cfg s)
    (hlt : s.napState.curPhase < NapStatePhase.END) :
    ∃ t, Leads cfg p s t ∧ Running cfg t ∧ Napping cfg t ∧
      t.napState.curPhase = s.napState.curPhase + 1 := by
  obtain ⟨acquire, hmem⟩ := hn.task hlt
  obtain ⟨hs, hleads, hrun⟩ := h.runTask p hmem
  refine ⟨_, hleads, hrun, ?_⟩
  have htimers : Action.TimersStart (.runTask (.transitToNapPhase acquire) p) := by
    rintro q ⟨⟩
    exact ⟨hp.startTimer, hp.startRepeatedTimer⟩
  have hkeeps : KeepsTransition cfg s (.runTask (.transitToNapPhase acquire) p) := by
    refine ⟨fun _ _ ha => ?_, fun _ _ ha => ?_⟩ <;> cases ha
  have hpending := pending_step h.reachable htimers hkeeps hn.pending hs
  have hreg := registered_reachable h.reachable
  have hbasic := basic_reachable h.reachable
  have hidle : s.constraintManager.isEvaluation = false := Bool.eq_false_iff.2 fun hev => by
    have hnot := hbasic.evaluation hev
    rw [hn.isEvalution] at hnot
    cases hnot
  have hnone := @Registered.lookup_phase s hreg .nap _ _ hbasic.napPhase
    (Nat.succ_le_succ hbasic.napPhase)
  obtain ⟨u, heq, hcuru, hblockedu, hevu, hnapu⟩ : ∃ u,
      DeviceStandby.runTask cfg p (.transitToNapPhase acquire)
        { s with handler.tasks := s.handler.tasks.erase (.transitToNapPhase acquire) } =
          NapState.setPhaseTransitTask true u ∧
      u.curState = .nap ∧ u.isBlocked = s.isBlocked ∧ u.isEvalution = false ∧
      u.napState = s.napState := by
    cases acquire <;>
      exact transitToPhase_nap hn.curState hlt hidle (hreg.hasStateManager h.ready) hnone
  rw [heq] at hpending ⊢
  obtain ⟨hphase, htask⟩ := @setPhaseTransitTask_next u true
  have hnext := @setPhaseTransitTask_nextState u true
  rw [hnapu] at hphase htask hnext
  have hcur : (NapState.setPhaseTransitTask true u).curState = .nap ∧
      (NapState.setPhaseTransitTask true u).isBlocked = false ∧
      (NapState.setPhaseTransitTask true u).isEvalution = false := by
    obtain ⟨_, _, _, hf⟩ := NapState.setPhaseTransitTask_frame true u
    rw [hf]
    exact ⟨hcuru, hblockedu.trans hn.isBlocked, hevu⟩
  refine ⟨⟨hcur.1, hcur.2.1, hcur.2.2, hnext.trans hn.nextState, hpending, fun hlt' => ⟨false, ?_⟩⟩,
    hphase⟩
  exact htask (hphase ▸ hlt')

/-- NAP leads past its last phase. -/
theorem Running.leads_napEnd (hp : p.Calm) : ∀ (left : Nat) {s : Service}, Running cfg s →
    Napping cfg s → s.napState.curPhase + left = NapStatePhase.END →
    ∃ t, Leads cfg p s t ∧ Running cfg t ∧ Napping cfg t ∧
      t.napState.curPhase = NapStatePhase.END
  | 0, s, h, hn, hend => ⟨s, .refl, h, hn, hend⟩
  | left + 1, s, h, hn, hend => by
    obtain ⟨t, hleads, hrun, hnap, hphase⟩ := h.napPhase hp hn (by omega)
    obtain ⟨u, hleads', hu⟩ := Running.leads_napEnd hp left hrun hnap (by omega)
    exact ⟨u, hleads.trans hleads', hu⟩

/-! ## From NAP to SLEEP -/

/-- NAP past its last phase takes a success for its way to SLEEP. -/
theorem endEvalCurrentState_nap (hcur : s.curState = .nap)
    (hphase : s.napState.curPhase = NapStatePhase.END) (hev : s.isEvalution = true)
    (hnext : s.napState.nextState ≠ .nap) :
    (endEvalCurrentState cfg p true s).curState = .sleep := by
  obtain ⟨_, _, _, hf⟩ := finishEvalution_frame (s := s)
  simp only [endEvalCurrentState, hev, not_true_eq_false, if_false, hf, Service.log, stateEndEval,
    hcur, NapState.endEvalCurrentState, hphase, NapState.handleEvalResToSleepState, if_true]
  rw [if_pos hnext]
  simp

/-- The total timeout of the motion detection ends NAP. -/
theorem Running.leads_deciding (hsleep : cfg.sleepSwitch = true) (p : Platform) (h : Running cfg s)
    (hd : Deciding s) : ∃ t, Leads cfg p s t ∧ t.curState = .sleep := by
  have hnext := napLeads_reachable h.reachable hsleep hd.curState
  obtain ⟨-, hleads, -⟩ := h.runTask p hd.timeout
  exact ⟨_, hleads, endEvalCurrentState_nap (s := { s with
    handler.tasks := s.handler.tasks.erase .motionTotalTimeOut })
    hd.curState hd.curPhase hd.isEvalution hnext⟩

/-- Starting the sensors, or failing to, leaves NAP to the total timeout. -/
theorem Deciding.periodlyStartMotionDetection (h : Deciding s) (m : Monitor) :
    Deciding (periodlyStartMotionDetection cfg p m s) := by
  unfold DeviceStandby.periodlyStartMotionDetection
  split
  · exact ⟨h.curState, h.curPhase, h.isEvalution,
      List.mem_append_left _ (List.mem_append_left _ h.timeout)⟩
  · rename_i monitor _ _
    obtain ⟨_, _, _, hf⟩ := blockCurrentState_frame cfg p (s.setMonitor m monitor)
    rw [hf]
    exact ⟨h.curState, h.curPhase, h.isEvalution, h.timeout⟩

/-- The task of NAP past its last phase ends it, or leaves it to the motion detection. -/
theorem runTransitNextState_nap (hm : Managed cfg s) (hreg : Registered s)
    (hmanager : s.constraintManager.hasStateManager = true) (hcur : s.curState = .nap)
    (hblocked : s.isBlocked = false) (hphase : s.napState.curPhase = NapStatePhase.END)
    (hnext : s.napState.nextState = .sleep) :
    (runTransitNextState cfg p .nap s).curState = .sleep ∨
      Deciding (runTransitNextState cfg p .nap s) := by
  have hu := hm.stilled
  rw [runTransitNextState_eq]
  generalize stopEvalution s.acquireStandbyRunningLock = u at hu ⊢
  have hcur' : u.curState = .nap :=
    (congrArg StateManagerAdapter.curState hu.toStateManagerAdapter).trans hcur
  have hblocked' : u.isBlocked = false :=
    (congrArg StateManagerAdapter.isBlocked hu.toStateManagerAdapter).trans hblocked
  have hphase' : u.napState.curPhase = NapStatePhase.END :=
    (congrArg NapState.curPhase hu.napState).trans hphase
  have hnext' : nextStateOf cfg .nap u = .sleep :=
    (congrArg NapState.nextState hu.napState).trans hnext
  rw [hnext', transitToState_deeper hblocked' (.inr ⟨hcur', rfl⟩), afterRequest]
  obtain ⟨hbusy, -⟩ | ⟨-, m, hlookup, heq⟩ | ⟨-, -, -, heq⟩ | ⟨-, -, hunmanaged, -⟩ :=
    startEvalCurrentState_cases cfg p ⟨u.curState, u.curInnerPhase, .sleep, 0, false⟩ u
  · rw [hu.isEvaluation] at hbusy
    cases hbusy
  · right
    rw [heq]
    have hkind : m.kind ≠ .charge := by
      rw [hu.constraintMap] at hlookup
      refine hreg.lookup_kind ⟨?_, Nat.zero_le _⟩ (by rw [hcur']; nofun) hlookup
      simp only [Service.curInnerPhase, hcur', hphase', le_refl]
    have hd : Deciding ((u.accepted ⟨u.curState, u.curInnerPhase, .sleep, 0, false⟩).postTask
        .motionTotalTimeOut) :=
      ⟨hcur', hphase', rfl, List.mem_append_right _ (List.mem_singleton.2 rfl)⟩
    unfold startMonitoring
    split
    · exact absurd ‹m.kind = .charge› hkind
    · exact hd.periodlyStartMotionDetection m
    · exact hd.periodlyStartMotionDetection m
  · left
    rw [heq]
    have hleads : u.napState.nextState ≠ .nap := fun hnap => by
      rw [show u.napState.nextState = .sleep from hnext'] at hnap
      cases hnap
    exact endEvalCurrentState_nap hcur' hphase' rfl hleads
  · rw [hu.hasStateManager, hmanager] at hunmanaged
    cases hunmanaged

/-- NAP past its last phase leads to SLEEP. -/
theorem Running.leads_sleep (hsleep : cfg.sleepSwitch = true) (p : Platform) (h : Running cfg s)
    (hn : Napping cfg s) (hphase : s.napState.curPhase = NapStatePhase.END) :
    ∃ t, Leads cfg p s t ∧ t.curState = .sleep := by
  have htimeout : TimeoutPending .nap s := by
    rcases hn.pending (by rw [hn.curState]; exact hsleep) with h | h
    · rwa [hn.curState] at h
    · have hev := h.isEvalution
      rw [hn.isEvalution] at hev
      cases hev
  obtain ⟨timeService, tasks, hleads, hrun, htask⟩ := h.elapse p htimeout
  obtain ⟨-, hleads', hrun'⟩ := hrun.runTask p htask
  have hm := managed_reachable hrun.reachable
  have hreg := registered_reachable hrun.reachable
  have hleft := @runTransitNextState_nap cfg p
    { s with
      timeService := timeService
      handler.tasks := tasks.erase (.transitNextState .nap) }
    ⟨hm.evaluation, hm.hasStateManager, hm.dark⟩
    ⟨hreg.empty, hreg.hasStateManager, hreg.charge, hreg.kinds⟩ (hreg.hasStateManager hrun.ready)
    hn.curState hn.isBlocked hphase hn.nextState
  rcases hleft with hcur | hd
  · exact ⟨_, hleads.trans hleads', hcur⟩
  · obtain ⟨t, hleads'', ht⟩ := hrun'.leads_deciding hsleep p hd
    exact ⟨t, (hleads.trans hleads').trans hleads'', ht⟩

/-! ## Out of a WORKING that evaluates -/

/-- No event in the queue holds the device asleep. -/
def Unholding (s : Service) : Prop :=
  ∀ action, .commonEvent action ∈ s.handler.queue → action.isHold = false

/-- A running service that an event can wake. -/
structure Rousable (cfg : StandbyConfig) (s : Service) : Prop where
  running : Running cfg s
  free : Free s
  unholding : Unholding s

/-- A transition to DARK posts its own message. -/
theorem mem_transitToDark_queue {message : StandbyMessage}
    (h : message ∈ (transitToStateInner cfg p .dark s).handler.queue) :
    message ∈ s.handler.queue ∨ ∃ preState curState, message = .stateTransit preState curState := by
  obtain ⟨_, _, hrep⟩ := replaceState_frame cfg .dark s
  simp only [transitToStateInner, beginState, DarkState.beginState, startStateTransitionTimer,
    sendNotification, Service.dispatchEvent, Service.releaseStandbyRunningLock, hrep, if_true] at h
  split_ifs at h <;> simp only [List.mem_append, List.mem_singleton] at h
  all_goals first | exact .inl h | exact h.imp_right fun h => ⟨_, _, h⟩

/-- A block posts no message. -/
theorem blockCurrentState_queue :
    (blockCurrentState cfg p s).handler.queue = s.handler.queue := by
  obtain ⟨_, _, _, hf⟩ := blockCurrentState_frame cfg p s
  rw [hf]

/-- A result in WORKING posts no event. -/
theorem unholding_endEval (hcur : s.curState = .working) (hev : s.isEvalution = true)
    (h : Unholding s) : Unholding (endEvalCurrentState cfg p evalResult s) := by
  obtain ⟨_, _, _, hf⟩ := finishEvalution_frame (s := s)
  intro action hmem
  refine h action ?_
  simp only [endEvalCurrentState, hev, not_true_eq_false, if_false, hf, Service.log, stateEndEval,
    hcur, WorkingState.endEvalCurrentState] at hmem
  split_ifs at hmem
  · exact (mem_transitToDark_queue hmem).resolve_right (by rintro ⟨_, _, ⟨⟩⟩)
  · rwa [blockCurrentState_queue] at hmem

/-- A pending task that delivers a result ends the evaluation. -/
theorem Running.leads_result (p : Platform) (h : Running cfg s) (hcur : s.curState = .working)
    (hbusy : s.constraintManager.isEvaluation = true) (hhold : Unholding s) {task : Task}
    (hmem : task ∈ s.handler.tasks) (evalResult : Bool)
    (hresult : ∀ u, DeviceStandby.runTask cfg p task u = endEvalCurrentState cfg p evalResult u) :
    ∃ t, Leads cfg p s t ∧ Rousable cfg t := by
  have hev := (basic_reachable h.reachable).evaluation hbusy
  obtain ⟨-, hleads, hrun⟩ := h.runTask p hmem
  refine ⟨_, hleads, hrun, ?_, ?_⟩
  · rw [hresult]
    exact fun _ => endEvalCurrentState_working_idle (s := { s with
      handler.tasks := s.handler.tasks.erase task }) hcur hev
  · rw [hresult]
    exact unholding_endEval (s := { s with
      handler.tasks := s.handler.tasks.erase task }) hcur hev hhold

/-- A sensor that is active reports motion. -/
theorem Running.leads_sensed (p : Platform) (h : Running cfg s) (hcur : s.curState = .working)
    (hbusy : s.constraintManager.isEvaluation = true) (hhold : Unholding s) {m : Monitor}
    (hactive : (s.monitors m).active ≠ []) : ∃ t, Leads cfg p s t ∧ Rousable cfg t := by
  obtain ⟨hleads, hrun⟩ :=
    h.act (unforcedOn_of_none (p := p) (a := .sensorEvent m) rfl) (if_neg hactive)
  obtain ⟨t, hleads', ht⟩ := hrun.leads_result p hcur hbusy hhold
    (List.mem_append_right _ (List.mem_singleton.2 rfl)) false fun _ => rfl
  exact ⟨t, hleads.trans hleads', ht⟩

/-- On a calm platform every sensor of a monitor starts. -/
theorem Platform.Calm.startSensor (hp : p.Calm) (kind : MonitorKind) (users : List SensorType)
    (monitor : MotionSensorMonitor) : ∃ monitor',
      MotionSensorMonitor.startSensor p kind users monitor = (.ok, monitor') ∧
      (users ≠ [] ∨ monitor.active ≠ [] → monitor'.active ≠ []) := by
  induction users generalizing monitor with
  | nil => exact ⟨monitor, rfl, fun h => h.resolve_left (not_not_intro rfl)⟩
  | cons sensor users ih =>
    obtain ⟨monitor', heq, hactive⟩ := ih { monitor with
      subscribed := sensor :: monitor.subscribed
      active := sensor :: monitor.active }
    refine ⟨monitor', ?_, fun _ => hactive (.inr (List.cons_ne_nil _ _))⟩
    rw [MotionSensorMonitor.startSensor, if_neg (not_not_intro (hp.subscribeSensor _ _))]
    exact (if_neg (not_not_intro (hp.activateSensor _ _))).trans heq

/-- A monitor that still starts its sensors on its own will see motion. -/
theorem Running.leads_detecting (hp : p.Calm) (h : Running cfg s) (hcur : s.curState = .working)
    (hbusy : s.constraintManager.isEvaluation = true) (hhold : Unholding s) {m : Monitor}
    (hmem : .periodlyStartMotionDetection m ∈ s.handler.tasks)
    (husers : (s.monitors m).sensorUserMap ≠ []) : ∃ t, Leads cfg p s t ∧ Rousable cfg t := by
  obtain ⟨monitor, hstart, hactive⟩ := hp.startSensor m.kind (s.monitors m).sensorUserMap
    { s.monitors m with isMonitoring := true }
  obtain ⟨-, hleads, hrun⟩ := h.runTask p hmem
  have hinner : (s.monitors m).startMonitoringInner p m.kind = (.ok, monitor) := by
    rw [MotionSensorMonitor.startMonitoringInner, hstart]
  simp only [DeviceStandby.runTask, periodlyStartMotionDetection, hinner] at hleads hrun
  obtain ⟨t, hleads', ht⟩ := hrun.leads_sensed p hcur hbusy hhold (m := m)
    (by simpa [Service.setMonitor, Service.postTask] using hactive (.inl husers))
  exact ⟨t, hleads.trans hleads', ht⟩

/-- A running service that is not trapped leads to one that an event can wake. -/
theorem Running.leads_rousable (hp : p.Calm) (h : Running cfg s) (hhold : Unholding s)
    (hnot : ¬ Trapped s) : ∃ t, Leads cfg p s t ∧ Rousable cfg t := by
  by_cases hfree : Free s
  · exact ⟨s, .refl, h, hfree, hhold⟩
  unfold Free at hfree
  simp only [Classical.not_imp, Bool.not_eq_false] at hfree
  obtain ⟨hcur, hbusy⟩ := hfree
  -- one of the ways out that the trap lacks is there
  by_cases htimeout : .motionTotalTimeOut ∈ s.handler.tasks
  · exact h.leads_result p hcur hbusy hhold htimeout true fun _ => rfl
  by_cases hdetected : .motionDetected ∈ s.handler.tasks
  · exact h.leads_result p hcur hbusy hhold hdetected false fun _ => rfl
  by_cases hsensed : ∃ m, (s.monitors m).active ≠ []
  · obtain ⟨m, hactive⟩ := hsensed
    exact h.leads_sensed p hcur hbusy hhold hactive
  by_cases hdetecting : ∃ m, .periodlyStartMotionDetection m ∈ s.handler.tasks ∧
      (s.monitors m).sensorUserMap ≠ []
  · obtain ⟨m, hmem, husers⟩ := hdetecting
    exact h.leads_detecting hp hcur hbusy hhold hmem husers
  · simp only [not_exists, not_and, not_not] at hsensed hdetecting
    exact absurd ⟨h.ready, hcur, hbusy, ⟨htimeout, hdetected⟩, hsensed, hdetecting⟩ hnot

/-! ## Runs -/

/-- A trap outlasts every run whose steps do not force the device. -/
theorem Trapped.leads (hdrains : cfg.stopTimerDrains = true) (hr : Lts.Reachable (system cfg) s)
    (h : Trapped s) (hleads : Leads cfg p s t) : Trapped t := by
  have hboth : Lts.Reachable (system cfg) t ∧ Trapped t := by
    induction hleads with
    | refl => exact ⟨hr, h⟩
    | tail _ hstep ih =>
      obtain ⟨a, hok, hs⟩ := hstep
      exact ⟨ih.1.step trivial hs, ih.2.step hdrains ih.1 hok.1 hs⟩
  exact hboth.2

/-- Whatever has happened before, a ready device with no event in its queue that holds it asleep
falls asleep by itself on some run without such an event, unless it is trapped in WORKING, and no
such run leaves the trap. It has to be allowed to sleep: without `sleep_switch` a dark device sets
no timer for NAP. And a timer that is stopped must not call back any more: what the callbacks of a
state that has ended do is not followed here. -/
theorem sleep_reachable_iff (hdrains : cfg.stopTimerDrains = true)
    (hsleep : cfg.sleepSwitch = true) (hp : p.Calm) (hr : Lts.Reachable (system cfg) s)
    (hready : s.isServiceReady = true) (hhold : Unholding s) :
    ((∃ t, Leads cfg p s t ∧ t.curState = .sleep) ↔ ¬ Trapped s) ∧
      ∀ t, Trapped s → Leads cfg p s t → Trapped t := by
  refine ⟨⟨?_, ?_⟩, fun t htrapped hleads => htrapped.leads hdrains hr hleads⟩
  · rintro ⟨t, hleads, hcur⟩ htrapped
    rw [(htrapped.leads hdrains hr hleads).working] at hcur
    cases hcur
  · intro hnot
    have hrun : Running cfg s := ⟨hr, hready⟩
    obtain ⟨t, hlt, ht⟩ := hrun.leads_rousable hp hhold hnot
    obtain ⟨u, hlu, hu, hcuru, hblockedu, hpending⟩ :=
      ht.running.leads_dark hdrains hp ht.free ht.unholding
    obtain ⟨v, hlv, hv, hcurv | hnap⟩ := hu.leads_nap hp hsleep hcuru hblockedu hpending
    · exact ⟨v, (hlt.trans hlu).trans hlv, hcurv⟩
    · have hle := (basic_reachable hv.reachable).napPhase
      obtain ⟨w, hlw, hw, hnapw, hphase⟩ :=
        hv.leads_napEnd hp _ hnap (Nat.add_sub_cancel' hle)
      obtain ⟨x, hlx, hcurx⟩ := hw.leads_sleep hsleep p hnapw hphase
      exact ⟨x, ((hlt.trans hlu).trans hlv).trans (hlw.trans hlx), hcurx⟩

/-- SCREEN_OFF is posted before the service stops and handled afterwards, and the service starts
again. It has no sensor that could detect motion. -/
def trappedRun : List Action :=
  let deaf : Platform := { samplePlatform with usableSensors := fun _ => [] }
  [.initReadyState deaf, .post (.commonEvent .screenOff), .uninitReadyState deaf, .dispatch deaf,
    .initReadyState deaf]

/-- The sample platform is calm. -/
theorem samplePlatform_calm : samplePlatform.Calm :=
  ⟨rfl, fun _ => rfl, rfl, fun _ _ => rfl, fun _ _ => rfl⟩

/-- A restart can leave the device in the trap, and it never falls asleep again by itself; after the
first start it can. -/
theorem sleep_reachable_sample :
    (∃ s, Lts.Reachable (system sampleConfig) s ∧ Trapped s ∧
      ¬ ∃ t, Leads sampleConfig samplePlatform s t ∧ t.curState = .sleep) ∧
    ∃ s t, Lts.Reachable (system sampleConfig) s ∧ s.curState = .working ∧
      Leads sampleConfig samplePlatform s t ∧ t.curState = .sleep := by
  constructor
  · obtain ⟨s, hrun, hready, hcur, hbusy, htasks, hmonitors, hqueue⟩ :
        ∃ s, (system sampleConfig).run {} trappedRun = some s ∧ s.isServiceReady = true ∧
          s.curState = .working ∧ s.constraintManager.isEvaluation = true ∧
          s.handler.tasks = [.checkScreenStatus] ∧ s.monitors = (fun _ => {}) ∧
          s.handler.queue = [] :=
      ⟨_, rfl, rfl, rfl, rfl, rfl, rfl, rfl⟩
    have hr := Lts.reachable_of_run hrun
    have htrapped : Trapped s := by
      refine ⟨hready, hcur, hbusy, ?_, fun m => by rw [hmonitors], fun m hmem => ?_⟩
      · rw [htasks]
        decide
      · rw [htasks, List.mem_singleton] at hmem
        cases hmem
    have hhold : Unholding s := fun _ hmem => by
      rw [hqueue] at hmem
      cases hmem
    exact ⟨s, hr, htrapped, fun h =>
      (sleep_reachable_iff rfl rfl samplePlatform_calm hr hready hhold).1.1 h htrapped⟩
  · obtain ⟨s, hr, hs⟩ := (system sampleConfig).exists_check (fun _ _ => True) (fun _ _ => true)
      (fun _ _ _ => trivial) (fun s => s.isServiceReady ∧ s.curState = .working ∧
        s.constraintManager.isEvaluation = false ∧ s.handler.queue = [])
      [.initReadyState samplePlatform] (by decide)
    obtain ⟨hready, hcur, hidle, hqueue⟩ := of_decide_eq_true hs
    have hhold : Unholding s := fun _ hmem => by
      rw [hqueue] at hmem
      cases hmem
    obtain ⟨t, hleads, ht⟩ :=
      (sleep_reachable_iff rfl rfl samplePlatform_calm hr.reachable hready hhold).1.2 fun h => by
        rw [h.busy] at hidle
        cases hidle
    exact ⟨s, t, hr.reachable, hcur, hleads, ht⟩

end

end DeviceStandby
