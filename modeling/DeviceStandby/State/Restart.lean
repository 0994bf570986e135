import DeviceStandby.State.Blocked
import DeviceStandby.State.HalfHour
import DeviceStandby.State.Queue

/-!
# Messages that reach a stopped service

`UninitReadyState` overtakes the messages that `DispatchEvent` has posted, so these are handled by
managers that are torn down. No flag is reset there: an event that asks for DARK begins an
evaluation that nobody ends, and an event that holds the device asleep uses a reset state object.
-/

namespace DeviceStandby

/-- `UninitReadyState` has run: WORKING is current, the state objects are reset, and the constraint
manager knows neither a monitor nor the state manager. -/
structure Stopped (s : Service) : Prop where
  ready : s.isServiceReady = false
  reset : s.statesAlive = false
  working : s.curState = .working
  unmonitored : s.constraintManager.constraintMap = []
  curMonitor : s.constraintManager.curMonitor = none
  unmanaged : s.constraintManager.hasStateManager = false

/-- An event that enters SLEEP at once. User sleep does so while the screen is off. -/
def CommonEvent.entersHold (isScreenOn : Bool) : CommonEvent → Bool
  | .enterForceSleep => true
  | .userSleepStateChanged (some true) => !isScreenOn
  | _ => false

/-- The screen status once a message has been handled. -/
def StandbyMessage.screenAfter (isScreenOn : Bool) : StandbyMessage → Bool
  | .commonEvent .screenOn => true
  | .commonEvent .screenOff => false
  | _ => isScreenOn

/-- The message wakes the device. -/
def StandbyMessage.wakes : StandbyMessage → Bool
  | .commonEvent action => action.isWakeUp
  | _ => false

/-- A message that a stopped service bears: an event that does not hold it asleep, and then finds
the screen on or WORKING blocked. -/
def StandbyMessage.Borne (isScreenOn isBlocked : Bool) (message : StandbyMessage) : Prop :=
  ∀ action, message = .commonEvent action →
    action.entersHold isScreenOn = false ∧
      (message.screenAfter isScreenOn = true ∨ isBlocked = true ∧ action.isWakeUp = false)

/-- A stopped service bears each of the messages where it stands among them. -/
def BorneInTurn (isScreenOn isBlocked : Bool) (messages : List StandbyMessage) : Prop :=
  ∀ earlier message later, messages = earlier ++ message :: later →
    message.Borne (earlier.foldl StandbyMessage.screenAfter isScreenOn)
      (isBlocked && !earlier.any (·.wakes))

/-- Such messages move the screen status and may lift the block, and leave the other flags. -/
structure Undisturbed (messages : List StandbyMessage) (s t : Service) : Prop where
  stopped : Stopped t
  isScreenOn : t.isScreenOn = messages.foldl StandbyMessage.screenAfter s.isScreenOn
  isBlocked : t.isBlocked = (s.isBlocked && !messages.any (·.wakes))
  isEvalution : t.isEvalution = s.isEvalution
  isEvaluation : t.constraintManager.isEvaluation = s.constraintManager.isEvaluation
  control : t.halfHour.scrOffHalfHourCtrl = s.halfHour.scrOffHalfHourCtrl
  crashed : t.crashed = s.crashed
  queue : t.handler.queue = s.handler.queue

/-- The process has ended, or an evaluation was begun that nobody ends. -/
def Spoiled (s : Service) : Prop :=
  s.crashed = true ∨ Stopped s ∧ s.isEvalution = true

section
variable {cfg : StandbyConfig} {p : Platform} {s t : Service} {action : CommonEvent}
  {message : StandbyMessage}

/-! ## One message -/

/-- An event that does not hold the device asleep lifts the block at most. -/
theorem Stopped.respond_eq (cfg : StandbyConfig) (p : Platform) (h : Stopped s)
    (hnot : action.entersHold s.isScreenOn = false) :
    ∃ isSleepState, respond cfg p action s =
      { s with
        isBlocked := s.isBlocked && !action.isWakeUp
        isSleepState := isSleepState } := by
  cases hwake : action.isWakeUp with
  | true =>
    refine ⟨s.isSleepState, ?_⟩
    rw [respond, hwake, if_pos rfl, transitToWorking_eq, if_pos h.working]
    simp [unblockCurrentState]
  | false =>
    simp only [respond, hwake, Bool.false_eq_true, if_false, Bool.not_false,
      Bool.and_true]
    cases action with
    | screenOn | screenUnlocked | charging | usbDeviceAttached | lidOpen => cases hwake
    | enterForceSleep => cases hnot
    | screenOff | discharging | usbDeviceDetached | other => exact ⟨s.isSleepState, rfl⟩
    | userSleepStateChanged isSleep =>
      simp only [handleAction, handleUserSleepState]
      have hsleep : s.curState ≠ .sleep := by rw [h.working]; decide
      by_cases hscreen : s.isScreenOn = true
      · rw [if_pos hscreen]
        exact ⟨s.isSleepState, rfl⟩
      · rw [if_neg hscreen]
        cases isSleep with
        | none => exact ⟨s.isSleepState, rfl⟩
        | some isSleepState =>
          cases isSleepState with
          | true => simp [CommonEvent.entersHold, hscreen] at hnot
          | false => exact ⟨false, if_neg hsleep⟩

/-- Entering a hold uses a reset state object. -/
theorem Stopped.transitHoldSleepState_crashed (cfg : StandbyConfig) (p : Platform)
    (hreset : s.statesAlive = false) (hworking : s.curState = .working) :
    (transitHoldSleepState cfg p s).crashed = true := by
  by_contra hnot
  have hcrashed := Bool.eq_false_iff.2 hnot
  simp only [transitHoldSleepState, stopRepeatedTimedTask, stopTransitTimedTask, hworking,
    ne_eq, reduceCtorEq, not_false_eq_true, if_true] at hcrashed
  have halive : s.statesAlive = true := (transitToStateInner_alive hcrashed).2
  rw [hreset] at halive
  cases halive

/-- So does an event that holds the device asleep. -/
theorem Stopped.respond_crashed (cfg : StandbyConfig) (p : Platform) (h : Stopped s)
    (henters : action.entersHold s.isScreenOn = true) :
    (respond cfg p action s).crashed = true ∧
      (respond cfg p action s).curState = .sleep := by
  cases action with
  | enterForceSleep =>
    exact ⟨transitHoldSleepState_crashed cfg p h.reset h.working, transitHoldSleepState_curState⟩
  | userSleepStateChanged isSleep =>
    cases isSleep with
    | none => cases henters
    | some isSleepState =>
      cases isSleepState with
      | false => cases henters
      | true =>
        have hscreen : s.isScreenOn = false := by
          simpa [CommonEvent.entersHold] using henters
        have heq : respond cfg p (.userSleepStateChanged (some true)) s =
            transitHoldSleepState cfg p { s with isSleepState := true } := by
          simp [respond, CommonEvent.isWakeUp, handleAction, handleUserSleepState,
            hscreen]
        rw [heq]
        exact ⟨transitHoldSleepState_crashed cfg p h.reset h.working,
          transitHoldSleepState_curState⟩
  | screenOn | screenOff | screenUnlocked | charging | discharging | usbDeviceAttached
  | usbDeviceDetached | lidOpen | other => cases henters

/-- Without monitors and a state manager an evaluation is begun and not ended. -/
theorem Stopped.startEvalCurrentState_eq (cfg : StandbyConfig) (p : Platform) (h : Stopped s)
    (params : ConstraintEvalParam) : ∃ trace,
    startEvalCurrentState cfg p params s =
      { s with
        isEvalution := true
        constraintManager.isEvaluation := true
        constraintManager.curMonitor := none
        trace := trace } := by
  obtain ⟨hev, heq⟩ | ⟨-, m, hm, -⟩ | ⟨-, -, hmanager, -⟩ | ⟨-, hnone, -, heq⟩ :=
    startEvalCurrentState_cases cfg p params s
  · have hmanager : s.constraintManager =
        { s.constraintManager with isEvaluation := true, curMonitor := none } := by
      rw [← hev, ← h.curMonitor]
    refine ⟨.startEval params :: s.trace, ?_⟩
    rw [heq]
    exact congrArg (fun manager => { s with
      isEvalution := true
      constraintManager := manager
      trace := .startEval params :: s.trace }) hmanager
  · rw [h.unmonitored] at hm
    cases hm
  · rw [h.unmanaged] at hmanager
    cases hmanager
  · refine ⟨.acceptEval params :: .startEval params :: s.trace, ?_⟩
    rw [heq, Service.accepted, hnone]

/-- Recording an event leaves the service stopped. -/
theorem Stopped.of_recordEvent (cfg : StandbyConfig) (p : Platform) (action : CommonEvent)
    (h : Stopped s) : Stopped (recordEvent cfg p action s) := by
  obtain ⟨_, _, _, hf⟩ := recordEvent_frame cfg p action s
  rw [hf]
  exact ⟨h.1, h.2, h.3, h.4, h.5, h.6⟩

/-- No event brings a process back that has ended. -/
theorem handleEvent_crashed (h : s.crashed = true) :
    (handleEvent cfg p message s).crashed = true := by
  by_contra hnot
  have halive := Bool.eq_false_iff.2 hnot
  unfold handleEvent at halive
  split at halive
  · rename_i action
    have hchain : Chain cfg { s with handler.queue := .commonEvent action :: s.handler.queue }
        (.dispatch p) (recordEvent cfg p action s) (handleCommonEvent cfg p action s) :=
      chain_handleCommonEvent rfl
    have hbefore := hchain.alive halive
    obtain ⟨_, _, _, hf⟩ := recordEvent_frame cfg p action s
    have hs : s.crashed = false := by
      rw [hf] at hbefore
      exact hbefore
    rw [h] at hs
    cases hs
  · rw [h] at halive
    cases halive

/-- An event tells the screen status that is recorded of it. -/
theorem screenAfter_commonEvent :
    (StandbyMessage.commonEvent action).screenAfter s.isScreenOn = screenOnAfter action s := by
  cases action <;> rfl

/-- Whether an event holds SLEEP does not depend on whether it has been recorded. -/
theorem entersHold_screenOnAfter :
    action.entersHold (screenOnAfter action s) = action.entersHold s.isScreenOn := by
  cases action <;> rfl

/-- What an event that does not hold the device asleep has written before it asks for DARK. -/
theorem Stopped.responded (cfg : StandbyConfig) (p : Platform) (h : Stopped s)
    (hnot : action.entersHold s.isScreenOn = false) :
    Undisturbed [.commonEvent action] s
      (respond cfg p action (recordEvent cfg p action s)) := by
  have hscreen := recordEvent_isScreenOn cfg p action s
  have hcontrol := recordEvent_scrOffHalfHourCtrl cfg p action s
  have hstopped := h.of_recordEvent cfg p action
  have hnone : action.entersHold (recordEvent cfg p action s).isScreenOn = false := by
    rw [hscreen, entersHold_screenOnAfter, hnot]
  obtain ⟨_, hrespond⟩ := hstopped.respond_eq cfg p hnone
  obtain ⟨_, _, _, hf⟩ := recordEvent_frame cfg p action s
  rw [hrespond]
  exact {
    stopped := ⟨hstopped.1, hstopped.2, hstopped.3, hstopped.4, hstopped.5, hstopped.6⟩
    isScreenOn := hscreen.trans screenAfter_commonEvent.symm
    isBlocked := by
      rw [hf]
      simp [StandbyMessage.wakes]
    isEvalution := by rw [hf]
    isEvaluation := by rw [hf]
    control := hcontrol
    crashed := by rw [hf]
    queue := by rw [hf] }

/-- A stopped service bears such a message. -/
theorem Stopped.undisturbed (cfg : StandbyConfig) (p : Platform) (h : Stopped s)
    (hborne : message.Borne s.isScreenOn s.isBlocked) :
    Undisturbed [message] s (handleEvent cfg p message s) := by
  have hother : handleEvent cfg p message s = s → (∀ action, message ≠ .commonEvent action) →
      Undisturbed [message] s (handleEvent cfg p message s) := fun heq hne => by
    rw [heq]
    cases message with
    | commonEvent action => exact absurd rfl (hne action)
    | _ => exact ⟨h, rfl, by simp [StandbyMessage.wakes], rfl, rfl, rfl, rfl, rfl⟩
  cases message with
  | commonEvent action =>
    obtain ⟨hhold, hdark⟩ := hborne action rfl
    have hresponded := h.responded cfg p hhold
    have hstill : handleCommonEvent cfg p action s =
        respond cfg p action (recordEvent cfg p action s) := by
      rw [handleCommonEvent_eq, tryEnterDark_eq]
      split_ifs with hasks
      · obtain ⟨hblocked, hwake⟩ := hdark.resolve_left
          (Bool.eq_false_iff.1 (hresponded.isScreenOn.symm.trans hasks.2))
        exact transitToDark_blocked hasks.1
          (by simp [hresponded.isBlocked, hblocked, StandbyMessage.wakes, hwake])
      · rfl
    rw [handleEvent, hstill]
    exact hresponded
  | _ => exact hother rfl (by simp)

/-- It does not bear another one. -/
theorem Stopped.spoiled (cfg : StandbyConfig) (p : Platform) (h : Stopped s)
    (hnot : ¬ message.Borne s.isScreenOn s.isBlocked) :
    Spoiled (handleEvent cfg p message s) := by
  obtain ⟨action, hnot⟩ := not_forall.1 hnot
  obtain ⟨rfl, hnot⟩ := Classical.not_imp.1 hnot
  rw [handleEvent, handleCommonEvent_eq, tryEnterDark_eq]
  cases hhold : action.entersHold s.isScreenOn with
  | true =>
    obtain ⟨hcrashed, hcur⟩ := (h.of_recordEvent cfg p action).respond_crashed cfg p
      (by rw [recordEvent_isScreenOn, entersHold_screenOnAfter, hhold])
    rw [if_neg fun hasks => by rw [hcur] at hasks; cases hasks.1]
    exact .inl hcrashed
  | false =>
    have hresponded := h.responded cfg p hhold
    obtain ⟨hscreen, hblocked⟩ := not_or.1 (not_and.1 hnot hhold)
    have hfree : (respond cfg p action
        (recordEvent cfg p action s)).isBlocked = false := by
      rw [hresponded.isBlocked]
      cases hb : s.isBlocked with
      | false => rfl
      | true =>
        have hwake : action.isWakeUp = true := by simpa using not_and.1 hblocked hb
        simp [StandbyMessage.wakes, hwake]
    rw [if_pos ⟨hresponded.stopped.working,
      by rw [hresponded.isScreenOn]; exact Bool.eq_false_iff.2 hscreen⟩,
      transitToDark_eq hresponded.stopped.working hfree]
    obtain ⟨_, hf⟩ := hresponded.stopped.startEvalCurrentState_eq cfg p chargeParams
    rw [hf]
    obtain ⟨h1, h2, h3, h4, -, h6⟩ := hresponded.stopped
    exact .inr ⟨⟨h1, h2, h3, h4, rfl, h6⟩, rfl⟩

/-- Nothing that the queue holds undoes it. -/
theorem Spoiled.of_handleEvent (cfg : StandbyConfig) (p : Platform) (message : StandbyMessage)
    (h : Spoiled s) : Spoiled (handleEvent cfg p message s) := by
  rcases h with hcrashed | ⟨hstopped, hev⟩
  · exact .inl (handleEvent_crashed hcrashed)
  · by_cases hborne : message.Borne s.isScreenOn s.isBlocked
    · have hbears := hstopped.undisturbed cfg p hborne
      exact .inr ⟨hbears.stopped, hbears.isEvalution.trans hev⟩
    · exact hstopped.spoiled cfg p hborne

/-! ## The messages one after another -/

/-- An empty queue is borne. -/
theorem borneInTurn_nil {isScreenOn isBlocked : Bool} : BorneInTurn isScreenOn isBlocked [] :=
  fun earlier _ _ heq => by simp at heq

/-- A queue is borne message by message, each with what the ones before it leave of the screen and
of the block. -/
theorem borneInTurn_cons {isScreenOn isBlocked : Bool} {messages : List StandbyMessage} :
    BorneInTurn isScreenOn isBlocked (message :: messages) ↔
      message.Borne isScreenOn isBlocked ∧
        BorneInTurn (message.screenAfter isScreenOn) (isBlocked && !message.wakes) messages := by
  constructor
  · intro h
    refine ⟨by simpa using h [] message messages rfl, fun earlier other later heq => ?_⟩
    simpa [Bool.and_assoc] using h (message :: earlier) other later (by rw [heq]; rfl)
  · rintro ⟨hhead, htail⟩ earlier other later heq
    cases earlier with
    | nil =>
      obtain ⟨rfl, -⟩ := List.cons.inj heq
      simpa using hhead
    | cons first earlier =>
      obtain ⟨rfl, hrest⟩ := List.cons.inj heq
      simpa [Bool.and_assoc] using htail earlier other later hrest

/-- No message disturbs nothing. -/
theorem Undisturbed.nil (h : Stopped s) : Undisturbed [] s s :=
  ⟨h, rfl, by simp, rfl, rfl, rfl, rfl, rfl⟩

/-- Messages that disturb nothing one after the other disturb nothing together. -/
theorem Undisturbed.trans {u : Service} {messages messages' : List StandbyMessage}
    (h : Undisturbed messages s t) (h' : Undisturbed messages' t u) :
    Undisturbed (messages ++ messages') s u where
  stopped := h'.stopped
  isScreenOn := by rw [h'.isScreenOn, h.isScreenOn, List.foldl_append]
  isBlocked := by rw [h'.isBlocked, h.isBlocked, List.any_append, Bool.not_or, Bool.and_assoc]
  isEvalution := h'.isEvalution.trans h.isEvalution
  isEvaluation := h'.isEvaluation.trans h.isEvaluation
  control := h'.control.trans h.control
  crashed := h'.crashed.trans h.crashed
  queue := h'.queue.trans h.queue

/-- The queue plays no part in what a stopped service bears. -/
theorem Undisturbed.of_queue {messages : List StandbyMessage} (queue : List StandbyMessage)
    (h : Undisturbed messages s t) :
    Undisturbed messages { s with handler.queue := queue } { t with handler.queue := queue } :=
  ⟨⟨h.stopped.1, h.stopped.2, h.stopped.3, h.stopped.4, h.stopped.5, h.stopped.6⟩, h.isScreenOn,
    h.isBlocked, h.isEvalution, h.isEvaluation, h.control, h.crashed, rfl⟩

/-! ## Stopping the service -/

/-- Waking up with the constraint manager idle leaves it and the process alone. -/
theorem transitToWorking_idle (cfg : StandbyConfig) (p : Platform)
    (hidle : s.constraintManager.isEvaluation = false) (halive : s.statesAlive = true) :
    (transitToWorking cfg p s).constraintManager = s.constraintManager ∧
      (transitToWorking cfg p s).crashed = s.crashed := by
  have hstop : stopEvalution s = { s with isEvalution := false } := by
    unfold stopEvalution
    split_ifs with hev
    · rw [ConstraintManagerAdapter.stopEvalution, if_pos (by rw [hidle]; decide)]
    · simp only [← Bool.eq_false_iff.2 hev]
  rw [transitToWorking_eq, hstop]
  obtain ⟨_, _, _, hlift⟩ := liftHalfHourCtrl_frame s
  obtain ⟨_, _, _, hlift'⟩ :=
    liftHalfHourCtrl_frame (unblockCurrentState { s with isEvalution := false })
  split_ifs
  · exact ⟨rfl, rfl⟩
  · rw [hlift]
    exact ⟨by simp, transitToStateInner_crashed halive⟩
  · rw [hlift']
    exact ⟨by simp [unblockCurrentState], transitToStateInner_crashed halive⟩

/-- What `UninitReadyState` leaves: the way to WORKING clears the block but from MAINTENANCE, and
stops the evaluation but in WORKING and from MAINTENANCE. -/
structure StoppedFrom (s t : Service) : Prop where
  stopped : Stopped t
  isScreenOn : t.isScreenOn = s.isScreenOn
  isBlocked : t.isBlocked = (s.isBlocked && s.curState == .maintenance)
  isEvalution :
    t.isEvalution = (s.isEvalution && (s.curState == .working || s.curState == .maintenance))
  isEvaluation : t.constraintManager.isEvaluation = false
  control : t.halfHour.scrOffHalfHourCtrl = false
  crashed : t.crashed = s.crashed
  posted : ∃ messages, t.handler.queue = s.handler.queue ++ messages

/-- The flags in WORKING, wherever the wake-up came from. -/
theorem transitToWorking_leaves (cfg : StandbyConfig) (p : Platform)
    (hlifted : s.curState = .working → s.halfHour.scrOffHalfHourCtrl = false) :
    (transitToWorking cfg p s).isBlocked = (s.isBlocked && s.curState == .maintenance) ∧
    (transitToWorking cfg p s).isEvalution =
      (s.isEvalution && (s.curState == .working || s.curState == .maintenance)) ∧
    (transitToWorking cfg p s).halfHour.scrOffHalfHourCtrl = false ∧
    (transitToWorking cfg p s).isScreenOn = s.isScreenOn := by
  by_cases hcur : s.curState = .working
  · rw [transitToWorking_eq, if_pos hcur]
    refine ⟨?_, ?_, hlifted hcur, rfl⟩ <;> simp [unblockCurrentState, hcur]
  · obtain ⟨hblocked, hev, hctrl, hscreen⟩ := transitToWorking_flags cfg p hcur
    refine ⟨hblocked, hev.trans ?_, hctrl, hscreen⟩
    rw [beq_false_of_ne hcur, Bool.false_or]

/-- `UninitReadyState` only adds to the queue. -/
theorem uninitReadyState_posted (cfg : StandbyConfig) (p : Platform) (s : Service) :
    Posted s (uninitReadyState cfg p s) := by
  have hchain : Chain cfg s (.uninitReadyState p) s (uninitReadyState cfg p s) :=
    chain_uninitReadyState rfl
  refine Lts.chain_invariant (I := Posted s) hchain (fun he hi => ?_) (.refl s)
  rcases he.posted with hpost | ⟨_, _, _, ha, -⟩
  · exact hi.trans hpost
  · cases ha

/-- `UninitReadyState` stops the service. -/
theorem uninitReadyState_stopped (cfg : StandbyConfig) (p : Platform) (hb : Basic s)
    (hready : s.isServiceReady = true)
    (hlifted : s.curState = .working → s.halfHour.scrOffHalfHourCtrl = false) :
    StoppedFrom s (uninitReadyState cfg p s) := by
  obtain ⟨messages, hposted, -⟩ := uninitReadyState_posted cfg p s
  have halive : s.statesAlive = true := hb.alive.trans hready
  obtain ⟨hmanager, hcrashed⟩ := transitToWorking_idle cfg p
    (s := ConstraintManagerAdapter.unInit s) rfl halive
  have hworking : (transitToWorking cfg p (ConstraintManagerAdapter.unInit s)).curState =
      .working := transitToWorking_curState
  obtain ⟨hblocked, hev, hctrl, hscreen⟩ := transitToWorking_leaves cfg p
    (s := ConstraintManagerAdapter.unInit s) hlifted
  have heq : uninitReadyState cfg p s =
      { StateManagerAdapter.resetStates cfg
          (transitToWorking cfg p (ConstraintManagerAdapter.unInit s)) with
        isServiceReady := false } := by
    simp only [uninitReadyState, hready, not_true_eq_false, if_false, StateManagerAdapter.unInit,
      transitToState_working]
  obtain ⟨_, _, hreset⟩ := StateManagerAdapter.resetStates_frame cfg
    (transitToWorking cfg p (ConstraintManagerAdapter.unInit s))
  rw [heq, hreset] at hposted ⊢
  exact {
    stopped := ⟨rfl, rfl, hworking, congrArg ConstraintManagerAdapter.constraintMap hmanager,
      congrArg ConstraintManagerAdapter.curMonitor hmanager,
      congrArg ConstraintManagerAdapter.hasStateManager hmanager⟩
    isScreenOn := hscreen
    isBlocked := hblocked
    isEvalution := hev
    isEvaluation := congrArg ConstraintManagerAdapter.isEvaluation hmanager
    control := hctrl
    crashed := hcrashed
    posted := ⟨messages, hposted⟩ }

end

end DeviceStandby
