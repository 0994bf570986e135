import DeviceStandby.State.History

/-!
# The messages in the queue

What the queue holds lags behind the state machine: a message is handled when the state may have
changed again. But the messages tell the whole story in order. Whoever follows the STATE_TRANSIT
messages that have been handled knows a state from which the queue leads to the current one
(`QueueFrom`), and meets the phases of SLEEP and the condition changes while that state is SLEEP.
-/

namespace DeviceStandby

/-- The messages of a part of the history, in the order they were posted. -/
def messagesOf : List Trace → List StandbyMessage
  | [] => []
  | .dispatched message :: rest => messagesOf rest ++ [message]
  | _ :: rest => messagesOf rest

/-- The messages lead their reader from one state to another. -/
def QueueFrom (seen : StandbyState) : List StandbyMessage → StandbyState → Prop
  | [], curState => seen = curState
  | message :: queue, curState =>
    message.FitsAt seen ∧ QueueFrom (message.after seen) queue curState

/-- Every message of the history since `s` has gone into the queue. -/
def Posted (s t : Service) : Prop :=
  ∃ messages, t.handler.queue = s.handler.queue ++ messages ∧
    messagesOf t.trace = messagesOf s.trace ++ messages

section
variable {cfg : StandbyConfig} {s₀ : Service} {a : Action} {p : Platform} {s t u : Service}
  {seen curState : StandbyState} {queue queue' : List StandbyMessage}

/-- The newer entries come first in a history, and their messages last. -/
@[simp] theorem messagesOf_append (entries trace : List Trace) :
    messagesOf (entries ++ trace) = messagesOf trace ++ messagesOf entries := by
  induction entries with
  | nil => simp [messagesOf]
  | cons entry entries ih => cases entry <;> simp [messagesOf, ih]

/-- A queue that leads to a state, and one that leads on from there, are one queue. -/
theorem QueueFrom.append (h : QueueFrom seen queue curState) {nextState : StandbyState}
    (h' : QueueFrom curState queue' nextState) : QueueFrom seen (queue ++ queue') nextState := by
  induction queue generalizing seen with
  | nil => exact (show seen = curState from h) ▸ h'
  | cons message queue ih => exact ⟨h.1, ih h.2⟩

/-- A message that reports nothing of the state machine may be read anywhere. -/
theorem StandbyMessage.fitsAt_of_isReport {message : StandbyMessage}
    (h : message.isReport = false) (seen : StandbyState) :
    message.FitsAt seen ∧ message.after seen = seen := by
  cases message <;> first | exact ⟨trivial, rfl⟩ | cases h

/-- Silent entries post messages that may be read anywhere. -/
theorem Silent.queueFrom {entries : List Trace} (h : Silent entries) (seen : StandbyState) :
    QueueFrom seen (messagesOf entries) seen := by
  induction entries with
  | nil => rfl
  | cons entry entries ih =>
    obtain ⟨message, rfl, hreport⟩ := h entry List.mem_cons_self
    obtain ⟨hfits, hafter⟩ := StandbyMessage.fitsAt_of_isReport hreport seen
    exact (ih fun e he => h e (List.mem_cons_of_mem _ he)).append ⟨hfits, hafter⟩

/-! ## What is posted goes into the queue -/

/-- Nothing need be posted. -/
theorem Posted.refl (s : Service) : Posted s s := ⟨[], by simp, by simp⟩

/-- Messages are posted one after the other. -/
theorem Posted.trans (h : Posted s t) (h' : Posted t u) : Posted s u := by
  obtain ⟨messages, hqueue, htrace⟩ := h
  obtain ⟨messages', hqueue', htrace'⟩ := h'
  exact ⟨messages ++ messages', by rw [hqueue', hqueue, List.append_assoc],
    by rw [htrace', htrace, List.append_assoc]⟩

/-- A step that leaves the queue, and adds no message to the history, posts nothing. -/
theorem Posted.of_eq (hqueue : t.handler.queue = s.handler.queue)
    (htrace : messagesOf t.trace = messagesOf s.trace) : Posted s t :=
  ⟨[], by rw [hqueue, List.append_nil], by rw [htrace, List.append_nil]⟩

/-- `DispatchEvent` puts its message at the end of the queue and into the history, or does neither
while the service is not ready. -/
theorem posted_dispatchEvent (message : StandbyMessage) (s : Service) :
    Posted s (s.dispatchEvent message) := by
  unfold Service.dispatchEvent
  split_ifs
  · exact ⟨[message], rfl, rfl⟩
  · exact .of_eq rfl rfl

/-- The half-hour control posts its message when it changes. -/
theorem posted_onScreenOffHalfHourInner (c r : Bool) (s : Service) :
    Posted s (onScreenOffHalfHourInner c r s) := by
  unfold onScreenOffHalfHourInner
  split_ifs
  · exact .refl s
  · exact .refl s
  · exact posted_dispatchEvent _ { s with halfHour.scrOffHalfHourCtrl := c }

/-- The beginning of SLEEP may post the message of the half-hour control, and no other. -/
theorem SleepState.posted_beginState (cfg : StandbyConfig) (p : Platform) (s : Service) :
    Posted s (SleepState.beginState cfg p s) := by
  unfold SleepState.beginState SleepState.checkScrenOffHalfHour
  dsimp only
  split_ifs
  · exact .of_eq rfl rfl
  · exact .of_eq rfl rfl
  · exact (Posted.of_eq (s := s) rfl rfl).trans (posted_onScreenOffHalfHourInner true false _)
  · exact .of_eq rfl rfl

/-- The beginning of any other state posts nothing. -/
theorem posted_beginState (cfg : StandbyConfig) (p : Platform) (state : StandbyState)
    (s : Service) : Posted s (beginState cfg p state s) := by
  cases state with
  | working | maintenance => exact .of_eq rfl rfl
  | dark =>
    simp only [beginState, DarkState.beginState]
    split_ifs <;> exact .of_eq rfl rfl
  | nap =>
    obtain ⟨_, _, _, h⟩ := NapState.beginState_frame cfg p s
    rw [beginState, h]
    exact .of_eq rfl rfl
  | sleep => exact SleepState.posted_beginState cfg p s

/-- `TransitToStateInner` posts what the new state posts when it begins, then its own message. -/
theorem posted_transitToStateInner (cfg : StandbyConfig) (p : Platform) (nextState : StandbyState)
    (s : Service) : Posted s (transitToStateInner cfg p nextState s) := by
  obtain ⟨_, _, hrep⟩ := replaceState_frame cfg nextState s
  have hreplace : Posted s (replaceState cfg nextState s) := by
    rw [hrep]
    exact .of_eq rfl rfl
  unfold transitToStateInner
  dsimp only
  split_ifs
  · exact (hreplace.trans (posted_beginState cfg p nextState _)).trans
      (posted_dispatchEvent _ _)
  · exact hreplace

/-- An effect takes a message from the queue, or posts what it adds to the history. -/
theorem Effect.posted (he : Effect cfg s₀ a s t) :
    Posted s t ∨ ∃ p message queue, a = .dispatch p ∧ s = s₀ ∧
      s₀.handler.queue = message :: queue ∧ Posted { s with handler.queue := queue } t := by
  cases he with
  | @record _ action queue p ha hqueue hs =>
    obtain ⟨_, _, _, h⟩ := recordEvent_frame cfg p action { s with handler.queue := queue }
    rw [h]
    exact .inr ⟨p, _, queue, ha, hs, hqueue, .of_eq rfl rfl⟩
  | @skip _ message queue p ha hqueue hs =>
    exact .inr ⟨p, message, queue, ha, hs, hqueue, .refl _⟩
  | block p =>
    obtain ⟨_, _, _, h⟩ := blockCurrentState_frame cfg p s
    rw [h]
    exact .inl (.of_eq rfl rfl)
  | stop =>
    obtain ⟨_, _, _, _, h⟩ := stopEvalution_frame (s := s)
    rw [h]
    exact .inl (.of_eq rfl rfl)
  | finish =>
    obtain ⟨_, _, _, h⟩ := finishEvalution_frame (s := s)
    rw [h]
    exact .inl (.of_eq rfl rfl)
  | halfHour c => exact .inl (posted_onScreenOffHalfHourInner c false s)
  | transit p => exact .inl (posted_transitToStateInner cfg p _ s)
  | @napPhase _ evalResult =>
    unfold NapState.setPhaseTransitTask
    left
    cases evalResult with
    | false =>
      dsimp only
      rw [if_neg Bool.false_ne_true]
      split_ifs <;> exact .of_eq rfl rfl
    | true =>
      dsimp only
      rw [if_pos rfl]
      have hpost := posted_dispatchEvent
        (.phaseTransit .nap s.napState.curPhase (s.napState.curPhase + 1)) s
      split_ifs <;> exact hpost.trans (.of_eq rfl rfl)
  | @sleepPhase p _ evalResult =>
    unfold SleepState.endEvalPhase
    left
    cases evalResult with
    | false =>
      obtain ⟨_, _, _, h⟩ := SleepState.setPhaseTransitOrRepeatedTask_frame cfg p s
      dsimp only
      rw [if_neg Bool.false_ne_true, h]
      exact .of_eq rfl rfl
    | true =>
      obtain ⟨_, _, _, h⟩ := SleepState.setPhaseTransitOrRepeatedTask_frame cfg p
        (transitToPhaseInner .sleep s.sleepState.curPhase (s.sleepState.curPhase + 1) s)
      dsimp only
      rw [if_pos rfl, h]
      exact (posted_dispatchEvent _ s).trans (.of_eq rfl rfl)
  | @rebegin p =>
    exact .inl ((Posted.of_eq (s := s) rfl rfl).trans
      (SleepState.posted_beginState cfg p (s.log .sleepRebegun)))
  | callback _ _ hne =>
    obtain ⟨_, h, -⟩ := runCallback_frame (s := { s with
      timeService.callbacks := s.timeService.callbacks.erase _ }) hne
    rw [h]
    exact .inl (.of_eq rfl rfl)
  | fire h =>
    obtain ⟨_, rfl⟩ := timerFire_frame h
    exact .inl (.of_eq rfl rfl)
  | post => exact .inl (posted_dispatchEvent _ s)
  | conditionChanged => exact .inl (posted_dispatchEvent _ s)
  | @init p _ hready =>
    obtain ⟨_, _, h⟩ := initReadyState_frame cfg p hready
    rw [h]
    exact .inl (.of_eq rfl rfl)
  | resetStates =>
    obtain ⟨_, _, h⟩ := StateManagerAdapter.resetStates_frame cfg s
    rw [h]
    exact .inl (.of_eq rfl rfl)
  | unblock | startRejected | startAccepted | startMotion | startSensor | startSensorFailed
  | setRepeated | runningLock | sleepFlag | holdTimers | takeTask | stopDetection | takeHalfHour
  | sensorEvent | unInitConstraints => exact .inl (.of_eq rfl rfl)

/-! ## The queue leads to the current state -/

/-- A transition posts a message that leads from the state before it to the new one, after messages
that may be read anywhere. -/
theorem Basic.transit_queueFrom (hb : Basic s) {nextState : StandbyState}
    (halive : (transitToStateInner cfg p nextState s).crashed = false) : ∃ messages,
    messagesOf (transitToStateInner cfg p nextState s).trace = messagesOf s.trace ++ messages ∧
      QueueFrom s.curState messages nextState := by
  obtain ⟨entries, hsilent, htrace⟩ := hb.transit_trace halive
  have hown : QueueFrom s.curState [.stateTransit s.curState nextState] nextState := ⟨rfl, rfl⟩
  refine ⟨_, ?_, (hsilent.queueFrom s.curState).append hown⟩
  rw [htrace]
  simp [messagesOf]

/-- What an effect adds to the history leads from the state before it to the state after it. -/
theorem Effect.queueFrom (he : Effect cfg s₀ a s t) (halive : t.crashed = false) (hb : Basic s) :
    ∃ messages, messagesOf t.trace = messagesOf s.trace ++ messages ∧
      QueueFrom s.curState messages t.curState := by
  rcases he.outcome.curState with ⟨hcur, -⟩ | ⟨p, nextState, -, rfl⟩ | ⟨p, hready, rfl⟩
  · obtain ⟨entries, htrace, hist⟩ := he.history halive
    cases hist with
    | transited _ ht =>
      subst ht
      simpa using hb.transit_queueFrom halive
    | silent h =>
      refine ⟨_, by rw [htrace, messagesOf_append], ?_⟩
      rw [hcur]
      exact h.queueFrom s.curState
    | rebegun _ _ _ _ _ _ h =>
      refine ⟨_, by rw [htrace, messagesOf_append, messagesOf_append], ?_⟩
      rw [hcur]
      exact h.queueFrom s.curState
    | condition condition hsleep =>
      refine ⟨_, by rw [htrace, messagesOf_append], ?_⟩
      rw [hcur]
      split_ifs
      · exact ⟨hsleep, rfl⟩
      · rfl
    | napPhase =>
      refine ⟨_, by rw [htrace, messagesOf_append], ?_⟩
      rw [hcur]
      split_ifs
      · exact ⟨trivial, rfl⟩
      · rfl
    | sleepPhase _ hsleep =>
      refine ⟨_, by rw [htrace, messagesOf_append], ?_⟩
      rw [hcur]
      split_ifs
      · exact ⟨hsleep, rfl⟩
      · rfl
    | handled | rejected | accepted | ended =>
      exact ⟨[], by rw [htrace]; simp [messagesOf], hcur.symm⟩
  · simpa using hb.transit_queueFrom halive
  · obtain ⟨_, _, hf⟩ := initReadyState_frame cfg p hready
    exact ⟨[], by rw [hf]; simp, by rw [hf]; exact hb.notReady hready⟩

/-- An effect that posts what it adds to the history keeps the queue leading to the current
state. -/
theorem QueueFrom.effect (he : Effect cfg s₀ a s t) (halive : t.crashed = false) (hb : Basic s)
    (hpost : Posted { s with handler.queue := queue } t) (h : QueueFrom seen queue s.curState) :
    QueueFrom seen t.handler.queue t.curState := by
  obtain ⟨messages, hqueue, htrace⟩ := hpost
  obtain ⟨messages', htrace', hfrom⟩ := he.queueFrom halive hb
  rw [htrace'] at htrace
  rw [hqueue, ← List.append_cancel_left htrace]
  exact h.append hfrom

/-- The effects of a step after the message has been taken. -/
theorem QueueFrom.chain (hc : Chain cfg s₀ a s t) (halive : t.crashed = false) (hb : Basic s)
    (hpopped : (∀ p, a ≠ .dispatch p) ∨ s₀.trace.length < s.trace.length)
    (h : QueueFrom seen s.handler.queue s.curState) :
    QueueFrom seen t.handler.queue t.curState := by
  have hall : Basic t ∧ ((∀ p, a ≠ .dispatch p) ∨ s₀.trace.length < t.trace.length) ∧
      QueueFrom seen t.handler.queue t.curState := by
    induction hc with
    | refl => exact ⟨hb, hpopped, h⟩
    | @tail u t _ he ih =>
      obtain ⟨hbu, hpop, hu⟩ := ih (he.outcome.crashed halive)
      obtain ⟨entries, htrace, -⟩ := he.history halive
      have hlen : u.trace.length ≤ t.trace.length := by
        rw [htrace, List.length_append]
        exact Nat.le_add_left _ _
      refine ⟨hbu.effect he halive, hpop.imp_right fun hlt => Nat.lt_of_lt_of_le hlt hlen, ?_⟩
      rcases he.posted with hpost | ⟨p, _, _, ha, hs, -⟩
      · exact hu.effect he halive hbu hpost
      · -- the history has grown since the message was taken
        rcases hpop with hpop | hpop
        · exact absurd ha (hpop p)
        · rw [hs] at hpop
          exact absurd hpop (Nat.lt_irrefl _)
  exact hall.2.2

/-- A step that handles no message keeps the reader's state. -/
theorem QueueFrom.step (hr : Lts.Reachable (system cfg) s) (hs : (system cfg).step s a = some t)
    (ha : ∀ p, a ≠ .dispatch p) (h : QueueFrom seen s.handler.queue s.curState) :
    QueueFrom seen t.handler.queue t.curState := by
  obtain ⟨hact, halive⟩ := (system_step_iff cfg).1 hs
  exact h.chain (chain_act (ownTasks_reachable hr) hact) halive (basic_reachable hr) (.inl ha)

/-- A step that handles a message finds that it may be read at the reader's state, and leaves the
reader at the state that it reports. -/
theorem QueueFrom.dispatch (hr : Lts.Reachable (system cfg) s)
    (hs : (system cfg).step s (.dispatch p) = some t)
    (h : QueueFrom seen s.handler.queue s.curState) :
    ∃ message queue, s.handler.queue = message :: queue ∧ message.FitsAt seen ∧
      QueueFrom (message.after seen) t.handler.queue t.curState := by
  obtain ⟨hact, halive⟩ := (system_step_iff cfg).1 hs
  have hb : Basic s := basic_reachable hr
  obtain ⟨message, queue, hqueue, rfl⟩ := act_dispatch hact
  rw [hqueue] at h
  obtain ⟨hfits, h⟩ := h
  refine ⟨message, queue, hqueue, hfits, ?_⟩
  unfold handleEvent at halive ⊢
  split at halive
  · rename_i action
    have hrec : Effect cfg s (.dispatch p) s
        (recordEvent cfg p action { s with handler.queue := queue }) := .record rfl hqueue rfl
    obtain ⟨_, _, _, hf⟩ := recordEvent_frame cfg p action { s with handler.queue := queue }
    have hc : Chain cfg s (.dispatch p) _ _ := chain_handleCommonEvent hqueue
    refine QueueFrom.chain hc halive (hb.effect hrec (Chain.alive hc halive)) (.inr ?_) ?_
    · rw [hf]
      exact Nat.lt_succ_self _
    · rw [hf]
      exact h
  · exact h

end

end DeviceStandby
