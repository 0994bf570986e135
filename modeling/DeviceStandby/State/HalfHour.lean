import DeviceStandby.State.Graph

/-!
# The half-hour control

Half an hour after the screen went off SLEEP restricts more. The control is set from a timer and at
the entry of SLEEP, and lifted on the ways out; one of these, `TransitWithMaint`, lifts it for
WORKING only. It is enough: from MAINTENANCE there is no way but to WORKING and back to the state
that opened the window (`halfHour_alternates`). The control is the parity of the messages sent so
far, and so they alternate.
-/

namespace DeviceStandby

open Relation

/-- The half-hour messages of a history, oldest first. -/
def halfHourStatuses : List Trace → List Bool
  | [] => []
  | .dispatched (.screenOffHalfHour status) :: rest => halfHourStatuses rest ++ [status]
  | _ :: rest => halfHourStatuses rest

/-- `true, false, true, …`, of a length. -/
def alternation (n : Nat) : List Bool :=
  (List.range n).map fun i => i % 2 == 0

/-- One message more is the other of the two. -/
theorem alternation_succ (n : Nat) : alternation (n + 1) = alternation n ++ [n % 2 == 0] := by
  simp [alternation, List.range_succ]

/-- The half-hour control may hold: in SLEEP, and in the maintenance window of SLEEP. -/
def Service.InSleep (s : Service) : Prop :=
  s.curState = .sleep ∨ s.curState = .maintenance ∧ s.preState = .sleep

/-- A write leaves the half-hour control alone, or turns it and reports it. -/
inductive Toggled (s t : Service) : Prop where
  | same (hctrl : t.halfHour.scrOffHalfHourCtrl = s.halfHour.scrOffHalfHourCtrl)
      (htrace : halfHourStatuses t.trace = halfHourStatuses s.trace)
  | turned (hctrl : t.halfHour.scrOffHalfHourCtrl = !s.halfHour.scrOffHalfHourCtrl)
      (htrace : halfHourStatuses t.trace =
        halfHourStatuses s.trace ++ [!s.halfHour.scrOffHalfHourCtrl])

/-- The control holds in SLEEP or its maintenance window only; the messages alternate, and the
control is their parity. -/
structure HalfHourControl (s : Service) : Prop where
  asleep : s.halfHour.scrOffHalfHourCtrl = true → s.InSleep
  alternates : ∃ n, halfHourStatuses s.trace = alternation n ∧
    s.halfHour.scrOffHalfHourCtrl = (n % 2 == 1)

section
variable {cfg : StandbyConfig} {s₀ : Service} {a : Action} {p : Platform} {s t : Service}
  {nextState : StandbyState}

/-- What touches neither the control nor the trace toggles nothing. -/
theorem Toggled.of_eq (hctrl : t.halfHour.scrOffHalfHourCtrl = s.halfHour.scrOffHalfHourCtrl)
    (htrace : t.trace = s.trace) : Toggled s t :=
  .same hctrl (by rw [htrace])

/-- A turn that starts from the control and the history of another state. -/
theorem Toggled.of_base {u : Service} (h : Toggled u t)
    (hctrl : u.halfHour.scrOffHalfHourCtrl = s.halfHour.scrOffHalfHourCtrl)
    (htrace : halfHourStatuses u.trace = halfHourStatuses s.trace) : Toggled s t := by
  cases h with
  | same hctrl' htrace' => exact .same (hctrl'.trans hctrl) (htrace'.trans htrace)
  | turned hctrl' htrace' =>
    rw [hctrl] at hctrl' htrace'
    rw [htrace] at htrace'
    exact .turned hctrl' htrace'

/-- Alternation goes on over a turn. -/
theorem HalfHourControl.toggled (h : HalfHourControl s) (htoggle : Toggled s t)
    (hasleep : t.halfHour.scrOffHalfHourCtrl = true → t.InSleep) : HalfHourControl t where
  asleep := hasleep
  alternates := by
    obtain ⟨n, htrace, hctrl⟩ := h.alternates
    cases htoggle with
    | same hctrl' htrace' => exact ⟨n, htrace'.trans htrace, hctrl'.trans hctrl⟩
    | turned hctrl' htrace' =>
      have hparity : (!(n % 2 == 1)) = (n % 2 == 0) ∧ (n % 2 == 0) = ((n + 1) % 2 == 1) := by
        rcases Nat.mod_two_eq_zero_or_one n with hn | hn
        · rw [Nat.add_mod, hn]
          decide
        · rw [Nat.add_mod, hn]
          decide
      rw [hctrl, hparity.1] at hctrl' htrace'
      refine ⟨n + 1, ?_, hctrl'.trans hparity.2⟩
      rw [htrace', htrace, alternation_succ]

/-- The control turns at most once, in SLEEP or its window, and reports it. It is never set while
the service is not ready, for then WORKING is current. -/
theorem toggled_onScreenOffHalfHourInner (scrOffHalfHourCtrl : Bool)
    (hnotReady : s.isServiceReady = false → s.curState = .working)
    (hasleep : s.halfHour.scrOffHalfHourCtrl = true → s.InSleep) :
    Toggled s (onScreenOffHalfHourInner scrOffHalfHourCtrl false s) ∧
      ((onScreenOffHalfHourInner scrOffHalfHourCtrl false s).halfHour.scrOffHalfHourCtrl = true →
        s.InSleep) := by
  unfold onScreenOffHalfHourInner
  split_ifs with hrefused hsame
  · exact ⟨.of_eq rfl rfl, hasleep⟩
  · exact ⟨.of_eq rfl rfl, hasleep⟩
  · have hturn : scrOffHalfHourCtrl = !s.halfHour.scrOffHalfHourCtrl := by
      have hne : s.halfHour.scrOffHalfHourCtrl ≠ scrOffHalfHourCtrl := by simpa using hsame
      revert hne
      cases scrOffHalfHourCtrl <;> cases s.halfHour.scrOffHalfHourCtrl <;> decide
    have hset : scrOffHalfHourCtrl = true → s.InSleep := fun hset => by
      by_contra hnot
      exact hrefused ⟨hset, fun h => hnot (h.imp_right And.symm)⟩
    have hin : s.InSleep := by
      cases hctrl : s.halfHour.scrOffHalfHourCtrl with
      | true => exact hasleep hctrl
      | false => exact hset (by rw [hturn, hctrl]; rfl)
    have hready : s.isServiceReady = true := by
      by_contra hnot
      have hwork := hnotReady (by simpa using hnot)
      rcases hin with hcur | ⟨hcur, -⟩ <;>
        · rw [hwork] at hcur
          cases hcur
    refine ⟨.turned hturn ?_, fun _ => hin⟩
    rw [dispatchEvent_trace, hready, if_pos rfl, ← hturn]
    rfl

/-- Beginning SLEEP turns the control at most once. -/
theorem SleepState.toggled_beginState (cfg : StandbyConfig) (p : Platform)
    (hcur : s.curState = .sleep) (hready : s.isServiceReady = true) :
    Toggled s (SleepState.beginState cfg p s) := by
  unfold SleepState.beginState SleepState.checkScrenOffHalfHour
  dsimp only
  split_ifs
  · exact .of_eq rfl rfl
  · exact .of_eq rfl rfl
  · have hnot : s.isServiceReady = false → s.curState = .working := fun h => by
      rw [hready] at h
      cases h
    refine Toggled.of_base (toggled_onScreenOffHalfHourInner true ?_ fun _ => .inl ?_).1 rfl rfl
    · exact hnot
    · exact hcur
  · exact .of_eq rfl rfl

/-- Beginning a state turns the control at most once. -/
theorem toggled_beginState (cfg : StandbyConfig) (p : Platform) (state : StandbyState)
    (hcur : s.curState = state) (hready : s.isServiceReady = true) :
    Toggled s (beginState cfg p state s) := by
  cases state with
  | working | maintenance => exact .of_eq rfl rfl
  | dark =>
    simp only [beginState, DarkState.beginState]
    split_ifs <;> exact .of_eq rfl rfl
  | nap =>
    obtain ⟨_, _, _, h⟩ := NapState.beginState_frame cfg p s
    rw [beginState, h]
    exact .of_eq rfl rfl
  | sleep => exact SleepState.toggled_beginState cfg p hcur hready

/-- Only SLEEP begins the control. -/
theorem beginState_halfHour (state : StandbyState) (hne : state ≠ .sleep) :
    (beginState cfg p state s).halfHour = s.halfHour := by
  cases state with
  | working | maintenance => rfl
  | dark =>
    simp only [beginState, DarkState.beginState]
    split_ifs <;> rfl
  | nap =>
    obtain ⟨_, _, _, h⟩ := NapState.beginState_frame cfg p s
    rw [beginState, h]
  | sleep => exact absurd rfl hne

/-- A transition turns the control at most once, and only at the entry of SLEEP. -/
theorem toggled_transit (hb : Basic s)
    (halive : (transitToStateInner cfg p nextState s).crashed = false) :
    Toggled s (transitToStateInner cfg p nextState s) ∧
      (nextState ≠ .sleep →
        (transitToStateInner cfg p nextState s).halfHour = s.halfHour) := by
  have hstates := (transitToStateInner_alive halive).2
  have hready : s.isServiceReady = true := hb.alive ▸ hstates
  obtain ⟨_, _, hrep⟩ := replaceState_frame cfg nextState s
  have hhalf : (transitToStateInner cfg p nextState s).halfHour =
      (beginState cfg p nextState (replaceState cfg nextState s)).halfHour := by
    rw [transitToStateInner_eq hstates]
    rfl
  have hstatuses : halfHourStatuses (transitToStateInner cfg p nextState s).trace =
      halfHourStatuses (beginState cfg p nextState (replaceState cfg nextState s)).trace := by
    rw [transitToStateInner_eq hstates]
    simp only [sendNotification, Service.releaseStandbyRunningLock, if_true, dispatchEvent_trace]
    split_ifs <;> rfl
  have hreplaced : (replaceState cfg nextState s).halfHour = s.halfHour ∧
      halfHourStatuses (replaceState cfg nextState s).trace = halfHourStatuses s.trace := by
    rw [hrep]
    exact ⟨rfl, rfl⟩
  refine ⟨?_, fun hne => ?_⟩
  · have hbegin := (toggled_beginState cfg p nextState (s := replaceState cfg nextState s)
      (by rw [hrep]) (by rw [hrep]; exact hready)).of_base
      (congrArg ScreenOffHalfHour.scrOffHalfHourCtrl hreplaced.1) hreplaced.2
    cases hbegin with
    | same hctrl htrace => exact .same (by rw [hhalf, hctrl]) (hstatuses.trans htrace)
    | turned hctrl htrace => exact .turned (by rw [hhalf, hctrl]) (hstatuses.trans htrace)
  · rw [hhalf, beginState_halfHour nextState hne, hreplaced.1]

/-- The control is lifted before WORKING is entered. -/
theorem Transition.lifted (h : Transition cfg s₀ a s .working) :
    s.halfHour.scrOffHalfHourCtrl = false := by
  generalize hn : StandbyState.working = nextState at h
  cases h with
  | exit _ _ _ _ _ _ _ hlifted => exact hlifted
  | maint _ _ _ _ _ hlifted => exact hlifted hn.symm
  | darkResult => exact absurd hn.symm darkNextState_ne_working
  | workingResult | napResult | hold => cases hn

/-- A transition keeps the control where it may hold. -/
theorem HalfHourControl.transit (h : HalfHourControl s) (hb₀ : Basic s₀) (hs₀ : Scheduled s₀)
    (hb : Basic s) (hg : Graph s) (htr : Transition cfg s₀ a s nextState)
    (halive : (transitToStateInner cfg p nextState s).crashed = false) :
    HalfHourControl (transitToStateInner cfg p nextState s) := by
  obtain ⟨htoggle, hsame⟩ := toggled_transit hb halive
  refine h.toggled htoggle fun hctrl => ?_
  by_cases hsleep : nextState = .sleep
  · exact .inl (by simp [hsleep])
  · rw [hsame hsleep] at hctrl
    -- the states that can be left with the control set
    have hin := h.asleep hctrl
    have hnotIn : ∀ {state}, s.curState = state → state ≠ .sleep → state ≠ .maintenance →
        False := by
      intro state hcur hne hne'
      rcases hin with hc | ⟨hc, -⟩
      · exact hne (hcur.symm.trans hc)
      · exact hne' (hcur.symm.trans hc)
    have hedge := htr.edge hb₀ hs₀ hg
    generalize hcur : s.curState = state at hedge
    cases hedge with
    | workingDark | darkNap | napMaintenance => exact (hnotIn hcur nofun nofun).elim
    | darkSleep | napSleep | maintenanceSleep | hold => exact absurd rfl hsleep
    | sleepMaintenance => exact .inr (by simp [hcur])
    | maintenanceNap hlast =>
      rw [hg.maint hcur] at hlast
      obtain hc | ⟨-, hpre⟩ := hin
      · rw [hcur] at hc
        cases hc
      · rw [hpre] at hlast
        cases hlast
    | wake =>
      rw [htr.lifted] at hctrl
      cases hctrl

/-- Recording an event notes when the screen went off, and leaves the control alone. -/
theorem recordEvent_scrOffHalfHourCtrl (cfg : StandbyConfig) (p : Platform) (action : CommonEvent)
    (s : Service) :
    (recordEvent cfg p action s).halfHour.scrOffHalfHourCtrl = s.halfHour.scrOffHalfHourCtrl := by
  unfold recordEvent handleScrOffHalfHour
  cases action <;> dsimp only [handleScreenStatus] <;> split_ifs <;> rfl

/-- What an effect does to the half-hour control. -/
inductive ControlChange (cfg : StandbyConfig) (s₀ : Service) (a : Action) (s : Service) :
    Service → Prop where
  | transit (p : Platform) {nextState : StandbyState} (htr : Transition cfg s₀ a s nextState) :
      ControlChange cfg s₀ a s (transitToStateInner cfg p nextState s)
  | report (scrOffHalfHourCtrl : Bool) :
      ControlChange cfg s₀ a s (onScreenOffHalfHourInner scrOffHalfHourCtrl false s)
  | rebegin (p : Platform) (hcur : s.curState = .sleep) :
      ControlChange cfg s₀ a s (SleepState.beginState cfg p (s.log .sleepRebegun))
  | init (p : Platform) (hready : s.isServiceReady = false) :
      ControlChange cfg s₀ a s (initReadyState cfg p s)
  /-- The effect leaves the control and the states that decide it alone. -/
  | still {t : Service} (hctrl : t.halfHour.scrOffHalfHourCtrl = s.halfHour.scrOffHalfHourCtrl)
      (htrace : halfHourStatuses t.trace = halfHourStatuses s.trace)
      (hcur : t.curState = s.curState) (hpre : t.preState = s.preState) :
      ControlChange cfg s₀ a s t

/-- What an effect does to the half-hour control. -/
theorem Effect.controlChange (he : Effect cfg s₀ a s t) : ControlChange cfg s₀ a s t := by
  cases he with
  | transit p htr => exact .transit p htr
  | halfHour c => exact .report c
  | @rebegin p _ ha hcur => exact .rebegin p hcur
  | @init p _ hready => exact .init p hready
  | @record _ action queue p =>
    have hctrl := recordEvent_scrOffHalfHourCtrl cfg p action { s with handler.queue := queue }
    obtain ⟨_, _, _, hf⟩ := recordEvent_frame cfg p action { s with handler.queue := queue }
    refine .still hctrl ?_ (by rw [hf]) (by rw [hf])
    rw [hf]
    rfl
  | block p =>
    obtain ⟨_, _, _, hf⟩ := blockCurrentState_frame cfg p s
    rw [hf]
    exact .still rfl rfl rfl rfl
  | stop =>
    obtain ⟨_, _, _, _, hf⟩ := stopEvalution_frame (s := s)
    rw [hf]
    exact .still rfl rfl rfl rfl
  | finish =>
    obtain ⟨_, _, _, hf⟩ := finishEvalution_frame (s := s)
    rw [hf]
    exact .still rfl rfl rfl rfl
  | @napPhase _ evalResult =>
    have htrace := NapState.setPhaseTransitTask_trace evalResult s
    obtain ⟨_, _, _, hf⟩ := NapState.setPhaseTransitTask_frame evalResult s
    refine .still (by rw [hf]) ?_ (by rw [hf]) (by rw [hf])
    rw [htrace]
    split_ifs <;> rfl
  | @sleepPhase p _ evalResult =>
    have htrace := SleepState.endEvalPhase_trace cfg p evalResult s
    obtain ⟨_, _, _, _, hf⟩ := SleepState.endEvalPhase_frame cfg p evalResult s
    refine .still (by rw [hf]) ?_ (by rw [hf]) (by rw [hf])
    rw [htrace]
    split_ifs <;> rfl
  | callback _ _ hne =>
    obtain ⟨_, hrun, -⟩ := runCallback_frame (s := { s with
      timeService.callbacks := s.timeService.callbacks.erase _ }) hne
    rw [hrun]
    exact .still rfl rfl rfl rfl
  | fire hfire =>
    obtain ⟨_, rfl⟩ := timerFire_frame hfire
    exact .still rfl rfl rfl rfl
  | @post _ message hext =>
    refine .still rfl ?_ rfl rfl
    rw [dispatchEvent_trace]
    split_ifs
    · cases message <;> first | rfl | cases hext
    · rfl
  | conditionChanged =>
    refine .still rfl ?_ rfl rfl
    rw [dispatchEvent_trace]
    split_ifs <;> rfl
  | resetStates =>
    obtain ⟨_, _, hf⟩ := StateManagerAdapter.resetStates_frame cfg s
    rw [hf]
    exact .still rfl rfl rfl rfl
  | unblock | startRejected | startAccepted | startMotion | startSensor | startSensorFailed
  | setRepeated | runningLock | sleepFlag | holdTimers | skip | takeTask | stopDetection
  | takeHalfHour | sensorEvent | unInitConstraints => exact .still rfl rfl rfl rfl

/-- An effect keeps `HalfHourControl`. -/
theorem HalfHourControl.effect (h : HalfHourControl s) (hb₀ : Basic s₀) (hs₀ : Scheduled s₀)
    (hb : Basic s) (hg : Graph s) (he : Effect cfg s₀ a s t) (halive : t.crashed = false) :
    HalfHourControl t := by
  cases he.controlChange with
  | transit p htr => exact h.transit hb₀ hs₀ hb hg htr halive
  | report c =>
    obtain ⟨htoggle, hin⟩ := toggled_onScreenOffHalfHourInner c hb.notReady h.asleep
    refine h.toggled htoggle fun hctrl => ?_
    simpa [Service.InSleep] using hin hctrl
  | rebegin p hcur =>
    obtain ⟨_, _, _, _, _, hf⟩ := SleepState.beginState_frame cfg p (s.log .sleepRebegun)
    have htoggle := SleepState.toggled_beginState cfg p (s := s.log .sleepRebegun) hcur
      (hb.ready (by rw [hcur]; nofun))
    refine h.toggled (htoggle.of_base rfl rfl) fun _ => .inl ?_
    rw [hf]
    exact hcur
  | init p hready =>
    obtain ⟨_, _, hf⟩ := initReadyState_frame cfg p hready
    refine h.toggled (.of_eq (by rw [hf]) (by rw [hf])) fun hctrl => ?_
    rw [hf] at hctrl
    rcases h.asleep hctrl with hc | ⟨hc, -⟩ <;>
      · rw [hb.notReady hready] at hc
        cases hc
  | still hctrl htrace hcur hpre =>
    refine h.toggled (.same hctrl htrace) fun hset => ?_
    rw [Service.InSleep, hcur, hpre]
    exact h.asleep (hctrl ▸ hset)

/-- An effect leaves the control off in WORKING: every way there lifts it. -/
theorem Effect.lifted_working (he : Effect cfg s₀ a s t) (hb : Basic s)
    (h : s.curState = .working → s.halfHour.scrOffHalfHourCtrl = false)
    (hcur : t.curState = .working) : t.halfHour.scrOffHalfHourCtrl = false := by
  cases he.controlChange with
  | @transit p nextState htr =>
    simp only [transitToStateInner_toStateManagerAdapter] at hcur
    subst hcur
    obtain ⟨_, _, hrep⟩ := replaceState_frame cfg .working s
    simp only [transitToStateInner, hrep]
    split_ifs <;> exact htr.lifted
  | report c =>
    have hworking : s.curState = .working := by simpa using hcur
    have hoff := h hworking
    unfold onScreenOffHalfHourInner
    split_ifs with hrefused hsame
    · exact hoff
    · exact hoff
    · -- only a report that lifts the control is not refused in WORKING
      refine Bool.eq_false_iff.2 fun hset => hrefused ⟨hset, ?_⟩
      simp [hworking]
  | rebegin p hsleep =>
    obtain ⟨_, _, _, _, _, hf⟩ := SleepState.beginState_frame cfg p (s.log .sleepRebegun)
    rw [hf] at hcur
    exact absurd (hcur.symm.trans hsleep) (by decide)
  | init p hready =>
    obtain ⟨_, _, hf⟩ := initReadyState_frame cfg p hready
    rw [hf]
    exact h (hb.notReady hready)
  | still hctrl _ hsame _ => exact hctrl.trans (h (hsame.symm.trans hcur))

/-- In every run the half-hour control is off while WORKING is current. -/
theorem working_lifted {ok : Service → Action → Prop}
    (h : Lts.ReachableUnder (system cfg) ok s) :
    s.curState = .working → s.halfHour.scrOffHalfHourCtrl = false := by
  refine (run_invariant (I := fun s => Basic s ∧
    (s.curState = .working → s.halfHour.scrOffHalfHourCtrl = false)) ⟨.init, fun _ => rfl⟩ ?_ h).2
  intro s₀ a s t _ _ _ _ he halive hi
  exact ⟨hi.1.effect he halive, he.lifted_working hi.1 hi.2⟩

end

end DeviceStandby
