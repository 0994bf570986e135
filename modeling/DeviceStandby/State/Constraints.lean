import DeviceStandby.State.Invariant

/-!
# The registered monitors

`ConstraintManagerAdapter` finds the monitor of a request by a hash of the request. Here is which
monitors are registered in every run, and that a request of a state other than WORKING never finds
the charge monitor: the hash packs the states and phases into separate bytes, and the phases stay
within their bounds.
-/

namespace DeviceStandby

/-- The parameter that a monitor of a kind registers under. -/
def MonitorKind.params : MonitorKind → ConstraintEvalParam
  | .charge => chargeParams
  | .motion => motionDetectParams
  | .repeatedMotion => repeatedMotionParams

/-- The phases fit into their bytes. -/
def ConstraintEvalParam.Bounded (params : ConstraintEvalParam) : Prop :=
  params.curPhase ≤ NapStatePhase.END ∧ params.nextPhase ≤ NapStatePhase.END + 1

/-- Requests with the same hash are the same. -/
theorem ConstraintEvalParam.getHashValue_inj {params params' : ConstraintEvalParam}
    (hb : params.Bounded) (hb' : params'.Bounded)
    (h : params.getHashValue = params'.getHashValue) : params = params' := by
  obtain ⟨hcur, hnext⟩ := hb
  obtain ⟨hcur', hnext'⟩ := hb'
  simp only [NapStatePhase.END] at hcur hnext hcur' hnext'
  have h1 := params.curState.toNat_le
  have h2 := params.nextState.toNat_le
  have h3 := params'.curState.toNat_le
  have h4 := params'.nextState.toNat_le
  obtain ⟨curState, curPhase, nextState, nextPhase, isRepeatedDetection⟩ := params
  obtain ⟨curState', curPhase', nextState', nextPhase', isRepeatedDetection'⟩ := params'
  simp only at *
  -- every field has its own bits
  have hfields : curState.toNat = curState'.toNat ∧ curPhase = curPhase' ∧
      nextState.toNat = nextState'.toNat ∧ nextPhase = nextPhase' ∧
      isRepeatedDetection = isRepeatedDetection' := by
    simp only [getHashValue] at h
    cases isRepeatedDetection <;> cases isRepeatedDetection' <;> simp at h ⊢ <;> omega
  obtain ⟨hcur, rfl, hnext, rfl, rfl⟩ := hfields
  rw [StandbyState.toNat_inj hcur, StandbyState.toNat_inj hnext]

theorem MonitorKind.bounded_params (kind : MonitorKind) : kind.params.Bounded := by
  cases kind <;> exact ⟨by decide, by decide⟩

section
variable {cfg : StandbyConfig} {s₀ : Service} {a : Action} {p : Platform} {s t : Service}

/-- The monitors that `Init` registers when none is registered: the charge monitor first, and all
under the hash of their own parameter. -/
theorem ConstraintManagerAdapter.init_spec (cfg : StandbyConfig) (p : Platform)
    (hmap : s.constraintManager.constraintMap = []) :
    let constraintManager := (ConstraintManagerAdapter.init cfg p s).constraintManager
    constraintManager.constraintMap.lookup chargeParams.getHashValue =
        some ⟨.charge, constraintManager.generation⟩ ∧
      ∀ entry ∈ constraintManager.constraintMap, entry.1 = entry.2.kind.params.getHashValue ∧
        entry.2.generation = constraintManager.generation := by
  simp only [ConstraintManagerAdapter.init, Monitor.init, hmap, Service.setMonitor,
    List.nil_append]
  split_ifs <;> simp [MonitorKind.params]

/-- What an effect can do to the registered monitors. -/
theorem Effect.constraints (he : Effect cfg s₀ a s t) :
    (t.constraintManager.constraintMap = s.constraintManager.constraintMap ∧
      t.constraintManager.hasStateManager = s.constraintManager.hasStateManager ∧
      t.constraintManager.generation = s.constraintManager.generation ∧
      (t.isServiceReady = s.isServiceReady ∨ (t.isServiceReady = false ∧
        s.constraintManager.constraintMap = [] ∧ ∃ p, a = .uninitReadyState p))) ∨
    (∃ p, a = .uninitReadyState p ∧ t = ConstraintManagerAdapter.unInit s) ∨
    (∃ p, s.isServiceReady = false ∧ t = initReadyState cfg p s) := by
  cases he with
  | @record _ action queue p =>
    obtain ⟨_, _, _, h⟩ := recordEvent_frame cfg p action { s with handler.queue := queue }
    rw [h]
    exact .inl ⟨rfl, rfl, rfl, .inl rfl⟩
  | block p =>
    obtain ⟨_, _, _, h⟩ := blockCurrentState_frame cfg p s
    rw [h]
    exact .inl ⟨rfl, rfl, rfl, .inl rfl⟩
  | stop =>
    obtain ⟨_, _, _, _, h⟩ := stopEvalution_frame (s := s)
    rw [h]
    exact .inl ⟨rfl, rfl, rfl, .inl rfl⟩
  | finish =>
    obtain ⟨_, _, _, h⟩ := finishEvalution_frame (s := s)
    rw [h]
    exact .inl ⟨rfl, rfl, rfl, .inl rfl⟩
  | halfHour c =>
    obtain ⟨_, _, _, h⟩ := onScreenOffHalfHourInner_frame (c := c) (r := false) (s := s)
    rw [h]
    exact .inl ⟨rfl, rfl, rfl, .inl rfl⟩
  | transit p =>
    simp
  | @napPhase _ evalResult =>
    obtain ⟨_, _, _, h⟩ := NapState.setPhaseTransitTask_frame evalResult s
    rw [h]
    exact .inl ⟨rfl, rfl, rfl, .inl rfl⟩
  | @sleepPhase p _ evalResult =>
    obtain ⟨_, _, _, _, h⟩ := SleepState.endEvalPhase_frame cfg p evalResult s
    rw [h]
    exact .inl ⟨rfl, rfl, rfl, .inl rfl⟩
  | @rebegin p =>
    obtain ⟨_, _, _, _, _, h⟩ := SleepState.beginState_frame cfg p (s.log .sleepRebegun)
    rw [h]
    exact .inl ⟨rfl, rfl, rfl, .inl rfl⟩
  | callback _ _ hne =>
    obtain ⟨_, h, -⟩ := runCallback_frame (s := { s with
      timeService.callbacks := s.timeService.callbacks.erase _ }) hne
    rw [h]
    exact .inl ⟨rfl, rfl, rfl, .inl rfl⟩
  | fire h =>
    obtain ⟨_, rfl⟩ := timerFire_frame h
    exact .inl ⟨rfl, rfl, rfl, .inl rfl⟩
  | @init p _ hready => exact .inr (.inr ⟨p, hready, rfl⟩)
  | @unInitConstraints p _ ha => exact .inr (.inl ⟨p, ha, rfl⟩)
  | @resetStates p _ ha _ hmap =>
    obtain ⟨_, _, h⟩ := StateManagerAdapter.resetStates_frame cfg s
    rw [h]
    exact .inl ⟨rfl, rfl, rfl, .inr ⟨rfl, hmap, p, ha⟩⟩
  | unblock | startRejected | startAccepted | startMotion | startSensor | startSensorFailed
  | setRepeated | runningLock | sleepFlag | holdTimers | skip | takeTask | stopDetection
  | takeHalfHour | sensorEvent | post | conditionChanged =>
    exact .inl ⟨rfl, rfl, rfl, .inl rfl⟩

/-- A task leaves the monitors of a ready service registered. -/
theorem Effect.constraintMap_of_task {task : Task} (he : Effect cfg s₀ (.runTask task p) s t)
    (hready : s.isServiceReady = true) : t.isServiceReady = true ∧
      t.constraintManager.constraintMap = s.constraintManager.constraintMap := by
  rcases he.constraints with ⟨hmap, -, -, hsame | ⟨-, -, p', hstop⟩⟩ | ⟨p', hstop, -⟩ |
    ⟨p', hnot, -⟩
  · exact ⟨hsame.trans hready, hmap⟩
  · cases hstop
  · cases hstop
  · rw [hready] at hnot
    cases hnot

/-- The monitors while the service runs: the charge monitor of the last `Init`, others of that
`Init`, each under the hash of its own parameter, and none while the service is not ready. -/
structure Registered (s : Service) : Prop where
  empty : s.isServiceReady = false → s.constraintManager.constraintMap = []
  hasStateManager : s.isServiceReady = true → s.constraintManager.hasStateManager = true
  charge : s.isServiceReady = true →
    s.constraintManager.constraintMap.lookup chargeParams.getHashValue =
      some ⟨.charge, s.constraintManager.generation⟩
  kinds : ∀ entry ∈ s.constraintManager.constraintMap,
    entry.1 = entry.2.kind.params.getHashValue ∧
      entry.2.generation = s.constraintManager.generation

/-- `Registered` is kept by an effect that does not stop the service; within `UninitReadyState` the
monitors are dropped first. -/
theorem Registered.effect (he : Effect cfg s₀ a s t)
    (h : Registered s ∨ (∃ p, a = .uninitReadyState p) ∧ s.constraintManager.constraintMap = []) :
    Registered t ∨ (∃ p, a = .uninitReadyState p) ∧ t.constraintManager.constraintMap = [] := by
  rcases he.constraints with ⟨hmap, hsm, hgen, hready⟩ | ⟨p, ha, rfl⟩ | ⟨p, hready, rfl⟩
  · rcases h with h | ⟨ha, h⟩
    · left
      have hr : t.isServiceReady = true → s.isServiceReady = true := fun hr => by
        rcases hready with hready | ⟨hready, -⟩
        · exact hready ▸ hr
        · rw [hready] at hr
          cases hr
      refine ⟨fun hnot => ?_, fun ht => ?_, fun ht => ?_, ?_⟩
      · rw [hmap]
        rcases hready with hready | ⟨-, hempty⟩
        · exact h.empty (hready ▸ hnot)
        · exact hempty.1
      · rw [hsm]
        exact h.hasStateManager (hr ht)
      · rw [hmap, hgen]
        exact h.charge (hr ht)
      · rw [hmap, hgen]
        exact h.kinds
    · exact .inr ⟨ha, hmap.trans h⟩
  · exact .inr ⟨⟨p, ha⟩, rfl⟩
  · left
    have hempty : s.constraintManager.constraintMap = [] := by
      rcases h with h | ⟨-, h⟩
      · exact h.empty hready
      · exact h
    obtain ⟨hcharge, hkinds⟩ := ConstraintManagerAdapter.init_spec
      (s := StateManagerAdapter.init cfg p s) cfg p (by
        rw [StateManagerAdapter.init_eq cfg p hready]
        exact hempty)
    obtain ⟨_, _, hframe⟩ :=
      ConstraintManagerAdapter.init_frame cfg p (StateManagerAdapter.init cfg p s)
    rw [initReadyState_eq cfg p hready]
    exact ⟨nofun, fun _ => by rw [hframe], fun _ => hcharge, hkinds⟩

/-- In every run. -/
theorem registered_reachable {ok : Service → Action → Prop}
    (h : Lts.ReachableUnder (system cfg) ok s) : Registered s := by
  have h0 : Registered {} := ⟨fun _ => rfl, nofun, nofun, nofun⟩
  refine h.invariant (I := Registered) h0 fun {s t a} hr _ hs hi => ?_
  rcases step_invariant (I := fun u => Registered u ∨ (∃ p, a = .uninitReadyState p) ∧
    u.constraintManager.constraintMap = []) (ownTasks_reachable hr) hs (.inl hi)
    (fun _ he _ hi => Registered.effect he hi) with h | ⟨⟨p, rfl⟩, hempty⟩
  · exact h
  · have hnot : t.isServiceReady = false := by
      obtain ⟨hact, -⟩ := (system_step_iff cfg).1 hs
      cases hact
      simp only [uninitReadyState]
      split_ifs with hready
      · rfl
      · simpa using hready
    refine ⟨fun _ => hempty, fun h => ?_, fun h => ?_, fun entry hm => ?_⟩
    · rw [hnot] at h
      cases h
    · rw [hnot] at h
      cases h
    · rw [hempty] at hm
      cases hm

/-- The phases of a request fit into their bytes. -/
theorem Request.bounded {params : ConstraintEvalParam} (h : Request cfg s₀ a s params)
    (hb : Basic s) : params.Bounded := by
  have hnap := hb.napPhase
  have hsleep := hb.sleepPhase
  simp only [NapStatePhase.END, SleepStatePhase.END] at hnap hsleep
  simp only [ConstraintEvalParam.Bounded, NapStatePhase.END]
  cases h with
  | enter =>
    dsimp only
    unfold Service.curInnerPhase
    split <;> omega
  | napPhase | sleepPhase | repeated => dsimp only; omega

/-- Outside of WORKING no request is one of WORKING. -/
theorem Request.curState_ne_working {params : ConstraintEvalParam}
    (h : Request cfg s₀ a s params) (hne : s.curState ≠ .working) : params.curState ≠ .working := by
  cases h with
  | enter => exact hne
  | napPhase | sleepPhase | repeated => nofun

/-- A request finds the monitor that was registered for it. -/
theorem Registered.lookup_params (h : Registered s) {params : ConstraintEvalParam} {m : Monitor}
    (hb : params.Bounded)
    (hm : s.constraintManager.constraintMap.lookup params.getHashValue = some m) :
    params = m.kind.params := by
  obtain ⟨l₁, l₂, hmap, -⟩ := List.lookup_eq_some_iff.1 hm
  obtain ⟨hhash, -⟩ := h.kinds (params.getHashValue, m) (by rw [hmap]; simp)
  exact params.getHashValue_inj hb m.kind.bounded_params hhash

/-- The request of a state other than WORKING does not find the charge monitor. -/
theorem Registered.lookup_kind (h : Registered s) {params : ConstraintEvalParam} {m : Monitor}
    (hb : params.Bounded) (hcur : params.curState ≠ .working)
    (hm : s.constraintManager.constraintMap.lookup params.getHashValue = some m) :
    m.kind ≠ .charge := fun hkind => by
  have hparams := h.lookup_params hb hm
  rw [hkind] at hparams
  exact hcur (congrArg ConstraintEvalParam.curState hparams)

/-- No monitor is registered for an advance of a phase. -/
theorem Registered.lookup_phase (h : Registered s) {state : StandbyState} {phase nextPhase : Nat}
    (hb : phase ≤ NapStatePhase.END) (hb' : nextPhase ≤ NapStatePhase.END + 1) :
    s.constraintManager.constraintMap.lookup
      (⟨state, phase, state, nextPhase, false⟩ : ConstraintEvalParam).getHashValue = none := by
  by_contra hne
  obtain ⟨m, hm⟩ := Option.ne_none_iff_exists'.1 hne
  have hparams := h.lookup_params ⟨hb, hb'⟩ hm
  cases hkind : m.kind <;> rw [hkind] at hparams <;> cases hparams

end

end DeviceStandby
