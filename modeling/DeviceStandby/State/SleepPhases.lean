import DeviceStandby.State.Constraints
import DeviceStandby.State.Graph

/-!
# The phases of SLEEP

`SleepState::BeginState` resumes when the previous state is MAINTENANCE, whoever opened that
window. A stay in SLEEP starts at an entry other than the return from SLEEP's own window, and lasts
until WORKING is entered or a user-sleep event begins SLEEP anew (`Stay`). In the runs whose steps
meet `KeepsPhases` the messages of a stay are the advances of its phases from the first one, in
order and without a gap (`sleep_phases_in_order`): the strategies may rely on the message (1, 2).
-/

namespace DeviceStandby

open Relation

/-! ## Stays in SLEEP -/

/-- An entry of the history that starts a stay: SLEEP begins anew, or is entered otherwise than from
a maintenance window that SLEEP opened. -/
inductive Entry (older : List Trace) : Trace → Prop where
  | rebegun : Entry older .sleepRebegun
  | transited {preState : StandbyState}
      (h : preState = .maintenance → lastTransited older ≠ some (.sleep, .maintenance)) :
      Entry older (.transited preState .sleep)

/-- What a history tells of a stay in SLEEP that is not over: all since its start. The stay has
started after `base`. -/
inductive Stay (base : List Trace) : List Trace → List Trace → Prop where
  | start {entry : Trace} {older : List Trace} (hbase : base <:+ older) (h : Entry older entry) :
      Stay base (entry :: older) []
  | later {entry : Trace} {trace newer : List Trace} (h : Stay base trace newer)
      (hrebegun : entry ≠ .sleepRebegun)
      (hworking : ∀ preState, entry ≠ .transited preState .working) :
      Stay base (entry :: trace) (entry :: newer)

/-- The messages that report phases of SLEEP, oldest first. -/
def sleepPhases : List Trace → List (Nat × Nat)
  | [] => []
  | .dispatched (.phaseTransit .sleep previousPhase currentPhase) :: rest =>
    sleepPhases rest ++ [(previousPhase, currentPhase)]
  | _ :: rest => sleepPhases rest

/-- The advances from the first phase of SLEEP to `phase`. -/
def advances (phase : Nat) : List (Nat × Nat) :=
  (List.range phase).map fun i => (i, i + 1)

/-- One phase more is one advance more. -/
theorem advances_succ (phase : Nat) :
    advances (phase + 1) = advances phase ++ [(phase, phase + 1)] := by
  simp [advances, List.range_succ]

/-- Fewer advances come first. -/
theorem advances_prefix {phase phase' : Nat} (h : phase ≤ phase') :
    advances phase <+: advances phase' := by
  induction h with
  | refl => exact List.prefix_rfl
  | step _ ih =>
    rw [advances_succ]
    exact ih.trans (List.prefix_append _ _)

/-- The entries that start a stay or report a phase of SLEEP. -/
def Trace.isSleepEvent : Trace → Bool
  | .transited _ .sleep | .sleepRebegun | .dispatched (.phaseTransit .sleep ..) => true
  | _ => false

/-- An entry of a stay is an event of SLEEP. -/
theorem Entry.isSleepEvent {older : List Trace} {entry : Trace} (h : Entry older entry) :
    entry.isSleepEvent = true := by
  cases h <;> rfl

/-- A stay of the longer history is one of the shorter, when no entry in between starts a stay, and
none reports a phase. -/
theorem Stay.of_append {base entries trace newer : List Trace}
    (hn : ∀ entry ∈ entries, entry.isSleepEvent = false) (h : Stay base (entries ++ trace) newer) :
    ∃ newer', Stay base trace newer' ∧ sleepPhases newer = sleepPhases newer' ∧
      ∀ entry ∈ entries, ∀ preState, entry ≠ .transited preState .working := by
  induction entries generalizing newer with
  | nil => exact ⟨newer, h, rfl, nofun⟩
  | cons entry entries ih =>
    have hentry := hn entry List.mem_cons_self
    cases h with
    | start _ hstart =>
      rw [hstart.isSleepEvent] at hentry
      cases hentry
    | later h _ hworking =>
      obtain ⟨newer', hs, hphases, hw⟩ := ih (fun e he => hn e (List.mem_cons_of_mem _ he)) h
      refine ⟨newer', hs, ?_, ?_⟩
      · rw [← hphases]
        cases entry with
        | dispatched message =>
          cases message with
          | phaseTransit state =>
            cases state with
            | sleep => cases hentry
            | _ => rfl
          | _ => rfl
        | _ => rfl
      · intro e he
        rcases List.mem_cons.1 he with rfl | he
        · exact hworking
        · exact hw e he

/-- A silent step has none. -/
theorem Silent.isSleepEvent {entries : List Trace} (h : Silent entries) :
    ∀ entry ∈ entries, entry.isSleepEvent = false := by
  intro entry hmem
  obtain ⟨message, rfl, hm⟩ := h entry hmem
  cases message <;> first | rfl | cases hm

/-- What every step must avoid. -/
structure KeepsPhases (cfg : StandbyConfig) (s : Service) (a : Action) : Prop where
  /-- No event holds the device asleep in a maintenance window of NAP. -/
  hold : ∀ action, Handles s a action → action.isHold = true →
    action = .enterForceSleep ∨ s.isScreenOn = false → s.curState = .maintenance →
      s.preState = .sleep
  /-- No user-sleep-false event comes after a maintenance window. -/
  rebegin : Handles s a (.userSleepStateChanged (some false)) → s.isScreenOn = false →
    s.curState = .sleep → s.preState ≠ .maintenance
  /-- No motion ends the evaluation of a phase. -/
  motion : ∀ p, a = .runTask .motionDetected p → s.isEvalution = true → s.curState = .sleep →
    s.sleepState.curPhase = SleepStatePhase.END
  /-- A maintenance window ends in the state that opened it, if a transition task ends it. -/
  transit : ∀ state p, a = .runTask (.transitNextState state) p → s.curState = .maintenance →
    nextStateOf cfg state s = .nap ∨ nextStateOf cfg state s = .sleep →
      nextStateOf cfg state s = s.preState

section
variable {cfg : StandbyConfig} {s₀ : Service} {a : Action} {p : Platform} {s t : Service}
  {nextState : StandbyState}

/-! ## What an effect does to SLEEP -/

/-- What an effect can do to SLEEP, its phase and its tasks. -/
inductive SleepChange (cfg : StandbyConfig) (s₀ : Service) (a : Action) (s t : Service) : Prop where
  | transit {p : Platform} {nextState : StandbyState} (htr : Transition cfg s₀ a s nextState)
      (ht : t = transitToStateInner cfg p nextState s)
  | rebegin {p : Platform} (ha : Handles s₀ a (.userSleepStateChanged (some false)))
      (hcur : s.curState = .sleep) (hsame : s.curState = s₀.curState)
      (hpre : s.preState = s₀.preState) (hscreen : s₀.isScreenOn = false)
      (ht : t = SleepState.beginState cfg p (s.log .sleepRebegun))
  | phase {p : Platform} {evalResult : Bool} (hans : Answer cfg s₀ a s evalResult)
      (hcur : s.curState = .sleep) (hphase : s.sleepState.curPhase < SleepStatePhase.END)
      (ht : t = SleepState.endEvalPhase cfg p evalResult s)
  | init (hready : s.isServiceReady = false) (htrace : t.trace = s.trace)
  | still {entries : List Trace} (htrace : t.trace = entries ++ s.trace)
      (hn : ∀ entry ∈ entries, entry.isSleepEvent = false) (hcur : t.curState = s.curState)
      (hpre : t.preState = s.preState)
      (hphase : t.sleepState.curPhase = s.sleepState.curPhase)
      (htasks : s = s₀ ∨ s.curState ≠ .sleep ∨ ∀ acquire,
        .transitToSleepPhase acquire ∈ s.handler.tasks →
          .transitToSleepPhase acquire ∈ t.handler.tasks)

/-- An addition to the history that is about SLEEP comes from one of the writes to SLEEP. -/
theorem History.sleepChange {entries : List Trace} (h : History cfg s₀ a s t entries) :
    (∀ entry ∈ entries, entry.isSleepEvent = false) ∨ SleepChange cfg s₀ a s t := by
  cases h with
  | transited htr ht => exact .inr (.transit htr ht)
  | rebegun ha hcur hsame hpre hscreen ht => exact .inr (.rebegin ha hcur hsame hpre hscreen ht)
  | sleepPhase hans hcur hphase ht => exact .inr (.phase hans hcur hphase ht)
  | silent h => exact .inl h.isSleepEvent
  | handled | rejected | accepted | ended =>
    left
    simp [Trace.isSleepEvent]
  | condition | napPhase =>
    left
    intro entry hmem
    rw [List.mem_singleton.1 (List.mem_ite_nil_right.1 hmem).2]
    rfl

/-- What an effect does to the phases of SLEEP. -/
theorem Effect.sleepChange (he : Effect cfg s₀ a s t) (halive : t.crashed = false) :
    SleepChange cfg s₀ a s t := by
  obtain ⟨entries, htrace, hist⟩ := he.history halive
  rcases hist.sleepChange with hn | h
  · -- the writes that leave SLEEP alone
    have hstill : t.curState = s.curState → t.preState = s.preState →
        t.sleepState.curPhase = s.sleepState.curPhase →
        (s = s₀ ∨ s.curState ≠ .sleep ∨ ∀ acquire, .transitToSleepPhase acquire ∈ s.handler.tasks →
          .transitToSleepPhase acquire ∈ t.handler.tasks) → SleepChange cfg s₀ a s t :=
      fun hcur hpre hphase htasks => .still htrace hn hcur hpre hphase htasks
    cases he with
    | transit p h => exact .transit h rfl
    | sleepPhase p hans hcur hphase => exact .phase hans hcur hphase rfl
    | rebegin ha hcur hsame hpre _ hscreen => exact .rebegin ha hcur hsame hpre hscreen rfl
    | @init p _ hready =>
      obtain ⟨_, _, hf⟩ := initReadyState_frame cfg p hready
      exact .init hready (by rw [hf])
    | record _ _ hs =>
      obtain ⟨_, _, _, hf⟩ := recordEvent_frame cfg _ _ { s with handler.queue := _ }
      rw [hf] at hstill ⊢
      exact hstill rfl rfl rfl (.inl hs)
    | @block p =>
      obtain ⟨_, _, _, hf⟩ := blockCurrentState_frame cfg p s
      rw [hf] at hstill ⊢
      exact hstill rfl rfl rfl (.inr (.inr fun _ h => h))
    | stop =>
      have htasks : ∀ acquire, .transitToSleepPhase acquire ∈ s.handler.tasks →
          .transitToSleepPhase acquire ∈ (stopEvalution s).handler.tasks :=
        fun _ h => mem_stopEvalution_of_ne nofun h
      obtain ⟨_, _, _, _, hf⟩ := stopEvalution_frame (s := s)
      exact hstill (by rw [hf]) (by rw [hf]) (by rw [hf]) (.inr (.inr htasks))
    | finish =>
      have htasks : ∀ acquire, .transitToSleepPhase acquire ∈ s.handler.tasks →
          .transitToSleepPhase acquire ∈ (finishEvalution s).handler.tasks :=
        fun _ h => mem_finishEvalution_of_ne nofun h
      obtain ⟨_, _, _, hf⟩ := finishEvalution_frame (s := s)
      exact hstill (by rw [hf]; rfl) (by rw [hf]; rfl) (by rw [hf]; rfl) (.inr (.inr htasks))
    | halfHour c =>
      obtain ⟨_, _, _, hf⟩ := onScreenOffHalfHourInner_frame (c := c) (r := false) (s := s)
      rw [hf] at hstill ⊢
      exact hstill rfl rfl rfl (.inr (.inr fun _ h => h))
    | @napPhase _ evalResult _ hcur =>
      obtain ⟨_, _, _, hf⟩ := NapState.setPhaseTransitTask_frame evalResult s
      rw [hf] at hstill ⊢
      exact hstill rfl rfl rfl (.inr (.inl (by rw [hcur]; nofun)))
    | takeTask _ _ hs => exact hstill rfl rfl rfl (.inl hs)
    | callback _ hs hne =>
      obtain ⟨_, hrun, -⟩ := runCallback_frame (s := { s with
        timeService.callbacks := s.timeService.callbacks.erase _ }) hne
      rw [hrun] at hstill ⊢
      exact hstill rfl rfl rfl (.inl hs)
    | fire hfire =>
      obtain ⟨_, rfl⟩ := timerFire_frame hfire
      exact hstill rfl rfl rfl (.inr (.inr fun _ h => h))
    | resetStates _ hcur =>
      obtain ⟨_, _, hf⟩ := StateManagerAdapter.resetStates_frame cfg s
      rw [hf] at hstill ⊢
      exact hstill rfl rfl rfl (.inr (.inl (by rw [hcur]; nofun)))
    | startMotion | startSensor | sensorEvent =>
      exact hstill rfl rfl rfl
        (.inr (.inr fun _ h => by simp [Service.postTask, Service.setMonitor, h]))
    | unblock | startRejected | startAccepted | startSensorFailed | setRepeated | runningLock
    | sleepFlag | holdTimers | skip | stopDetection | takeHalfHour | post | conditionChanged
    | unInitConstraints => exact hstill rfl rfl rfl (.inr (.inr fun _ h => h))
  · exact h

/-! ## Where results and transitions come from -/

/-- Outside of WORKING a result comes from a task, which has left the state alone so far. -/
theorem Answer.of_task {evalResult : Bool} (h : Answer cfg s₀ a s evalResult)
    (hne : s.curState ≠ .working) :
    s.curState = s₀.curState ∧ ∃ task p, a = .runTask task p := by
  cases h with
  | motion ha _ _ hsame => exact ⟨hsame.curState, _, _, ha⟩
  | atOnce hreq =>
    cases hreq with
    | enter hask _ _ hlt =>
      obtain ⟨_, _, ha, -, hsame, -⟩ :=
        hask.task_inv hne (by rintro rfl; exact Nat.not_lt_zero _ hlt)
      exact ⟨hsame.curState, _, _, ha⟩
    | napPhase ha _ hsame => exact ⟨hsame.curState, _, _, ha⟩
    | sleepPhase ha _ hsame => exact ⟨hsame.curState, _, _, ha⟩
    | repeated ha _ hsame => exact ⟨hsame.curState, _, _, ha⟩

/-- The result of a phase of SLEEP is `true`: no request of SLEEP finds the charge monitor. -/
theorem Answer.sleep_true {evalResult : Bool} (hok : KeepsPhases cfg s₀ a) (hb : Basic s)
    (hreg : Registered s ∨ (∃ p, a = .uninitReadyState p) ∧ s.constraintManager.constraintMap = [])
    (h : Answer cfg s₀ a s evalResult) (hcur : s.curState = .sleep)
    (hphase : s.sleepState.curPhase < SleepStatePhase.END) : evalResult = true := by
  obtain ⟨hcur₀, task, p, ha⟩ := h.of_task (by rw [hcur]; decide)
  have hreg : Registered s := by
    rcases hreg with h | ⟨⟨p', ha'⟩, -⟩
    · exact h
    · rw [ha] at ha'
      cases ha'
  cases evalResult with
  | true => rfl
  | false =>
    cases h with
    | motion ha' htask hev hsame =>
      rw [if_neg Bool.false_ne_true] at htask
      subst htask
      have hend := hok.motion _ ha' hev (hcur₀ ▸ hcur)
      rw [hsame.sleepPhase, hend] at hphase
      exact absurd hphase (Nat.lt_irrefl _)
    | atOnce hreq hfalse =>
      obtain ⟨m, hlookup, hkind⟩ := hfalse rfl
      exact absurd hkind (hreg.lookup_kind (hreq.bounded hb)
        (hreq.curState_ne_working (by rw [hcur]; nofun)) hlookup)

/-- SLEEP is entered from another state, and in a maintenance window only from SLEEP's own. -/
theorem Transition.to_sleep (hok : KeepsPhases cfg s₀ a) (h : Transition cfg s₀ a s nextState)
    (hnext : nextState = .sleep) :
    s₀.curState ≠ .sleep ∧ (s.curState = .maintenance → s.preState = .sleep) := by
  cases h with
  | exit _ _ _ hlt =>
    rw [hnext] at hlt
    exact absurd hlt (Nat.not_lt.2 (StandbyState.toNat_le _))
  | maint hask hne =>
    cases hask with
    | wake | dark => cases hnext
    | @task state p ha hmem hsame =>
      rw [hnext, hsame.curState] at hne
      refine ⟨hne, fun hm => ?_⟩
      rw [hsame.preState, ← hok.transit state p ha (hsame.curState ▸ hm) (.inr hnext), hnext]
  | workingResult => cases hnext
  | darkResult hans hcur | napResult hans hcur =>
    rw [← (hans.of_task (by rw [hcur]; decide)).1, hcur]
    exact ⟨nofun, nofun⟩
  | hold ha hhold _ hcur hsame hpre _ hscreen =>
    refine ⟨hsame ▸ hcur, fun hm => ?_⟩
    rw [hpre]
    exact hok.hold _ ha hhold hscreen (hsame ▸ hm)

/-- SLEEP is left for WORKING, or by a task for its maintenance window. -/
theorem Transition.of_sleep (hb₀ : Basic s₀) (ht₀ : Timed cfg s₀)
    (h : Transition cfg s₀ a s nextState) (hcur : s.curState = .sleep)
    (hwork : nextState ≠ .working) :
    nextState = .maintenance ∧ s₀.curState = .sleep ∧ ∃ task p, a = .runTask task p := by
  have hcurwork : s.curState ≠ .working := by
    rw [hcur]
    decide
  cases h with
  | exit hask _ hnm hlt hvalid =>
    obtain ⟨state, p, -, hmem, -, hn⟩ := hask.task_inv hcurwork hwork
    -- the tasks ask for no DARK, and NAP is not valid
    have hdark := ht₀.nextStateOf hb₀ hmem
    rw [hcur] at hlt hvalid
    cases nextState with
    | working => exact absurd rfl hwork
    | dark => exact absurd hn.symm hdark
    | nap => cases hvalid
    | maintenance => exact absurd rfl hnm
    | sleep => exact absurd hlt (Nat.lt_irrefl _)
  | maint hask hne hmaint =>
    obtain ⟨state, p, ha, -, hsame, -⟩ := hask.task_inv hcurwork hwork
    refine ⟨hmaint.resolve_right ?_, hsame.curState ▸ hcur, _, _, ha⟩
    rw [hcur]
    decide
  | workingResult _ h | darkResult _ h | napResult _ h =>
    rw [hcur] at h
    cases h
  | hold _ _ _ hne => exact absurd hcur hne

/-- SLEEP's maintenance window is left for WORKING or SLEEP. -/
theorem Transition.of_sleepMaintenance (hok : KeepsPhases cfg s₀ a) (hb₀ : Basic s₀)
    (ht₀ : Timed cfg s₀) (h : Transition cfg s₀ a s nextState) (hcur : s.curState = .maintenance)
    (hpre : s.preState = .sleep) (hwork : nextState ≠ .working) : nextState = .sleep := by
  cases h with
  | exit _ hm => exact absurd hcur hm
  | maint hask hne =>
    obtain ⟨state, p, ha, hmem, hsame, hn⟩ :=
      hask.task_inv (by rw [hcur]; decide) hwork
    have hdark := ht₀.nextStateOf hb₀ hmem
    have hreturn := hok.transit state p ha (hsame.curState ▸ hcur)
    rw [← hsame.preState, hpre, ← hn] at hreturn
    cases nextState with
    | working => exact absurd rfl hwork
    | dark => exact absurd hn.symm hdark
    | nap => exact hreturn (.inl rfl)
    | maintenance => exact absurd hcur hne
    | sleep => rfl
  | workingResult _ h | darkResult _ h | napResult _ h => exact absurd (hcur.symm.trans h) nofun
  | hold => rfl

/-! ## The invariant of a stay -/

/-- A stay that is not over is in SLEEP or in its maintenance window, and its messages lead from the
first phase to the current one. -/
structure Phased (s : Service) : Prop where
  maint : MaintEntered s
  stay : ∀ newer, Stay [] s.trace newer →
    (s.curState = .sleep ∨ s.curState = .maintenance ∧ s.preState = .sleep) ∧
      sleepPhases newer = advances s.sleepState.curPhase

/-- The messages of a transition are not about phases. -/
theorem Stay.of_transit {base newer entries trace : List Trace} {preState curState : StandbyState}
    (hsilent : Silent entries)
    (h : Stay base (.dispatched (.stateTransit preState curState) :: (entries ++ trace)) newer) :
    ∃ newer', Stay base trace newer' ∧ sleepPhases newer = sleepPhases newer' := by
  have hn : ∀ entry ∈ .dispatched (.stateTransit preState curState) :: entries,
      entry.isSleepEvent = false := by
    intro entry hmem
    rcases List.mem_cons.1 hmem with rfl | hmem
    · rfl
    · exact hsilent.isSleepEvent entry hmem
  obtain ⟨newer', hs, hphases, -⟩ := Stay.of_append hn h
  exact ⟨newer', hs, hphases⟩

/-- An effect keeps `Phased`. -/
theorem Phased.effect (hok : KeepsPhases cfg s₀ a) (hb₀ : Basic s₀) (ht₀ : Timed cfg s₀)
    (hreg : Registered s ∨ (∃ p, a = .uninitReadyState p) ∧ s.constraintManager.constraintMap = [])
    (he : Effect cfg s₀ a s t) (halive : t.crashed = false) (hb : Basic s) (h : Phased s) :
    Phased t where
  maint := h.maint.effect he halive hb
  stay newer hs := by
    cases he.sleepChange halive with
    | @transit p nextState htr ht =>
      subst ht
      obtain ⟨entries, hsilent, htrace⟩ := hb.transit_trace halive
      have hphase := @transit_sleepPhase cfg p s nextState (transitToStateInner_alive halive).2
      rw [htrace] at hs
      obtain ⟨newer', hs, hphases⟩ := hs.of_transit hsilent
      rw [hphases, hphase]
      cases hs with
      | start _ hentry =>
        cases hentry with
        | transited hne =>
          have hm : s.curState ≠ .maintenance := fun hm => by
            have hlast := h.maint hm
            rw [(htr.to_sleep hok rfl).2 hm] at hlast
            exact hne hm hlast
          rw [if_pos ⟨rfl, hm⟩]
          exact ⟨.inl (by simp), rfl⟩
      | later hs _ hworking =>
        have hwork : nextState ≠ .working := fun h => hworking s.curState (by rw [h])
        obtain ⟨hcur, hphases'⟩ := h.stay _ hs
        rcases hcur with hcur | ⟨hcur, hpre⟩
        · obtain ⟨rfl, -⟩ := htr.of_sleep hb₀ ht₀ hcur hwork
          rw [if_neg (by simp)]
          exact ⟨.inr ⟨by simp, by simpa using hcur⟩, hphases'⟩
        · obtain rfl := htr.of_sleepMaintenance hok hb₀ ht₀ hcur hpre hwork
          rw [if_neg (by simp [hcur])]
          exact ⟨.inl (by simp), hphases'⟩
    | @rebegin p ha hcur hsame hpre hscreen ht =>
      obtain ⟨entries, hsilent, htrace⟩ := SleepState.beginState_trace cfg p (s.log .sleepRebegun)
      have hm : s.preState ≠ .maintenance := by
        rw [hpre]
        exact hok.rebegin ha hscreen (hsame ▸ hcur)
      have hphase := (SleepState.beginState_sleepState cfg p (s.log .sleepRebegun)).1
      obtain ⟨_, _, _, _, _, hf⟩ := SleepState.beginState_frame cfg p (s.log .sleepRebegun)
      rw [ht, htrace] at hs
      obtain ⟨newer', hs, hphases, -⟩ := Stay.of_append hsilent.isSleepEvent hs
      cases hs with
      | start =>
        have hpre : (s.log .sleepRebegun).preState ≠ .maintenance := hm
        rw [hphases, ht, hphase, if_neg hpre]
        exact ⟨.inl (by rw [hf]; exact hcur), rfl⟩
      | later _ hrebegun => exact absurd rfl hrebegun
    | @phase p evalResult hans hcur hlt ht =>
      have hready := hb.ready (by rw [hcur]; decide)
      obtain rfl := hans.sleep_true hok hb hreg hcur hlt
      rw [ht, SleepState.endEvalPhase_trace, if_pos ⟨rfl, hready⟩] at hs
      obtain ⟨_, _, _, _, hf⟩ := SleepState.endEvalPhase_frame cfg p true s
      cases hs with
      | start _ hentry => cases hentry
      | later hs =>
        rw [ht, hf]
        refine ⟨.inl hcur, ?_⟩
        rw [sleepPhases, (h.stay _ hs).2]
        exact (advances_succ _).symm
    | init hready htrace =>
      rw [htrace] at hs
      have hw := hb.notReady hready
      rcases (h.stay _ hs).1 with hcur | ⟨hcur, -⟩ <;>
        · rw [hw] at hcur
          cases hcur
    | still htrace hn hcur hpre hphase =>
      rw [htrace] at hs
      obtain ⟨newer', hs, hphases, -⟩ := Stay.of_append hn hs
      rw [hcur, hpre, hphase, hphases]
      exact h.stay _ hs

/-! ## The step that starts a stay -/

/-- A stay adds to the trace. -/
theorem Stay.length {base trace newer : List Trace} (h : Stay base trace newer) :
    base.length < trace.length := by
  induction h with
  | start hbase =>
    have := hbase.length_le
    simp only [List.length_cons]
    omega
  | later _ _ _ ih =>
    simp only [List.length_cons]
    omega

/-- Entering SLEEP otherwise than from MAINTENANCE posts the task of its first phase. -/
theorem transit_sleepTask (hstates : s.statesAlive = true) (hm : s.curState ≠ .maintenance) :
    .transitToSleepPhase true ∈ (transitToStateInner cfg p .sleep s).handler.tasks := by
  obtain ⟨_, _, hrep⟩ := replaceState_frame cfg .sleep s
  rw [transitToStateInner_eq hstates]
  refine (SleepState.beginState_sleepState cfg p (replaceState cfg .sleep s)).2 ?_
  rw [hrep]
  exact hm

/-- When a stay has started in this step, SLEEP is in its first phase and the task that advances it
is pending. -/
structure Started (s₀ : Service) (a : Action) (s : Service) : Prop where
  curState : s.curState = .sleep
  curPhase : s.sleepState.curPhase = SleepStatePhase.SYS_RES_DEEP
  task : .transitToSleepPhase true ∈ s.handler.tasks
  other : s₀.curState ≠ .sleep ∨ ∃ p, a = .dispatch p

/-- Nothing in the rest of the step undoes the start of a stay. -/
theorem started_effect (hok : KeepsPhases cfg s₀ a) (hb₀ : Basic s₀) (ht₀ : Timed cfg s₀)
    (he : Effect cfg s₀ a s t) (halive : t.crashed = false) (hb : Basic s) (hm : MaintEntered s)
    (h : ∀ newer, Stay s₀.trace s.trace newer → Started s₀ a s) :
    ∀ newer, Stay s₀.trace t.trace newer → Started s₀ a t := by
  -- a task that finds SLEEP current finds it from the beginning of its step on
  have hnot : Started s₀ a s → s₀.curState = .sleep → (∃ task p, a = .runTask task p) → False := by
    intro hst hcur htask
    rcases hst.other with hne | ⟨p, ha⟩
    · exact hne hcur
    · obtain ⟨_, _, ha'⟩ := htask
      rw [ha] at ha'
      cases ha'
  intro newer hs
  cases he.sleepChange halive with
  | @transit p nextState htr ht =>
    subst ht
    obtain ⟨entries, hsilent, htrace⟩ := hb.transit_trace halive
    have hstates := (transitToStateInner_alive halive).2
    rw [htrace] at hs
    obtain ⟨newer', hs, -⟩ := hs.of_transit hsilent
    cases hs with
    | start _ hentry =>
      cases hentry with
      | transited hne =>
        obtain ⟨hcur₀, hpre⟩ := htr.to_sleep hok rfl
        have hmaint : s.curState ≠ .maintenance := fun hcur => by
          have hlast := hm hcur
          rw [hpre hcur] at hlast
          exact hne hcur hlast
        refine ⟨by simp, ?_, transit_sleepTask hstates hmaint, .inl hcur₀⟩
        rw [transit_sleepPhase hstates, if_pos ⟨rfl, hmaint⟩]
    | later hs _ hworking =>
      have hst := h _ hs
      obtain ⟨-, hcur, htask⟩ := htr.of_sleep hb₀ ht₀ hst.curState
        fun hw => hworking s.curState (by rw [hw])
      exact (hnot hst hcur htask).elim
  | @rebegin p ha hcur hsame hpre hscreen ht =>
    have hpre' : (s.log .sleepRebegun).preState ≠ .maintenance := by
      show s.preState ≠ .maintenance
      rw [hpre]
      exact hok.rebegin ha hscreen (hsame ▸ hcur)
    obtain ⟨hphase, htask⟩ := SleepState.beginState_sleepState cfg p (s.log .sleepRebegun)
    obtain ⟨_, _, _, _, _, hf⟩ := SleepState.beginState_frame cfg p (s.log .sleepRebegun)
    obtain ⟨p', ha, -⟩ := ha
    rw [ht]
    refine ⟨by rw [hf]; exact hcur, ?_, htask hpre', .inr ⟨p', ha⟩⟩
    rw [hphase, if_neg hpre']
  | @phase p evalResult hans hcur _ ht =>
    have hstart : ∃ newer', Stay s₀.trace s.trace newer' := by
      rw [ht, SleepState.endEvalPhase_trace] at hs
      split_ifs at hs
      · cases hs with
        | start _ hentry => cases hentry
        | later hs => exact ⟨_, hs⟩
      · exact ⟨_, hs⟩
    obtain ⟨newer', hs⟩ := hstart
    obtain ⟨hcur', htask⟩ := hans.of_task (by rw [hcur]; decide)
    exact (hnot (h _ hs) (hcur' ▸ hcur) htask).elim
  | init hready htrace =>
    rw [htrace] at hs
    have hcur := (h _ hs).curState
    rw [hb.notReady hready] at hcur
    cases hcur
  | still htrace hn hcur _ hphase htasks =>
    rw [htrace] at hs
    obtain ⟨newer', hs, -⟩ := hs.of_append hn
    have hst := h _ hs
    refine ⟨hcur.trans hst.curState, hphase.trans hst.curPhase, ?_, hst.other⟩
    rcases htasks with hsame | hne | htasks
    · rw [hsame] at hs
      exact absurd hs.length (Nat.lt_irrefl _)
    · exact absurd hst.curState hne
    · exact htasks true hst.task

/-! ## Runs -/

/-- The messages of a stay that is not over are the advances of SLEEP's phases, in order. -/
def PhasesInOrder (s : Service) : Prop :=
  ∀ newer, Stay [] s.trace newer → sleepPhases newer <+: [(0, 1), (1, 2), (2, 3)]

/-- A step from `s` to `t` that starts a stay leaves SLEEP in its first phase, with the task pending
that advances it. -/
def StartsInFirstPhase (s t : Service) : Prop :=
  ∀ newer, Stay s.trace t.trace newer → t.curState = .sleep ∧
    t.sleepState.curPhase = SleepStatePhase.SYS_RES_DEEP ∧
    .transitToSleepPhase true ∈ t.handler.tasks

/-- In every run whose steps meet `KeepsPhases`, the messages of every stay in SLEEP are the
advances of its phases in order, and every stay starts in the first phase. -/
theorem sleep_phases_in_order (h : Lts.ReachableUnder (system cfg) (KeepsPhases cfg) s) :
    PhasesInOrder s ∧ ∀ a t, KeepsPhases cfg s a → (system cfg).step s a = some t →
      StartsInFirstPhase s t := by
  have hinv : Basic s ∧ Phased s := by
    have h0 : Phased {} := ⟨nofun, fun _ hs => nomatch hs⟩
    refine run_invariant (I := fun s => Basic s ∧ Phased s) ⟨.init, h0⟩ ?_ h
    intro s₀ a s t hr hok hi₀ hc he halive hi
    have hreg : Registered s ∨
        (∃ p, a = .uninitReadyState p) ∧ s.constraintManager.constraintMap = [] :=
      Lts.chain_invariant (I := fun s => Registered s ∨
        (∃ p, a = .uninitReadyState p) ∧ s.constraintManager.constraintMap = []) hc
        Registered.effect (.inl (registered_reachable hr))
    exact ⟨hi.1.effect he halive,
      hi.2.effect hok hi₀.1 (timed_reachable hr) hreg he halive hi.1⟩
  refine ⟨fun newer hs => ?_, fun a t hok hstep newer hs => ?_⟩
  · rw [(hinv.2.stay newer hs).2]
    exact advances_prefix hinv.1.sleepPhase
  · have hstart : Basic t ∧ MaintEntered t ∧
        ∀ newer, Stay s.trace t.trace newer → Started s a t := by
      refine step_invariant (I := fun u => Basic u ∧ MaintEntered u ∧
        ∀ newer, Stay s.trace u.trace newer → Started s a u) (ownTasks_reachable h) hstep
        ⟨hinv.1, hinv.2.maint, fun _ hs => absurd hs.length (Nat.lt_irrefl _)⟩ ?_
      intro u v _ he halive hi
      exact ⟨hi.1.effect he halive, hi.2.1.effect he halive hi.1,
        started_effect hok hinv.1 (timed_reachable h) he halive hi.1 hi.2.1 hi.2.2⟩
    obtain ⟨hcur, hphase, htask, -⟩ := hstart.2.2 newer hs
    exact ⟨hcur, hphase, htask⟩

/-- A test that suffices for `KeepsPhases`: a phase of SLEEP, or a step outside of SLEEP and
MAINTENANCE. -/
def phaseTest (s : Service) (a : Action) : Bool :=
  match a with
  | .runTask (.transitToSleepPhase _) _ => true
  | _ => s.curState ≠ .sleep ∧ s.curState ≠ .maintenance

/-- The test suffices. -/
theorem keepsPhases_of_test (s : Service) (a : Action) (h : phaseTest s a = true) :
    KeepsPhases cfg s a := by
  have hout : s.curState ≠ .sleep ∧ s.curState ≠ .maintenance → KeepsPhases cfg s a :=
    fun ⟨hsleep, hmaint⟩ => {
      hold := fun _ _ _ _ h => absurd h hmaint
      rebegin := fun _ _ h => absurd h hsleep
      motion := fun _ _ _ h => absurd h hsleep
      transit := fun _ _ _ h => absurd h hmaint }
  unfold phaseTest at h
  split at h
  · exact {
      hold := fun _ ⟨_, ha, _⟩ => nomatch ha
      rebegin := fun ⟨_, ha, _⟩ => nomatch ha
      motion := fun _ ha => nomatch ha
      transit := fun _ _ ha => nomatch ha }
  · exact hout (of_decide_eq_true h)

/-- Forced sleep, and all its phases. -/
theorem sleep_phases_forced : ∃ s, Lts.Reachable (system sampleConfig) s ∧
    sleepPhases s.trace = [(0, 1), (1, 2), (2, 3)] ∧ PhasesInOrder s := by
  obtain ⟨s, hr, hs⟩ := (system sampleConfig).exists_check (KeepsPhases sampleConfig) phaseTest
    keepsPhases_of_test (fun s => sleepPhases s.trace = [(0, 1), (1, 2), (2, 3)])
    (.initReadyState samplePlatform :: handling .enterForceSleep samplePlatform ++
      [.runTask (.transitToSleepPhase true) samplePlatform,
        .runTask (.transitToSleepPhase false) samplePlatform,
        .runTask (.transitToSleepPhase false) samplePlatform])
    (by decide)
  exact ⟨s, hr.reachable, of_decide_eq_true hs, (sleep_phases_in_order hr).1⟩

/-- Not in every run: forced sleep in a maintenance window of NAP enters SLEEP without the task that
advances its phase. -/
theorem sleep_phases_not_in_order : ¬ ∀ (cfg : StandbyConfig) (s : Service),
    Lts.Reachable (system cfg) s → PhasesInOrder s ∧
      ∀ a t, (system cfg).step s a = some t → StartsInFirstPhase s t := by
  intro h
  obtain ⟨s, t, hr, hstep, htrace, hlast, htask⟩ := (system sampleConfig).exists_step
    (blockedMaintenanceRun ++ [.post (.commonEvent .enterForceSleep)]) (.dispatch samplePlatform)
    (fun s t => t.trace = .dispatched (.stateTransit .maintenance .sleep) ::
        .transited .maintenance .sleep :: .handled .enterForceSleep :: s.trace ∧
      lastTransited s.trace ≠ some (.sleep, .maintenance) ∧
      .transitToSleepPhase true ∉ t.handler.tasks) (by decide)
  refine htask ((h sampleConfig s hr).2 _ t hstep
    [.dispatched (.stateTransit .maintenance .sleep)] ?_).2.2
  rw [htrace]
  exact .later (.start (List.suffix_cons _ _) (.transited fun _ => hlast)) nofun nofun

end

end DeviceStandby
