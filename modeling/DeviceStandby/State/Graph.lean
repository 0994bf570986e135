import DeviceStandby.State.History
import DeviceStandby.State.Wake

/-!
# The graph of states

Which state may follow which is written down nowhere in the source: it is what remains of the
guards of `TransitToState`, the next states that the state objects hold and the timers that are
theirs (`Scheduled`). `Edge` is the graph, `edges_and_messages` says that every transition of every
run follows it and that the messages that report transitions chain.
-/

namespace DeviceStandby

open Relation

/-! ## The graph -/

/-- The latest transition of the history. -/
def lastTransited : List Trace → Option (StandbyState × StandbyState)
  | [] => none
  | .transited preState curState :: _ => some (preState, curState)
  | _ :: rest => lastTransited rest

/-- The latest STATE_TRANSIT message. -/
def lastStateTransit : List Trace → Option (StandbyState × StandbyState)
  | [] => none
  | .dispatched (.stateTransit preState curState) :: _ => some (preState, curState)
  | _ :: rest => lastStateTransit rest

/-- A transition that may follow a history. -/
inductive Edge (rest : List Trace) : StandbyState → StandbyState → Prop where
  | workingDark : Edge rest .working .dark
  | darkNap : Edge rest .dark .nap
  | darkSleep : Edge rest .dark .sleep
  | napSleep : Edge rest .nap .sleep
  | napMaintenance : Edge rest .nap .maintenance
  | sleepMaintenance : Edge rest .sleep .maintenance
  /-- MAINTENANCE returns to the state that it was entered from. -/
  | maintenanceNap (h : lastTransited rest = some (.nap, .maintenance)) :
      Edge rest .maintenance .nap
  | maintenanceSleep (h : lastTransited rest = some (.sleep, .maintenance)) :
      Edge rest .maintenance .sleep
  | wake {preState : StandbyState} (hne : preState ≠ .working) : Edge rest preState .working
  /-- An event that has just been handled holds the device asleep. -/
  | hold {preState : StandbyState} {action : CommonEvent} (hne : preState ≠ .sleep)
      (hhold : action.isHold = true) (hlog : rest.head? = some (.handled action)) :
      Edge rest preState .sleep

/-- Every transition of the history was one of the graph. -/
def EdgesOnly : List Trace → Prop
  | [] => True
  | .transited preState curState :: rest => Edge rest preState curState ∧ EdgesOnly rest
  | _ :: rest => EdgesOnly rest

/-- Every STATE_TRANSIT message begins where the one before it ended. -/
def MessagesChain : List Trace → Prop
  | [] => True
  | .dispatched (.stateTransit preState _) :: rest =>
    (∀ m, lastStateTransit rest = some m → m.2 = preState) ∧ MessagesChain rest
  | _ :: rest => MessagesChain rest

/-- The entries that `EdgesOnly` and `MessagesChain` read. -/
def Trace.isStateChange : Trace → Bool
  | .transited .. | .dispatched (.stateTransit ..) => true
  | _ => false

/-- Other entries change nothing. -/
theorem stateChange_append {entries : List Trace} (trace : List Trace)
    (h : ∀ entry ∈ entries, entry.isStateChange = false) :
    lastTransited (entries ++ trace) = lastTransited trace ∧
      lastStateTransit (entries ++ trace) = lastStateTransit trace ∧
      (EdgesOnly (entries ++ trace) ↔ EdgesOnly trace) ∧
      (MessagesChain (entries ++ trace) ↔ MessagesChain trace) := by
  induction entries with
  | nil => exact ⟨rfl, rfl, Iff.rfl, Iff.rfl⟩
  | cons entry entries ih =>
    have hentry := h entry List.mem_cons_self
    have hrest := ih fun e he => h e (List.mem_cons_of_mem _ he)
    cases entry with
    | transited => cases hentry
    | dispatched message =>
      cases message with
      | stateTransit => cases hentry
      | _ => exact hrest
    | handled | sleepRebegun | startEval | acceptEval | endEval => exact hrest

theorem Silent.isStateChange {entries : List Trace} (h : Silent entries) :
    ∀ entry ∈ entries, entry.isStateChange = false := by
  intro entry hmem
  obtain ⟨message, rfl, hm⟩ := h entry hmem
  cases message <;> first | rfl | cases hm

section
variable {cfg : StandbyConfig} {s₀ : Service} {a : Action} {p : Platform} {s t : Service}
  {nextState : StandbyState}

/-- Only a transition changes the state in the history. -/
theorem History.isStateChange {entries : List Trace} (h : History cfg s₀ a s t entries) :
    (∀ entry ∈ entries, entry.isStateChange = false) ∨
      ∃ p nextState, Transition cfg s₀ a s nextState ∧
        t = transitToStateInner cfg p nextState s := by
  cases h with
  | transited htr ht => exact .inr ⟨_, _, htr, ht⟩
  | silent h => exact .inl h.isStateChange
  | rebegun _ _ _ _ _ _ h =>
    left
    intro entry hmem
    rcases List.mem_append.1 hmem with hm | hm
    · exact h.isStateChange entry hm
    · rw [List.mem_singleton.1 hm]
      rfl
  | handled | rejected | accepted | ended =>
    left
    simp [Trace.isStateChange]
  | condition | napPhase | sleepPhase =>
    left
    intro entry hmem
    rw [List.mem_singleton.1 (List.mem_ite_nil_right.1 hmem).2]
    rfl

/-! ## The invariant -/

/-- MAINTENANCE was entered from the previous state. -/
def MaintEntered (s : Service) : Prop :=
  s.curState = .maintenance → lastTransited s.trace = some (s.preState, .maintenance)

theorem MaintEntered.transit (hb : Basic s)
    (halive : (transitToStateInner cfg p nextState s).crashed = false) :
    MaintEntered (transitToStateInner cfg p nextState s) := by
  obtain ⟨entries, hsilent, htrace⟩ := hb.transit_trace halive
  obtain ⟨hlast, -⟩ := stateChange_append
    (.transited s.curState nextState :: s.trace) hsilent.isStateChange
  intro hm
  rw [htrace]
  simp only [transitToStateInner_toStateManagerAdapter] at hm ⊢
  rw [← hm]
  exact hlast

/-- An effect keeps `MaintEntered`. -/
theorem MaintEntered.effect (he : Effect cfg s₀ a s t) (halive : t.crashed = false) (hb : Basic s)
    (h : MaintEntered s) : MaintEntered t := by
  rcases he.outcome.curState with ⟨hcur, hpre⟩ | ⟨p, nextState, htr, rfl⟩ | ⟨p, hready, rfl⟩
  · obtain ⟨entries, htrace, hist⟩ := he.history halive
    rcases hist.isStateChange with hn | ⟨p, nextState, htr, rfl⟩
    · intro hm
      rw [htrace, (stateChange_append _ hn).1, hpre]
      exact h (hcur ▸ hm)
    · exact .transit hb halive
  · exact .transit hb halive
  · intro hm
    obtain ⟨_, _, hf⟩ := initReadyState_frame cfg p hready
    rw [hf] at hm
    cases hm

/-- The history follows the graph, its messages chain, and the latest one reports the current
state. -/
structure Graph (s : Service) : Prop where
  edges : EdgesOnly s.trace
  chained : MessagesChain s.trace
  lastMessage : ∀ m, lastStateTransit s.trace = some m → m.2 = s.curState
  maint : MaintEntered s

/-- What a task of the current state asks for. -/
theorem Scheduled.nextStateOf (hs : Scheduled s) {state : StandbyState}
    (hmem : .transitNextState state ∈ s.handler.tasks) :
    state = s.curState ∧ (s.curState = .maintenance → nextStateOf cfg state s = s.preState ∧
      (s.preState = .nap ∨ s.preState = .sleep)) := by
  obtain ⟨hstate, -⟩ := hs.transit state hmem
  refine ⟨hstate, fun hm => ⟨?_, hs.maintPre hm⟩⟩
  rw [hstate, hm]
  exact hs.maintNext hm

/-- Every transition follows the graph. -/
theorem Transition.edge (hb₀ : Basic s₀) (hs₀ : Scheduled s₀) (hg : Graph s)
    (h : Transition cfg s₀ a s nextState) : Edge s.trace s.curState nextState := by
  cases h with
  | exit hask hcur hnext hlt hvalid =>
    cases hask with
    | wake =>
      refine .wake fun hw => ?_
      rw [hw] at hlt
      exact absurd hlt (Nat.lt_irrefl _)
    | dark hw =>
      rw [hw] at hlt
      exact absurd hlt (by decide)
    | @task state p ha hmem hsame =>
      -- no state but MAINTENANCE asks for a lower one
      obtain ⟨hstate, hne⟩ := hs₀.transit state hmem
      rw [hsame.curState] at hcur hlt
      subst hstate
      cases hs : s₀.curState with
      | working => exact absurd hs hne
      | dark =>
        rw [hs] at hlt
        unfold DeviceStandby.nextStateOf StandbyConfig.darkNextState at hlt
        dsimp only at hlt
        split_ifs at hlt <;> exact absurd hlt (by decide)
      | nap =>
        rw [hs] at hlt
        rcases hb₀.napNext with hn | hn | hn <;>
          exact absurd hlt (by simp [DeviceStandby.nextStateOf, hn, StandbyState.toNat])
      | maintenance => exact absurd hs hcur
      | sleep =>
        rw [hs] at hnext
        exact absurd rfl hnext
  | maint hask hne hmaint hvalid =>
    cases hask with
    | wake => exact .wake hne
    | dark hw =>
      rcases hmaint with h | h
      · cases h
      · rw [hw] at h
        cases h
    | @task state p ha hmem hsame =>
      obtain ⟨hstate, hmaint'⟩ : state = s₀.curState ∧ _ := hs₀.nextStateOf hmem
      obtain ⟨-, hne'⟩ := hs₀.transit state hmem
      rw [← hsame.curState] at hstate hmaint'
      by_cases hm : s.curState = .maintenance
      · obtain ⟨hnext, hpre⟩ := hmaint' hm
        have hlast := hg.maint hm
        rw [hsame.preState] at hlast
        rw [hnext, hm]
        rcases hpre with hp | hp <;> rw [hp] at hlast ⊢
        · exact .maintenanceNap hlast
        · exact .maintenanceSleep hlast
      · have hnext := hmaint.resolve_right hm
        rw [hnext] at hvalid ⊢
        cases hs : s.curState with
        | working => exact absurd (hstate.trans hs) hne'
        | dark =>
          rw [hs] at hvalid
          cases hvalid
        | nap => exact .napMaintenance
        | maintenance => exact absurd hs hm
        | sleep => exact .sleepMaintenance
  | workingResult _ hw =>
    rw [hw]
    exact .workingDark
  | darkResult _ hd hnext =>
    rw [hd]
    unfold StandbyConfig.darkNextState at hnext ⊢
    split_ifs at hnext ⊢
    · exact .darkNap
    · exact .darkSleep
    · exact absurd rfl hnext
  | napResult _ hn =>
    rw [hn]
    exact .napSleep
  | hold _ hhold hlog hcur => exact .hold hcur hhold hlog

/-- A transition keeps `Graph`. -/
theorem Graph.transit (hb₀ : Basic s₀) (hs₀ : Scheduled s₀) (hb : Basic s)
    (htr : Transition cfg s₀ a s nextState)
    (halive : (transitToStateInner cfg p nextState s).crashed = false) (h : Graph s) :
    Graph (transitToStateInner cfg p nextState s) := by
  obtain ⟨entries, hsilent, htrace⟩ := hb.transit_trace halive
  obtain ⟨-, h2, h3, h4⟩ := stateChange_append
    (.transited s.curState nextState :: s.trace) hsilent.isStateChange
  refine ⟨?_, ?_, fun m hm => ?_, .transit hb halive⟩
  · rw [htrace]
    exact h3.2 ⟨htr.edge hb₀ hs₀ h, h.edges⟩
  · rw [htrace]
    exact ⟨fun m hm => h.lastMessage m (h2 ▸ hm), h4.2 h.chained⟩
  · rw [htrace] at hm
    cases hm
    simp

/-- An effect keeps `Graph`. -/
theorem Graph.effect (hb₀ : Basic s₀) (hs₀ : Scheduled s₀) (he : Effect cfg s₀ a s t)
    (halive : t.crashed = false) (hb : Basic s) (h : Graph s) : Graph t := by
  have hmaint := h.maint.effect he halive hb
  -- the history of the transitions grows, or it is as it was
  have hkeep : ∀ {entries : List Trace}, t.trace = entries ++ s.trace →
      (∀ entry ∈ entries, entry.isStateChange = false) → t.curState = s.curState → Graph t := by
    intro entries htrace hn hcur
    obtain ⟨-, h2, h3, h4⟩ := stateChange_append s.trace hn
    rw [← htrace] at h2 h3 h4
    refine ⟨h3.2 h.edges, h4.2 h.chained, fun m hm => ?_, hmaint⟩
    rw [hcur]
    exact h.lastMessage m (h2 ▸ hm)
  rcases he.outcome.curState with ⟨hcur, -⟩ | ⟨p, nextState, htr, rfl⟩ | ⟨p, hready, rfl⟩
  · obtain ⟨entries, htrace, hist⟩ := he.history halive
    rcases hist.isStateChange with hn | ⟨p, nextState, htr, rfl⟩
    · exact hkeep htrace hn hcur
    · exact h.transit hb₀ hs₀ hb htr halive
  · exact h.transit hb₀ hs₀ hb htr halive
  · obtain ⟨_, _, hf⟩ := initReadyState_frame cfg p hready
    refine @hkeep [] (by rw [hf]; rfl) nofun ?_
    rw [hf, hb.notReady hready]

/-- In every run, when `StopTimer` leaves no callback in flight: every transition follows the
graph, the STATE_TRANSIT messages chain, and MAINTENANCE will return to the state that it was
entered from, which is NAP or SLEEP. -/
theorem edges_and_messages (hdrains : cfg.stopTimerDrains = true)
    (h : Lts.Reachable (system cfg) s) :
    EdgesOnly s.trace ∧ MessagesChain s.trace ∧
      (s.curState = .maintenance →
        lastTransited s.trace = some (s.maintState.nextState, .maintenance) ∧
          (s.maintState.nextState = .nap ∨ s.maintState.nextState = .sleep)) := by
  have hg : Basic s ∧ Graph s := by
    refine run_invariant (I := fun s => Basic s ∧ Graph s) ⟨.init, trivial, trivial, nofun, nofun⟩
      ?_ h
    intro s₀ a s t hr _ hi₀ _ he halive hi
    exact ⟨hi.1.effect he halive,
      hi.2.effect hi₀.1 (scheduled_reachable hdrains hr) he halive hi.1⟩
  have hs := scheduled_reachable hdrains h
  refine ⟨hg.2.edges, hg.2.chained, fun hm => ?_⟩
  rw [hs.maintNext hm]
  exact ⟨hg.2.maint hm, hs.maintPre hm⟩

/-- A maintenance window of NAP. -/
theorem edges_and_messages_nap : ∃ s, Lts.Reachable (system sampleConfig) s ∧
    s.curState = .maintenance ∧ s.maintState.nextState = .nap ∧ EdgesOnly s.trace ∧
    MessagesChain s.trace := by
  obtain ⟨s, hr, hcur, hnext⟩ := (system sampleConfig).exists_run blockedMaintenanceRun
    (Lts.System.runMeets_of_forall (fun _ _ => True) fun _ _ _ => trivial)
    (fun s => s.curState = .maintenance ∧ s.maintState.nextState = .nap) (by decide)
  have h := edges_and_messages rfl hr
  exact ⟨s, hr, hcur, hnext, h.1, h.2.1⟩

end

end DeviceStandby
