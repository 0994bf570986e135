import DeviceStandby.Core.Message
import DeviceStandby.Lib.Transition
import Mathlib.Data.Finset.Erase
import Mathlib.Data.Finset.Insert
import Mathlib.Logic.Function.Basic

/-!
# The timer of the day and night switch

`StandbyServiceImpl` keeps the id of one timer of the time service. It is started when it is created
and again by the task that its callback posts, and `UnregisterTimeObserver` destroys it. An id that
is kept stops a later registration, so its timer has to be armed, or its task pending. It is not
when a timer that was created does not start, and a timer that is not destroyed is forgotten:
`right_iff` says that nothing else goes wrong.
-/

namespace DeviceStandby

/-! ## The time service -/

/-- `TimeServiceClient`: the timers it has created, when those that are started fire, and the next
id. It gives no id twice. -/
structure TimeServiceClient where
  created : Finset Nat := ∅
  armed : Nat → Option Int := fun _ => none
  nextId : Nat := 1

namespace TimeServiceClient

/-- `TimeServiceClient::CreateTimer`: the id, 0 on failure. -/
def createTimer (answer : Bool) (c : TimeServiceClient) : Nat × TimeServiceClient :=
  if answer then (c.nextId, { c with created := insert c.nextId c.created, nextId := c.nextId + 1 })
  else (0, c)

/-- `TimeServiceClient::StartTimer`. -/
def startTimer (timerId : Nat) (triggerTime : Int) (answer : Bool) (c : TimeServiceClient) :
    Bool × TimeServiceClient :=
  if answer ∧ timerId ∈ c.created then
    (true, { c with armed := Function.update c.armed timerId (some triggerTime) })
  else (false, c)

/-- `TimeServiceClient::StopTimer`. -/
def stopTimer (timerId : Nat) (answer : Bool) (c : TimeServiceClient) : Bool × TimeServiceClient :=
  if answer ∧ timerId ∈ c.created then
    (true, { c with armed := Function.update c.armed timerId none })
  else (false, c)

/-- `TimeServiceClient::DestroyTimer`. -/
def destroyTimer (timerId : Nat) (answer : Bool) (c : TimeServiceClient) :
    Bool × TimeServiceClient :=
  if answer ∧ timerId ∈ c.created then
    (true, { c with
      created := c.created.erase timerId
      armed := Function.update c.armed timerId none })
  else (false, c)

end TimeServiceClient

/-! ## The observer -/

/-- What the time service and the clock answer when a timer is started. `timeDiff` is what
`TimeDiffToDayNightSwitch` gives. -/
structure StartAnswers where
  timeDiff : Option Int
  randomDelay : Int
  wallTimeMs : Int
  startTimer : Bool

/-- What they answer during a registration. -/
structure RegisterAnswers extends StartAnswers where
  createTimer : Bool

/-- What they answer during a reset. -/
structure ResetAnswers extends RegisterAnswers where
  stopTimer : Bool
  destroyTimer : Bool

/-- The tasks that the observer posts: the message of a registration, and the switch that the
callback of a timer posts. -/
inductive ObserverTask where
  | timerSaAbility
  | dayNightSwitch (timerId : Nat)
  deriving DecidableEq

/-- The action of the message of a registration. -/
abbrev COMMON_EVENT_TIMER_SA_ABILITY : String := "COMMON_EVENT_TIMER_SA_ABILITY"

inductive ObserverErrCode where
  | ERR_OK | ERR_STANDBY_OBSERVER_ALREADY_EXIST | ERR_STANDBY_OBSERVER_INIT_FAILED
  | ERR_STANDBY_OBSERVER_RESET_FAILED
  deriving DecidableEq

/-- The part of `StandbyServiceImpl` around `dayNightSwitchTimerId_`. `leaked` are the timers that
existed and were not armed when their id was overwritten; no function reads it. -/
structure TimeObserver where
  client : TimeServiceClient := {}
  dayNightSwitchTimerId : Nat := 0
  tasks : List ObserverTask := []
  messages : List StandbyMessage := []
  leaked : Finset Nat := ∅

namespace TimeObserver

/-- Overwrite `dayNightSwitchTimerId_`. -/
def setTimerId (timerId : Nat) (s : TimeObserver) : TimeObserver :=
  let old := s.dayNightSwitchTimerId
  { s with
    dayNightSwitchTimerId := timerId
    leaked :=
      if old ≠ timerId ∧ old ∈ s.client.created ∧ s.client.armed old = none then
        insert old s.leaked
      else s.leaked }

/-- `TimedTask::StartDayNightSwitchTimer`. -/
def startDayNightSwitchTimer (a : StartAnswers) (timerId : Nat) (s : TimeObserver) :
    Bool × TimeObserver :=
  match a.timeDiff with
  | none => (false, s)
  | some timeDiff =>
    let (started, client) :=
      s.client.startTimer timerId (a.wallTimeMs + (timeDiff + a.randomDelay)) a.startTimer
    (started, { s with client })

/-- `TimedTask::RegisterDayNightSwitchTimer`, whose id is a reference to
`dayNightSwitchTimerId_`. -/
def registerDayNightSwitchTimer (a : RegisterAnswers) (s : TimeObserver) : Bool × TimeObserver :=
  let (timerId, client) := s.client.createTimer a.createTimer
  let s := { s with client }.setTimerId timerId
  if timerId = 0 then (false, s) else s.startDayNightSwitchTimer a.toStartAnswers timerId

/-- `StandbyServiceImpl::RegisterTimeObserver`. -/
def registerTimeObserver (a : RegisterAnswers) (s : TimeObserver) :
    ObserverErrCode × TimeObserver :=
  let s := { s with tasks := s.tasks ++ [.timerSaAbility] }
  if s.dayNightSwitchTimerId > 0 then (.ERR_STANDBY_OBSERVER_ALREADY_EXIST, s)
  else
    let (registered, s) := s.registerDayNightSwitchTimer a
    if registered then (.ERR_OK, s) else (.ERR_STANDBY_OBSERVER_INIT_FAILED, s)

/-- `StandbyServiceImpl::UnregisterTimeObserver`. -/
def unregisterTimeObserver (stopTimer destroyTimer : Bool) (s : TimeObserver) :
    ObserverErrCode × TimeObserver :=
  let client := (s.client.stopTimer s.dayNightSwitchTimerId stopTimer).2
  let client := (client.destroyTimer s.dayNightSwitchTimerId destroyTimer).2
  (.ERR_OK, { s with client }.setTimerId 0)

/-- `StandbyServiceImpl::ResetTimeObserver`. -/
def resetTimeObserver (a : ResetAnswers) (s : TimeObserver) : ObserverErrCode × TimeObserver :=
  let (unregistered, s) := s.unregisterTimeObserver a.stopTimer a.destroyTimer
  if unregistered ≠ .ERR_OK then (.ERR_STANDBY_OBSERVER_RESET_FAILED, s)
  else
    let (registered, s) := s.registerTimeObserver a.toRegisterAnswers
    if registered ≠ .ERR_OK then (.ERR_STANDBY_OBSERVER_RESET_FAILED, s) else (.ERR_OK, s)

/-- `StandbyServiceImpl::DayNightSwitchCallback`, the callback of a timer. -/
def dayNightSwitchCallback (timerId : Nat) (s : TimeObserver) : TimeObserver :=
  { s with tasks := s.tasks ++ [.dayNightSwitch timerId] }

/-- The task of the callback. -/
def dayNightSwitch (isServiceReady : Bool) (curState : StandbyState) (condition : ConditionType)
    (a : StartAnswers) (reset : ResetAnswers) (s : TimeObserver) : TimeObserver :=
  let s :=
    if isServiceReady ∧ curState = .sleep then
      { s with messages := s.messages ++ [.resCtrlConditionChanged condition] }
    else s
  let (started, s) := s.startDayNightSwitchTimer a s.dayNightSwitchTimerId
  if started then s else (s.resetTimeObserver reset).2

end TimeObserver

/-! ## Runs -/

/-- What happens: the observer is registered, unregistered or reset, a timer fires, or a task
runs. -/
inductive ObserverAction where
  | register (a : RegisterAnswers)
  | unregister (stopTimer destroyTimer : Bool)
  | reset (a : ResetAnswers)
  | fire (timerId : Nat)
  | runTask (i : Nat) (isServiceReady : Bool) (curState : StandbyState) (condition : ConditionType)
      (a : StartAnswers) (reset : ResetAnswers)

/-- One step of the observer. The timer fires once. -/
def TimeObserver.step (s : TimeObserver) : ObserverAction → Option TimeObserver
  | .register a => some (s.registerTimeObserver a).2
  | .unregister stopTimer destroyTimer => some (s.unregisterTimeObserver stopTimer destroyTimer).2
  | .reset a => some (s.resetTimeObserver a).2
  | .fire timerId =>
    match s.client.armed timerId with
    | none => none
    | some _ =>
      some ({ s with
        client.armed := Function.update s.client.armed timerId none }.dayNightSwitchCallback
          timerId)
  | .runTask i isServiceReady curState condition a reset =>
    match s.tasks[i]? with
    | none => none
    | some .timerSaAbility =>
      some { s with
        tasks := s.tasks.eraseIdx i
        messages := s.messages ++ [.commonEvent (.other COMMON_EVENT_TIMER_SA_ABILITY)] }
    | some (.dayNightSwitch _) =>
      some ({ s with tasks := s.tasks.eraseIdx i }.dayNightSwitch isServiceReady curState condition
        a reset)

/-- The observer of a service that starts, with a time service that has no timer of it. -/
def observerSystem : Lts.System TimeObserver ObserverAction where
  init := {}
  step := TimeObserver.step

namespace TimeObserver

/-- A timer whose id is kept is armed, or its task is pending. -/
def Live (s : TimeObserver) : Prop :=
  0 < s.dayNightSwitchTimerId → s.client.armed s.dayNightSwitchTimerId ≠ none ∨
    ObserverTask.dayNightSwitch s.dayNightSwitchTimerId ∈ s.tasks

/-- The switching goes on and no timer was leaked; a registration that finds an observer finds one
that goes on. -/
structure Right (s : TimeObserver) : Prop where
  live : s.Live
  leaked : s.leaked = ∅
  alreadyExist : ∀ a, (s.registerTimeObserver a).1 = .ERR_STANDBY_OBSERVER_ALREADY_EXIST →
    0 < s.dayNightSwitchTimerId ∧ (s.registerTimeObserver a).2.Live

/-- A timer is started when it is created. -/
def StartsCreated (a : RegisterAnswers) : Prop :=
  a.createTimer = true → a.timeDiff ≠ none ∧ a.startTimer = true

/-- The timer whose id is kept is destroyed, or goes on. -/
def DestroysKept (stopTimer destroyTimer : Bool) (s : TimeObserver) : Prop :=
  0 < s.dayNightSwitchTimerId → destroyTimer = true ∨
    (stopTimer = false ∧ s.client.armed s.dayNightSwitchTimerId ≠ none)

/-- A step on which nothing goes wrong. -/
def Safe (s : TimeObserver) : ObserverAction → Prop
  | .register a => s.dayNightSwitchTimerId = 0 → StartsCreated a
  | .unregister stopTimer destroyTimer => s.DestroysKept stopTimer destroyTimer
  | .reset a => s.DestroysKept a.stopTimer a.destroyTimer ∧ StartsCreated a.toRegisterAnswers
  | .fire _ => True
  | .runTask i _ _ _ a reset =>
    (∃ timerId, s.tasks[i]? = some (.dayNightSwitch timerId)) →
      (0 < s.dayNightSwitchTimerId ∧ a.timeDiff ≠ none ∧ a.startTimer = true) ∨
        (s.DestroysKept reset.stopTimer reset.destroyTimer ∧
          StartsCreated reset.toRegisterAnswers)

end TimeObserver

/-! ## What the functions do -/

namespace TimeServiceClient
variable {c : TimeServiceClient} {timerId t : Nat} {triggerTime : Int} {answer : Bool}

/-- The ids in use are numbers before the next, and only timers that exist are armed. -/
structure Consistent (c : TimeServiceClient) : Prop where
  nextId_pos : 0 < c.nextId
  created : ∀ t ∈ c.created, 0 < t ∧ t < c.nextId
  armed : ∀ t, c.armed t ≠ none → t ∈ c.created

/-- A timer that is created gets a new id and is not armed. -/
theorem consistent_createTimer (answer : Bool) (h : c.Consistent) :
    (c.createTimer answer).2.Consistent := by
  unfold createTimer
  split_ifs with ha
  · have hpos := h.nextId_pos
    constructor
    · exact Nat.succ_pos _
    · intro t ht
      rcases Finset.mem_insert.1 ht with rfl | ht
      · exact ⟨hpos, Nat.lt_succ_self _⟩
      · have hlt := h.created t ht
        exact ⟨hlt.1, Nat.lt_succ_of_lt hlt.2⟩
    · exact fun t ht => Finset.mem_insert_of_mem (h.armed t ht)
  · exact h

/-- Only a timer that exists is armed. -/
theorem consistent_startTimer (h : c.Consistent) :
    (c.startTimer timerId triggerTime answer).2.Consistent := by
  unfold startTimer
  split_ifs with ha
  · refine ⟨h.nextId_pos, h.created, fun t ht => ?_⟩
    have harmed : Function.update c.armed timerId (some triggerTime) t ≠ none := ht
    by_cases htimer : t = timerId
    · exact htimer ▸ ha.2
    · rw [Function.update_of_ne htimer] at harmed
      exact h.armed t harmed
  · exact h

/-- Disarming a timer. -/
theorem Consistent.disarm (h : c.Consistent) (timerId : Nat) :
    { c with armed := Function.update c.armed timerId none }.Consistent := by
  refine ⟨h.nextId_pos, h.created, fun t ht => ?_⟩
  have harmed : Function.update c.armed timerId none t ≠ none := ht
  by_cases htimer : t = timerId
  · exact absurd (htimer ▸ Function.update_self ..) harmed
  · rw [Function.update_of_ne htimer] at harmed
    exact h.armed t harmed

/-- A timer that is stopped is not armed. -/
theorem consistent_stopTimer (h : c.Consistent) : (c.stopTimer timerId answer).2.Consistent := by
  unfold stopTimer
  split_ifs
  · exact h.disarm timerId
  · exact h

/-- A timer that is destroyed is not armed. -/
theorem consistent_destroyTimer (h : c.Consistent) :
    (c.destroyTimer timerId answer).2.Consistent := by
  unfold destroyTimer
  split_ifs
  · have hdisarm := h.disarm timerId
    refine ⟨h.nextId_pos, fun t ht => h.created t (Finset.mem_of_mem_erase ht), fun t ht => ?_⟩
    refine Finset.mem_erase.2 ⟨?_, hdisarm.armed t ht⟩
    rintro rfl
    exact ht (Function.update_self ..)
  · exact h

/-- No function but `createTimer` moves the next id. -/
theorem nextId_startTimer : (c.startTimer timerId triggerTime answer).2.nextId = c.nextId := by
  unfold startTimer
  split_ifs <;> rfl

/-- Ids are not given back. -/
theorem nextId_unregister {answer' : Bool} :
    ((c.stopTimer timerId answer).2.destroyTimer timerId answer').2.nextId = c.nextId := by
  unfold destroyTimer stopTimer
  split_ifs <;> rfl

/-- After both calls a timer that exists is gone if it was destroyed, and armed as before if neither
succeeds. -/
theorem kept_unregister (answer answer' : Bool) (h : timerId ∈ c.created) :
    (timerId ∈ ((c.stopTimer timerId answer).2.destroyTimer timerId answer').2.created ∧
      ((c.stopTimer timerId answer).2.destroyTimer timerId answer').2.armed timerId = none) ↔
      ¬ (answer' = true ∨ (answer = false ∧ c.armed timerId ≠ none)) := by
  unfold destroyTimer stopTimer
  cases answer <;> cases answer' <;> simp [h]

end TimeServiceClient

namespace TimeObserver
variable {s t : TimeObserver} {a : RegisterAnswers} {reset : ResetAnswers}

/-- The time service and the observer agree on which timers there are. -/
structure Consistent (s : TimeObserver) : Prop where
  client : s.client.Consistent
  kept : 0 < s.dayNightSwitchTimerId → s.dayNightSwitchTimerId ∈ s.client.created
  tasks : ∀ timerId, ObserverTask.dayNightSwitch timerId ∈ s.tasks → timerId < s.client.nextId

/-- Overwriting the id when none is kept leaks nothing. -/
theorem setTimerId_of_none (h : s.client.Consistent) (hid : s.dayNightSwitchTimerId = 0)
    (timerId : Nat) : s.setTimerId timerId = { s with dayNightSwitchTimerId := timerId } := by
  have hzero : 0 ∉ s.client.created := fun hmem => absurd (h.created 0 hmem).1 (lt_irrefl 0)
  unfold setTimerId
  dsimp only
  rw [hid, if_neg fun hleak => hzero hleak.2.1]

/-- A timer that exists is started when the time service and the clock answer. -/
def Starts (a : StartAnswers) (timerId : Nat) (s : TimeObserver) : Prop :=
  a.timeDiff ≠ none ∧ a.startTimer = true ∧ timerId ∈ s.client.created

/-- `StartDayNightSwitchTimer` arms its timer or changes nothing. -/
theorem startDayNightSwitchTimer_spec (a : StartAnswers) (timerId : Nat) (s : TimeObserver) :
    ((s.startDayNightSwitchTimer a timerId).1 = true ↔ s.Starts a timerId) ∧
      ∃ client, (s.startDayNightSwitchTimer a timerId).2 = { s with client } ∧
        (s.client.Consistent → client.Consistent) ∧ client.created = s.client.created ∧
          client.nextId = s.client.nextId ∧ (s.Starts a timerId → client.armed timerId ≠ none) ∧
          (¬ s.Starts a timerId → client = s.client) := by
  unfold startDayNightSwitchTimer Starts
  cases a.timeDiff with
  | none => exact ⟨by simp, s.client, rfl, id, rfl, rfl, by simp, fun _ => rfl⟩
  | some timeDiff =>
    dsimp only
    refine ⟨?_, _, rfl, TimeServiceClient.consistent_startTimer, ?_,
      TimeServiceClient.nextId_startTimer, ?_, ?_⟩
    · unfold TimeServiceClient.startTimer
      split_ifs with h <;> simp [h]
    · unfold TimeServiceClient.startTimer
      split_ifs <;> rfl
    · rintro ⟨-, h⟩
      unfold TimeServiceClient.startTimer
      rw [if_pos h]
      simp
    · intro h
      unfold TimeServiceClient.startTimer
      rw [if_neg fun hstart => h ⟨Option.some_ne_none _, hstart⟩]

/-- A registration creates a timer, and starts it when all goes well. -/
theorem registerDayNightSwitchTimer_spec (h : s.Consistent) (hid : s.dayNightSwitchTimerId = 0) :
    ∃ client, (s.registerDayNightSwitchTimer a).2 =
        { s with
          client := client
          dayNightSwitchTimerId := if a.createTimer then s.client.nextId else 0 } ∧
      client.Consistent ∧ s.client.nextId ≤ client.nextId ∧
      (a.createTimer = true → s.client.nextId ∈ client.created ∧
        s.client.nextId < client.nextId ∧
        (client.armed s.client.nextId ≠ none ↔ a.timeDiff ≠ none ∧ a.startTimer = true)) := by
  have hconsistent := TimeServiceClient.consistent_createTimer a.createTimer h.client
  unfold registerDayNightSwitchTimer
  dsimp only
  rw [setTimerId_of_none (s := { s with client := (s.client.createTimer a.createTimer).2 })
    hconsistent hid]
  unfold TimeServiceClient.createTimer at hconsistent ⊢
  by_cases hcreate : a.createTimer = true
  · have hfresh : s.client.armed s.client.nextId = none := by
      by_contra hne
      exact lt_irrefl _ (h.client.created _ (h.client.armed _ hne)).2
    simp only [if_pos hcreate] at hconsistent ⊢
    rw [if_neg h.client.nextId_pos.ne']
    obtain ⟨client, heq, hclient, hcreated, hnextId, hstart, hnot⟩ :=
      (startDayNightSwitchTimer_spec a.toStartAnswers s.client.nextId
        { s with
          client := { s.client with
            created := insert s.client.nextId s.client.created
            nextId := s.client.nextId + 1 }
          dayNightSwitchTimerId := s.client.nextId }).2
    have hmem : s.client.nextId ∈ client.created := by
      rw [hcreated]
      exact Finset.mem_insert_self s.client.nextId s.client.created
    refine ⟨client, heq, hclient hconsistent, ?_, fun _ => ⟨hmem, ?_, ?_, ?_⟩⟩
    · rw [hnextId]
      exact Nat.le_succ _
    · rw [hnextId]
      exact Nat.lt_succ_self _
    · intro harmed
      by_contra hno
      rw [hnot fun hstarts => hno ⟨hstarts.1, hstarts.2.1⟩] at harmed
      exact harmed hfresh
    · rintro ⟨hdiff, hanswer⟩
      exact hstart ⟨hdiff, hanswer, hcreated ▸ hmem⟩
  · simp only [if_neg hcreate] at hconsistent ⊢
    exact ⟨s.client, rfl, h.client, le_rfl, fun hcreated => absurd hcreated hcreate⟩

/-! ### One function after the other -/

/-- While an id is kept, a registration only posts its task. -/
theorem registerTimeObserver_of_kept (hid : 0 < s.dayNightSwitchTimerId) :
    s.registerTimeObserver a = (.ERR_STANDBY_OBSERVER_ALREADY_EXIST,
      { s with tasks := s.tasks ++ [.timerSaAbility] }) :=
  if_pos hid

/-- A registration that finds an observer has found one. -/
theorem kept_of_alreadyExist
    (h : (s.registerTimeObserver a).1 = .ERR_STANDBY_OBSERVER_ALREADY_EXIST) :
    0 < s.dayNightSwitchTimerId := by
  by_contra hid
  unfold registerTimeObserver at h
  dsimp only at h
  rw [if_neg hid] at h
  split_ifs at h

/-- After a registration the observer goes on as before, or there is a new timer, which goes on when
it was started. -/
theorem registerTimeObserver_spec (h : s.Consistent) (a : RegisterAnswers) :
    (s.registerTimeObserver a).2.Consistent ∧ (s.registerTimeObserver a).2.leaked = s.leaked ∧
      (s.Live → ((s.registerTimeObserver a).2.Live ↔
        (s.dayNightSwitchTimerId = 0 → StartsCreated a))) := by
  have htasks : ∀ timerId, ObserverTask.dayNightSwitch timerId ∈ s.tasks ++ [.timerSaAbility] ↔
      ObserverTask.dayNightSwitch timerId ∈ s.tasks := by
    intro timerId
    simp
  by_cases hid : 0 < s.dayNightSwitchTimerId
  · rw [registerTimeObserver_of_kept hid]
    refine ⟨⟨h.client, h.kept, fun t ht => h.tasks t ((htasks t).1 ht)⟩, rfl, fun hlive => ?_⟩
    refine iff_of_true (fun hkept => ?_) fun hzero => absurd hzero hid.ne'
    exact (hlive hkept).imp_right (htasks _).2
  · have hzero : s.dayNightSwitchTimerId = 0 := by omega
    have hposted : Consistent { s with tasks := s.tasks ++ [.timerSaAbility] } :=
      ⟨h.client, h.kept, fun t ht => h.tasks t ((htasks t).1 ht)⟩
    have hregister : (s.registerTimeObserver a).2 =
        (registerDayNightSwitchTimer a { s with tasks := s.tasks ++ [.timerSaAbility] }).2 := by
      unfold registerTimeObserver
      dsimp only
      rw [if_neg hid]
      split_ifs <;> rfl
    obtain ⟨client, heq, hclient, hle, hcreated⟩ :=
      registerDayNightSwitchTimer_spec (a := a) hposted hzero
    rw [hregister, heq]
    refine ⟨⟨hclient, ?_, ?_⟩, rfl, fun _ => ?_⟩
    · dsimp only
      split_ifs with hcreate
      · exact fun _ => (hcreated hcreate).1
      · exact fun h => absurd h (lt_irrefl 0)
    · exact fun t ht => lt_of_lt_of_le (hposted.tasks t ht) hle
    · unfold Live StartsCreated
      dsimp only
      split_ifs with hcreate
      · obtain ⟨-, -, harmed⟩ := hcreated hcreate
        -- no task of the new timer can be pending
        have hnone : ObserverTask.dayNightSwitch s.client.nextId ∉
            s.tasks ++ [.timerSaAbility] := fun hmem => lt_irrefl _ (hposted.tasks _ hmem)
        simp only [hnone, or_false, hzero, hcreate, forall_const, h.client.nextId_pos]
        exact harmed
      · simp [hcreate]

/-- After an unregistration no id is kept, and no timer is leaked when the one that was kept is
destroyed or goes on. -/
theorem unregisterTimeObserver_spec (h : s.Consistent) (stopTimer destroyTimer : Bool) :
    (s.unregisterTimeObserver stopTimer destroyTimer).2.Consistent ∧
      (s.unregisterTimeObserver stopTimer destroyTimer).2.dayNightSwitchTimerId = 0 ∧
      (s.leaked = ∅ → ((s.unregisterTimeObserver stopTimer destroyTimer).2.leaked = ∅ ↔
        s.DestroysKept stopTimer destroyTimer)) := by
  refine ⟨⟨?_, fun hpos => absurd hpos (lt_irrefl 0), ?_⟩, rfl, fun hleaked => ?_⟩
  · exact TimeServiceClient.consistent_destroyTimer
      (TimeServiceClient.consistent_stopTimer h.client)
  · intro t ht
    exact lt_of_lt_of_eq (h.tasks t ht) TimeServiceClient.nextId_unregister.symm
  · unfold unregisterTimeObserver setTimerId DestroysKept
    dsimp only
    have hkept := fun hpos => TimeServiceClient.kept_unregister stopTimer destroyTimer
      (h.kept hpos)
    rw [hleaked]
    split_ifs with hleak
    · have hpos := Nat.pos_of_ne_zero hleak.1
      exact iff_of_false (Finset.insert_ne_empty _ _) fun hall =>
        (hkept hpos).1 hleak.2 (hall hpos)
    · refine iff_of_true rfl fun hpos => ?_
      by_contra hgone
      exact hleak ⟨hpos.ne', (hkept hpos).2 hgone⟩

/-- A reset unregisters and registers. -/
theorem resetTimeObserver_snd (reset : ResetAnswers) :
    (s.resetTimeObserver reset).2 = ((s.unregisterTimeObserver reset.stopTimer
      reset.destroyTimer).2.registerTimeObserver reset.toRegisterAnswers).2 := by
  have hok : (s.unregisterTimeObserver reset.stopTimer reset.destroyTimer).1 = .ERR_OK := rfl
  unfold resetTimeObserver
  dsimp only
  rw [if_neg (not_not.2 hok)]
  split_ifs <;> rfl

/-- A reset keeps the timers in order, and leaves a live one exactly when both of its halves do what
they should. -/
theorem resetTimeObserver_spec (h : s.Consistent) (reset : ResetAnswers) :
    (s.resetTimeObserver reset).2.Consistent ∧
      (s.leaked = ∅ →
        ((s.resetTimeObserver reset).2.Live ∧ (s.resetTimeObserver reset).2.leaked = ∅ ↔
        s.DestroysKept reset.stopTimer reset.destroyTimer ∧
          StartsCreated reset.toRegisterAnswers)) := by
  obtain ⟨hconsistent, hid, hleak⟩ :=
    unregisterTimeObserver_spec h reset.stopTimer reset.destroyTimer
  obtain ⟨hregistered, hleaked, hlive⟩ :=
    registerTimeObserver_spec hconsistent reset.toRegisterAnswers
  rw [resetTimeObserver_snd]
  refine ⟨hregistered, fun hnone => ?_⟩
  rw [hleaked, hleak hnone, hlive fun hpos => absurd hid hpos.ne', and_comm]
  exact and_congr_right fun _ => ⟨fun hstarts => hstarts hid, fun hstarts _ => hstarts⟩

/-- An id is kept of a timer that exists, so it starts when it can. -/
theorem starts_iff (h : s.Consistent) (a : StartAnswers) :
    s.Starts a s.dayNightSwitchTimerId ↔
      0 < s.dayNightSwitchTimerId ∧ a.timeDiff ≠ none ∧ a.startTimer = true := by
  constructor
  · rintro ⟨hdiff, hanswer, hmem⟩
    exact ⟨(h.client.created _ hmem).1, hdiff, hanswer⟩
  · rintro ⟨hpos, hdiff, hanswer⟩
    exact ⟨hdiff, hanswer, h.kept hpos⟩

/-- The switch starts the timer again, or resets the observer. -/
theorem dayNightSwitch_spec (h : s.Consistent) (isServiceReady : Bool) (curState : StandbyState)
    (condition : ConditionType) (a : StartAnswers) (reset : ResetAnswers) :
    (s.dayNightSwitch isServiceReady curState condition a reset).Consistent ∧
      (s.leaked = ∅ → ((s.dayNightSwitch isServiceReady curState condition a reset).Live ∧
          (s.dayNightSwitch isServiceReady curState condition a reset).leaked = ∅ ↔
        (0 < s.dayNightSwitchTimerId ∧ a.timeDiff ≠ none ∧ a.startTimer = true) ∨
          (s.DestroysKept reset.stopTimer reset.destroyTimer ∧
            StartsCreated reset.toRegisterAnswers))) := by
  obtain ⟨messages, hmessages⟩ : ∃ messages, (if isServiceReady = true ∧ curState = .sleep then
      { s with messages := s.messages ++ [.resCtrlConditionChanged condition] } else s) =
        { s with messages } := by
    split_ifs
    · exact ⟨_, rfl⟩
    · exact ⟨_, rfl⟩
  have hsent : Consistent { s with messages } := ⟨h.client, h.kept, h.tasks⟩
  obtain ⟨hstarted, client, heq, hclient, hcreated, hnextId, hstart, hnot⟩ :=
    startDayNightSwitchTimer_spec a s.dayNightSwitchTimerId { s with messages }
  have hstarts := starts_iff hsent a
  have hkept : Consistent { s with messages, client } := by
    refine ⟨hclient h.client, fun hpos => ?_, fun timerId hmem => ?_⟩
    · rw [hcreated]
      exact h.kept hpos
    · rw [hnextId]
      exact h.tasks timerId hmem
  unfold dayNightSwitch
  rw [hmessages]
  dsimp only
  rw [heq]
  split_ifs with hok
  · rw [hstarted] at hok
    refine ⟨hkept, fun hleaked => iff_of_true ⟨fun _ => .inl (hstart hok), hleaked⟩ ?_⟩
    exact .inl (hstarts.1 hok)
  · rw [hstarted] at hok
    have hclientEq := hnot hok
    obtain ⟨hreset, hright⟩ := resetTimeObserver_spec hkept reset
    refine ⟨hreset, fun hleaked => ?_⟩
    rw [hright hleaked, or_iff_right fun hall => hok (hstarts.2 hall)]
    unfold DestroysKept
    dsimp only
    rw [hclientEq]

/-- Running a task takes no other task from the handler. -/
theorem mem_eraseIdx {task task' : ObserverTask} {i : Nat} (hi : s.tasks[i]? = some task')
    (hne : task ≠ task') (hmem : task ∈ s.tasks) : task ∈ s.tasks.eraseIdx i := by
  obtain ⟨j, hj⟩ := List.mem_iff_getElem?.1 hmem
  refine List.mem_eraseIdx_iff_getElem?.2 ⟨j, fun heq => hne ?_, hj⟩
  rw [heq, hi] at hj
  exact (Option.some.inj hj).symm

/-- A step goes right exactly when it is safe. -/
theorem step_spec {action : ObserverAction} (h : s.Consistent) (hlive : s.Live)
    (hleaked : s.leaked = ∅) (hstep : s.step action = some t) :
    t.Consistent ∧ (t.Live ∧ t.leaked = ∅ ↔ s.Safe action) := by
  cases action with
  | register a =>
    cases hstep
    obtain ⟨hconsistent, hleak, hright⟩ := registerTimeObserver_spec h a
    refine ⟨hconsistent, ?_⟩
    rw [hleak, hright hlive, Safe]
    exact and_iff_left hleaked
  | unregister stopTimer destroyTimer =>
    cases hstep
    obtain ⟨hconsistent, hid, hleak⟩ := unregisterTimeObserver_spec h stopTimer destroyTimer
    refine ⟨hconsistent, ?_⟩
    rw [hleak hleaked, Safe]
    exact and_iff_right fun hpos => absurd hid hpos.ne'
  | reset a =>
    cases hstep
    obtain ⟨hconsistent, hright⟩ := resetTimeObserver_spec h a
    exact ⟨hconsistent, hright hleaked⟩
  | fire timerId =>
    unfold TimeObserver.step at hstep
    dsimp only at hstep
    split at hstep
    · cases hstep
    · rename_i triggerTime harmed
      cases hstep
      have hexists := h.client.armed timerId (by rw [harmed]; exact Option.some_ne_none _)
      refine ⟨⟨h.client.disarm timerId, h.kept, fun t ht => ?_⟩, iff_of_true ⟨fun hpos => ?_,
        hleaked⟩ trivial⟩
      · rcases List.mem_append.1 ht with ht | ht
        · exact h.tasks t ht
        · cases List.mem_singleton.1 ht
          exact (h.client.created timerId hexists).2
      · dsimp only [dayNightSwitchCallback] at hpos ⊢
        by_cases hsame : s.dayNightSwitchTimerId = timerId
        · rw [hsame]
          exact .inr (List.mem_append_right _ (List.mem_singleton_self _))
        · rw [Function.update_of_ne hsame]
          exact (hlive hpos).imp_right (List.mem_append_left _)
  | runTask i isServiceReady curState condition a reset =>
    unfold TimeObserver.step at hstep
    dsimp only at hstep
    split at hstep
    · cases hstep
    · rename_i htask
      cases hstep
      refine ⟨⟨h.client, h.kept, fun t ht => h.tasks t (List.mem_of_mem_eraseIdx ht)⟩,
        iff_of_true ⟨fun hpos => ?_, hleaked⟩ ?_⟩
      · exact (hlive hpos).imp_right (mem_eraseIdx htask (by simp))
      · rintro ⟨timerId, hother⟩
        rw [htask] at hother
        cases hother
    · rename_i timerId htask
      cases hstep
      have herased : Consistent { s with tasks := s.tasks.eraseIdx i } :=
        ⟨h.client, h.kept, fun t ht => h.tasks t (List.mem_of_mem_eraseIdx ht)⟩
      obtain ⟨hconsistent, hright⟩ :=
        dayNightSwitch_spec herased isServiceReady curState condition a reset
      refine ⟨hconsistent, ?_⟩
      rw [hright hleaked, Safe, forall_prop_of_true ⟨timerId, htask⟩]
      rfl

/-- A step that is not enabled is safe. -/
theorem safe_of_step_eq_none {action : ObserverAction} (hstep : s.step action = none) :
    s.Safe action := by
  cases action with
  | register a => cases hstep
  | unregister stopTimer destroyTimer => cases hstep
  | reset a => cases hstep
  | fire timerId => trivial
  | runTask i isServiceReady curState condition a reset =>
    rintro ⟨timerId, htask⟩
    unfold TimeObserver.step at hstep
    dsimp only at hstep
    rw [htask] at hstep
    cases hstep

/-- An id that is kept keeps its timer going through a registration. -/
theorem right_iff_live : s.Right ↔ s.Live ∧ s.leaked = ∅ := by
  constructor
  · exact fun h => ⟨h.live, h.leaked⟩
  · rintro ⟨hlive, hleaked⟩
    refine ⟨hlive, hleaked, fun a halready => ?_⟩
    have hpos := kept_of_alreadyExist halready
    rw [registerTimeObserver_of_kept hpos]
    exact ⟨hpos, fun hkept => (hlive hkept).imp_right (List.mem_append_left _)⟩

end TimeObserver

/-- For every sequence of calls, timers that fire and tasks that run, with every answer of the time
service: the switching goes on and no timer is leaked in any state of the run exactly when every
step is safe. -/
theorem right_iff (actions : List ObserverAction) :
    (∀ n s, observerSystem.run observerSystem.init (actions.take n) = some s → s.Right) ↔
      observerSystem.RunMeets TimeObserver.Safe observerSystem.init actions := by
  refine Lts.System.forall_take_iff_runMeets (I := TimeObserver.Consistent)
    (fun hconsistent hright hstep => ?_) (fun hstep => TimeObserver.safe_of_step_eq_none hstep)
    ⟨⟨Nat.one_pos, ?_, ?_⟩, ?_, ?_⟩ (TimeObserver.right_iff_live.2 ⟨?_, rfl⟩) actions
  · rw [TimeObserver.right_iff_live]
    exact TimeObserver.step_spec hconsistent hright.live hright.leaked hstep
  · exact fun t ht => absurd ht (Finset.notMem_empty t)
  · exact fun t ht => absurd rfl ht
  · exact fun hpos => absurd hpos (lt_irrefl 0)
  · exact fun t ht => absurd ht List.not_mem_nil
  · exact fun hpos => absurd hpos (lt_irrefl 0)

/-- A timer that is created and does not start. -/
theorem not_always_right : ¬ ∀ (actions : List ObserverAction) (s : TimeObserver),
    observerSystem.run observerSystem.init actions = some s → s.Right := by
  intro h
  have hright := h [.register ⟨⟨some 0, 0, 0, false⟩, true⟩] _ rfl
  exact absurd (hright.live (by decide)) (by decide)

end DeviceStandby
