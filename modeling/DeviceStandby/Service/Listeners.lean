import DeviceStandby.Core.Message
import DeviceStandby.Service.Dependencies
import DeviceStandby.Strategy.Startup

/-!
# The listeners of the modules

`ListenerManagerAdapter` makes a listener for the lid switch at every start of the modules and stops
it when they stop. The listener for background tasks is another matter: the map keeps the first one
that was ever made, and a start of the modules does not list it. It is listed as often as the
service was told, while it was ready, that the background task manager has come.
-/

namespace DeviceStandby

/-- What `InitStandyMode` sets for a parameter of the configuration. -/
def initStandyMode (mode : Int) : StandbyMode :=
  match mode with
  | 1 => .tabletMode
  | 2 => .phoneMode
  | 3 => .watchMode
  | 4 => .tvMode
  | 5 => .iviMode
  | _ => .phoneMode

/-- A listener object, with the number of the `Init` that made it. -/
inductive Listener where
  | inputManagerListener (number : Nat)
  | backgroundTaskListener (number : Nat)
  deriving DecidableEq

def Listener.isInputManager : Listener → Bool
  | .inputManagerListener _ => true
  | .backgroundTaskListener _ => false

/-- The mode of the device, what is compiled in, and the id of the background task manager. -/
structure ListenerConfig where
  standbyMode : StandbyMode
  multimodalInputEnable : Bool
  enableBackgroundTaskMgr : Bool
  backgroundTaskManagerServiceId : Int

/-- What the platform answers in one step. -/
structure ListenerAnswers where
  /-- The subscription that a listener gets to switch events, negative when there is none. -/
  subscribeSwitchEvent : Nat → Int
  subscribeBackgroundTask : Bool

/-- The fields of `ListenerManagerAdapter` and of its listeners, with the subscriptions to switch
events that the input manager holds, each with the listener that it calls. -/
structure ListenerManager where
  messageListenerList : List Listener := []
  listenerPluginMap : List (Int × Listener) := []
  /-- `subscriberId_` of each `InputManagerListener`. -/
  subscriberId : Nat → Int := fun _ => 0
  switchEvents : List (Int × Nat) := []
  /-- How often `Init` has made listeners. -/
  made : Nat := 0

/-! ## The listeners -/

/-- `InputManagerListener::StartListener`. -/
def InputManagerListener.startListener (answers : ListenerAnswers) (number : Nat)
    (m : ListenerManager) : ListenerManager :=
  let subscriberId := answers.subscribeSwitchEvent number
  { m with
    subscriberId := Function.update m.subscriberId number subscriberId
    switchEvents :=
      if subscriberId < 0 then m.switchEvents else m.switchEvents ++ [(subscriberId, number)] }

/-- `InputManagerListener::StopListener`. -/
def InputManagerListener.stopListener (number : Nat) (m : ListenerManager) : ListenerManager :=
  if m.subscriberId number < 0 then m
  else
    { m with
      switchEvents := m.switchEvents.filter (·.1 ≠ m.subscriberId number)
      subscriberId := Function.update m.subscriberId number 0 }

/-- `StartListener` of a listener, with whether it returns `ERR_OK`. -/
def Listener.startListener (answers : ListenerAnswers) (listener : Listener)
    (m : ListenerManager) : Bool × ListenerManager :=
  match listener with
  | .inputManagerListener number => (true, InputManagerListener.startListener answers number m)
  | .backgroundTaskListener _ => (answers.subscribeBackgroundTask, m)

/-- `StopListener` of a listener. -/
def Listener.stopListener (listener : Listener) (m : ListenerManager) : ListenerManager :=
  match listener with
  | .inputManagerListener number => InputManagerListener.stopListener number m
  | .backgroundTaskListener _ => m

/-! ## The adapter -/

namespace ListenerManager

/-- `ListenerManagerAdapter::Init`. `emplace` keeps the listener that the map has. -/
def init (cfg : ListenerConfig) (m : ListenerManager) : Bool × ListenerManager :=
  if cfg.standbyMode ≠ .phoneMode ∧ cfg.standbyMode ≠ .tabletMode ∧ cfg.standbyMode ≠ .unknown then
    (false, m)
  else
    let number := m.made
    let m := { m with made := number + 1 }
    let m :=
      if cfg.multimodalInputEnable then
        { m with messageListenerList := m.messageListenerList ++ [.inputManagerListener number] }
      else m
    let m :=
      if cfg.enableBackgroundTaskMgr ∧
          m.listenerPluginMap.lookup cfg.backgroundTaskManagerServiceId = none then
        { m with listenerPluginMap := m.listenerPluginMap ++
            [(cfg.backgroundTaskManagerServiceId, .backgroundTaskListener number)] }
      else m
    (true, m)

/-- `ListenerManagerAdapter::StartListener`, which looks at no result. -/
def startListener (answers : ListenerAnswers) (m : ListenerManager) : Bool × ListenerManager :=
  (true, m.messageListenerList.foldl (fun m listener => (listener.startListener answers m).2) m)

/-- `ListenerManagerAdapter::StopListener`. -/
def stopListener (m : ListenerManager) : ListenerManager :=
  m.messageListenerList.foldl (fun m listener => listener.stopListener m) m

/-- `ListenerManagerAdapter::UnInit`. -/
def unInit (m : ListenerManager) : ListenerManager :=
  { m.stopListener with messageListenerList := [] }

/-- `ListenerManagerAdapter::AddSystemServiceListener`. -/
def addSystemServiceListener (answers : ListenerAnswers) (systemAbilityId : Int)
    (m : ListenerManager) : ListenerManager :=
  match m.listenerPluginMap.lookup systemAbilityId with
  | none => m
  | some listener =>
    match listener.startListener answers m with
    | (true, m) => { m with messageListenerList := m.messageListenerList ++ [listener] }
    | (false, m) => m

/-- `ListenerManagerAdapter::RemoveSystemServiceListener`. -/
def removeSystemServiceListener (systemAbilityId : Int) (m : ListenerManager) : ListenerManager :=
  match m.listenerPluginMap.lookup systemAbilityId with
  | none => m
  | some listener =>
    { m with messageListenerList := m.messageListenerList.filter (· ≠ listener) }

/-- `ListenerManagerAdapter::UpdateListenerList`. -/
def updateListenerList (answers : ListenerAnswers) (isAdded : Bool) (systemAbilityId : Int)
    (m : ListenerManager) : ListenerManager :=
  if isAdded then m.addSystemServiceListener answers systemAbilityId
  else m.removeSystemServiceListener systemAbilityId

end ListenerManager

/-! ## The service -/

/-- The modules of the service, where the calls to the other managers succeed or fail as given. -/
def listenerPlugin (cfg : ListenerConfig) (answers : ListenerAnswers)
    (stateManager strategyManager constraintManager : Bool) : Plugin ListenerManager where
  stateManagerInit m := (stateManager, m)
  strategyManagerInit m := (strategyManager, m)
  constraintManagerInit m := (constraintManager, m)
  listenerManagerInit m := m.init cfg
  startListener m := m.startListener answers
  listenerManagerUnInit m := m.unInit
  constraintManagerUnInit m := m
  strategyManagerUnInit m := m
  stateManagerUnInit m := m

/-- What happens: a system ability comes or goes, or the handler runs the first task of
`InitReadyState` and `UninitReadyState`, or the first of a SYS_ABILITY_STATUS_CHANGED message. The
former overtake the latter. -/
inductive ListeningAction where
  | addSystemAbility (systemAbility : SystemAbility) (a : ObserverAnswers)
  | removeSystemAbility (systemAbility : SystemAbility) (a : ObserverAnswers)
  | runTask (stateManager strategyManager constraintManager : Bool) (a : RegisterAnswers)
      (answers : ListenerAnswers)
  | handleEvent (answers : ListenerAnswers)

/-- The service with its listeners. -/
abbrev Listening := Lifecycle ListenerManager

/-- One step. -/
def Listening.step (cfg : ListenerConfig) (s : Listening) : ListeningAction → Option Listening
  | .addSystemAbility systemAbility a => some (s.onAddSystemAbility systemAbility a)
  | .removeSystemAbility systemAbility a => some (s.onRemoveSystemAbility systemAbility a)
  | .runTask stateManager strategyManager constraintManager a answers =>
    Lifecycle.step s
      (.runTask (listenerPlugin cfg answers stateManager strategyManager constraintManager) a)
  | .handleEvent answers =>
    match s.messages with
    | [] => none
    | (isAdded, systemAbilityId) :: messages =>
      some { s with
        messages
        modules := s.modules.updateListenerList answers isAdded systemAbilityId }

def listeningSystem (cfg : ListenerConfig) : Lts.System Listening ListeningAction where
  init := { modules := {} }
  step := Listening.step cfg

/-- The message of `InputManagerListener::OnCallbackEvent`. -/
def lidMessage (switchOff : Bool) : StandbyMessage :=
  .commonEvent (if switchOff then .other "LID_CLOSE" else .lidOpen)

/-- What `InputManagerListener::OnCallbackEvent` posts. -/
def Listening.onCallbackEvent (s : Listening) (switchOff : Bool) : List StandbyMessage :=
  if s.isServiceReady then [lidMessage switchOff] else []

/-- What is posted when the lid is opened or closed: the input manager calls every listener that it
holds a subscription of. -/
def Listening.switchEvent (s : Listening) (switchOff : Bool) : List StandbyMessage :=
  s.modules.switchEvents.flatMap fun _ => s.onCallbackEvent switchOff

/-! ## What the service was told -/

/-- How often the background task manager was told to have come, and its listener could be started,
since it was last told to have gone or the modules were stopped. -/
def noticed (cfg : ListenerConfig) (s : Listening) (a : ListeningAction) (t : Listening)
    (count : Nat) : Nat :=
  match a with
  | .addSystemAbility .. | .removeSystemAbility .. => count
  | .runTask .. => if s.isServiceReady ∧ ¬ t.isServiceReady then 0 else count
  | .handleEvent answers =>
    match s.messages with
    | [] => count
    | (isAdded, systemAbilityId) :: _ =>
      if cfg.enableBackgroundTaskMgr ∧ systemAbilityId = cfg.backgroundTaskManagerServiceId then
        if ¬ isAdded then 0 else if answers.subscribeBackgroundTask then count + 1 else count
      else count

/-- The service with its listeners, and what it was told of the background task manager. -/
def noticedListening (cfg : ListenerConfig) : Lts.System (Listening × Nat) ListeningAction :=
  (listeningSystem cfg).withGhost 0 (noticed cfg)

/-- The listener of the last start of the modules. -/
def ListenerManager.last (m : ListenerManager) : Nat := m.made - 1

/-- The lists of the adapter: of the lid listeners the last one while the service is ready, and its
subscription if it got one; of the others as many copies of the first as the service was told. -/
structure ListenerManager.Listed (cfg : ListenerConfig) (isServiceReady : Bool) (count : Nat)
    (m : ListenerManager) : Prop where
  map : m.listenerPluginMap = if cfg.enableBackgroundTaskMgr ∧ m.made ≠ 0 then
    [(cfg.backgroundTaskManagerServiceId, .backgroundTaskListener 0)] else []
  inputs : m.messageListenerList.filter Listener.isInputManager =
    if cfg.multimodalInputEnable ∧ isServiceReady then [.inputManagerListener m.last] else []
  switchEvents : m.switchEvents =
    if cfg.multimodalInputEnable ∧ isServiceReady ∧ 0 ≤ m.subscriberId m.last then
      [(m.subscriberId m.last, m.last)]
    else []
  background : m.messageListenerList.filter (!·.isInputManager) =
    List.replicate count (.backgroundTaskListener 0)

/-! ## The adapter keeps its lists -/

section
variable {cfg : ListenerConfig} {answers : ListenerAnswers} {m : ListenerManager}
  {isServiceReady : Bool} {count : Nat} {systemAbilityId : Int}

namespace ListenerManager

/-- Only the lid listeners change something when they are started. -/
theorem startListener_filter : (m.startListener answers).2 =
    (m.messageListenerList.filter Listener.isInputManager).foldl
      (fun m listener => (listener.startListener answers m).2) m := by
  rw [List.foldl_filter]
  have hsame : (fun (m : ListenerManager) (listener : Listener) =>
      if listener.isInputManager then (listener.startListener answers m).2 else m) =
      fun m listener => (listener.startListener answers m).2 := by
    funext m listener
    cases listener <;> rfl
  rw [hsame]
  rfl

/-- Only the lid listeners change something when they are stopped. -/
theorem stopListener_filter : m.stopListener =
    (m.messageListenerList.filter Listener.isInputManager).foldl
      (fun m listener => listener.stopListener m) m := by
  rw [List.foldl_filter]
  have hsame : (fun (m : ListenerManager) (listener : Listener) =>
      if listener.isInputManager then listener.stopListener m else m) =
      fun m listener => listener.stopListener m := by
    funext m listener
    cases listener <;> rfl
  rw [hsame]
  rfl

/-- `Init` fails for the mode of the device only, and then changes nothing. -/
theorem init_false (hinit : (m.init cfg).1 = false) : m.init cfg = (false, m) := by
  unfold ListenerManager.init at hinit ⊢
  dsimp only at hinit ⊢
  split at hinit
  · rename_i hmode
    rw [if_pos hmode]
  · cases hinit

/-- `Init` leaves the map with the listener that the first one made. -/
theorem Listed.emplace (h : m.Listed cfg isServiceReady count) :
    (if cfg.enableBackgroundTaskMgr ∧
        m.listenerPluginMap.lookup cfg.backgroundTaskManagerServiceId = none then
      m.listenerPluginMap ++
        [(cfg.backgroundTaskManagerServiceId, .backgroundTaskListener m.made)]
    else m.listenerPluginMap) =
      if cfg.enableBackgroundTaskMgr then
        [(cfg.backgroundTaskManagerServiceId, .backgroundTaskListener 0)]
      else [] := by
  rw [h.map]
  cases cfg.enableBackgroundTaskMgr with
  | false => simp
  | true =>
    by_cases hmade : m.made = 0
    · simp [hmade]
    · simp [hmade]

/-- What `Init` makes when it succeeds. -/
theorem Listed.init (h : m.Listed cfg isServiceReady count) (hinit : (m.init cfg).1 = true) :
    (m.init cfg).2 = { m with
      made := m.made + 1
      messageListenerList :=
        if cfg.multimodalInputEnable then
          m.messageListenerList ++ [.inputManagerListener m.made]
        else m.messageListenerList
      listenerPluginMap :=
        if cfg.enableBackgroundTaskMgr then
          [(cfg.backgroundTaskManagerServiceId, .backgroundTaskListener 0)]
        else [] } := by
  rw [← h.emplace]
  unfold ListenerManager.init at hinit ⊢
  dsimp only at hinit ⊢
  split at hinit
  · cases hinit
  · rename_i hmode
    rw [if_neg hmode]
    cases cfg.multimodalInputEnable <;> simp only [Bool.false_eq_true, if_false, if_true] <;>
      split_ifs <;> rfl

/-- The modules start. -/
theorem Listed.start (h : m.Listed cfg false count) (hinit : (m.init cfg).1 = true) :
    ((m.init cfg).2.startListener answers).2.made ≠ 0 ∧
      ((m.init cfg).2.startListener answers).2.Listed cfg true count := by
  rw [startListener_filter, h.init hinit]
  have hinputs := h.inputs
  have hevents := h.switchEvents
  have hbackground := h.background
  simp only [Bool.false_eq_true, and_false, false_and, if_false] at hinputs hevents
  cases hin : cfg.multimodalInputEnable with
  | false =>
    simp only [Bool.false_eq_true, if_false, hinputs, List.foldl_nil]
    refine ⟨Nat.succ_ne_zero _, ?_, ?_, ?_, ?_⟩
    · simp
    · simpa [hin] using hinputs
    · simpa [hin] using hevents
    · exact hbackground
  | true =>
    have hlast : (m.messageListenerList ++ [Listener.inputManagerListener m.made]).filter
        Listener.isInputManager = [.inputManagerListener m.made] := by
      rw [List.filter_append, hinputs]
      rfl
    simp only [if_true, hlast, List.foldl_cons, List.foldl_nil, Listener.startListener,
      InputManagerListener.startListener]
    refine ⟨Nat.succ_ne_zero _, ?_, ?_, ?_, ?_⟩
    · simp
    · simpa [hin, last] using hlast
    · simp only [hevents, last, Nat.add_sub_cancel, Function.update_self, List.nil_append, hin,
        true_and, ← not_lt, ite_not]
    · rw [List.filter_append, hbackground]
      exact List.append_nil _

/-- Stopping the listeners ends the subscription to switch events. -/
theorem Listed.stopListener (h : m.Listed cfg true count) :
    m.stopListener.switchEvents = [] ∧
      m.stopListener.listenerPluginMap = m.listenerPluginMap ∧ m.stopListener.made = m.made := by
  have hevents := h.switchEvents
  rw [stopListener_filter, h.inputs]
  cases hin : cfg.multimodalInputEnable with
  | false =>
    rw [hin] at hevents
    simp only [Bool.false_eq_true, false_and, if_false, List.foldl_nil] at hevents ⊢
    exact ⟨hevents, trivial, trivial⟩
  | true =>
    simp only [hin, true_and, if_true, List.foldl_cons, List.foldl_nil, Listener.stopListener,
      InputManagerListener.stopListener] at hevents ⊢
    by_cases hfailed : m.subscriberId m.last < 0
    · rw [if_pos hfailed]
      rw [if_neg (not_le.2 hfailed)] at hevents
      exact ⟨hevents, rfl, rfl⟩
    · rw [if_neg hfailed]
      rw [if_pos (not_lt.1 hfailed)] at hevents
      exact ⟨by simp [hevents], rfl, rfl⟩

/-- The modules stop. -/
theorem Listed.unInit (h : m.Listed cfg true count) : m.unInit.Listed cfg false 0 := by
  obtain ⟨hevents, hmap, hmade⟩ := h.stopListener
  refine ⟨?_, ?_, ?_, rfl⟩
  · show m.stopListener.listenerPluginMap = _
    rw [hmap, h.map]
    show _ = if cfg.enableBackgroundTaskMgr ∧ m.stopListener.made ≠ 0 then _ else _
    rw [hmade]
  · simp [ListenerManager.unInit]
  · show m.stopListener.switchEvents = _
    rw [hevents]
    simp

/-- Once `Init` has run, the map has the listener of the background task manager. -/
theorem Listed.lookup (h : m.Listed cfg isServiceReady count) (hmade : m.made ≠ 0)
    (systemAbilityId : Int) : m.listenerPluginMap.lookup systemAbilityId =
      if cfg.enableBackgroundTaskMgr ∧ systemAbilityId = cfg.backgroundTaskManagerServiceId then
        some (.backgroundTaskListener 0)
      else none := by
  rw [h.map]
  cases cfg.enableBackgroundTaskMgr with
  | false => simp
  | true =>
    by_cases hid : systemAbilityId = cfg.backgroundTaskManagerServiceId
    · simp [hmade, hid]
    · simp [hmade, hid, List.lookup_cons, beq_eq_false_iff_ne.2 hid]

/-- One more copy of the background listener. -/
theorem Listed.append (h : m.Listed cfg isServiceReady count) :
    { m with
      messageListenerList :=
        m.messageListenerList ++ [Listener.backgroundTaskListener 0] }.Listed cfg isServiceReady
      (count + 1) := by
  refine ⟨h.map, ?_, h.switchEvents, ?_⟩
  · rw [List.filter_append, h.inputs]
    exact List.append_nil _
  · rw [List.filter_append, h.background, List.replicate_succ']
    rfl

/-- All copies of the background listener go. -/
theorem Listed.filter (h : m.Listed cfg isServiceReady count) :
    { m with
      messageListenerList :=
        m.messageListenerList.filter (· ≠ Listener.backgroundTaskListener 0) }.Listed cfg
      isServiceReady 0 := by
  refine ⟨h.map, ?_, h.switchEvents, ?_⟩
  · refine Eq.trans ?_ h.inputs
    rw [List.filter_filter]
    refine List.filter_congr fun listener _ => ?_
    cases listener <;> simp [Listener.isInputManager]
  · rw [List.filter_filter, List.replicate_zero, List.filter_eq_nil_iff]
    intro listener hmem hboth
    rw [Bool.and_eq_true, decide_eq_true_eq] at hboth
    have hback : listener ∈ m.messageListenerList.filter (!·.isInputManager) :=
      List.mem_filter.2 ⟨hmem, hboth.1⟩
    rw [h.background] at hback
    exact hboth.2 (List.eq_of_mem_replicate hback)

/-- The service is told that a system ability has come or gone. -/
theorem Listed.update (h : m.Listed cfg isServiceReady count) (hmade : m.made ≠ 0)
    (answers : ListenerAnswers) (isAdded : Bool) (systemAbilityId : Int) :
    (m.updateListenerList answers isAdded systemAbilityId).made = m.made ∧
      (m.updateListenerList answers isAdded systemAbilityId).Listed cfg isServiceReady
        (if cfg.enableBackgroundTaskMgr ∧ systemAbilityId = cfg.backgroundTaskManagerServiceId then
          if ¬ isAdded then 0 else if answers.subscribeBackgroundTask then count + 1 else count
        else count) := by
  unfold updateListenerList addSystemServiceListener removeSystemServiceListener
  rw [h.lookup hmade]
  by_cases hlisted : cfg.enableBackgroundTaskMgr = true ∧
      systemAbilityId = cfg.backgroundTaskManagerServiceId
  · rw [if_pos hlisted, if_pos hlisted]
    cases isAdded with
    | false => exact ⟨rfl, h.filter⟩
    | true =>
      simp only [if_true, not_true_eq_false, if_false, Listener.startListener]
      cases answers.subscribeBackgroundTask with
      | false => exact ⟨rfl, h⟩
      | true => exact ⟨rfl, h.append⟩
  · rw [if_neg hlisted, if_neg hlisted]
    cases isAdded <;> exact ⟨rfl, h⟩

end ListenerManager

end

/-! ## The start of the modules

`Startup` follows the lists through all modules, without the objects in them.
-/

/-- The class of a listener. -/
def Listener.messageListener : Listener → MessageListener
  | .inputManagerListener _ => .inputManager
  | .backgroundTaskListener _ => .backgroundTask

/-- What the listener manager is told in an attempt to start the modules. -/
def Attempt.listenerConfig (scfg : StrategyConfig) (ucfg : StartupConfig) (a : Attempt) :
    ListenerConfig where
  standbyMode := a.mode
  multimodalInputEnable := ucfg.multimodalInput
  enableBackgroundTaskMgr := ucfg.backgroundTaskMgr
  backgroundTaskManagerServiceId := scfg.backgroundTaskManagerServiceId

/-- The lists of the modules are those of the listener manager. -/
structure ListenerManager.Shown (m : ListenerManager) (modules : Modules) : Prop where
  messageListenerList :
    modules.messageListenerList = m.messageListenerList.map Listener.messageListener
  listenerPluginMap : modules.listenerPluginMap =
    m.listenerPluginMap.map fun entry => (entry.1, entry.2.messageListener)

section
variable {m : ListenerManager} {modules : Modules} {scfg : StrategyConfig} {ucfg : StartupConfig}
  {a : Attempt}

/-- A map has a listener under an id when it has its class. -/
theorem lookup_messageListener (id : Int) (listeners : List (Int × Listener)) :
    (listeners.map fun entry => (entry.1, entry.2.messageListener)).lookup id =
      (listeners.lookup id).map Listener.messageListener := by
  induction listeners with
  | nil => rfl
  | cons entry listeners ih =>
    obtain ⟨id', listener⟩ := entry
    rw [List.map_cons, List.lookup_cons, List.lookup_cons, ih]
    cases id == id' <;> rfl

/-- Both models start the listeners alike. -/
theorem ListenerManager.Shown.init (h : m.Shown modules) :
    (ListenerManagerAdapter.init scfg ucfg a modules).1 =
        (m.init (a.listenerConfig scfg ucfg)).1 ∧
      (m.init (a.listenerConfig scfg ucfg)).2.Shown
        (ListenerManagerAdapter.init scfg ucfg a modules).2 := by
  obtain ⟨hlist, hmap⟩ := h
  have hnone : modules.listenerPluginMap.lookup scfg.backgroundTaskManagerServiceId = none ↔
      m.listenerPluginMap.lookup scfg.backgroundTaskManagerServiceId = none := by
    rw [hmap, lookup_messageListener, Option.map_eq_none_iff]
  unfold ListenerManagerAdapter.init ListenerManager.init Attempt.listenerConfig
  dsimp only
  by_cases hmode : a.mode ≠ .phoneMode ∧ a.mode ≠ .tabletMode ∧ a.mode ≠ .unknown
  · rw [if_pos hmode, if_pos hmode]
    exact ⟨rfl, hlist, hmap⟩
  rw [if_neg hmode, if_neg hmode]
  -- the list and the map grow by the same listeners
  cases ucfg.multimodalInput <;> simp only [Bool.false_eq_true, if_false, if_true, hnone] <;>
    split_ifs <;> refine ⟨trivial, ?_, ?_⟩
  all_goals simp [hlist, hmap, Listener.messageListener]

end

/-! ## Runs -/

section
variable {cfg : ListenerConfig} {s t : Listening} {u v : Listening × Nat} {a : ListeningAction}
  {systemAbility : SystemAbility}

/-- The lists are what they should be, and no message is there before the first start. -/
structure Tended (cfg : ListenerConfig) (u : Listening × Nat) : Prop where
  made : u.1.isServiceReady = true ∨ u.1.messages ≠ [] → u.1.modules.made ≠ 0
  listed : u.1.modules.Listed cfg u.1.isServiceReady u.2

/-- A notice leaves the modules alone, and is only handed on while the service is ready. -/
structure Passed (s t : Listening) : Prop where
  modules : t.modules = s.modules
  isServiceReady : t.isServiceReady = s.isServiceReady
  messages : t.messages = s.messages ∨ s.isServiceReady = true

/-- An add notice passes the listeners by: its message is posted. -/
theorem passed_add (systemAbility : SystemAbility) (a : ObserverAnswers) (s : Listening) :
    Passed s (s.onAddSystemAbility systemAbility a) := by
  obtain ⟨_, _, heq⟩ := s.onAddSystemAbility_spec systemAbility a
  refine ⟨by rw [heq], by rw [heq], ?_⟩
  unfold Lifecycle.onAddSystemAbility
  cases systemAbility with
  | dependency d =>
    left
    cases d <;> dsimp only <;> split_ifs <;> rfl
  | other systemAbilityId =>
    cases hready : s.isServiceReady with
    | true => exact .inr rfl
    | false =>
      left
      simp only [Lifecycle.notifySystemAbilityStatusChanged, hready, Bool.false_eq_true, if_false]
      split_ifs <;> rfl

/-- So does a remove notice. -/
theorem passed_remove (systemAbility : SystemAbility) (a : ObserverAnswers) (s : Listening) :
    Passed s (s.onRemoveSystemAbility systemAbility a) := by
  obtain ⟨_, _, heq⟩ := s.onRemoveSystemAbility_spec systemAbility a
  refine ⟨by rw [heq], by rw [heq], ?_⟩
  unfold Lifecycle.onRemoveSystemAbility
  cases systemAbility with
  | dependency d =>
    left
    cases d <;> dsimp only <;> split_ifs <;> rfl
  | other systemAbilityId =>
    cases hready : s.isServiceReady with
    | true => exact .inr rfl
    | false =>
      left
      simp only [Lifecycle.notifySystemAbilityStatusChanged, hready, Bool.false_eq_true, if_false]
      split_ifs <;> rfl

/-- What passes the listeners by leaves them as they were. -/
theorem Tended.passed {count : Nat} (h : Tended cfg (s, count)) (hpassed : Passed s t) :
    Tended cfg (t, count) := by
  constructor
  · intro hsome
    show t.modules.made ≠ 0
    rw [hpassed.modules]
    refine h.made ?_
    rcases hpassed.messages with hsame | hready
    · exact hsome.imp (hpassed.isServiceReady ▸ ·) (hsame ▸ ·)
    · exact .inl hready
  · show t.modules.Listed cfg t.isServiceReady count
    rw [hpassed.modules, hpassed.isServiceReady]
    exact h.listed

/-- The task of `InitReadyState` starts the modules, or changes nothing. -/
theorem runInitReadyState_listeners (cfg : ListenerConfig) (answers : ListenerAnswers)
    (stateManager strategyManager constraintManager : Bool) (a : RegisterAnswers)
    (s : Listening) :
    s.runInitReadyState
        (listenerPlugin cfg answers stateManager strategyManager constraintManager) a = s ∨
      (s.isServiceReady = false ∧ (s.modules.init cfg).1 = true ∧ ∃ timeObserver,
        s.runInitReadyState
            (listenerPlugin cfg answers stateManager strategyManager constraintManager) a =
          { s with
            modules := ((s.modules.init cfg).2.startListener answers).2
            timeObserver
            isServiceReady := true }) := by
  unfold Lifecycle.runInitReadyState
  split_ifs with hready
  · exact .inl rfl
  · simp only [Lifecycle.initModules, listenerPlugin]
    -- up to the listeners no call changes the modules
    cases stateManager with
    | false => exact .inl rfl
    | true =>
      cases strategyManager with
      | false => exact .inl rfl
      | true =>
        cases constraintManager with
        | false => exact .inl rfl
        | true =>
          dsimp only
          cases hinit : (s.modules.init cfg).1 with
          | false =>
            left
            rw [ListenerManager.init_false hinit]
          | true =>
            right
            rw [← Prod.eta (s.modules.init cfg), hinit]
            exact ⟨Bool.eq_false_iff.2 hready, rfl, _, rfl⟩

/-- The modules start, or stay as they are. -/
theorem Tended.runInitReadyState {count : Nat} (h : Tended cfg (s, count))
    (answers : ListenerAnswers) (stateManager strategyManager constraintManager : Bool)
    (a : RegisterAnswers) :
    Tended cfg (s.runInitReadyState
        (listenerPlugin cfg answers stateManager strategyManager constraintManager) a, count) ∧
      (s.isServiceReady = true → (s.runInitReadyState (listenerPlugin cfg answers stateManager
        strategyManager constraintManager) a).isServiceReady = true) := by
  rcases runInitReadyState_listeners cfg answers stateManager strategyManager constraintManager a
    s with hsame | ⟨hready, hinit, _, hstart⟩
  · rw [hsame]
    exact ⟨h, id⟩
  · rw [hstart]
    have hlisted := h.listed
    rw [hready] at hlisted
    obtain ⟨hmade, hstarted⟩ := hlisted.start hinit
    exact ⟨⟨fun _ => hmade, hstarted⟩, fun _ => rfl⟩

/-- The modules stop, if they were running. -/
theorem Tended.runUninitReadyState {count : Nat} (h : Tended cfg (s, count))
    (answers : ListenerAnswers) (stateManager strategyManager constraintManager : Bool) :
    Tended cfg (s.runUninitReadyState
        (listenerPlugin cfg answers stateManager strategyManager constraintManager),
        if s.isServiceReady then 0 else count) ∧
      (s.runUninitReadyState (listenerPlugin cfg answers stateManager strategyManager
        constraintManager)).isServiceReady = false := by
  unfold Lifecycle.runUninitReadyState
  cases hready : s.isServiceReady with
  | false =>
    rw [if_pos Bool.false_ne_true, if_neg Bool.false_ne_true]
    exact ⟨h, hready⟩
  | true =>
    rw [if_neg (not_not_intro rfl), if_pos rfl]
    have hlisted := h.listed
    rw [hready] at hlisted
    refine ⟨⟨fun _ => ?_, hlisted.unInit⟩, rfl⟩
    have hmade := h.made (.inl hready)
    show s.modules.unInit.made ≠ 0
    rw [ListenerManager.unInit, hlisted.stopListener.2.2]
    exact hmade

/-- A step keeps the lists. -/
theorem Tended.step (h : Tended cfg u) (hs : (noticedListening cfg).step u a = some v) :
    Tended cfg v := by
  obtain ⟨hs, hcount⟩ := Lts.System.withGhost_step_iff.1 hs
  obtain ⟨s, count⟩ := u
  obtain ⟨t, count'⟩ := v
  dsimp only at hs hcount
  cases a with
  | addSystemAbility systemAbility a =>
    cases hs
    cases hcount
    exact h.passed (passed_add systemAbility a s)
  | removeSystemAbility systemAbility a =>
    cases hs
    cases hcount
    exact h.passed (passed_remove systemAbility a s)
  | runTask stateManager strategyManager constraintManager a answers =>
    dsimp only [listeningSystem, Listening.step, Lifecycle.step] at hs
    split at hs
    · cases hs
    · rename_i tasks _
      have htaken : Tended cfg ({ s with tasks }, count) := ⟨h.made, h.listed⟩
      obtain ⟨ht, hkept⟩ :=
        htaken.runInitReadyState answers stateManager strategyManager constraintManager a
      cases hs
      rw [hcount, noticed, if_neg fun hboth => hboth.2 (hkept hboth.1)]
      exact ht
    · rename_i tasks _
      have htaken : Tended cfg ({ s with tasks }, count) := ⟨h.made, h.listed⟩
      obtain ⟨ht, hstopped⟩ :=
        htaken.runUninitReadyState answers stateManager strategyManager constraintManager
      cases hs
      rw [hcount, noticed, hstopped]
      simpa using ht
  | handleEvent answers =>
    dsimp only [listeningSystem, Listening.step] at hs
    split at hs
    · cases hs
    · rename_i isAdded systemAbilityId messages hmessages
      have hsome : s.messages ≠ [] := by
        rw [hmessages]
        exact List.cons_ne_nil _ _
      have hmade : s.modules.made ≠ 0 := h.made (.inr hsome)
      obtain ⟨hsame, hlisted⟩ := h.listed.update hmade answers isAdded systemAbilityId
      cases hs
      constructor
      · intro _
        exact hsame ▸ hmade
      · rw [hcount, noticed, hmessages]
        exact hlisted

/-- In every run. -/
theorem tended_reachable (h : Lts.Reachable (noticedListening cfg) u) : Tended cfg u := by
  refine h.invariant ?_ fun _ _ hs hi => hi.step hs
  refine ⟨?_, ?_, ?_, ?_, rfl⟩
  · rintro (hready | hmessages)
    · cases hready
    · exact absurd rfl hmessages
  · exact (if_neg fun hmade => hmade.2 rfl).symm
  · exact (if_neg fun hready => by cases hready.2).symm
  · exact (if_neg fun hready => by cases hready.2.1).symm

/-- Over every run a move of the lid is posted exactly once while the service is ready and the
listener of the last start got its subscription, and else not at all; and the listener for
background tasks that is listed is the first that was ever made, as often as the service was told
since that its manager has come: a start of the modules does not list it. -/
theorem listeners_follow (h : Lts.Reachable (noticedListening cfg) u) :
    (∀ switchOff, u.1.switchEvent switchOff =
      if cfg.multimodalInputEnable ∧ u.1.isServiceReady ∧
          0 ≤ u.1.modules.subscriberId u.1.modules.last then [lidMessage switchOff] else []) ∧
      u.1.modules.messageListenerList.filter Listener.isInputManager =
        (if cfg.multimodalInputEnable ∧ u.1.isServiceReady then
          [.inputManagerListener u.1.modules.last] else []) ∧
      u.1.modules.messageListenerList.filter (!·.isInputManager) =
        List.replicate u.2 (.backgroundTaskListener 0) := by
  have hlisted := (tended_reachable h).listed
  refine ⟨fun switchOff => ?_, hlisted.inputs, hlisted.background⟩
  rw [Listening.switchEvent, hlisted.switchEvents]
  by_cases hsubscribed : cfg.multimodalInputEnable = true ∧ u.1.isServiceReady = true ∧
      0 ≤ u.1.modules.subscriberId u.1.modules.last
  · rw [if_pos hsubscribed, if_pos hsubscribed, List.flatMap_singleton, Listening.onCallbackEvent,
      if_pos hsubscribed.2.1]
  · rw [if_neg hsubscribed, if_neg hsubscribed, List.flatMap_nil]

end

/-! ## A run -/

/-- A phone with everything compiled in. -/
private def phoneConfig : ListenerConfig where
  standbyMode := initStandyMode 0
  multimodalInputEnable := true
  enableBackgroundTaskMgr := true
  backgroundTaskManagerServiceId := 1903

private def obliging : ObserverAnswers where
  created := true
  subscribed := true
  register :=
    { timeDiff := some 0, randomDelay := 0, wallTimeMs := 0, startTimer := true
      createTimer := true }
  stopTimer := true
  destroyTimer := true

private def obligingListener : ListenerAnswers where
  subscribeSwitchEvent number := number + 7
  subscribeBackgroundTask := true

private def starting : ListeningAction :=
  .runTask true true true obliging.register obligingListener

/-- The abilities come, the modules start, and the background task manager comes; the power manager
goes and comes back. The listener of the second start posts the lid, and the one for background
tasks is not listed any more. -/
theorem listeners_follow_sample : ∃ u, Lts.Reachable (noticedListening phoneConfig) u ∧
    u.1.switchEvent false = [.commonEvent .lidOpen] ∧
    u.1.modules.messageListenerList.filter (!·.isInputManager) = [] := by
  obtain ⟨u, hr, h⟩ := Lts.System.exists_check (noticedListening phoneConfig)
    (fun _ _ => True) (fun _ _ => true) (fun _ _ _ => trivial)
    (fun u => decide (u.1.isServiceReady = true ∧ u.1.modules.subscriberId u.1.modules.last = 8 ∧
      u.2 = 0))
    (([.commonEvent, .timeService, .abilityMgr, .bundleMgr, .powerManager, .appMgr,
      .multimodalInput].map fun d => .addSystemAbility (.dependency d) obliging) ++
      [starting, .addSystemAbility (.other 1903) obliging, starting,
        .handleEvent obligingListener, .removeSystemAbility (.dependency .powerManager) obliging,
        starting, .addSystemAbility (.dependency .powerManager) obliging, starting])
    (by decide +kernel)
  obtain ⟨hready, hid, hcount⟩ := of_decide_eq_true h
  obtain ⟨hswitch, -, hbackground⟩ := listeners_follow hr
  refine ⟨u, hr, ?_, ?_⟩
  · rw [hswitch, if_pos ⟨rfl, hready, by rw [hid]; decide⟩]
    rfl
  · rw [hbackground, hcount]
    rfl

end DeviceStandby
