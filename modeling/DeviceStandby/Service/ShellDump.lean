import DeviceStandby.Allow.Query
import DeviceStandby.Config.DebugMode
import DeviceStandby.Service.Subscriber
import DeviceStandby.Strategy.Adapter

/-!
# Shell commands

The first argument of a shell command says who handles it, and the service, the state manager, the
current state and the strategies read the arguments after it by their places. A place beyond the
last argument is read where nobody has looked at their number: then the program is `none`. Some
handlers look and some do not: `shellDump_isSome_iff` says which commands are read within their
arguments, whatever the state of the service is.
-/

namespace DeviceStandby

abbrev NO_DUMP_PARAM_NUMS : Nat := 0
abbrev DUMP_DETAILED_INFO_MAX_NUMS : Nat := 2
abbrev DUMP_SLEEP_ENTER_STATE_NUMS : Nat := 3
abbrev DUMP_SLEEP_ALLOW_LIST_NUMS : Nat := 4
abbrev DUMP_SLEEP_APPLY_ALLOW_LIST_NUMS : Nat := 7
abbrev DUMP_THREE_PARAM : Nat := 3
abbrev DUMP_FIRST_PARAM : Nat := 0
abbrev DUMP_SECOND_PARAM : Nat := 1
abbrev DUMP_THIRD_PARAM : Nat := 2
abbrev DUMP_FOURTH_PARAM : Nat := 3
abbrev DUMP_FIFTH_PARAM : Nat := 4
abbrev DUMP_SIXTH_PARAM : Nat := 5
abbrev DUMP_SEVENTH_PARAM : Nat := 6
abbrev DUMP_DETAIL_INFO : String := "-D"
abbrev DUMP_ENTER_STATE : String := "-E"
abbrev DUMP_APPLY_ALLOW_RECORD : String := "-A"
abbrev DUMP_SIMULATE_SENSOR : String := "-S"
abbrev DUMP_SUBSCRIBER_OBSERVER : String := "-O"
abbrev DUMP_TURN_ON_OFF_SWITCH : String := "-T"
abbrev DUMP_CHANGE_STATE_TIMEOUT : String := "-C"
abbrev DUMP_PUSH_STRATEGY_CHANGE : String := "-P"
abbrev DUMP_ON_POWER_OVERUSED : String := "--poweroverused"
abbrev DUMP_ON_ACTION_CHANGED : String := "--actionchanged"
abbrev DUMP_RESET_STATE : String := "--reset_state"
abbrev DUMP_DETAIL_CONFIG : String := "--config"
abbrev DUMP_STRATGY_DETAIL : String := "--strategy"

/-- `STATE_NAME_LIST`, searched for a name. -/
def stateOfName : String → Option StandbyState
  | "working" => some .working
  | "dark" => some .dark
  | "nap" => some .nap
  | "maintenance" => some .maintenance
  | "sleep" => some .sleep
  | _ => none

/-- The parts of a result: texts as they stand, and the objects that the longer prints show. -/
inductive DumpItem where
  | text (text : String)
  | usage
  | allowListInfo (info : Option String)
  | standbyConfigInfo (debugMode : Bool) (config : StandbyConfigManager)
  | stateManager (service : Service)
  | networkStrategy (strategy : NetworkStrategy)
  | runningLockStrategy (strategy : RunningLockStrategy)
  | observers (subscriberList : List Subscriber)
  | allowInfoList (allowed restricted : List AllowInfo)

/-- What a command reads and changes. The tasks that end an evaluation after a time have no name,
and the events on the allow list go to the subscribers outside. -/
structure ShellState where
  standby : Standby
  allow : AllowService
  debug : DebugState
  subscriber : StandbyStateSubscriber
  delayedEnds : Nat := 0
  callbacks : List Callback := []
  exemptionListUpdated : List (Int × String × Nat × Bool) := []
  result : List DumpItem := []

/-- What surrounds a command: the configuration of the state machine and of the allow list, the
platform and its clocks, and who is the caller of the requests. -/
structure ShellEnv where
  cfg : StandbyConfig
  platform : Platform
  resourceConfig : ResourceConfigMap
  condition : BitVec 32
  caller : Caller
  monotonicTime : Int
  now : Int

namespace ShellState

/-- `result +=`. -/
def print (item : DumpItem) (s : ShellState) : ShellState :=
  { s with result := s.result ++ [item] }

/-- The state machine does something. -/
def onService (f : Service → Service) (s : ShellState) : ShellState :=
  { s with standby.service := f s.standby.service }

/-- `EndEvalCurrentState(false)` is posted with a delay. -/
def postDelayedEnd (s : ShellState) : ShellState :=
  { s with delayedEnds := s.delayedEnds + 1 }

section
variable (env : ShellEnv) (argsInStr : List String)

/-! ## The state manager -/

/-- `StateManagerAdapter::DumpResetState`, whose `Init` succeeds. -/
def dumpResetState (s : ShellState) : ShellState :=
  (s.onService fun service => StateManagerAdapter.init env.cfg env.platform
    (StateManagerAdapter.unInit env.cfg env.platform service)).print
      (.text "\nreset state and validate debug parameter\n")

/-- `StateManagerAdapter::DumpEnterSpecifiedState`. -/
def StateManagerAdapter.dumpEnterSpecifiedState (s : ShellState) : Option ShellState := do
  let s := s.onService fun service => { service with isBlocked := false }
  if (← argsInStr[DUMP_THIRD_PARAM]?) = "false" then
    return s.onService fun service => service.postTask (.transitNextState service.curState)
  else
    match stateOfName (← argsInStr[DUMP_SECOND_PARAM]?) with
    | none => return s.print (.text "state name is not correct")
    | some state => return s.onService (transitToStateInner env.cfg env.platform state)

/-- `StateManagerAdapter::DumpActivateMotion`. -/
def dumpActivateMotion (s : ShellState) : Option ShellState := do
  let action ← argsInStr[DUMP_SECOND_PARAM]?
  if action = "--motion" then
    return (s.onService fun service =>
      service.postTask (.transitNextState service.curState)).postDelayedEnd.print
        (.text "finished start periodly sensor\n")
  else if action = "--blocked" then
    return s.onService (blockCurrentState env.cfg env.platform)
  else if action = "--halfhour" then return s.onService (onScreenOffHalfHourInner true true)
  else return s

/-- `SleepState::ShellDump`. -/
def SleepState.shellDump (s : ShellState) : Option ShellState := do
  if (← argsInStr[DUMP_FIRST_PARAM]?) = DUMP_SIMULATE_SENSOR then
    if (← argsInStr[DUMP_SECOND_PARAM]?) = "--repeat" then
      return (s.onService fun service => service.postTask .repeatedDetection).postDelayedEnd.print
        (.text "finished start repeated sensor\n")
    else return s
  else return s

/-- `ShellDump` of the current state object. Only SLEEP overrides `BaseState::ShellDump`. -/
def stateShellDump (s : ShellState) : Option ShellState :=
  match s.standby.service.curState with
  | .sleep => SleepState.shellDump argsInStr s
  | .working | .dark | .nap | .maintenance => some s

/-- `StateManagerAdapter::ShellDump`. -/
def StateManagerAdapter.shellDump (s : ShellState) : Option ShellState := do
  let command ← argsInStr[DUMP_FIRST_PARAM]?
  let s ←
    if command = DUMP_DETAIL_INFO then do
      let s := s.print (.stateManager s.standby.service)
      if (← argsInStr[DUMP_SECOND_PARAM]?) = DUMP_RESET_STATE then some (dumpResetState env s)
      else some s
    else if command = DUMP_ENTER_STATE then
      StateManagerAdapter.dumpEnterSpecifiedState env argsInStr s
    else if command = DUMP_SIMULATE_SENSOR then s.dumpActivateMotion env argsInStr
    else some s
  s.stateShellDump argsInStr

/-! ## The strategies -/

/-- `ShellDump` of a strategy that prints its details. -/
def dumpStrategyDetail (item : DumpItem) (s : ShellState) : Option ShellState := do
  if (← argsInStr[DUMP_FIRST_PARAM]?) = DUMP_DETAIL_INFO then
    if (← argsInStr[DUMP_SECOND_PARAM]?) = DUMP_STRATGY_DETAIL then return s.print item
    else return s
  else return s

/-- `NetworkStrategy::ShellDump`. -/
def NetworkStrategy.shellDump (s : ShellState) : Option ShellState :=
  s.dumpStrategyDetail argsInStr (.networkStrategy s.standby.network)

/-- `RunningLockStrategy::ShellDump`. -/
def RunningLockStrategy.shellDump (s : ShellState) : Option ShellState :=
  s.dumpStrategyDetail argsInStr (.runningLockStrategy s.standby.runningLock)

/-- `StrategyManagerAdapter::ShellDump`. -/
def StrategyManagerAdapter.shellDump (s : ShellState) : Option ShellState :=
  s.standby.strategyList.foldlM (fun s strategy =>
    match strategy with
    | .network => NetworkStrategy.shellDump argsInStr s
    | .runningLock => RunningLockStrategy.shellDump argsInStr s) s

/-! ## The service -/

/-- `StandbyServiceImpl::OnPluginShellDump`. The constraint manager and the listener manager do
nothing. -/
def onPluginShellDump (s : ShellState) : Option ShellState := do
  StrategyManagerAdapter.shellDump argsInStr (← StateManagerAdapter.shellDump env argsInStr s)

/-- `StandbyServiceImpl::DumpShowDetailInfo`. -/
def dumpShowDetailInfo (s : ShellState) : Option ShellState := do
  let s := s.print (.allowListInfo (s.allow.dumpAllowListInfo env.monotonicTime))
  if argsInStr.length < DUMP_DETAILED_INFO_MAX_NUMS then return s
  else if (← argsInStr[DUMP_SECOND_PARAM]?) = DUMP_DETAIL_CONFIG then
    return s.print (.standbyConfigInfo s.debug.debugMode s.debug.config)
  else return s

/-- `StandbyServiceImpl::DumpEnterSpecifiedState`. -/
def dumpEnterSpecifiedState (s : ShellState) : Option ShellState :=
  if argsInStr.length < DUMP_SLEEP_ENTER_STATE_NUMS then
    some (s.print (.text "not enough parameter for changing sleep mode\n"))
  else StateManagerAdapter.shellDump env argsInStr s

/-- The first two branches of `DumpModifyAllowList`, which ask for a change. What the request
answers is ignored. -/
def requestAllow (request : ResourceRequest) (apply : Bool) (s : ShellState) : ShellState :=
  let answer :=
    if apply then s.allow.applyAllowResource env.resourceConfig env.caller request env.condition
    else s.allow.unapplyAllowResource env.caller request
  { s with allow := answer.toOption.getD s.allow }

/-- The last branch of `DumpModifyAllowList`, which prints the two lists of some types. -/
def printAllow (allowType : BitVec 32) (isApp : Bool) (s : ShellState) : ShellState :=
  s.print (.allowInfoList
    (s.allow.getAllowListInner env.resourceConfig allowType isApp.toNat env.condition)
    ((List.range MAX_ALLOW_TYPE_NUM).flatMap fun restrictTypeIndex =>
      if allowType &&& BitVec.twoPow 32 restrictTypeIndex = 0 then []
      else AllowService.getPersistAllowList env.resourceConfig restrictTypeIndex false
        (isApp.toNat == REASON_APP_API) env.condition))

/-- `StandbyServiceImpl::DumpModifyAllowList`. -/
def dumpModifyAllowList (s : ShellState) : Option ShellState := do
  let notEnough := s.print (.text "not enough parameter for changing allow list\n")
  if argsInStr.length < DUMP_SLEEP_ALLOW_LIST_NUMS then return notEnough
  else
    let action ← argsInStr[DUMP_SECOND_PARAM]?
    if action ≠ "--get" ∧ argsInStr.length < DUMP_SLEEP_APPLY_ALLOW_LIST_NUMS then return notEnough
    else
      let uid := atoi (← argsInStr[DUMP_THIRD_PARAM]?)
      let name ← argsInStr[DUMP_FOURTH_PARAM]?
      if action = "--apply" then
        let allowType := BitVec.ofInt 32 (atoi (← argsInStr[DUMP_FIFTH_PARAM]?))
        let duration := atoi (← argsInStr[DUMP_SIXTH_PARAM]?)
        let reasonCode := Json.toUInt32 (atoi (← argsInStr[DUMP_SEVENTH_PARAM]?))
        return (s.requestAllow env ⟨allowType, uid, name, duration, "dump", reasonCode⟩ true).print
          (.text "add one object to allow list\n")
      else if action = "--unapply" then
        let allowType := BitVec.ofInt 32 (atoi (← argsInStr[DUMP_FIFTH_PARAM]?))
        let reasonCode := Json.toUInt32 (atoi (← argsInStr[DUMP_SEVENTH_PARAM]?))
        return (s.requestAllow env ⟨allowType, uid, name, 0, "dump", reasonCode⟩ false).print
          (.text "remove one object to allow list\n")
      else if action = "--get" then
        let allowType := BitVec.ofInt 32 (atoi (← argsInStr[DUMP_THIRD_PARAM]?))
        let isApp := decide (atoi (← argsInStr[DUMP_FOURTH_PARAM]?) = 0)
        return s.printAllow env allowType isApp
      else return s

/-- `StandbyServiceImpl::DumpPushStrategyChange`. -/
def dumpPushStrategyChange (s : ShellState) : Option ShellState := do
  let s ←
    if (← argsInStr[DUMP_SECOND_PARAM]?) = "--allowlist" then do
      let uid := atoi (← argsInStr[DUMP_THIRD_PARAM]?)
      let name ← argsInStr[DUMP_FOURTH_PARAM]?
      let allowType := Json.toUInt32 (atoi (← argsInStr[DUMP_FIFTH_PARAM]?))
      let added := decide ((← argsInStr[DUMP_SIXTH_PARAM]?) = "true")
      some { s with
        exemptionListUpdated := s.exemptionListUpdated ++ [(uid, name, allowType, added)] }
    else some s
  StrategyManagerAdapter.shellDump argsInStr s

/-- `StandbyServiceImpl::DumpTurnOnOffSwitch` and `DumpChangeConfigParam`, which read three
arguments or none. -/
def dumpDebug (handler : List String → DebugState → DebugState × String) (s : ShellState) :
    ShellState :=
  let (debug, text) := handler argsInStr s.debug
  { s with debug := debug }.print (.text text)

/-- What `DumpOnPowerOverused` and `DumpOnActionChanged` have in common. -/
def dumpReport (kind : ReportKind) (s : ShellState) : Option ShellState := do
  if argsInStr.length ≠ DUMP_THREE_PARAM then return s
  else
    let module ← argsInStr[DUMP_SECOND_PARAM]?
    let value := Json.toUInt32 (atoi (← argsInStr[DUMP_THIRD_PARAM]?))
    let (subscriber, callbacks) := s.subscriber.notifyByCallback kind env.now module value
    return { s with subscriber := subscriber, callbacks := s.callbacks ++ callbacks }

/-- `StandbyServiceImpl::DumpOnPowerOverused`. -/
def dumpOnPowerOverused (s : ShellState) : Option ShellState :=
  s.dumpReport env argsInStr .powerOverused

/-- `StandbyServiceImpl::DumpOnActionChanged`. -/
def dumpOnActionChanged (s : ShellState) : Option ShellState :=
  s.dumpReport env argsInStr .lowpowerAction

/-- `StandbyServiceImpl::DumpSubScriberObserver`. -/
def dumpSubScriberObserver (s : ShellState) : ShellState :=
  if s.subscriber.subscriberList.isEmpty then
    s.print (.text "subscriber observer record is empty\n")
  else s.print (.observers s.subscriber.subscriberList)

/-- `StandbyServiceImpl::ShellDumpInner`. -/
def shellDumpInner (s : ShellState) : Option ShellState := do
  if argsInStr.length = NO_DUMP_PARAM_NUMS then return s.print .usage
  else
    let command ← argsInStr[DUMP_FIRST_PARAM]?
    if command = "-h" then return s.print .usage
    else if command = DUMP_DETAIL_INFO then do
      (← s.dumpShowDetailInfo env argsInStr).onPluginShellDump env argsInStr
    else if command = DUMP_ENTER_STATE then s.dumpEnterSpecifiedState env argsInStr
    else if command = DUMP_APPLY_ALLOW_RECORD then s.dumpModifyAllowList env argsInStr
    else if command = DUMP_SIMULATE_SENSOR then s.onPluginShellDump env argsInStr
    else if command = DUMP_SUBSCRIBER_OBSERVER then return s.dumpSubScriberObserver
    else if command = DUMP_TURN_ON_OFF_SWITCH then
      return s.dumpDebug argsInStr DebugState.dumpTurnOnOffSwitch
    else if command = DUMP_CHANGE_STATE_TIMEOUT then
      return s.dumpDebug argsInStr DebugState.dumpChangeConfigParam
    else if command = DUMP_PUSH_STRATEGY_CHANGE then s.dumpPushStrategyChange argsInStr
    else if command = DUMP_ON_POWER_OVERUSED then s.dumpOnPowerOverused env argsInStr
    else if command = DUMP_ON_ACTION_CHANGED then s.dumpOnActionChanged env argsInStr
    else return s.print (.text "Error params.\n")

/-- `StandbyServiceImpl::ShellDump`. -/
def shellDump (s : ShellState) : Option ShellState :=
  if ¬ s.standby.service.isServiceReady then
    some (s.print (.text "standby service manager is not ready"))
  else s.shellDumpInner env argsInStr

end

/-! ## Where the places are there -/

section
variable {env : ShellEnv} {command arg : String} {args : List String} {s : ShellState}
  {item : DumpItem} {kind : ReportKind}

/-- A strategy looks at the second argument of the details only. -/
theorem dumpStrategyDetail_isSome (h : command = DUMP_DETAIL_INFO → args ≠ []) :
    (s.dumpStrategyDetail (command :: args) item).isSome := by
  unfold dumpStrategyDetail
  by_cases hcommand : command = DUMP_DETAIL_INFO
  · obtain ⟨arg, args', rfl⟩ := List.exists_cons_of_ne_nil (h hcommand)
    simp only [List.getElem?_cons_zero, List.getElem?_cons_succ, Option.bind_eq_bind,
      Option.bind_some, if_pos hcommand]
    split_ifs <;> rfl
  · simp only [List.getElem?_cons_zero, Option.bind_eq_bind, Option.bind_some, if_neg hcommand]
    rfl

theorem isSome_bind {α β : Type} {x : Option α} {f : α → Option β} (hx : x.isSome)
    (hf : ∀ a, (f a).isSome) : (x.bind f).isSome := by
  obtain ⟨a, rfl⟩ := Option.isSome_iff_exists.1 hx
  exact hf a

/-- A fold whose steps all succeed. -/
theorem foldlM_isSome {α β : Type} {f : β → α → Option β} (h : ∀ b a, (f b a).isSome)
    (l : List α) (b : β) : (l.foldlM f b).isSome := by
  induction l generalizing b with
  | nil => rfl
  | cons a l ih =>
    obtain ⟨b', hb'⟩ := Option.isSome_iff_exists.1 (h b a)
    rw [List.foldlM_cons, hb', Option.bind_eq_bind, Option.bind_some]
    exact ih b'

/-- So do all of them, in turn. -/
theorem StrategyManagerAdapter.shellDump_isSome (h : command = DUMP_DETAIL_INFO → args ≠ []) :
    (StrategyManagerAdapter.shellDump (command :: args) s).isSome := by
  refine foldlM_isSome (fun s strategy => ?_) _ _
  cases strategy with
  | network => exact dumpStrategyDetail_isSome h
  | runningLock => exact dumpStrategyDetail_isSome h

/-- The current state reads two arguments at most. -/
theorem stateShellDump_isSome : (s.stateShellDump (command :: arg :: args)).isSome := by
  unfold stateShellDump
  split
  · unfold SleepState.shellDump
    simp only [List.getElem?_cons_zero, List.getElem?_cons_succ, Option.bind_eq_bind,
      Option.bind_some]
    split_ifs <;> rfl
  all_goals rfl

theorem StateManagerAdapter.dumpEnterSpecifiedState_isSome {name skip : String} :
    (dumpEnterSpecifiedState env (command :: name :: skip :: args) s).isSome := by
  unfold dumpEnterSpecifiedState
  simp only [List.getElem?_cons_zero, List.getElem?_cons_succ, Option.bind_eq_bind,
    Option.bind_some]
  split_ifs
  · rfl
  · split <;> rfl

theorem dumpActivateMotion_isSome :
    (s.dumpActivateMotion env (command :: arg :: args)).isSome := by
  unfold dumpActivateMotion
  simp only [List.getElem?_cons_zero, List.getElem?_cons_succ, Option.bind_eq_bind,
    Option.bind_some]
  split_ifs <;> rfl

/-- The state manager reads three arguments to enter a state, and else two at most. -/
theorem StateManagerAdapter.shellDump_isSome (h : command = DUMP_ENTER_STATE → args ≠ []) :
    (StateManagerAdapter.shellDump env (command :: arg :: args) s).isSome := by
  unfold StateManagerAdapter.shellDump
  simp only [List.getElem?_cons_zero, List.getElem?_cons_succ, Option.bind_eq_bind,
    Option.bind_some]
  split_ifs with hdetail hreset henter hsimulate
  · exact stateShellDump_isSome
  · exact stateShellDump_isSome
  · obtain ⟨skip, args', rfl⟩ := List.exists_cons_of_ne_nil (h henter)
    exact isSome_bind dumpEnterSpecifiedState_isSome fun s => stateShellDump_isSome
  · exact isSome_bind dumpActivateMotion_isSome fun s => stateShellDump_isSome
  · exact stateShellDump_isSome

/-- Two arguments are enough for all the plugins, unless a state is to be entered. -/
theorem onPluginShellDump_isSome (h : command ≠ DUMP_ENTER_STATE) :
    (s.onPluginShellDump env (command :: arg :: args)).isSome :=
  isSome_bind (StateManagerAdapter.shellDump_isSome fun henter => absurd henter h) fun _ =>
    StrategyManagerAdapter.shellDump_isSome fun _ => List.cons_ne_nil _ _

/-! ## What looks before it reads -/

/-- A place is read where enough arguments are asked for. -/
theorem exists_arg {n : Nat} (i : Nat) (hi : i < n) (hlength : ¬ args.length < n) :
    ∃ arg, args[i]? = some arg :=
  ⟨_, List.getElem?_eq_getElem (hi.trans_le (not_lt.1 hlength))⟩

theorem dumpShowDetailInfo_isSome : (s.dumpShowDetailInfo env args).isSome := by
  unfold dumpShowDetailInfo
  dsimp only
  split_ifs with hlength
  · rfl
  · obtain ⟨option, hoption⟩ := exists_arg DUMP_SECOND_PARAM (by decide) hlength
    rw [hoption, Option.bind_eq_bind, Option.bind_some]
    split_ifs <;> rfl

theorem dumpEnterSpecifiedState_isSome : (s.dumpEnterSpecifiedState env args).isSome := by
  unfold dumpEnterSpecifiedState
  split_ifs with hlength
  · rfl
  · rcases args with _ | ⟨command, _ | ⟨name, _ | ⟨skip, args⟩⟩⟩
    · exact absurd (show 0 < 3 by decide) hlength
    · exact absurd (show 1 < 3 by decide) hlength
    · exact absurd (show 2 < 3 by decide) hlength
    · exact StateManagerAdapter.shellDump_isSome fun _ => List.cons_ne_nil _ _

/-- The list of allowances is asked for with four arguments, and changed with seven. -/
theorem dumpModifyAllowList_isSome : (s.dumpModifyAllowList env args).isSome := by
  unfold dumpModifyAllowList
  dsimp only
  split_ifs with hlength
  · rfl
  · obtain ⟨action, haction⟩ := exists_arg DUMP_SECOND_PARAM (by decide) hlength
    obtain ⟨third, hthird⟩ := exists_arg DUMP_THIRD_PARAM (by decide) hlength
    obtain ⟨fourth, hfourth⟩ := exists_arg DUMP_FOURTH_PARAM (by decide) hlength
    simp only [haction, hthird, hfourth, Option.bind_eq_bind, Option.bind_some]
    split_ifs with hfew happly hunapply hget
    · rfl
    · have hmany := fun h => hfew ⟨by rw [happly]; decide, h⟩
      obtain ⟨fifth, hfifth⟩ := exists_arg DUMP_FIFTH_PARAM (by decide) hmany
      obtain ⟨sixth, hsixth⟩ := exists_arg DUMP_SIXTH_PARAM (by decide) hmany
      obtain ⟨seventh, hseventh⟩ := exists_arg DUMP_SEVENTH_PARAM (by decide) hmany
      rw [hfifth, hsixth, hseventh]
      rfl
    · have hmany := fun h => hfew ⟨by rw [hunapply]; decide, h⟩
      obtain ⟨fifth, hfifth⟩ := exists_arg DUMP_FIFTH_PARAM (by decide) hmany
      obtain ⟨seventh, hseventh⟩ := exists_arg DUMP_SEVENTH_PARAM (by decide) hmany
      rw [hfifth, hseventh]
      rfl
    · rfl
    · rfl

theorem dumpReport_isSome : (s.dumpReport env args kind).isSome := by
  unfold dumpReport
  split_ifs with hlength
  · rfl
  · have henough : ¬ args.length < DUMP_THREE_PARAM := (not_not.1 hlength).not_lt
    obtain ⟨module, hmodule⟩ := exists_arg DUMP_SECOND_PARAM (by decide) henough
    obtain ⟨value, hvalue⟩ := exists_arg DUMP_THIRD_PARAM (by decide) henough
    rw [hmodule, hvalue]
    rfl

/-! ## What reads at once -/

/-- A push is read with two arguments, and an event on the allow list with six. -/
theorem dumpPushStrategyChange_isSome_iff :
    (s.dumpPushStrategyChange (DUMP_PUSH_STRATEGY_CHANGE :: args)).isSome ↔
      args ≠ [] ∧ ∀ event, args = "--allowlist" :: event → 4 ≤ event.length := by
  have hstrategies : ∀ s', args ≠ [] →
      (StrategyManagerAdapter.shellDump (DUMP_PUSH_STRATEGY_CHANGE :: args) s').isSome :=
    fun s' h => StrategyManagerAdapter.shellDump_isSome fun _ => h
  unfold dumpPushStrategyChange
  rcases args with _ | ⟨arg, event⟩
  · simp
  by_cases harg : arg = "--allowlist"
  · subst harg
    rcases event with _ | ⟨uid, _ | ⟨name, _ | ⟨allowType, _ | ⟨added, event⟩⟩⟩⟩
    · simp
    · simp
    · simp
    · simp
    · simpa using hstrategies _ (List.cons_ne_nil _ _)
  · simpa [harg] using hstrategies s (List.cons_ne_nil _ _)

/-- The commands whose arguments are all there: not the details, the simulation and the push alone,
and an event on the allow list with four arguments. -/
def Complete (argsInStr : List String) : Prop :=
  argsInStr ≠ [DUMP_DETAIL_INFO] ∧ argsInStr ≠ [DUMP_SIMULATE_SENSOR] ∧
    argsInStr ≠ [DUMP_PUSH_STRATEGY_CHANGE] ∧
      ∀ args, argsInStr = DUMP_PUSH_STRATEGY_CHANGE :: "--allowlist" :: args → 4 ≤ args.length

/-- Other commands are complete. -/
theorem complete_of_ne (hdetail : command ≠ DUMP_DETAIL_INFO)
    (hsimulate : command ≠ DUMP_SIMULATE_SENSOR) (hpush : command ≠ DUMP_PUSH_STRATEGY_CHANGE) :
    Complete (command :: args) :=
  ⟨fun h => hdetail (List.cons.inj h).1, fun h => hsimulate (List.cons.inj h).1,
    fun h => hpush (List.cons.inj h).1, fun _ h => absurd (List.cons.inj h).1 hpush⟩

/-- The details are read with two arguments. -/
theorem dumpDetails_isSome_iff :
    ((s.dumpShowDetailInfo env (DUMP_DETAIL_INFO :: args)).bind fun s =>
      s.onPluginShellDump env (DUMP_DETAIL_INFO :: args)).isSome ↔ args ≠ [] := by
  cases args with
  | nil => exact iff_of_false (by simp [dumpShowDetailInfo, onPluginShellDump,
      StateManagerAdapter.shellDump]) (by simp)
  | cons arg args =>
    exact iff_of_true (isSome_bind dumpShowDetailInfo_isSome fun _ =>
      onPluginShellDump_isSome (by decide)) (List.cons_ne_nil _ _)

/-- A simulation is read with two arguments. -/
theorem dumpSimulation_isSome_iff :
    (s.onPluginShellDump env (DUMP_SIMULATE_SENSOR :: args)).isSome ↔ args ≠ [] := by
  cases args with
  | nil => exact iff_of_false (by simp [onPluginShellDump, StateManagerAdapter.shellDump,
      dumpActivateMotion, DUMP_SIMULATE_SENSOR, DUMP_DETAIL_INFO, DUMP_ENTER_STATE]) (by simp)
  | cons arg args => exact iff_of_true (onPluginShellDump_isSome (by decide)) (List.cons_ne_nil _ _)

/-- The other commands look before they read. -/
theorem shellDumpInner_isSome (hdetail : command ≠ DUMP_DETAIL_INFO)
    (hsimulate : command ≠ DUMP_SIMULATE_SENSOR) (hpush : command ≠ DUMP_PUSH_STRATEGY_CHANGE) :
    (s.shellDumpInner env (command :: args)).isSome := by
  unfold shellDumpInner
  rw [if_neg (by simp), List.getElem?_cons_zero, Option.bind_eq_bind, Option.bind_some,
    if_neg hdetail, if_neg hsimulate, if_neg hpush]
  split
  · rfl
  split
  · exact dumpEnterSpecifiedState_isSome
  split
  · exact dumpModifyAllowList_isSome
  split
  · rfl
  split
  · rfl
  split
  · rfl
  split
  · exact dumpReport_isSome
  split
  · exact dumpReport_isSome
  · rfl

/-- The handler of a command reads within the arguments of the complete commands, and of no
other. -/
theorem shellDumpInner_isSome_iff (env : ShellEnv) (argsInStr : List String) (s : ShellState) :
    (s.shellDumpInner env argsInStr).isSome ↔ Complete argsInStr := by
  cases argsInStr with
  | nil => exact iff_of_true rfl ⟨by simp, by simp, by simp, by simp⟩
  | cons command args =>
    by_cases hdetail : command = DUMP_DETAIL_INFO
    · subst hdetail
      have hinner : s.shellDumpInner env (DUMP_DETAIL_INFO :: args) =
          (s.dumpShowDetailInfo env (DUMP_DETAIL_INFO :: args)).bind fun s =>
            s.onPluginShellDump env (DUMP_DETAIL_INFO :: args) := rfl
      rw [hinner, dumpDetails_isSome_iff]
      simp [Complete, DUMP_DETAIL_INFO, DUMP_SIMULATE_SENSOR, DUMP_PUSH_STRATEGY_CHANGE]
    by_cases hsimulate : command = DUMP_SIMULATE_SENSOR
    · subst hsimulate
      have hinner : s.shellDumpInner env (DUMP_SIMULATE_SENSOR :: args) =
          s.onPluginShellDump env (DUMP_SIMULATE_SENSOR :: args) := rfl
      rw [hinner, dumpSimulation_isSome_iff]
      simp [Complete, DUMP_DETAIL_INFO, DUMP_SIMULATE_SENSOR, DUMP_PUSH_STRATEGY_CHANGE]
    by_cases hpush : command = DUMP_PUSH_STRATEGY_CHANGE
    · subst hpush
      have hinner : s.shellDumpInner env (DUMP_PUSH_STRATEGY_CHANGE :: args) =
          s.dumpPushStrategyChange (DUMP_PUSH_STRATEGY_CHANGE :: args) := rfl
      rw [hinner, dumpPushStrategyChange_isSome_iff]
      simp [Complete, DUMP_DETAIL_INFO, DUMP_SIMULATE_SENSOR, DUMP_PUSH_STRATEGY_CHANGE]
    · exact iff_of_true (shellDumpInner_isSome hdetail hsimulate hpush)
        (complete_of_ne hdetail hsimulate hpush)

/-- A ready service reads within the arguments of the complete commands, and of no other, whatever
its state is. -/
theorem shellDump_isSome_iff (env : ShellEnv) (argsInStr : List String) (s : ShellState) :
    (s.shellDump env argsInStr).isSome ↔
      (s.standby.service.isServiceReady = true → Complete argsInStr) := by
  unfold shellDump
  cases s.standby.service.isServiceReady with
  | false => simp
  | true => simpa using shellDumpInner_isSome_iff env argsInStr s

/-- What surrounds a sample command. -/
def sampleShellEnv : ShellEnv where
  cfg := sampleConfig
  platform := samplePlatform
  resourceConfig := fun _ => none
  condition := 1
  caller := { pid := 1 }
  monotonicTime := 0
  now := 0

/-- A service that has just started. -/
def sampleShell : ShellState where
  standby := { service := initReadyState sampleConfig samplePlatform {} }
  allow := {}
  debug := DebugState.start StandbyConfigManager.initial
  subscriber := StandbyStateSubscriber.create true 0

/-- Not of every command: the command for the details is read beyond its only argument. -/
theorem not_always_shellDump_isSome : ¬ ∀ (env : ShellEnv) (argsInStr : List String)
    (s : ShellState), s.standby.service.isServiceReady = true →
      (s.shellDump env argsInStr).isSome := by
  intro h
  have hdetail : (sampleShell.shellDumpInner sampleShellEnv [DUMP_DETAIL_INFO]).isSome :=
    h sampleShellEnv [DUMP_DETAIL_INFO] sampleShell rfl
  exact ((shellDumpInner_isSome_iff _ _ _).1 hdetail).1 rfl

end

end ShellState

end DeviceStandby
