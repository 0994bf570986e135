import DeviceStandby.Allow.Record
import DeviceStandby.Config.Sections

/-!
# The configuration of the resource control

A document of the strategy, and the document of the cloud whole, has a key for each resource, and
`ParseResCtrlConfig` stores what it finds there up to three times: as it stands, as a list of
`DefaultResourceConfig`, and for the timer resource as a list of `TimerResourceConfig`. What a key
stores depends on its own value alone, so that an error under one key leaves the others as if the
key were absent. A value in error is kept as it stands (`parseResCtrlConfig_failing`), and a list of
timers that is in error replaces the one before (`parseResCtrlConfig_timer`).
-/

open AssocMap Json

namespace DeviceStandby

abbrev TAG_CONDITION : String := "condition"
abbrev TAG_ACTION : String := "action"
abbrev TAG_ALLOW : String := "allow"
abbrev TAG_PROCESSES : String := "processes"
abbrev TAG_APPS : String := "apps"
abbrev TAG_PROCESSES_LIMIT : String := "processes_limit"
abbrev TAG_TIME_CLOCK_APPS : String := "time_clock_apps"
abbrev TAG_APPS_LIMIT : String := "apps_limit"
abbrev TAG_NAME : String := "name"
abbrev TAG_MAX_DURATION_LIM : String := "duration"
abbrev TAG_TIMER : String := "TIMER"
abbrev TAG_TIMER_CLOCK : String := "timer_clock"
abbrev TAG_TIMER_PERIOD : String := "timer_period"
abbrev TAG_CONDITION_DELIM : Char := '&'
abbrev TAG_DAY_STANDBY : String := "day_standby"
abbrev TAG_NIGHT_STANDBY : String := "night_standby"

namespace JsonUtils

/-- `JsonUtils::GetInt32FromJsonValue`. -/
def getInt32FromJsonValue (jsonValue : Json) (key : String) : Option Int :=
  if jsonValue.isEmpty ∨ key = "" then none else (jsonValue.integer? key).map toInt32

/-- `JsonUtils::GetBoolFromJsonValue`. -/
def getBoolFromJsonValue (jsonValue : Json) (key : String) : Option Bool :=
  if jsonValue.isEmpty ∨ key = "" then none else (jsonValue.member? key).bind asBoolean?

/-- `JsonUtils::GetArrayFromJsonValue`. -/
def getArrayFromJsonValue (jsonValue : Json) (key : String) : Option (List Json) :=
  if jsonValue.isEmpty ∨ key = "" then none else jsonValue.array? key

/-- `JsonUtils::GetStrArrFromJsonValue`, and the array it leaves: the strings up to a value that is
none. -/
def getStrArrFromJsonValue (jsonValue : Json) (key : String) (strArray : List String) :
    Bool × List String :=
  match getArrayFromJsonValue jsonValue key with
  | none => (false, strArray)
  | some strArrayValue =>
    (strArrayValue.all fun strItem => strItem.asString?.isSome,
      (strArrayValue.takeWhile fun strItem => strItem.asString?.isSome).filterMap asString?)

end JsonUtils

/-- `TimerClockApp`. What is not read is not initialized, which stands here as `none`. -/
structure TimerClockApp where
  name : String
  timerPeriod : Option Int := none
  isTimerClock : Option Bool := none
  deriving DecidableEq

/-- `TimerResourceConfig`, of which the parser fills in the apps. -/
structure TimerResourceConfig where
  timerClockApps : List TimerClockApp := []
  deriving DecidableEq

/-- The stores that `ParseResCtrlConfig` writes. -/
structure ResCtrlConfig where
  standbyStrategyConfigMap : Map String Json
  defaultResourceConfigMap : Map String (List DefaultResourceConfig)
  timerResConfigList : List TimerResourceConfig

namespace ResCtrlConfig

/-- The configuration before anything is read. -/
def initial : ResCtrlConfig where
  standbyStrategyConfigMap := ∅
  defaultResourceConfigMap := ∅
  timerResConfigList := []

end ResCtrlConfig

namespace StandbyConfigManager

/-! ## The parsers -/

/-- `conditionMap`. -/
def conditionMap : List (String × BitVec 32) :=
  [(TAG_DAY_STANDBY, 1), (TAG_NIGHT_STANDBY, 2)]

/-- `StandbyConfigManager::ParseCondition`. -/
def parseCondition (conditionStr : String) : BitVec 32 :=
  (conditionStr.toList.splitOn TAG_CONDITION_DELIM).foldl (fun conditionValue conditionSubstr =>
    match conditionMap.lookup (String.ofList conditionSubstr) with
    | none => conditionValue
    | some value => conditionValue ||| value) 0

/-- `StandbyConfigManager::ParseTimeLimitedConfig`. -/
def parseTimeLimitedConfig (singleConfigItem : Json) (key : String) : List TimeLtdProcess :=
  match JsonUtils.getArrayFromJsonValue singleConfigItem key with
  | none => []
  | some timeLimitedItems => timeLimitedItems.filterMap fun singleLtdItem => do
    let name ← JsonUtils.getStringFromJsonValue singleLtdItem TAG_NAME
    let duration ← JsonUtils.getInt32FromJsonValue singleLtdItem TAG_MAX_DURATION_LIM
    return ⟨name, duration⟩

/-- `StandbyConfigManager::ParseCommonResCtrlConfig`. -/
def parseCommonResCtrlConfig (singleConfigItem : Json) : Option DefaultResourceConfig :=
  if (singleConfigItem.member? TAG_ACTION).isNone ∨ (singleConfigItem.member? TAG_CONDITION).isNone
  then none
  else
    match JsonUtils.getStringFromJsonValue singleConfigItem TAG_ACTION,
      JsonUtils.getStrArrFromJsonValue singleConfigItem TAG_CONDITION [] with
    | some resCtrlAction, (true, conditionItemArray) => some {
        isAllow := resCtrlAction == TAG_ALLOW
        conditions := (conditionItemArray.map parseCondition).filter (0 < ·)
        processes := (JsonUtils.getStrArrFromJsonValue singleConfigItem TAG_PROCESSES []).2
        apps := (JsonUtils.getStrArrFromJsonValue singleConfigItem TAG_APPS []).2
        timeLtdProcesses := parseTimeLimitedConfig singleConfigItem TAG_PROCESSES_LIMIT
        timeLtdApps := parseTimeLimitedConfig singleConfigItem TAG_APPS_LIMIT }
    | _, _ => none

/-- The list that `ParseDefaultResCtrlConfig` makes of a value. -/
def readDefaultResCtrlConfig (resConfigArray : Json) : Option (List DefaultResourceConfig) :=
  resConfigArray.asArray?.bind fun items => items.mapM parseCommonResCtrlConfig

/-- `StandbyConfigManager::ParseDefaultResCtrlConfig`. -/
def parseDefaultResCtrlConfig (resCtrlKey : String) (resConfigArray : Json)
    (config : ResCtrlConfig) : Bool × ResCtrlConfig :=
  match readDefaultResCtrlConfig resConfigArray with
  | none => (false, config)
  | some defaultResConfigPtr => (true, { config with
      defaultResourceConfigMap :=
        config.defaultResourceConfigMap.insert resCtrlKey defaultResConfigPtr })

/-- An app of `ParseTimerResCtrlConfig`, which has a flag or else a period. -/
def readTimerClockApp (singleLtdAppItem : Json) : Option TimerClockApp :=
  match JsonUtils.getStringFromJsonValue singleLtdAppItem TAG_NAME with
  | none => none
  | some name =>
    match JsonUtils.getBoolFromJsonValue singleLtdAppItem TAG_TIMER_CLOCK with
    | some isTimerClock => some { name := name, isTimerClock := some isTimerClock }
    | none =>
      match JsonUtils.getInt32FromJsonValue singleLtdAppItem TAG_TIMER_PERIOD with
      | some timerPeriod => some { name := name, timerPeriod := some timerPeriod }
      | none => none

/-- The loop of `ParseTimerResCtrlConfig`, and the list it leaves. -/
def readTimerItems : List Json → List TimerResourceConfig → Bool × List TimerResourceConfig
  | [], timerResConfigList => (true, timerResConfigList)
  | singleConfigItem :: items, timerResConfigList =>
    match singleConfigItem.array? TAG_TIME_CLOCK_APPS with
    | none => readTimerItems items (timerResConfigList ++ [{}])
    | some limitedAppItems =>
      match limitedAppItems.mapM readTimerClockApp with
      | none => (false, timerResConfigList)
      | some timerClockApps =>
        readTimerItems items (timerResConfigList ++ [{ timerClockApps := timerClockApps }])

/-- `StandbyConfigManager::ParseTimerResCtrlConfig`. The list is cleared first. -/
def parseTimerResCtrlConfig (resConfigArray : Json) (config : ResCtrlConfig) :
    Bool × ResCtrlConfig :=
  match resConfigArray.asArray? with
  | none => (false, config)
  | some items =>
    let result := readTimerItems items []
    (result.1, { config with timerResConfigList := result.2 })

/-- The body of the loop of `ParseResCtrlConfig`. -/
def parseResCtrlElement (resCtrlKey : String) (value : Json) (config : ResCtrlConfig) :
    Bool × ResCtrlConfig :=
  let config := { config with
    standbyStrategyConfigMap := config.standbyStrategyConfigMap.insert resCtrlKey value }
  if value.asArray?.isNone then (false, config)
  else
    match parseDefaultResCtrlConfig resCtrlKey value config with
    | (false, config) => (false, config)
    | (true, config) =>
      if resCtrlKey = TAG_TIMER then parseTimerResCtrlConfig value config else (true, config)

/-- The loop of `ParseResCtrlConfig`: `ret` becomes false at an element in error. -/
def parseResCtrlElements : List (Sigma fun _ : String => Json) → Bool × ResCtrlConfig →
    Bool × ResCtrlConfig
  | [], state => state
  | element :: elements, (ret, config) =>
    let result := parseResCtrlElement element.1 element.2 config
    parseResCtrlElements elements (ret && result.1, result.2)

/-- `items` of any value: the elements of an array have their positions for keys, and a value that
has no members has itself. -/
def itemsOf : Json → Map String Json
  | object members => (object members).items
  | array elements => (elements.zipIdx.map fun element => ⟨toString element.2, element.1⟩).toAList
  | null => ∅
  | value => AList.singleton "" value

/-- `StandbyConfigManager::ParseResCtrlConfig`. -/
def parseResCtrlConfig (resCtrlConfigRoot : Json) (config : ResCtrlConfig) :
    Bool × ResCtrlConfig :=
  parseResCtrlElements (itemsOf resCtrlConfigRoot).entries (true, config)

/-! ## What each key stores -/

/-- The list that the timer items of a value leave, when the value is read so far. -/
def timerItemsLeft (value : Json) : Option (List TimerResourceConfig) :=
  (readDefaultResCtrlConfig value).bind fun _ =>
    value.asArray?.map fun items => (readTimerItems items []).2

/-- The timer items of a value can be read. -/
def readsTimerItems (value : Json) : Bool :=
  value.asArray?.any fun items => (readTimerItems items []).1

/-- `ParseResCtrlConfig` records an error for an element. -/
def elementFails (resCtrlKey : String) (value : Json) : Bool :=
  (readDefaultResCtrlConfig value).isNone || resCtrlKey == TAG_TIMER && !readsTimerItems value

section
variable {value root : Json} {key key' : String} {config : ResCtrlConfig} {ret : Bool}
  {elements : List (Sigma fun _ : String => Json)}

theorem asArray?_of_readDefault (h : (readDefaultResCtrlConfig value).isSome) :
    value.asArray?.isSome := by
  unfold readDefaultResCtrlConfig at h
  cases harray : value.asArray? with
  | none => rw [harray] at h; cases h
  | some _ => rfl

/-- What the body of the loop does to the stores. -/
theorem parseResCtrlElement_eq : parseResCtrlElement key value config =
    (!elementFails key value, {
      standbyStrategyConfigMap := config.standbyStrategyConfigMap.insert key value
      defaultResourceConfigMap :=
        match readDefaultResCtrlConfig value with
        | none => config.defaultResourceConfigMap
        | some list => config.defaultResourceConfigMap.insert key list
      timerResConfigList :=
        if key = TAG_TIMER then (timerItemsLeft value).getD config.timerResConfigList
        else config.timerResConfigList }) := by
  unfold parseResCtrlElement parseDefaultResCtrlConfig elementFails timerItemsLeft readsTimerItems
  cases hread : readDefaultResCtrlConfig value with
  | none => cases value.asArray? <;> simp
  | some list =>
    have hsome : (readDefaultResCtrlConfig value).isSome := by rw [hread]; rfl
    obtain ⟨items, hitems⟩ := Option.isSome_iff_exists.1 (asArray?_of_readDefault hsome)
    by_cases hkey : key = TAG_TIMER
    · simp [hitems, hkey, parseTimerResCtrlConfig]
    · simp [hitems, hkey]

/-- The loop reports an error when an element fails. -/
theorem parseResCtrlElements_fst : (parseResCtrlElements elements (ret, config)).1 =
    (ret && elements.all fun element => !elementFails element.1 element.2) := by
  induction elements generalizing ret config with
  | nil => exact (Bool.and_true ret).symm
  | cons element elements ih =>
    rw [parseResCtrlElements, ih, parseResCtrlElement_eq, List.all_cons, Bool.and_assoc]

/-- What the loop leaves of a store that the elements of one key write, which comes once. -/
theorem read_parseResCtrlElements {α : Type} (read : ResCtrlConfig → α) (put : Json → α → α)
    (hself : ∀ value config,
      read (parseResCtrlElement key value config).2 = put value (read config))
    (hother : ∀ key' value config, key' ≠ key →
      read (parseResCtrlElement key' value config).2 = read config)
    (hnodup : elements.NodupKeys) :
    read (parseResCtrlElements elements (ret, config)).2 =
      match elements.dlookup key with
      | none => read config
      | some value => put value (read config) := by
  induction elements generalizing ret config with
  | nil => rfl
  | cons element elements ih =>
    obtain ⟨hnew, hnodup⟩ := List.nodupKeys_cons.1 hnodup
    rw [parseResCtrlElements, ih hnodup]
    by_cases hkey : key = element.1
    · subst hkey
      rw [List.dlookup_cons_eq, List.dlookup_eq_none.2 hnew]
      exact hself _ _
    · rw [List.dlookup_cons_ne _ _ hkey, hother _ _ _ (Ne.symm hkey)]

/-- A key is bound to its value, as it stands. -/
theorem lookup_standbyStrategyConfigMap (hnodup : elements.NodupKeys) :
    (parseResCtrlElements elements (ret, config)).2.standbyStrategyConfigMap.lookup key =
      (elements.dlookup key).or (config.standbyStrategyConfigMap.lookup key) := by
  rw [read_parseResCtrlElements (fun config => config.standbyStrategyConfigMap.lookup key)
    (fun value _ => some value) (fun value config => ?_) (fun key' value config hne => ?_) hnodup]
  · cases elements.dlookup key <;> rfl
  · rw [parseResCtrlElement_eq]
    exact AList.lookup_insert _
  · rw [parseResCtrlElement_eq]
    exact AList.lookup_insert_ne hne.symm

/-- A key is bound to the list of its value, when there is one. -/
theorem lookup_defaultResourceConfigMap (hnodup : elements.NodupKeys) :
    (parseResCtrlElements elements (ret, config)).2.defaultResourceConfigMap.lookup key =
      ((elements.dlookup key).bind readDefaultResCtrlConfig).or
        (config.defaultResourceConfigMap.lookup key) := by
  rw [read_parseResCtrlElements (fun config => config.defaultResourceConfigMap.lookup key)
    (fun value bound => (readDefaultResCtrlConfig value).or bound) (fun value config => ?_)
    (fun key' value config hne => ?_) hnodup]
  · cases elements.dlookup key <;> rfl
  · rw [parseResCtrlElement_eq]
    dsimp only
    cases readDefaultResCtrlConfig value with
    | none => rfl
    | some list => exact AList.lookup_insert _
  · rw [parseResCtrlElement_eq]
    dsimp only
    cases readDefaultResCtrlConfig value with
    | none => rfl
    | some list => exact AList.lookup_insert_ne hne.symm

/-- The timer resource leaves its items, when its value is read so far. -/
theorem timerResConfigList_eq (hnodup : elements.NodupKeys) :
    (parseResCtrlElements elements (ret, config)).2.timerResConfigList =
      ((elements.dlookup TAG_TIMER).bind timerItemsLeft).getD config.timerResConfigList := by
  rw [read_parseResCtrlElements (fun config => config.timerResConfigList)
    (fun value list => (timerItemsLeft value).getD list) (fun value config => ?_)
    (fun key' value config hne => ?_) hnodup]
  · cases elements.dlookup TAG_TIMER <;> rfl
  · rw [parseResCtrlElement_eq]
    dsimp only
    rw [if_pos rfl]
  · rw [parseResCtrlElement_eq]
    exact if_neg hne

/-- An element fails whatever the stores hold. -/
theorem elementFails_of_parse (h : (parseResCtrlElement key value config).1 = false) :
    elementFails key value = true := by
  rw [parseResCtrlElement_eq] at h
  simpa using h

/-- `ParseResCtrlConfig` answers that there is no error when no element fails. -/
theorem parseResCtrlConfig_fst : (parseResCtrlConfig root config).1 = true ↔
    ∀ key value, (itemsOf root).lookup key = some value → elementFails key value = false := by
  rw [parseResCtrlConfig, parseResCtrlElements_fst, Bool.true_and, List.all_eq_true]
  simp only [Map.lookup_eq_some_iff, Bool.not_eq_true']
  exact ⟨fun h key value hmem => h ⟨key, value⟩ hmem, fun h element hmem => h _ _ hmem⟩

end

/-! ## A key in error -/

/-- The stores hold the same for all keys but one. -/
structure SameBut (key : String) (config config' : ResCtrlConfig) : Prop where
  standbyStrategyConfigMap : ∀ key' ≠ key, config.standbyStrategyConfigMap.lookup key' =
    config'.standbyStrategyConfigMap.lookup key'
  defaultResourceConfigMap : ∀ key' ≠ key, config.defaultResourceConfigMap.lookup key' =
    config'.defaultResourceConfigMap.lookup key'
  timerResConfigList : key ≠ TAG_TIMER → config.timerResConfigList = config'.timerResConfigList

/-- `ParseResCtrlConfig` of a document without one of its keys. -/
def parseWithout (key : String) (resCtrlConfigRoot : Json) (config : ResCtrlConfig) :
    Bool × ResCtrlConfig :=
  parseResCtrlElements ((itemsOf resCtrlConfigRoot).erase key).entries (true, config)

section
variable {value root : Json} {key : String} {config turn : ResCtrlConfig}
  {list : List DefaultResourceConfig}

/-- The other keys are stored as if the key were absent, be it in error or not. -/
theorem sameBut_parseWithout : SameBut key (parseResCtrlConfig root config).2
    (parseWithout key root config).2 := by
  have hlookup : ∀ key' ≠ key, ((itemsOf root).erase key).entries.dlookup key' =
      (itemsOf root).entries.dlookup key' := fun key' hne => AList.lookup_erase_ne hne
  have hnodup := (itemsOf root).nodupKeys
  have hnodup' := ((itemsOf root).erase key).nodupKeys
  refine ⟨fun key' hne => ?_, fun key' hne => ?_, fun hne => ?_⟩
  · rw [parseResCtrlConfig, parseWithout, lookup_standbyStrategyConfigMap hnodup,
      lookup_standbyStrategyConfigMap hnodup', hlookup key' hne]
  · rw [parseResCtrlConfig, parseWithout, lookup_defaultResourceConfigMap hnodup,
      lookup_defaultResourceConfigMap hnodup', hlookup key' hne]
  · rw [parseResCtrlConfig, parseWithout, timerResConfigList_eq hnodup,
      timerResConfigList_eq hnodup', hlookup TAG_TIMER hne.symm]

/-- The value of a key in error is kept as it stands. Unless only the timer items are in error, the
list of its configurations and that of the timer are as before; and the other keys are stored as if
the key were absent. The error is answered. -/
theorem parseResCtrlConfig_failing (hvalue : (itemsOf root).lookup key = some value)
    (hfails : (parseResCtrlElement key value turn).1 = false) :
    (parseResCtrlConfig root config).1 = false ∧
    (parseResCtrlConfig root config).2.standbyStrategyConfigMap.lookup key = some value ∧
    (¬ (key = TAG_TIMER ∧ (readDefaultResCtrlConfig value).isSome) →
      (parseResCtrlConfig root config).2.defaultResourceConfigMap.lookup key =
          config.defaultResourceConfigMap.lookup key ∧
        (key = TAG_TIMER → (parseResCtrlConfig root config).2.timerResConfigList =
          config.timerResConfigList)) ∧
    SameBut key (parseResCtrlConfig root config).2 (parseWithout key root config).2 := by
  have hnodup := (itemsOf root).nodupKeys
  have hfail := elementFails_of_parse hfails
  have hanswer : (parseResCtrlConfig root config).1 = false := Bool.eq_false_iff.2 fun hok => by
    rw [parseResCtrlConfig_fst.1 hok key value hvalue] at hfail
    cases hfail
  rw [AList.lookup] at hvalue
  refine ⟨hanswer, ?_, fun honly => ?_, sameBut_parseWithout⟩
  · rw [parseResCtrlConfig, lookup_standbyStrategyConfigMap hnodup, hvalue]
    rfl
  · have hread : readDefaultResCtrlConfig value = none := by
      by_contra hsome
      have hlist := Option.isSome_iff_ne_none.2 hsome
      have hkey : key ≠ TAG_TIMER := fun hkey => honly ⟨hkey, hlist⟩
      simp [elementFails, hkey, hsome] at hfail
    refine ⟨?_, ?_⟩
    · rw [parseResCtrlConfig, lookup_defaultResourceConfigMap hnodup, hvalue, Option.bind_some,
        hread, Option.none_or]
    · rintro rfl
      rw [parseResCtrlConfig, timerResConfigList_eq hnodup, hvalue, Option.bind_some,
        timerItemsLeft, hread]
      rfl

/-- When the value of the timer is read as a list of configurations, this list is stored, and that
of the timer items is what was read, be it all of them or those up to an error. -/
theorem parseResCtrlConfig_timer {items : List Json}
    (hvalue : (itemsOf root).lookup TAG_TIMER = some (.array items))
    (hlist : readDefaultResCtrlConfig (.array items) = some list) :
    (parseResCtrlConfig root config).2.defaultResourceConfigMap.lookup TAG_TIMER = some list ∧
      (parseResCtrlConfig root config).2.timerResConfigList = (readTimerItems items []).2 := by
  have hnodup := (itemsOf root).nodupKeys
  rw [AList.lookup] at hvalue
  refine ⟨?_, ?_⟩
  · rw [parseResCtrlConfig, lookup_defaultResourceConfigMap hnodup, hvalue, Option.bind_some, hlist]
    rfl
  · rw [parseResCtrlConfig, timerResConfigList_eq hnodup, hvalue, Option.bind_some, timerItemsLeft,
      hlist]
    rfl

end

/-- A list of timers was read before. -/
def timerConfig : ResCtrlConfig :=
  { ResCtrlConfig.initial with
    timerResConfigList := [{ timerClockApps := [{ name := "clock", isTimerClock := some true }] }] }

/-- The list of timers is no list at all, and there is a list of the network. -/
def failingRoot : Json :=
  .object [(TAG_TIMER, .integer 3), ("NETWORK", .array [.object [(TAG_ACTION, .string TAG_ALLOW),
    (TAG_CONDITION, .array [.string TAG_DAY_STANDBY]), (TAG_APPS, .array [.string "mail"])]])]

/-- The timers stay, and the list of the network is read. -/
theorem parseResCtrlConfig_failing_timer :
    (parseResCtrlConfig failingRoot timerConfig).1 = false ∧
      (parseResCtrlConfig failingRoot timerConfig).2.timerResConfigList =
        timerConfig.timerResConfigList ∧
      (parseResCtrlConfig failingRoot timerConfig).2.defaultResourceConfigMap.lookup "NETWORK" =
        some [{ isAllow := true, conditions := [1], processes := [], apps := ["mail"],
                timeLtdProcesses := [], timeLtdApps := [] }] := by
  have hvalue : (itemsOf failingRoot).lookup TAG_TIMER = some (.integer 3) := rfl
  have hfails : (parseResCtrlElement TAG_TIMER (.integer 3) timerConfig).1 = false := rfl
  obtain ⟨hanswer, -, hbefore, hsame⟩ :=
    @parseResCtrlConfig_failing _ failingRoot _ timerConfig _ hvalue hfails
  have honly : ¬ (TAG_TIMER = TAG_TIMER ∧ (readDefaultResCtrlConfig (.integer 3)).isSome) :=
    fun h => absurd h.2 (by decide)
  refine ⟨hanswer, (hbefore honly).2 rfl, ?_⟩
  rw [hsame.defaultResourceConfigMap "NETWORK" (by decide)]
  rfl

/-- The stores are not what they were before a key in error: a value that is no array is kept. -/
theorem not_always_as_before : ¬ ∀ (root : Json) (config : ResCtrlConfig) (key : String)
    (value : Json), (itemsOf root).lookup key = some value →
      (parseResCtrlElement key value config).1 = false →
      (parseResCtrlConfig root config).2.standbyStrategyConfigMap.lookup key =
          config.standbyStrategyConfigMap.lookup key ∧
        (parseResCtrlConfig root config).2.defaultResourceConfigMap.lookup key =
          config.defaultResourceConfigMap.lookup key ∧
        (key = TAG_TIMER → (parseResCtrlConfig root config).2.timerResConfigList =
          config.timerResConfigList) ∧
        SameBut key (parseResCtrlConfig root config).2 (parseWithout key root config).2 := by
  intro h
  have hkept := (h (.object [("test", .boolean true)]) .initial "test" (.boolean true) rfl rfl).1
  cases hkept

end StandbyConfigManager

end DeviceStandby
