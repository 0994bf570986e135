import DeviceStandby.Config.Version
import DeviceStandby.Lib.Layers

/-!
# The sections of the configuration

The documents of the device are parsed in order, the more specific ones later, and the document of
the cloud comes last. A section of a document is an object, whose members go into a map of
`StandbyConfigManager`: most parsers assign, so that a later document overrides an earlier one, but
those of the maintenance intervals, of the package types and of the battery ladder emplace, so that
the first document keeps a key. `find_loaded_iff` says when the last document counts all the same.

A parser answers whether it met nothing unexpected, and throws (`none` here) where an element of an
array is not of its type.
-/

open AssocMap Json

namespace DeviceStandby

abbrev STANDBY_CONFIG_PATH : String := "/etc/standby_service/device_standby_config.json"
abbrev DEFAULT_CONFIG_ROOT_DIR : String := "/system"
abbrev TAG_PLUGIN_NAME : String := "plugin_name"
abbrev TAG_STANDBY : String := "standby"
abbrev TAG_MAINTENANCE_LIST : String := "maintenance_list"
abbrev TAG_DETECT_LIST : String := "detect_list"
abbrev TAG_STRATEGY_LIST : String := "strategy_list"
abbrev TAG_HALFHOUR_SWITCH_SETTING : String := "halfhour_switch_setting"
abbrev TAG_LADDER_BATTERY_LIST : String := "ladder_battery_threshold_list"
abbrev TAG_PKG_TYPE_LIST : String := "pkg_type"
abbrev TAG_STANDBY_LIST_PARA_CONFIG : String := "standby_list_para_config"
abbrev TAG_MX_STANDBY_LIST : String := "mx_standby_list"
abbrev TAG_SETTING_LIST : String := "setting_list"

/-- `JsonUtils::GetObjFromJsonValue`. -/
def JsonUtils.getObjFromJsonValue (jsonValue : Json) (key : String) : Option Json :=
  if jsonValue.isEmpty ∨ key = "" then none
  else (jsonValue.member? key).filter fun value => value.asObject?.isSome

/-- The maps that the sections are parsed into. -/
structure StandbyConfigManager where
  pluginName : String
  standbySwitchMap : Map String Bool
  standbyParaMap : Map String Int
  strategyListMap : Map String Bool
  strategyList : List String
  halfhourSwitchMap : Map String Bool
  intervalListMap : Map String (List Int)
  ladderBatteryListMap : Map String (List Int)
  pkgTypeMap : Map String (List String)
  standbyListParaMap : Map String (List String)
  mxStandbyConfigMap : Map String Json

/-- The kinds of bindings that the sections hold. -/
inductive SectionKind where
  | standbySwitch
  | standbyPara
  | strategyList
  | halfhourSwitch
  | intervalList
  | ladderBatteryList
  | pkgType
  | standbyListPara
  | mxStandbyConfig
  deriving DecidableEq

namespace SectionKind

/-- The values of a kind. -/
abbrev Value : SectionKind → Type
  | standbySwitch | strategyList | halfhourSwitch => Bool
  | standbyPara => Int
  | intervalList | ladderBatteryList => List Int
  | pkgType | standbyListPara => List String
  | mxStandbyConfig => Json

/-- How the parser of a kind stores its values. -/
def rule : SectionKind → Rule
  | intervalList | ladderBatteryList | pkgType => .emplace
  | _ => .assign

/-- The map of a kind. -/
def map (config : StandbyConfigManager) : (kind : SectionKind) → Map String kind.Value
  | standbySwitch => config.standbySwitchMap
  | standbyPara => config.standbyParaMap
  | strategyList => config.strategyListMap
  | halfhourSwitch => config.halfhourSwitchMap
  | intervalList => config.intervalListMap
  | ladderBatteryList => config.ladderBatteryListMap
  | pkgType => config.pkgTypeMap
  | standbyListPara => config.standbyListParaMap
  | mxStandbyConfig => config.mxStandbyConfigMap

/-- The configuration with another map of a kind. -/
def setMap (config : StandbyConfigManager) :
    (kind : SectionKind) → Map String kind.Value → StandbyConfigManager
  | standbySwitch, m => { config with standbySwitchMap := m }
  | standbyPara, m => { config with standbyParaMap := m }
  | strategyList, m => { config with strategyListMap := m }
  | halfhourSwitch, m => { config with halfhourSwitchMap := m }
  | intervalList, m => { config with intervalListMap := m }
  | ladderBatteryList, m => { config with ladderBatteryListMap := m }
  | pkgType, m => { config with pkgTypeMap := m }
  | standbyListPara, m => { config with standbyListParaMap := m }
  | mxStandbyConfig, m => { config with mxStandbyConfigMap := m }

/-- What is found under a key. -/
def find (kind : SectionKind) (config : StandbyConfigManager) (key : String) : Option kind.Value :=
  (kind.map config).lookup key

end SectionKind

namespace StandbyConfigManager

/-- The configuration before anything is read. -/
def initial : StandbyConfigManager where
  pluginName := ""
  standbySwitchMap := ∅
  standbyParaMap := ∅
  strategyListMap := ∅
  strategyList := []
  halfhourSwitchMap := ∅
  intervalListMap := ∅
  ladderBatteryListMap := ∅
  pkgTypeMap := ∅
  standbyListParaMap := ∅
  mxStandbyConfigMap := ∅

/-! ## The parsers of the sections -/

/-- What a parser makes of a member: the value to store. -/
inductive Reading (ν : Type) where
  | unexpected
  | ignored
  | value (value : ν)

/-- The value that a reading stores. -/
def Reading.stored {ν : Type} : Reading ν → Option ν
  | .value v => some v
  | _ => none

/-- The loop of the parsers: `ret` becomes false at an unexpected member. -/
def parseMembers {ν σ : Type} (read : Json → Option (Reading ν)) (store : String → ν → σ → σ) :
    List (Sigma fun _ : String => Json) → Bool × σ → Option (Bool × σ)
  | [], state => some state
  | element :: members, (ret, s) =>
    match read element.2 with
    | none => none
    | some .unexpected => parseMembers read store members (false, s)
    | some .ignored => parseMembers read store members (ret, s)
    | some (.value value) => parseMembers read store members (ret, store element.1 value s)

/-- A section parser whose members go into the map of one kind. -/
def parseInto (kind : SectionKind) (read : Json → Option (Reading kind.Value)) (value : Json)
    (config : StandbyConfigManager) : Option (Bool × StandbyConfigManager) :=
  (parseMembers read kind.rule.store value.items.entries (true, kind.map config)).map fun result =>
    (result.1, kind.setMap config result.2)

/-- A member of `standby`: switches are boolean and parameters are integers that are not negative,
other values are passed over unless they have members. -/
def readStandby : Json → Reading (Bool ⊕ Int)
  | boolean value => .value (.inl value)
  | integer value => if toInt32 value < 0 then .unexpected else .value (.inr (toInt32 value))
  | array _ | object _ => .unexpected
  | _ => .ignored

/-- A switch or a parameter is stored in its map. -/
def storeStandby (key : String) (value : Bool ⊕ Int) (config : StandbyConfigManager) :
    StandbyConfigManager :=
  match value with
  | .inl switchVal =>
    SectionKind.standbySwitch.setMap config
      (SectionKind.standbySwitch.rule.store key switchVal config.standbySwitchMap)
  | .inr paraVal =>
    SectionKind.standbyPara.setMap config
      (SectionKind.standbyPara.rule.store key paraVal config.standbyParaMap)

/-- `StandbyConfigManager::ParseStandbyConfig`. -/
def parseStandbyConfig (standbyConfig : Json) (config : StandbyConfigManager) :
    Option (Bool × StandbyConfigManager) :=
  parseMembers (fun element => some (readStandby element)) storeStandby
    standbyConfig.items.entries (true, config)

/-- An array of which every element must be read. -/
def readArray {α : Type} (read : Json → Option α) : Json → Option (Reading (List α))
  | array elements => (elements.mapM read).map .value
  | _ => some .unexpected

/-- A boolean. -/
def readBool : Json → Option (Reading Bool)
  | boolean value => some (.value value)
  | _ => some .unexpected

/-- The strings of an array. -/
def readListPara : Json → Option (Reading (List String))
  | array elements => some (.value (elements.filterMap asString?))
  | _ => some .unexpected

/-- `StandbyConfigManager::ParsePkgTypeList`. -/
def parsePkgTypeList : Json → StandbyConfigManager → Option (Bool × StandbyConfigManager) :=
  parseInto .pkgType (readArray asString?)

/-- `StandbyConfigManager::ParseIntervalList`. -/
def parseIntervalList : Json → StandbyConfigManager → Option (Bool × StandbyConfigManager) :=
  parseInto .intervalList (readArray getInt32?)

/-- `StandbyConfigManager::ParseStrategyListConfig`. -/
def parseStrategyListConfig : Json → StandbyConfigManager → Option (Bool × StandbyConfigManager) :=
  parseInto .strategyList readBool

/-- `StandbyConfigManager::ParseBatteryList`. -/
def parseBatteryList : Json → StandbyConfigManager → Option (Bool × StandbyConfigManager) :=
  parseInto .ladderBatteryList (readArray getInt32?)

/-- `StandbyConfigManager::ParseStandbyListParaConfig`. -/
def parseStandbyListParaConfig :
    Json → StandbyConfigManager → Option (Bool × StandbyConfigManager) :=
  parseInto .standbyListPara readListPara

/-- `StandbyConfigManager::ParseMxStandbyListConfig`. -/
def parseMxStandbyListConfig (standbyListConfig : Json) (config : StandbyConfigManager) :
    Option (Bool × StandbyConfigManager) :=
  if standbyListConfig.asObject?.isNone then some (false, config)
  else parseInto .mxStandbyConfig (fun element => some (.value element)) standbyListConfig config

/-- The loop of `ParseHalfHourSwitchConfig` returns at an unexpected member. -/
def parseHalfHourMembers : List (Sigma fun _ : String => Json) → StandbyConfigManager →
    Bool × StandbyConfigManager
  | [], config => (true, config)
  | element :: members, config =>
    match element.2 with
    | boolean value => parseHalfHourMembers members { config with
        halfhourSwitchMap :=
          SectionKind.halfhourSwitch.rule.store element.1 value config.halfhourSwitchMap }
    | _ => (false, config)

/-- `StandbyConfigManager::ParseHalfHourSwitchConfig`. -/
def parseHalfHourSwitchConfig (halfHourSwitchConfig : Json) (config : StandbyConfigManager) :
    Option (Bool × StandbyConfigManager) :=
  some (parseHalfHourMembers halfHourSwitchConfig.items.entries config)

/-! ## Documents -/

/-- Parse the object under a tag, if there is one. -/
def parseSection (root : Json) (tag : String)
    (parse : Json → StandbyConfigManager → Option (Bool × StandbyConfigManager))
    (config : StandbyConfigManager) : Option (Bool × StandbyConfigManager) :=
  match JsonUtils.getObjFromJsonValue root tag with
  | none => some (true, config)
  | some value => parse value config

/-- Parse one section after the other, up to one that has something unexpected. -/
def parseSections (root : Json) :
    List (String × (Json → StandbyConfigManager → Option (Bool × StandbyConfigManager))) →
      StandbyConfigManager → Option (Bool × StandbyConfigManager)
  | [], config => some (true, config)
  | (tag, parse) :: sections, config =>
    match parseSection root tag parse config with
    | none => none
    | some (false, config) => some (false, config)
    | some (true, config) => parseSections root sections config

/-- `StandbyConfigManager::ParseDeviceStanbyConfig`, with `CanParsePkgTypeList` and
`CanParseMxStandbyList`. -/
def parseDeviceStanbyConfig (devStandbyConfigRoot : Json) (config : StandbyConfigManager) :
    Option (Bool × StandbyConfigManager) :=
  parseSections devStandbyConfigRoot
    [(TAG_STANDBY, parseStandbyConfig), (TAG_DETECT_LIST, parseStandbyConfig),
      (TAG_MAINTENANCE_LIST, parseIntervalList), (TAG_PKG_TYPE_LIST, parsePkgTypeList),
      (TAG_STRATEGY_LIST, parseStrategyListConfig),
      (TAG_HALFHOUR_SWITCH_SETTING, parseHalfHourSwitchConfig),
      (TAG_STANDBY_LIST_PARA_CONFIG, parseStandbyListParaConfig),
      (TAG_LADDER_BATTERY_LIST, parseBatteryList), (TAG_MX_STANDBY_LIST, parseMxStandbyListConfig)]
    { config with
      pluginName := (JsonUtils.getStringFromJsonValue devStandbyConfigRoot TAG_PLUGIN_NAME).getD
        config.pluginName }

/-- Parse the sections one after the other, whatever they have. -/
def parseEverySection (root : Json) :
    List (String × (Json → StandbyConfigManager → Option (Bool × StandbyConfigManager))) →
      Bool × StandbyConfigManager → Option (Bool × StandbyConfigManager)
  | [], state => some state
  | (tag, parse) :: sections, (ret, config) =>
    match parseSection root tag parse config with
    | none => none
    | some (parsed, config) => parseEverySection root sections (ret && parsed, config)

/-- `StandbyConfigManager::ParseCloudConfig`, without the resources that `ParseResCtrlConfig` reads
into other maps. It answers nothing; here it says whether every section was parsed. -/
def parseCloudConfig (devConfigRoot : Json) (config : StandbyConfigManager) :
    Option (Bool × StandbyConfigManager) :=
  parseEverySection devConfigRoot
    [(TAG_SETTING_LIST, parseStandbyConfig), (TAG_STRATEGY_LIST, parseStrategyListConfig),
      (TAG_STANDBY_LIST_PARA_CONFIG, parseStandbyListParaConfig),
      (TAG_MX_STANDBY_LIST, parseMxStandbyListConfig)]
    (true, config)

/-- `StandbyConfigManager::UpdateStrategyList`. -/
def updateStrategyList (config : StandbyConfigManager) : StandbyConfigManager :=
  { config with
    strategyList := (config.strategyListMap.entries.filter fun it => it.2).map Sigma.fst }

/-- `StandbyConfigManager::GetConfigFileList`. A directory counts when its file has a real path. -/
def getConfigFileList (cfgDirList : List String) (getRealPath : String → Option String)
    (relativeConfigPath : String) : List String :=
  let rootDirList := if DEFAULT_CONFIG_ROOT_DIR ∈ cfgDirList then cfgDirList
    else DEFAULT_CONFIG_ROOT_DIR :: cfgDirList
  rootDirList.filterMap fun configDir => getRealPath (configDir ++ relativeConfigPath)

/-- `StandbyConfigManager::GetAndParseStandbyConfig`: a document that is not parsed leaves what was
read of it. -/
def getAndParseStandbyConfig (contents : List Content) (config : StandbyConfigManager) :
    Option StandbyConfigManager :=
  ((contents.filterMap JsonUtils.loadJsonValueFromContent).foldlM
    (fun config root => (parseDeviceStanbyConfig root config).map Prod.snd) config).map
    updateStrategyList

/-- `StandbyConfigManager::GetCloudConfig`. -/
def getCloudConfig (library : ExtConfig) (config : StandbyConfigManager) :
    Option StandbyConfigManager :=
  match library.getSingleExtConfigFunc with
  | none => some config
  | some getSingleExtConfigFunc =>
    match getSingleExtConfigFunc CLOUD_CONFIG_INDEX with
    | none => some (updateStrategyList config)
    | some configCloud =>
      (parseCloudConfig (configCloud.getD .null) config).map fun result =>
        updateStrategyList result.2

/-- What `Init` makes of the documents, where it may read the one of the cloud at the end. -/
def load (library : ExtConfig) (contents : List Content) (readsCloud : Bool) :
    Option StandbyConfigManager :=
  (getAndParseStandbyConfig contents initial).bind fun config =>
    if readsCloud then getCloudConfig library config else some config

/-- The documents that `GetAndParseStandbyConfig` reads: those of the library, or else those of the
files in the directories of the device. -/
def standbyContents (library : ExtConfig) (cfgDirList : List String)
    (getRealPath : String → Option String) (fileContent : String → Content) : List Content :=
  match library.getExtConfigFunc.bind (· STANDBY_CONFIG_INDEX) with
  | some configContentList => configContentList
  | none => (getConfigFileList cfgDirList getRealPath STANDBY_CONFIG_PATH).map fileContent

/-- `StandbyConfigManager::Init`, without the resources of the strategies. -/
def init (library : ExtConfig) (cfgDirList : List String) (getRealPath : String → Option String)
    (fileContent : String → Content) : Option StandbyConfigManager :=
  load library (standbyContents library cfgDirList getRealPath fileContent)
    (needsToReadCloudConfig library)

/-! ## What a document defines -/

/-- A document of the device or of the cloud. -/
inductive Document where
  | device (root : Json)
  | cloud (root : Json)

/-- A switch of `standby`. -/
def standbySwitch? : Json → Option Bool := asBoolean?

/-- A parameter of `standby`. -/
def standbyPara? : Json → Option Int
  | integer value => if toInt32 value < 0 then none else some (toInt32 value)
  | _ => none

/-- The elements of an array. -/
def elements? {α : Type} (read : Json → Option α) : Json → Option (List α)
  | array elements => elements.mapM read
  | _ => none

/-- The strings of an array. -/
def strings? : Json → Option (List String)
  | array elements => some (elements.filterMap asString?)
  | _ => none

/-- What the section under a tag defines for a key. -/
def definedIn {ν : Type} (root : Json) (tag key : String) (read : Json → Option ν) : Option ν :=
  (JsonUtils.getObjFromJsonValue root tag).bind fun value => (value.member? key).bind read

/-- What a document defines for a key of a kind. What `detect_list` defines comes after what
`standby` defines. -/
def Document.defined : Document → (kind : SectionKind) → String → Option kind.Value
  | device root, .standbySwitch, key =>
    (definedIn root TAG_DETECT_LIST key standbySwitch?).or
      (definedIn root TAG_STANDBY key standbySwitch?)
  | device root, .standbyPara, key =>
    (definedIn root TAG_DETECT_LIST key standbyPara?).or
      (definedIn root TAG_STANDBY key standbyPara?)
  | device root, .strategyList, key => definedIn root TAG_STRATEGY_LIST key asBoolean?
  | device root, .halfhourSwitch, key => definedIn root TAG_HALFHOUR_SWITCH_SETTING key asBoolean?
  | device root, .intervalList, key =>
    definedIn root TAG_MAINTENANCE_LIST key (elements? getInt32?)
  | device root, .ladderBatteryList, key =>
    definedIn root TAG_LADDER_BATTERY_LIST key (elements? getInt32?)
  | device root, .pkgType, key => definedIn root TAG_PKG_TYPE_LIST key (elements? asString?)
  | device root, .standbyListPara, key => definedIn root TAG_STANDBY_LIST_PARA_CONFIG key strings?
  | device root, .mxStandbyConfig, key => definedIn root TAG_MX_STANDBY_LIST key some
  | cloud root, .standbySwitch, key => definedIn root TAG_SETTING_LIST key standbySwitch?
  | cloud root, .standbyPara, key => definedIn root TAG_SETTING_LIST key standbyPara?
  | cloud root, .strategyList, key => definedIn root TAG_STRATEGY_LIST key asBoolean?
  | cloud root, .standbyListPara, key => definedIn root TAG_STANDBY_LIST_PARA_CONFIG key strings?
  | cloud root, .mxStandbyConfig, key => definedIn root TAG_MX_STANDBY_LIST key some
  | cloud _, _, _ => none

/-- The documents that are parsed, in order. -/
def documents (library : ExtConfig) (contents : List Content) (readsCloud : Bool) :
    List Document :=
  (contents.filterMap JsonUtils.loadJsonValueFromContent).map .device ++
    if readsCloud then
      (library.getSingleExtConfigFunc.bind (· CLOUD_CONFIG_INDEX)).toList.map fun configCloud =>
        .cloud (configCloud.getD .null)
    else []

/-- Every section of the document is parsed. -/
def SectionsParse : Document → Prop
  | .device root => ∀ config, ∃ config', parseDeviceStanbyConfig root config = some (true, config')
  | .cloud root => ∀ config, ∃ config', parseCloudConfig root config = some (true, config')

/-- What the first document that defines a key defines. -/
def firstDefined (docs : List Document) (kind : SectionKind) (key : String) : Option kind.Value :=
  docs.findSome? fun doc => doc.defined kind key

/-- What the last document that defines a key defines. -/
def lastDefined (docs : List Document) (kind : SectionKind) (key : String) : Option kind.Value :=
  docs.reverse.findSome? fun doc => doc.defined kind key

/-! ## What a parser binds -/

section
variable {ν σ μ : Type} {read : Json → Option (Reading ν)} {store : String → ν → σ → σ}
  {members : List (Sigma fun _ : String => Json)} {ret ret' : Bool} {s s' : σ} {rule : Rule}
  {key : String}

/-- What is found after the loop: what was read for the key is stored over what was found. -/
theorem find_parseMembers (find : σ → Option μ) (pick : ν → Option μ)
    (hstore : ∀ key' value s, find (store key' value s) =
      rule.merge (if key = key' then pick value else none) (find s))
    (hnodup : members.NodupKeys)
    (h : parseMembers read store members (ret, s) = some (ret', s')) :
    find s' = rule.merge
      ((((members.dlookup key).bind read).bind Reading.stored).bind pick) (find s) := by
  induction members generalizing ret s with
  | nil =>
    cases h
    exact Rule.merge_none.symm
  | cons element members ih =>
    obtain ⟨hnew, hrest⟩ := List.nodupKeys_cons.1 hnodup
    by_cases hkey : key = element.1
    · -- the member is the only one of the key
      have hnone : members.dlookup key = none := List.dlookup_eq_none.2 (hkey ▸ hnew)
      have hsome : (element :: members).dlookup key = some element.2 := by
        subst hkey
        exact List.dlookup_cons_eq _ _ _
      rw [hsome, Option.bind_some]
      rw [parseMembers] at h
      cases hread : read element.2 with
      | none => simp [hread] at h
      | some reading =>
        cases reading <;> simp only [hread] at h <;> have hfind := ih hrest h <;>
          simp only [hnone, Option.bind_none, Rule.merge_none] at hfind
        · exact hfind.trans Rule.merge_none.symm
        · exact hfind.trans Rule.merge_none.symm
        · rw [hfind, hstore, if_pos hkey]
          rfl
    · have hother : (element :: members).dlookup key = members.dlookup key :=
        List.dlookup_cons_ne _ _ hkey
      rw [hother]
      rw [parseMembers] at h
      cases hread : read element.2 with
      | none => simp [hread] at h
      | some reading =>
        cases reading <;> simp only [hread] at h <;> have hfind := ih hrest h
        · exact hfind
        · exact hfind
        · rw [hfind, hstore, if_neg hkey, Rule.merge_none]

end

/-- A section parser with what it binds. -/
structure SectionParser where
  tag : String
  parse : Json → StandbyConfigManager → Option (Bool × StandbyConfigManager)
  bound : (kind : SectionKind) → Json → String → Option kind.Value
  binds : ∀ {value config config'}, parse value config = some (true, config') →
    ∀ kind key, SectionKind.find kind config' key =
      kind.rule.merge (bound kind value key) (kind.find config key)

/-- A parser of one kind binds nothing of the others. -/
def boundBy (kind : SectionKind) (read : Json → Option kind.Value) (kind' : SectionKind)
    (value : Json) (key : String) : Option kind'.Value :=
  if h : kind = kind' then h ▸ (value.member? key).bind read else none

section
variable {config config' : StandbyConfigManager} {kind : SectionKind} {value root : Json}

/-- The map that is set is the map of its kind. -/
@[simp]
theorem map_setMap {m : Map String kind.Value} : kind.map (kind.setMap config m) = m := by
  cases kind <;> rfl

/-- It leaves the maps of the other kinds. -/
theorem map_setMap_of_ne {kind' : SectionKind} {m : Map String kind.Value} (h : kind ≠ kind') :
    kind'.map (kind.setMap config m) = kind'.map config := by
  cases kind <;> cases kind' <;> first | rfl | exact absurd rfl h

/-- A parser that goes into one map binds, under each key, what it reads of the member, and leaves
the other maps. -/
theorem find_parseInto {read : Json → Option (Reading kind.Value)} {val : Json → Option kind.Value}
    (hread : ∀ element, (read element).bind Reading.stored = val element)
    (h : parseInto kind read value config = some (true, config')) (kind' : SectionKind)
    (key : String) : kind'.find config' key =
      kind'.rule.merge (boundBy kind val kind' value key) (kind'.find config key) := by
  obtain ⟨⟨ret, m⟩, hloop, heq⟩ := Option.map_eq_some_iff.1 h
  obtain ⟨rfl, rfl⟩ := Prod.mk.inj heq
  by_cases hkind : kind = kind'
  · subst hkind
    have hfind := find_parseMembers (fun m => m.lookup key) some
      (fun _ _ _ => Rule.lookup_store) value.items.nodupKeys hloop
    have hmember : value.items.entries.dlookup key = value.member? key := lookup_items value key
    rw [SectionKind.find, map_setMap, SectionKind.find, hfind, boundBy, dif_pos rfl, hmember,
      Option.bind_fun_some, Option.bind_assoc]
    simp only [hread]
  · rw [SectionKind.find, map_setMap_of_ne hkind, boundBy, dif_neg hkind, Rule.merge_none]
    rfl

/-- An array is stored when every element can be read. -/
theorem readArray_stored {α : Type} (read : Json → Option α) (element : Json) :
    (readArray read element).bind Reading.stored = elements? read element := by
  cases element with
  | array elements =>
    rw [readArray, elements?]
    cases elements.mapM read <;> rfl
  | _ => rfl

/-- A boolean is stored as it is. -/
theorem readBool_stored (element : Json) :
    (readBool element).bind Reading.stored = asBoolean? element := by
  cases element <;> rfl

/-- Of an array the strings are stored. -/
theorem readListPara_stored (element : Json) :
    (readListPara element).bind Reading.stored = strings? element := by
  cases element <;> rfl

/-- Without an unexpected member the half-hour switches are parsed as the strategies are. -/
theorem parseInto_of_parseHalfHour
    (h : parseHalfHourSwitchConfig value config = some (true, config')) :
    parseInto .halfhourSwitch readBool value config = some (true, config') := by
  have hloop : ∀ members config, parseHalfHourMembers members config = (true, config') →
      (parseMembers readBool SectionKind.halfhourSwitch.rule.store members
        (true, config.halfhourSwitchMap)).map
          (fun result => (result.1, { config with halfhourSwitchMap := result.2 })) =
        some (true, config') := by
    intro members
    induction members with
    | nil =>
      rintro config ⟨⟩
      rfl
    | cons element members ih =>
      intro config hparse
      obtain ⟨key, element⟩ := element
      cases element <;> first | exact ih _ hparse | cases hparse
  exact hloop _ _ (Option.some.inj h)

/-- The value of a kind that `standby` has in a switch or a parameter. -/
def pickStandby : (kind : SectionKind) → Bool ⊕ Int → Option kind.Value
  | .standbySwitch, .inl switchVal => some switchVal
  | .standbyPara, .inr paraVal => some paraVal
  | _, _ => none

/-- What the loop of `standby` binds of each kind. -/
def standbyBound (kind : SectionKind) (value : Json) (key : String) : Option kind.Value :=
  (value.member? key).bind fun element => (readStandby element).stored.bind (pickStandby kind)

/-- A switch is stored among the switches and a parameter among the parameters. -/
theorem find_storeStandby (kind : SectionKind) (key key' : String) (v : Bool ⊕ Int)
    (config : StandbyConfigManager) : kind.find (storeStandby key' v config) key =
      kind.rule.merge (if key = key' then pickStandby kind v else none) (kind.find config key) := by
  cases v with
  | inl switchVal =>
    by_cases hkind : SectionKind.standbySwitch = kind
    · subst hkind
      rw [SectionKind.find, storeStandby, map_setMap]
      exact Rule.lookup_store
    · have hpick : pickStandby kind (.inl switchVal) = none := by
        cases kind <;> first | rfl | exact absurd rfl hkind
      rw [hpick, ite_self, Rule.merge_none, SectionKind.find, storeStandby,
        map_setMap_of_ne hkind]
      rfl
  | inr paraVal =>
    by_cases hkind : SectionKind.standbyPara = kind
    · subst hkind
      rw [SectionKind.find, storeStandby, map_setMap]
      exact Rule.lookup_store
    · have hpick : pickStandby kind (.inr paraVal) = none := by
        cases kind <;> first | rfl | exact absurd rfl hkind
      rw [hpick, ite_self, Rule.merge_none, SectionKind.find, storeStandby,
        map_setMap_of_ne hkind]
      rfl

/-- `ParseStandbyConfig` binds switches and parameters, even where it reports a member that it did
not expect. -/
theorem find_parseStandbyConfig {ret : Bool}
    (h : parseStandbyConfig value config = some (ret, config')) (kind : SectionKind)
    (key : String) : kind.find config' key =
      kind.rule.merge (standbyBound kind value key) (kind.find config key) := by
  have hmember : value.items.entries.dlookup key = value.member? key := lookup_items value key
  have hfind := find_parseMembers (fun config => kind.find config key) _
    (fun key' v config => find_storeStandby kind key key' v config) value.items.nodupKeys h
  rw [hmember, Option.bind_assoc, Option.bind_assoc] at hfind
  exact hfind

/-- A boolean member of `standby` is a switch. -/
theorem standbyBound_switch (key : String) : standbyBound .standbySwitch value key =
    (value.member? key).bind standbySwitch? := by
  refine congrArg _ (funext fun element => ?_)
  cases element with
  | integer n =>
    dsimp only [readStandby]
    split_ifs <;> rfl
  | _ => rfl

/-- An integer member is a parameter unless it is negative. -/
theorem standbyBound_para (key : String) : standbyBound .standbyPara value key =
    (value.member? key).bind standbyPara? := by
  refine congrArg _ (funext fun element => ?_)
  cases element with
  | integer n =>
    dsimp only [readStandby, standbyPara?]
    split_ifs <;> rfl
  | _ => rfl

/-- No member of `standby` is of another kind. -/
theorem standbyBound_other (hswitch : kind ≠ .standbySwitch) (hpara : kind ≠ .standbyPara)
    (key : String) : standbyBound kind value key = none := by
  have hpick : ∀ v, pickStandby kind v = none := by
    rintro (v | v) <;> cases kind <;>
      first | rfl | exact absurd rfl hswitch | exact absurd rfl hpara
  refine Option.bind_eq_none_iff.2 fun element _ => Option.bind_eq_none_iff.2 fun v _ => hpick v

/-! ## What a document binds -/

/-- What a parser binds of the section under its tag. -/
def SectionParser.boundIn (parser : SectionParser) (root : Json) (kind : SectionKind)
    (key : String) : Option kind.Value :=
  (JsonUtils.getObjFromJsonValue root parser.tag).bind fun value => parser.bound kind value key

/-- What is found after some parsers, if each binds what it should. -/
def SectionParser.foldBound (parsers : List SectionParser) (root : Json) (kind : SectionKind)
    (key : String) (old : Option kind.Value) : Option kind.Value :=
  parsers.foldl (fun old parser => kind.rule.merge (parser.boundIn root kind key) old) old

/-- The object under a tag binds what its parser binds. An absent section binds nothing. -/
theorem find_parseSection {parser : SectionParser}
    (h : parseSection root parser.tag parser.parse config = some (true, config'))
    (kind : SectionKind) (key : String) : kind.find config' key =
      kind.rule.merge (parser.boundIn root kind key) (kind.find config key) := by
  unfold parseSection at h
  unfold SectionParser.boundIn
  cases hobj : JsonUtils.getObjFromJsonValue root parser.tag with
  | none =>
    rw [hobj] at h
    cases h
    exact Rule.merge_none.symm
  | some value =>
    rw [hobj] at h
    exact parser.binds h kind key

/-- Sections that are all parsed bind one after the other. -/
theorem find_parseSections (parsers : List SectionParser)
    (h : parseSections root (parsers.map fun parser => (parser.tag, parser.parse)) config =
      some (true, config')) (kind : SectionKind) (key : String) :
    kind.find config' key =
      SectionParser.foldBound parsers root kind key (kind.find config key) := by
  induction parsers generalizing config with
  | nil =>
    cases h
    rfl
  | cons parser parsers ih =>
    simp only [List.map_cons, parseSections] at h
    cases hparse : parseSection root parser.tag parser.parse config with
    | none => simp [hparse] at h
    | some result =>
      obtain ⟨ret, config₁⟩ := result
      cases ret with
      | false => simp [hparse] at h
      | true =>
        rw [hparse] at h
        rw [ih h, find_parseSection hparse]
        rfl

/-- So do those of the cloud, which are parsed even after one that has something unexpected. -/
theorem find_parseEverySection (parsers : List SectionParser) {ret : Bool}
    (h : parseEverySection root (parsers.map fun parser => (parser.tag, parser.parse))
      (ret, config) = some (true, config')) (kind : SectionKind) (key : String) :
    ret = true ∧ kind.find config' key =
      SectionParser.foldBound parsers root kind key (kind.find config key) := by
  induction parsers generalizing config ret with
  | nil =>
    cases h
    exact ⟨rfl, rfl⟩
  | cons parser parsers ih =>
    simp only [List.map_cons, parseEverySection] at h
    cases hparse : parseSection root parser.tag parser.parse config with
    | none => simp [hparse] at h
    | some result =>
      obtain ⟨parsed, config₁⟩ := result
      rw [hparse] at h
      obtain ⟨hret, hfind⟩ := ih h
      obtain ⟨rfl, rfl⟩ := Bool.and_eq_true_iff.1 hret
      refine ⟨rfl, ?_⟩
      rw [hfind, find_parseSection hparse]
      rfl

/-- `ParseStandbyConfig` under a tag. -/
def standbyParser (tag : String) : SectionParser where
  tag := tag
  parse := parseStandbyConfig
  bound := standbyBound
  binds := find_parseStandbyConfig

/-- A parser of one kind under a tag. -/
def kindParser (tag : String) (kind : SectionKind) (val : Json → Option kind.Value)
    (parse : Json → StandbyConfigManager → Option (Bool × StandbyConfigManager))
    (read : Json → Option (Reading kind.Value))
    (hread : ∀ element, (read element).bind Reading.stored = val element)
    (hparse : ∀ {value config config'}, parse value config = some (true, config') →
      parseInto kind read value config = some (true, config')) : SectionParser where
  tag := tag
  parse := parse
  bound := boundBy kind val
  binds h := find_parseInto hread (hparse h)

/-- `ParseStrategyListConfig`. -/
def strategyParser : SectionParser :=
  kindParser TAG_STRATEGY_LIST .strategyList asBoolean? parseStrategyListConfig readBool
    readBool_stored id

/-- `ParseStandbyListParaConfig`. -/
def listParaParser : SectionParser :=
  kindParser TAG_STANDBY_LIST_PARA_CONFIG .standbyListPara strings? parseStandbyListParaConfig
    readListPara readListPara_stored id

/-- `ParseMxStandbyListConfig`. -/
def mxStandbyParser : SectionParser :=
  kindParser TAG_MX_STANDBY_LIST .mxStandbyConfig some parseMxStandbyListConfig
    (fun element => some (.value element)) (fun _ => rfl) fun h => by
      unfold parseMxStandbyListConfig at h
      split_ifs at h
      · cases h
      · exact h

/-- The parsers of a document of the device. -/
def deviceParsers : List SectionParser :=
  [standbyParser TAG_STANDBY, standbyParser TAG_DETECT_LIST,
    kindParser TAG_MAINTENANCE_LIST .intervalList (elements? getInt32?) parseIntervalList
      (readArray getInt32?) (readArray_stored _) id,
    kindParser TAG_PKG_TYPE_LIST .pkgType (elements? asString?) parsePkgTypeList
      (readArray asString?) (readArray_stored _) id,
    strategyParser,
    kindParser TAG_HALFHOUR_SWITCH_SETTING .halfhourSwitch asBoolean? parseHalfHourSwitchConfig
      readBool readBool_stored parseInto_of_parseHalfHour,
    listParaParser,
    kindParser TAG_LADDER_BATTERY_LIST .ladderBatteryList (elements? getInt32?) parseBatteryList
      (readArray getInt32?) (readArray_stored _) id,
    mxStandbyParser]

/-- The parsers of the document of the cloud. -/
def cloudParsers : List SectionParser :=
  [standbyParser TAG_SETTING_LIST, strategyParser, listParaParser, mxStandbyParser]

/-- The parsers of the device bind what its document defines. -/
theorem foldBound_device (kind : SectionKind) (key : String) (old : Option kind.Value) :
    SectionParser.foldBound deviceParsers root kind key old =
      kind.rule.merge ((Document.device root).defined kind key) old := by
  cases kind <;>
    simp only [SectionParser.foldBound, SectionParser.boundIn, deviceParsers, standbyParser,
      kindParser, strategyParser, listParaParser, mxStandbyParser, boundBy, standbyBound_switch,
      standbyBound_para, standbyBound_other, List.foldl_cons, List.foldl_nil, ne_eq, reduceCtorEq,
      not_false_eq_true, dite_true, dite_false, Option.bind_fun_none, Option.bind_fun_some,
      Rule.merge_none, Document.defined, definedIn]
  case standbySwitch | standbyPara => exact Rule.merge_assign_merge

/-- The parsers of the cloud bind what its document defines. -/
theorem foldBound_cloud (kind : SectionKind) (key : String) (old : Option kind.Value) :
    SectionParser.foldBound cloudParsers root kind key old =
      kind.rule.merge ((Document.cloud root).defined kind key) old := by
  cases kind <;>
    simp only [SectionParser.foldBound, SectionParser.boundIn, cloudParsers, standbyParser,
      kindParser, strategyParser, listParaParser, mxStandbyParser, boundBy, standbyBound_switch,
      standbyBound_para, standbyBound_other, List.foldl_cons, List.foldl_nil, ne_eq, reduceCtorEq,
      not_false_eq_true, dite_true, dite_false, Option.bind_fun_none, Option.bind_fun_some,
      Rule.merge_none, Document.defined, definedIn]

/-- A document of the device that is parsed binds what it defines. -/
theorem find_parseDeviceStanbyConfig
    (h : parseDeviceStanbyConfig root config = some (true, config')) (kind : SectionKind)
    (key : String) : kind.find config' key =
      kind.rule.merge ((Document.device root).defined kind key) (kind.find config key) := by
  rw [find_parseSections deviceParsers h, foldBound_device]
  cases kind <;> rfl

/-- A document of the cloud that is parsed binds what it defines. -/
theorem find_parseCloudConfig (h : parseCloudConfig root config = some (true, config'))
    (kind : SectionKind) (key : String) : kind.find config' key =
      kind.rule.merge ((Document.cloud root).defined kind key) (kind.find config key) := by
  rw [(find_parseEverySection cloudParsers h kind key).2, foldBound_cloud]

/-- `UpdateStrategyList` changes no map. -/
@[simp]
theorem find_updateStrategyList (key : String) :
    kind.find (updateStrategyList config) key = kind.find config key := by
  cases kind <;> rfl

/-- The strategies of the list are those that the map has switched on. -/
theorem mem_strategyList_updateStrategyList (name : String) :
    name ∈ (updateStrategyList config).strategyList ↔
      SectionKind.strategyList.find config name = some true := by
  rw [SectionKind.find, Map.lookup_eq_some_iff]
  simp only [updateStrategyList, List.mem_map, List.mem_filter]
  constructor
  · rintro ⟨⟨name, value⟩, ⟨hmem, rfl⟩, rfl⟩
    exact hmem
  · exact fun hmem => ⟨_, ⟨hmem, rfl⟩, rfl⟩

end

/-! ## What is found after the documents -/

section
variable {config config' : StandbyConfigManager} {library : ExtConfig} {contents : List Content}
  {roots : List Json} {readsCloud : Bool}

/-- Documents of the device that are parsed bind one after the other. -/
theorem find_foldlM_parse (config : StandbyConfigManager)
    (h : ∀ root ∈ roots, SectionsParse (.device root)) :
    ∃ config', roots.foldlM
        (fun config root => (parseDeviceStanbyConfig root config).map Prod.snd) config =
          some config' ∧
      ∀ kind key, SectionKind.find kind config' key =
        (roots.map Document.device).foldl
          (fun old doc => kind.rule.merge (doc.defined kind key) old) (kind.find config key) := by
  induction roots generalizing config with
  | nil => exact ⟨config, rfl, fun _ _ => rfl⟩
  | cons root roots ih =>
    obtain ⟨config₁, hparse⟩ := h root List.mem_cons_self config
    obtain ⟨config', hrest, hfind⟩ := ih config₁ fun root hroot =>
      h root (List.mem_cons_of_mem _ hroot)
    refine ⟨config', ?_, fun kind key => ?_⟩
    · rw [List.foldlM_cons, hparse]
      exact hrest
    · rw [hfind, find_parseDeviceStanbyConfig hparse]
      rfl

/-- What `GetAndParseStandbyConfig` binds. -/
theorem find_getAndParseStandbyConfig (contents : List Content)
    (h : ∀ doc ∈ (contents.filterMap JsonUtils.loadJsonValueFromContent).map Document.device,
      SectionsParse doc) :
    ∃ config, getAndParseStandbyConfig contents initial = some (updateStrategyList config) ∧
      ∀ kind key, SectionKind.find kind config key =
        ((contents.filterMap JsonUtils.loadJsonValueFromContent).map Document.device).foldl
          (fun old doc => kind.rule.merge (doc.defined kind key) old) none := by
  obtain ⟨config, hload, hfind⟩ := find_foldlM_parse initial fun root hroot =>
    h _ (List.mem_map_of_mem hroot)
  refine ⟨config, ?_, fun kind key => ?_⟩
  · rw [getAndParseStandbyConfig, hload, Option.map_some]
  · have hinitial : kind.find initial key = none := by cases kind <;> rfl
    rw [hfind, hinitial]

/-- What `GetCloudConfig` binds. -/
theorem find_getCloudConfig
    (h : ∀ doc ∈ (library.getSingleExtConfigFunc.bind (· CLOUD_CONFIG_INDEX)).toList.map
      fun configCloud => Document.cloud (configCloud.getD .null), SectionsParse doc) :
    ∃ config', getCloudConfig library (updateStrategyList config) =
        some (updateStrategyList config') ∧
      ∀ kind key, SectionKind.find kind config' key =
        ((library.getSingleExtConfigFunc.bind (· CLOUD_CONFIG_INDEX)).toList.map
          fun configCloud => Document.cloud (configCloud.getD .null)).foldl
            (fun old doc => kind.rule.merge (doc.defined kind key) old) (kind.find config key) := by
  unfold getCloudConfig
  cases hfunc : library.getSingleExtConfigFunc with
  | none => exact ⟨config, rfl, fun _ _ => rfl⟩
  | some getSingleExtConfigFunc =>
    cases hcontent : getSingleExtConfigFunc CLOUD_CONFIG_INDEX with
    | none => exact ⟨config, by simp [hcontent, updateStrategyList], by simp [hcontent]⟩
    | some configCloud =>
      have hdoc : SectionsParse (.cloud (configCloud.getD .null)) :=
        h _ (by simp [hfunc, hcontent])
      obtain ⟨config', hparse⟩ := hdoc (updateStrategyList config)
      refine ⟨config', by simp [hcontent, hparse], fun kind key => ?_⟩
      simp [hcontent, find_parseCloudConfig hparse]

/-- What the documents bind together. -/
theorem find_load (h : ∀ doc ∈ documents library contents readsCloud, SectionsParse doc) :
    ∃ config, load library contents readsCloud = some (updateStrategyList config) ∧
      ∀ kind key, SectionKind.find kind config key =
        (documents library contents readsCloud).foldl
          (fun old doc => kind.rule.merge (doc.defined kind key) old) none := by
  obtain ⟨config, hload, hfind⟩ := find_getAndParseStandbyConfig contents
    fun doc hdoc => h doc (List.mem_append_left _ hdoc)
  simp only [load, hload, Option.bind_some, documents, List.foldl_append, ← hfind]
  cases readsCloud with
  | false => exact ⟨config, rfl, fun _ _ => rfl⟩
  | true =>
    exact find_getCloudConfig fun doc hdoc => h doc (List.mem_append_right _ hdoc)

end

/-- The last document that defines a key counts, except that the first one counts for a map that is
emplaced. The strategies of the list are those that are switched on last. `Init` leaves this
configuration of the documents that it reads. -/
theorem find_loaded_iff (library : ExtConfig) (contents : List Content) (readsCloud : Bool)
    (hparse : ∀ doc ∈ documents library contents readsCloud, SectionsParse doc) :
    ∃ config, load library contents readsCloud = some config ∧
      (∀ kind key,
        SectionKind.find kind config key =
            lastDefined (documents library contents readsCloud) kind key ↔
          (kind.rule = .emplace →
            firstDefined (documents library contents readsCloud) kind key =
              lastDefined (documents library contents readsCloud) kind key)) ∧
      (∀ name, name ∈ config.strategyList ↔
        lastDefined (documents library contents readsCloud) .strategyList name = some true) ∧
      ∀ cfgDirList getRealPath fileContent,
        standbyContents library cfgDirList getRealPath fileContent = contents →
        needsToReadCloudConfig library = readsCloud →
          init library cfgDirList getRealPath fileContent = some config := by
  obtain ⟨config, hload, hfind⟩ := find_load hparse
  refine ⟨updateStrategyList config, hload, fun kind key => ?_, fun name => ?_, ?_⟩
  · rw [find_updateStrategyList, hfind]
    exact Rule.foldl_merge_eq_last_iff
  · rw [mem_strategyList_updateStrategyList, hfind, lastDefined,
      Rule.foldl_merge_eq_last_iff.2 fun h => by cases h]
  · rintro cfgDirList getRealPath fileContent rfl rfl
    exact hload

/-- A document of the device with the timeout and the intervals of NAP. -/
def napContent (timeout : Int) (intervals : List Int) : Content :=
  some (.object [(TAG_STANDBY, .object [("nap_timeout", .integer timeout)]),
    (TAG_MAINTENANCE_LIST, .object [("nap_interval", .array (intervals.map .integer))])])

/-- A library that delivers nothing. -/
def noLibrary : ExtConfig where
  getExtConfigFunc := none
  getSingleExtConfigFunc := none

/-- Two documents that both define the timeout and the intervals. -/
def napContents : List Content :=
  [napContent 10 [1], napContent 20 [2]]

/-- Every section of the two documents is parsed. -/
theorem napContents_parse :
    ∀ doc ∈ documents noLibrary napContents false, SectionsParse doc := by
  intro doc hdoc
  simp only [documents, napContents, napContent, List.filterMap, JsonUtils.loadJsonValueFromContent,
    Option.filter, asObject?, Option.isSome_some, if_true, List.map_cons, List.map_nil,
    Bool.false_eq_true, if_false, List.append_nil, List.mem_cons, List.not_mem_nil,
    or_false] at hdoc
  rcases hdoc with rfl | rfl <;> exact fun config => ⟨_, rfl⟩

/-- The timeout of the second document counts. -/
theorem find_loaded_timeout : ∃ config, load noLibrary napContents false = some config ∧
    SectionKind.find .standbyPara config "nap_timeout" = some 20 := by
  obtain ⟨config, hload, hfind, -⟩ := find_loaded_iff noLibrary _ false napContents_parse
  have hlast : lastDefined (documents noLibrary napContents false) .standbyPara "nap_timeout" =
      some 20 := rfl
  refine ⟨config, hload, ?_⟩
  rw [← hlast]
  exact (hfind .standbyPara "nap_timeout").2 nofun

/-- The last document does not always count: the intervals of the first one stay. -/
theorem not_always_find_last : ¬ ∀ library contents readsCloud,
    (∀ doc ∈ documents library contents readsCloud, SectionsParse doc) →
      ∃ config, load library contents readsCloud = some config ∧
        ∀ kind key, SectionKind.find kind config key =
          lastDefined (documents library contents readsCloud) kind key := by
  intro h
  obtain ⟨config, hload, hfind⟩ := h noLibrary _ false napContents_parse
  cases hload
  have hkept := hfind .intervalList "nap_interval"
  revert hkept
  decide

end StandbyConfigManager

end DeviceStandby
