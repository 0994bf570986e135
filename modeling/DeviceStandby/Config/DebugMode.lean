import DeviceStandby.Config.Sections
import Mathlib.Data.List.TakeWhile

/-!
# The debug mode

A shell command turns the debug mode on and off. Turning it on backs up the switches and the
parameters, which may then be changed, and turning it off restores the backup. Neither looks at the
mode that was: turning it off twice restores what the first time has cleared, and turning it on
twice backs up what was changed in between. `loaded_whenever_off_iff` says which sequences of
commands leave the loaded configuration whenever the mode is off.
-/

namespace DeviceStandby

open AssocMap

abbrev DUMP_ON : String := "on"
abbrev DUMP_OFF : String := "off"
abbrev DUMP_DEBUG_SWITCH : String := "debug"

/-- `std::atoi`. What a number out of range becomes is not defined, and is taken here from its low
bits. -/
def atoi (text : String) : Int :=
  match text.toList.dropWhile Char.isWhitespace with
  | '-' :: digits => Json.toInt32 (-digitsToNat (digits.takeWhile Char.isDigit))
  | '+' :: digits => Json.toInt32 (digitsToNat (digits.takeWhile Char.isDigit))
  | digits => Json.toInt32 (digitsToNat (digits.takeWhile Char.isDigit))

/-- The configuration and its backup, with the mode that the service keeps. -/
structure DebugState where
  debugMode : Bool
  config : StandbyConfigManager
  backStandbySwitchMap : Map String Bool
  backStandbyParaMap : Map String Int

namespace DebugState

/-- The configuration as it was loaded, with the mode off. -/
def start (config : StandbyConfigManager) : DebugState where
  debugMode := false
  config := config
  backStandbySwitchMap := ∅
  backStandbyParaMap := ∅

/-- `StandbyConfigManager::DumpSetDebugMode`. -/
def dumpSetDebugMode (debugMode : Bool) (s : DebugState) : DebugState :=
  if debugMode then
    { s with
      backStandbySwitchMap := s.config.standbySwitchMap
      backStandbyParaMap := s.config.standbyParaMap }
  else
    { s with
      config := { s.config with
        standbySwitchMap := s.backStandbySwitchMap
        standbyParaMap := s.backStandbyParaMap }
      backStandbySwitchMap := ∅
      backStandbyParaMap := ∅ }

/-- `StandbyConfigManager::DumpSetSwitch`, and what it prints. -/
def dumpSetSwitch (switchName : String) (switchStatus : Bool) (s : DebugState) :
    DebugState × String :=
  if switchName ∈ s.config.standbySwitchMap then
    ({ s with config := { s.config with
        standbySwitchMap := s.config.standbySwitchMap.modify switchName fun _ => switchStatus } },
      "")
  else (s, switchName ++ " not exist\n")

/-- `StandbyConfigManager::DumpSetParameter`, and what it prints. -/
def dumpSetParameter (paramName : String) (paramValue : Int) (s : DebugState) :
    DebugState × String :=
  if paramName ∈ s.config.standbyParaMap then
    ({ s with config := { s.config with
        standbyParaMap := s.config.standbyParaMap.modify paramName fun _ => paramValue } }, "")
  else (s, paramName ++ " not exist\n")

/-- `StandbyServiceImpl::DumpTurnOnOffSwitch`, and what it prints. The first argument has chosen the
handler. -/
def dumpTurnOnOffSwitch (argsInStr : List String) (s : DebugState) : DebugState × String :=
  match argsInStr with
  | [_, switchName, switchArg] =>
    if switchArg ≠ DUMP_ON ∧ switchArg ≠ DUMP_OFF then
      (s, "not correct parameter for turn on or turn off switch\n")
    else
      let switchStatus := decide (switchArg = DUMP_ON)
      if switchName = DUMP_DEBUG_SWITCH then
        ({ s with debugMode := switchStatus }.dumpSetDebugMode switchStatus,
          if switchStatus then "debugMode: true\n" else "debugMode: false\n")
      else if ¬ s.debugMode then (s, "other switch can be changed only in debug mode\n")
      else s.dumpSetSwitch switchName switchStatus
  | _ => (s, "not correct parameter number for turn on or turn off switch\n")

/-- `StandbyServiceImpl::DumpChangeConfigParam`, and what it prints. -/
def dumpChangeConfigParam (argsInStr : List String) (s : DebugState) : DebugState × String :=
  match argsInStr with
  | [_, paramName, paramValue] =>
    if ¬ s.debugMode then (s, "current is not in debug mode, can not change timeout\n")
    else s.dumpSetParameter paramName (atoi paramValue)
  | _ => (s, "not correct parameter number for change state timeout\n")

/-- A shell command that one of the two handlers gets. -/
inductive Command where
  | turnOnOffSwitch (argsInStr : List String)
  | changeConfigParam (argsInStr : List String)

/-- The handler of a command. -/
def handle (s : DebugState) : Command → DebugState
  | .turnOnOffSwitch argsInStr => (s.dumpTurnOnOffSwitch argsInStr).1
  | .changeConfigParam argsInStr => (s.dumpChangeConfigParam argsInStr).1

/-- The state after some commands. -/
def run (config : StandbyConfigManager) (commands : List Command) : DebugState :=
  commands.foldl handle (start config)

/-! ## What a command does -/

/-- The mode that a command switches to. -/
def Command.debugSwitch? : Command → Option Bool
  | .turnOnOffSwitch [_, switchName, switchArg] =>
    if switchName ≠ DUMP_DEBUG_SWITCH then none
    else if switchArg = DUMP_ON then some true
    else if switchArg = DUMP_OFF then some false
    else none
  | _ => none

/-- The switches and the parameters. -/
def maps (s : DebugState) : Map String Bool × Map String Int :=
  (s.config.standbySwitchMap, s.config.standbyParaMap)

/-- The backup of the switches and the parameters. -/
def backup (s : DebugState) : Map String Bool × Map String Int :=
  (s.backStandbySwitchMap, s.backStandbyParaMap)

section
variable {s : DebugState} {c : Command} {config : StandbyConfigManager}
  {commands before after : List Command}

/-- A switch that is set changes neither the mode nor the backup. -/
theorem dumpSetSwitch_spec (switchName : String) (switchStatus : Bool) :
    (s.dumpSetSwitch switchName switchStatus).1.debugMode = s.debugMode ∧
      (s.dumpSetSwitch switchName switchStatus).1.backup = s.backup ∧
      (s.maps = (∅, ∅) → (s.dumpSetSwitch switchName switchStatus).1.maps = (∅, ∅)) := by
  unfold dumpSetSwitch
  split_ifs with hmem
  · refine ⟨rfl, rfl, fun hempty => ?_⟩
    rw [(Prod.mk.inj hempty).1] at hmem
    exact absurd hmem (AList.notMem_empty _)
  · exact ⟨rfl, rfl, id⟩

/-- A parameter that is set changes neither the mode nor the backup. -/
theorem dumpSetParameter_spec (paramName : String) (paramValue : Int) :
    (s.dumpSetParameter paramName paramValue).1.debugMode = s.debugMode ∧
      (s.dumpSetParameter paramName paramValue).1.backup = s.backup ∧
      (s.maps = (∅, ∅) → (s.dumpSetParameter paramName paramValue).1.maps = (∅, ∅)) := by
  unfold dumpSetParameter
  split_ifs with hmem
  · refine ⟨rfl, rfl, fun hempty => ?_⟩
    rw [(Prod.mk.inj hempty).2] at hmem
    exact absurd hmem (AList.notMem_empty _)
  · exact ⟨rfl, rfl, id⟩

/-- Turning the mode on backs the maps up, and turning it off restores them. -/
theorem handle_debugSwitch {debugMode : Bool} (h : c.debugSwitch? = some debugMode) :
    s.handle c = { s with debugMode := debugMode }.dumpSetDebugMode debugMode := by
  unfold Command.debugSwitch? at h
  split at h
  · rename_i switchName switchArg
    split_ifs at h with hname hon hoff
    · cases h
      simp [handle, dumpTurnOnOffSwitch, not_not.1 hname, hon]
    · cases h
      have hne : DUMP_OFF ≠ DUMP_ON := by decide
      simp [handle, dumpTurnOnOffSwitch, not_not.1 hname, hoff, hne]
  · cases h

/-- Other commands keep the mode and the backup, and change the maps in debug mode only. -/
theorem handle_other (h : c.debugSwitch? = none) :
    (s.handle c).debugMode = s.debugMode ∧ (s.handle c).backup = s.backup ∧
      (s.debugMode = false → s.handle c = s) ∧
      (s.maps = (∅, ∅) → (s.handle c).maps = (∅, ∅)) := by
  cases c with
  | turnOnOffSwitch argsInStr =>
    simp only [handle]
    unfold dumpTurnOnOffSwitch
    split
    · rename_i switchName switchArg
      by_cases harg : switchArg ≠ DUMP_ON ∧ switchArg ≠ DUMP_OFF
      · rw [if_pos harg]
        exact ⟨rfl, rfl, fun _ => rfl, id⟩
      · have hname : switchName ≠ DUMP_DEBUG_SWITCH := by
          rintro rfl
          refine harg ⟨?_, ?_⟩ <;> rintro rfl <;>
            simp [Command.debugSwitch?, DUMP_ON, DUMP_OFF] at h
        rw [if_neg harg, if_neg hname]
        cases hmode : s.debugMode with
        | false => exact ⟨hmode, rfl, fun _ => rfl, id⟩
        | true =>
          obtain ⟨hdebug, hback, hempty⟩ :=
            dumpSetSwitch_spec (s := s) switchName (decide (switchArg = DUMP_ON))
          exact ⟨hdebug.trans hmode, hback, by simp, hempty⟩
    · exact ⟨rfl, rfl, fun _ => rfl, id⟩
  | changeConfigParam argsInStr =>
    simp only [handle]
    unfold dumpChangeConfigParam
    split
    · rename_i paramName paramValue
      cases hmode : s.debugMode with
      | false => exact ⟨hmode, rfl, fun _ => rfl, id⟩
      | true =>
        obtain ⟨hdebug, hback, hempty⟩ :=
          dumpSetParameter_spec (s := s) paramName (atoi paramValue)
        exact ⟨hdebug.trans hmode, hback, by simp, hempty⟩
    · exact ⟨rfl, rfl, fun _ => rfl, id⟩

/-! ## Runs -/

/-- The last command is handled after the others. -/
theorem run_append_singleton : run config (commands ++ [c]) = (run config commands).handle c := by
  rw [run, List.foldl_append]
  rfl

/-- Out of debug mode there is no backup. -/
theorem backup_of_off (h : (run config commands).debugMode = false) :
    (run config commands).backup = (∅, ∅) := by
  induction commands using List.reverseRecOn with
  | nil => rfl
  | append_singleton commands c ih =>
    rw [run_append_singleton] at h ⊢
    cases hswitch : c.debugSwitch? with
    | none =>
      obtain ⟨hdebug, hback, -⟩ := handle_other (s := run config commands) hswitch
      rw [hback]
      exact ih (hdebug ▸ h)
    | some debugMode =>
      rw [handle_debugSwitch hswitch] at h ⊢
      cases debugMode with
      | false => rfl
      | true => cases h

/-- In debug mode the backup is of what was there when the mode was last turned on. -/
theorem exists_on_of_debugMode (h : (run config commands).debugMode = true) :
    ∃ before on after, commands = before ++ on :: after ∧ on.debugSwitch? = some true ∧
      (∀ c ∈ after, c.debugSwitch? = none) ∧
      (run config commands).backup = (run config before).maps := by
  induction commands using List.reverseRecOn with
  | nil => cases h
  | append_singleton commands c ih =>
    rw [run_append_singleton] at h ⊢
    cases hswitch : c.debugSwitch? with
    | none =>
      obtain ⟨hdebug, hback, -⟩ := handle_other (s := run config commands) hswitch
      obtain ⟨before, on, after, rfl, hon, hnone, hmaps⟩ := ih (hdebug ▸ h)
      refine ⟨before, on, after ++ [c], by simp, hon, fun c' hc' => ?_, hback.trans hmaps⟩
      rcases List.mem_append.1 hc' with hc' | hc'
      · exact hnone c' hc'
      · rwa [List.mem_singleton.1 hc']
    | some debugMode =>
      rw [handle_debugSwitch hswitch] at h ⊢
      cases debugMode with
      | false => cases h
      | true => exact ⟨commands, c, [], rfl, hswitch, by simp, rfl⟩

/-- The backup stays while the mode is not switched. -/
theorem backup_of_on {on : Command} (hon : on.debugSwitch? = some true)
    (hafter : ∀ c ∈ after, c.debugSwitch? = none) :
    (run config (before ++ on :: after)).backup = (run config before).maps := by
  induction after using List.reverseRecOn with
  | nil =>
    rw [run_append_singleton, handle_debugSwitch hon]
    rfl
  | append_singleton after c ih =>
    have hrun : run config (before ++ on :: (after ++ [c])) =
        (run config (before ++ on :: after)).handle c := by
      rw [← run_append_singleton, List.append_assoc, List.cons_append]
    rw [hrun, (handle_other (hafter c (by simp))).2.1]
    exact ih fun c hc => hafter c (List.mem_append_left _ hc)

/-- Out of debug mode there is what was loaded, or the backup that was there when the mode was last
turned off. -/
theorem exists_off_of_not_debugMode (h : (run config commands).debugMode = false) :
    (run config commands).maps = (start config).maps ∨
      ∃ before off after, commands = before ++ off :: after ∧ off.debugSwitch? = some false ∧
        (run config commands).maps = (run config before).backup := by
  induction commands using List.reverseRecOn with
  | nil => exact .inl rfl
  | append_singleton commands c ih =>
    rw [run_append_singleton] at h ⊢
    cases hswitch : c.debugSwitch? with
    | none =>
      obtain ⟨hdebug, -, hsame, -⟩ := handle_other (s := run config commands) hswitch
      have hoff := hdebug ▸ h
      rw [hsame hoff]
      refine (ih hoff).imp id ?_
      rintro ⟨before, off, after, rfl, hswitch, hmaps⟩
      exact ⟨before, off, after ++ [c], by simp, hswitch, hmaps⟩
    | some debugMode =>
      rw [handle_debugSwitch hswitch] at h ⊢
      cases debugMode with
      | false => exact .inr ⟨commands, c, [], rfl, hswitch, rfl⟩
      | true => cases h

/-- Where nothing was loaded there is nothing to change. -/
theorem maps_of_empty (h : (start config).maps = (∅, ∅)) :
    (run config commands).maps = (∅, ∅) ∧ (run config commands).backup = (∅, ∅) := by
  induction commands using List.reverseRecOn with
  | nil => exact ⟨h, rfl⟩
  | append_singleton commands c ih =>
    obtain ⟨hmaps, hback⟩ := ih
    rw [run_append_singleton]
    cases hswitch : c.debugSwitch? with
    | none =>
      obtain ⟨-, hsame, -, hempty⟩ := handle_other (s := run config commands) hswitch
      exact ⟨hempty hmaps, hsame.trans hback⟩
    | some debugMode =>
      rw [handle_debugSwitch hswitch]
      cases debugMode with
      | false => exact ⟨hback, rfl⟩
      | true => exact ⟨hmaps, hmaps⟩

end

/-! ## Exactly when the loaded configuration comes back -/

/-- Whenever the mode is turned off it is on, and it was last turned on with the maps as they were
loaded. -/
def TurnsOffRightly (config : StandbyConfigManager) (commands : List Command) : Prop :=
  ∀ before off rest, commands = before ++ off :: rest → off.debugSwitch? = some false →
    ∃ before' on after, before = before' ++ on :: after ∧ on.debugSwitch? = some true ∧
      (∀ c ∈ after, c.debugSwitch? = none) ∧ (run config before').maps = (start config).maps

/-- Whenever the mode is off there is the loaded configuration, if and only if nothing was loaded or
the mode is always turned off rightly. -/
theorem loaded_whenever_off_iff (config : StandbyConfigManager) (commands : List Command) :
    (∀ before, before <+: commands → (run config before).debugMode = false →
        (run config before).maps = (start config).maps) ↔
      (start config).maps = (∅, ∅) ∨ TurnsOffRightly config commands := by
  constructor
  · intro h
    rw [or_iff_not_imp_left]
    intro hloaded before off rest hcommands hoff
    have hrun : run config (before ++ [off]) = ({ run config before with debugMode := false }
        : DebugState).dumpSetDebugMode false := by
      rw [run_append_singleton, handle_debugSwitch hoff]
    have hrestored : (run config before).backup = (start config).maps := by
      have hmaps := h (before ++ [off]) ⟨rest, by rw [hcommands]; simp⟩ (by rw [hrun]; rfl)
      rwa [hrun] at hmaps
    cases hmode : (run config before).debugMode with
    | false => exact absurd (hrestored.symm.trans (backup_of_off hmode)) hloaded
    | true =>
      obtain ⟨before', on, after, hbefore, hon, hnone, hmaps⟩ := exists_on_of_debugMode hmode
      exact ⟨before', on, after, hbefore, hon, hnone, hmaps.symm.trans hrestored⟩
  · rintro (hempty | hright) before ⟨rest, hcommands⟩ hmode
    · exact (maps_of_empty hempty).1.trans hempty.symm
    · rcases exists_off_of_not_debugMode hmode with
        hloaded | ⟨before', off, after, rfl, hoff, hmaps⟩
      · exact hloaded
      · obtain ⟨first, on, last, rfl, hon, hnone, hfirst⟩ :=
          hright before' off (after ++ rest) (by rw [← hcommands]; simp) hoff
        rw [hmaps, backup_of_on hon hnone, hfirst]

/-- Not after every sequence: turning the mode off once clears what was loaded. -/
theorem not_always_loaded_whenever_off : ¬ ∀ config commands before, before <+: commands →
    (run config before).debugMode = false → (run config before).maps = (start config).maps := by
  intro h
  have hmaps := h { StandbyConfigManager.initial with
      standbySwitchMap := (∅ : Map String Bool).insert "nap_switch" true }
    [.turnOnOffSwitch ["-T", "debug", "off"]] _ List.prefix_rfl rfl
  have hlookup := congrArg (fun maps => maps.1.lookup "nap_switch") hmaps
  revert hlookup
  decide

end DebugState

end DeviceStandby
