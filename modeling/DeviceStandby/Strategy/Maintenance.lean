import DeviceStandby.Strategy.External
import DeviceStandby.Strategy.Firewall

/-!
# The trust list after a maintenance window

A maintenance window takes the exempted uids off the trust list and clears `isFirewallEnabled`, so
no message about an app is handled in it. Its end puts the uids that the record exempted before the
window back. That is what a record built anew would give only when the messages of the window
changed no exemption (`trustlist_after_window_iff`).
-/

namespace DeviceStandby

open ExemptionTypeFlag AssocMap

/-- The external state exempts the app of a uid: its first process has a name and flags that do. -/
def World.Exempts (scfg : StrategyConfig) (w : World) (e : External) (uid : Int) : Prop :=
  ∃ info, (e.processes.find? fun info => info.uid = uid) = some info ∧
    isFlagExempted w.condition (w.netApp scfg e uid info.processName).appExemptionFlag = true

/-- The uids that the external state exempts, as the net policy service has them. -/
def World.exemptedUids (scfg : StrategyConfig) (w : World) (e : External) : Set Int :=
  {u | ∃ uid, w.Exempts scfg e uid ∧ toUInt32 uid = u}

/-- A record built anew exempts what the external state does. -/
theorem World.exempts_netApps {scfg : StrategyConfig} {w : World} {e : External} {uid : Int} :
    (w.netApps scfg e).Exempts w.condition uid ↔ w.Exempts scfg e uid := by
  simp only [NetLimitedApps.Exempts, World.Exempts, lookup_netApps, Option.map_eq_some_iff]
  constructor
  · rintro ⟨_, ⟨info, hfind, rfl⟩, hex⟩
    exact ⟨info, hfind, hex⟩
  · rintro ⟨info, hfind, hex⟩
    exact ⟨_, ⟨info, hfind, rfl⟩, hex⟩

theorem World.mem_exemptedUids {scfg : StrategyConfig} {w : World} {e : External} {u : Int} :
    u ∈ NetLimitedApps.exemptedUids w.condition (w.netApps scfg e) ↔
      u ∈ w.exemptedUids scfg e := by
  rw [NetLimitedApps.mem_exemptedUids]
  simp only [exempts_netApps]
  rfl

namespace NetworkStrategy
variable {scfg : StrategyConfig} {w : World} {e : External} {s : NetworkStrategy}

/-- SLEEP goes to MAINTENANCE, messages are handled, and MAINTENANCE goes back to SLEEP. -/
def maintenanceWindow (scfg : StrategyConfig) (w : World) (messages : List StandbyMessage)
    (s : NetworkStrategy × External) : NetworkStrategy × External :=
  report scfg w
    (messages.foldl (report scfg w) (report scfg w s (.stateTransit .sleep .maintenance)))
    (.stateTransit .maintenance .sleep)

/-- While the firewall is not enabled no message about an app is handled. -/
theorem handleEvent_of_disabled {q : Queries} {message : StandbyMessage}
    (hmessage : message.isAboutApp = true) (hdisabled : s.isFirewallEnabled = false) :
    handleEvent scfg q message s = s := by
  cases message with
  | allowListChanged uid name allowType added =>
    simp only [handleEvent, updateExemptionList, hdisabled, Bool.false_eq_true, not_false_eq_true,
      if_true, ite_self]
  | bgTaskStatusChange type started uid bundleName typeId =>
    simp only [handleEvent, updateBgTaskAppStatus, hdisabled, Bool.false_eq_true,
      not_false_eq_true, if_true]
  | processStateChanged uid pid name isCreated =>
    simp only [handleEvent, handleProcessStatusChanged, hdisabled, Bool.false_eq_true,
      not_false_eq_true, if_true]
  | _ => cases hmessage

/-- So the messages of a window change the external state alone. -/
theorem foldl_report_of_disabled {messages : List StandbyMessage}
    (hmessages : ∀ message ∈ messages, message.isAboutApp = true)
    (hdisabled : s.isFirewallEnabled = false) :
    messages.foldl (report scfg w) (s, e) = (s, e.updates messages) := by
  induction messages generalizing e with
  | nil => rfl
  | cons message messages ih =>
    have hhead := hmessages message List.mem_cons_self
    rw [List.foldl_cons, report]
    dsimp only
    rw [handleEvent_of_disabled hhead hdisabled,
      ih fun message hmem => hmessages message (List.mem_cons_of_mem _ hmem)]
    rfl

/-- What a window leaves: the record as it was, and on the trust list what was there and what the
record exempts. -/
theorem maintenanceWindow_eq (scfg : StrategyConfig) (w : World) (e : External)
    (s : NetworkStrategy) {messages : List StandbyMessage}
    (hmessages : ∀ message ∈ messages, message.isAboutApp = true) :
    (maintenanceWindow scfg w messages (s, e)).2 = e.updates messages ∧
    (maintenanceWindow scfg w messages (s, e)).1.netLimitedAppInfo = s.netLimitedAppInfo ∧
    (maintenanceWindow scfg w messages (s, e)).1.isFirewallEnabled = true ∧
    (maintenanceWindow scfg w messages (s, e)).1.trustlist =
      s.trustlist ∪ NetLimitedApps.exemptedUids w.condition s.netLimitedAppInfo := by
  obtain ⟨off, hoff⟩ : ∃ off, off = handleEvent scfg (w.queries e)
    (.stateTransit .sleep .maintenance) s := ⟨_, rfl⟩
  -- the start of the window
  obtain ⟨trustlist, hframe⟩ := setFirewallAllowedList_frame
    (NetLimitedApps.exemptedUids w.condition s.netLimitedAppInfo) false
    (s.handleDeviceIdlePolicy false)
  have hstart : off =
      { s.handleDeviceIdlePolicy false with
        trustlist := trustlist, isIdleMaintence := true, isFirewallEnabled := false } := by
    have hstatus : setFirewallStatus (w.queries e) false s =
        { s.handleDeviceIdlePolicy false with trustlist := trustlist } := hframe
    rw [hoff, handleEvent, disableNetworkFirewall, if_pos ⟨rfl, rfl⟩, hstatus]
  have happs : off.netLimitedAppInfo = s.netLimitedAppInfo := by
    rw [hstart]
    rfl
  have hdisabled : off.isFirewallEnabled = false := by
    rw [hstart]
  have hoffList : off.trustlist ∪ NetLimitedApps.exemptedUids w.condition s.netLimitedAppInfo =
      s.trustlist ∪ NetLimitedApps.exemptedUids w.condition s.netLimitedAppInfo := by
    ext u
    have hmem : u ∈ ((s.handleDeviceIdlePolicy false).setFirewallAllowedList
        (NetLimitedApps.exemptedUids w.condition s.netLimitedAppInfo) false).trustlist ↔ _ :=
      mem_setFirewallAllowedList
    rw [hframe, if_neg Bool.false_ne_true] at hmem
    rw [hstart, Finset.mem_union, Finset.mem_union]
    refine or_congr_left' fun hnot => hmem.trans ?_
    exact and_iff_left fun _ => hnot
  -- its messages and its end
  have hmid : messages.foldl (report scfg w) (report scfg w (s, e)
      (.stateTransit .sleep .maintenance)) = (off, e.updates messages) := by
    rw [show report scfg w (s, e) (.stateTransit .sleep .maintenance) = (off, e) by
      rw [hoff]; rfl]
    exact foldl_report_of_disabled hmessages hdisabled
  obtain ⟨posted, hon⟩ := setFirewallStatus_true (q := w.queries (e.updates messages))
    { off with isIdleMaintence := false }
  have hend : maintenanceWindow scfg w messages (s, e) =
      ({ setFirewallStatus (w.queries (e.updates messages)) true
          { off with isIdleMaintence := false } with isFirewallEnabled := true },
        e.updates messages) := by
    rw [maintenanceWindow, hmid]
    rfl
  rw [hend, hon]
  refine ⟨rfl, happs, rfl, ?_⟩
  dsimp only
  rw [happs]
  exact hoffList

/-- The trust list after a maintenance window is the one that a record built anew gives exactly when
the uids that were on the trust list before, or exempted by the record, are those that the external
state exempts after the messages of the window. When the strategy went into the window with what the
external state exempted, that is so exactly when the messages together changed no exemption. -/
theorem trustlist_after_window_iff (scfg : StrategyConfig) (w : World) (e : External)
    (s : NetworkStrategy) (messages : List StandbyMessage)
    (hmessages : ∀ message ∈ messages, message.isAboutApp = true) :
    ((maintenanceWindow scfg w messages (s, e)).1.trustlist =
        NetLimitedApps.exemptedUids w.condition
          (w.netApps scfg (maintenanceWindow scfg w messages (s, e)).2) ↔
      ∀ u, (u ∈ s.trustlist ∨ ∃ uid, s.netLimitedAppInfo.Exempts w.condition uid ∧
        toUInt32 uid = u) ↔ u ∈ w.exemptedUids scfg (e.updates messages)) ∧
    (s.trustlist = NetLimitedApps.exemptedUids w.condition s.netLimitedAppInfo →
      (∀ uid, s.netLimitedAppInfo.Exempts w.condition uid ↔ w.Exempts scfg e uid) →
      ((maintenanceWindow scfg w messages (s, e)).1.trustlist =
          NetLimitedApps.exemptedUids w.condition
            (w.netApps scfg (maintenanceWindow scfg w messages (s, e)).2) ↔
        w.exemptedUids scfg (e.updates messages) = w.exemptedUids scfg e)) := by
  obtain ⟨he, -, -, htrust⟩ := maintenanceWindow_eq scfg w e s hmessages
  have hiff : (maintenanceWindow scfg w messages (s, e)).1.trustlist =
        NetLimitedApps.exemptedUids w.condition
          (w.netApps scfg (maintenanceWindow scfg w messages (s, e)).2) ↔
      ∀ u, (u ∈ s.trustlist ∨ ∃ uid, s.netLimitedAppInfo.Exempts w.condition uid ∧
        toUInt32 uid = u) ↔ u ∈ w.exemptedUids scfg (e.updates messages) := by
    rw [htrust, he, Finset.ext_iff]
    refine forall_congr' fun u => ?_
    rw [Finset.mem_union, NetLimitedApps.mem_exemptedUids, World.mem_exemptedUids]
  refine ⟨hiff, fun hstart hagrees => hiff.trans ?_⟩
  rw [Set.ext_iff]
  refine forall_congr' fun u => ?_
  rw [hstart, NetLimitedApps.mem_exemptedUids, or_self]
  simp only [hagrees]
  exact Iff.comm

/-- The firewall is enabled. -/
def sampleEnabled (e : External) : NetworkStrategy :=
  handleEvent sampleStrategies (sampleWorld.queries e) (.phaseTransit .sleep 0 1) {}

/-- It has a task. -/
def sampleTask : External where
  tasks := [⟨"transient_task", 10, 0⟩]
  processes := [⟨"app", 10, 7⟩]

/-- An app has a task throughout the window, in which the other app is started. -/
theorem trustlist_after_sample_window :
    (maintenanceWindow sampleStrategies sampleWorld [.processStateChanged 11 8 "other" true]
      (sampleEnabled sampleTask, sampleTask)).1.trustlist = {10} := by
  have hstart : (sampleEnabled sampleTask).trustlist = NetLimitedApps.exemptedUids
      sampleWorld.condition (sampleEnabled sampleTask).netLimitedAppInfo := by decide
  have happs : (sampleEnabled sampleTask).netLimitedAppInfo =
      sampleWorld.netApps sampleStrategies sampleTask := rfl
  have hsame : sampleWorld.exemptedUids sampleStrategies
        (sampleTask.updates [.processStateChanged 11 8 "other" true]) =
      sampleWorld.exemptedUids sampleStrategies sampleTask := by
    ext u
    rw [← World.mem_exemptedUids, ← World.mem_exemptedUids]
    exact Finset.ext_iff.1 (by decide) u
  have hwindow := ((trustlist_after_window_iff sampleStrategies sampleWorld sampleTask
    (sampleEnabled sampleTask) [.processStateChanged 11 8 "other" true] (by decide)).2
    hstart fun uid => by rw [happs, World.exempts_netApps]).2 hsame
  rw [hwindow]
  decide

/-- Not after every window: a task that is started in it does not count when it ends. -/
theorem not_always_trustlist_after_window : ¬ ∀ (scfg : StrategyConfig) (w : World) (e : External)
    (messages : List StandbyMessage), (∀ message ∈ messages, message.isAboutApp = true) →
      (maintenanceWindow scfg w messages
          (handleEvent scfg (w.queries e) (.phaseTransit .sleep 0 1) {}, e)).1.trustlist =
        NetLimitedApps.exemptedUids w.condition (w.netApps scfg (e.updates messages)) := by
  intro h
  have hlost := h sampleStrategies sampleWorld sampleExternal
    [.bgTaskStatusChange "transient_task" true 10 "app" 0] (by decide)
  revert hlost
  decide

end NetworkStrategy

end DeviceStandby
