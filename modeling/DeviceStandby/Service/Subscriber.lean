import DeviceStandby.Core.TimeProvider
import DeviceStandby.Lib.AssocMap
import Mathlib.Data.List.Infix
import Mathlib.Data.List.Induction

/-!
# Levels and actions that modules report

Plugins report the power level and the action of a module, and a subscriber that registers for the
module is told what was last reported on the same day. The two maps of what was reported have one
date between them, a day of the month: a report on another date clears the map of its own kind only,
and a date comes back every month. `told_iff` says when subscribers are told what they should be.
-/

namespace DeviceStandby

open AssocMap

/-- What a module is reported for. -/
inductive ReportKind where
  | powerOverused
  | lowpowerAction
  deriving DecidableEq

/-- `PowerOverusedLevel::NORMAL`, and no action. -/
def ReportKind.default : ReportKind → Nat
  | powerOverused => 0
  | lowpowerAction => 0

/-- A subscriber, with its remote object unless that is null. -/
structure Subscriber where
  asObject : Option Nat
  moduleName : String

/-- A callback of a subscriber: `OnPowerOverused` or `OnActionChanged`. -/
structure Callback where
  subscriber : Subscriber
  kind : ReportKind
  module : String
  value : Nat

inductive SubscriberError where
  | ERR_STANDBY_INVALID_PARAM | ERR_STANDBY_OBJECT_EXISTS

/-- `StandbyStateSubscriber`, with whether its death recipient could be allocated. -/
structure StandbyStateSubscriber where
  subscriberList : List Subscriber
  deathRecipient : Bool
  modulePowerMap : Map String Nat
  moduleActionMap : Map String Nat
  curDate : Int

namespace StandbyStateSubscriber

/-- The constructor. -/
def create (deathRecipient : Bool) (now : Int) : StandbyStateSubscriber where
  subscriberList := []
  deathRecipient := deathRecipient
  modulePowerMap := ∅
  moduleActionMap := ∅
  curDate := TimeProvider.getCurrentDate now

/-- The map of a kind. -/
def callBackMap (s : StandbyStateSubscriber) : ReportKind → Map String Nat
  | .powerOverused => s.modulePowerMap
  | .lowpowerAction => s.moduleActionMap

/-- Another map of a kind. -/
def setCallBackMap (s : StandbyStateSubscriber) (kind : ReportKind) (m : Map String Nat) :
    StandbyStateSubscriber :=
  match kind with
  | .powerOverused => { s with modulePowerMap := m }
  | .lowpowerAction => { s with moduleActionMap := m }

/-- `StandbyStateSubscriber::UpdateCallBackMap`. -/
def updateCallBackMap (now : Int) (kind : ReportKind) (module : String) (value : Nat)
    (s : StandbyStateSubscriber) : StandbyStateSubscriber :=
  let curDate := TimeProvider.getCurrentDate now
  let s := if s.curDate ≠ curDate then { s with curDate := curDate }.setCallBackMap kind ∅ else s
  s.setCallBackMap kind ((s.callBackMap kind).insert module value)

/-- A report of a kind: it is kept, and the subscribers of the module are called. -/
def notifyByCallback (kind : ReportKind) (now : Int) (module : String) (value : Nat)
    (s : StandbyStateSubscriber) : StandbyStateSubscriber × List Callback :=
  let s := s.updateCallBackMap now kind module value
  (s, (s.subscriberList.filter fun subscriber => module = subscriber.moduleName).map
    fun subscriber => ⟨subscriber, kind, module, value⟩)

/-- `StandbyStateSubscriber::NotifyPowerOverusedByCallback`. -/
def notifyPowerOverusedByCallback := notifyByCallback .powerOverused

/-- `StandbyStateSubscriber::NotifyLowpowerActionByCallback`. -/
def notifyLowpowerActionByCallback := notifyByCallback .lowpowerAction

/-- What a subscriber of a module that registers is told. -/
def valueOnRegister (s : StandbyStateSubscriber) (now : Int) (kind : ReportKind) (module : String) :
    Nat :=
  if s.curDate = TimeProvider.getCurrentDate now then
    ((s.callBackMap kind).lookup module).getD kind.default
  else kind.default

/-- A subscriber that registers is called. -/
def notifyOnRegister (kind : ReportKind) (now : Int) (subscriber : Subscriber)
    (s : StandbyStateSubscriber) : Callback :=
  ⟨subscriber, kind, subscriber.moduleName, s.valueOnRegister now kind subscriber.moduleName⟩

/-- `StandbyStateSubscriber::NotifyPowerOnRegister`. -/
def notifyPowerOnRegister := notifyOnRegister .powerOverused

/-- `StandbyStateSubscriber::NotifyLowpowerActionOnRegister`. -/
def notifyLowpowerActionOnRegister := notifyOnRegister .lowpowerAction

/-- `StandbyStateSubscriber::AddSubscriber`: the error, if there is one, and the callbacks. -/
def addSubscriber (now : Int) (subscriber : Option Subscriber) (s : StandbyStateSubscriber) :
    StandbyStateSubscriber × Except SubscriberError (List Callback) :=
  match subscriber with
  | none => (s, .error .ERR_STANDBY_INVALID_PARAM)
  | some subscriber =>
    if subscriber.asObject = none then (s, .error .ERR_STANDBY_INVALID_PARAM)
    else if ¬ s.deathRecipient then (s, .error .ERR_STANDBY_INVALID_PARAM)
    else if s.subscriberList.any fun other => other.asObject = subscriber.asObject then
      (s, .error .ERR_STANDBY_OBJECT_EXISTS)
    else
      let s := { s with subscriberList := s.subscriberList ++ [subscriber] }
      (s, .ok [s.notifyPowerOnRegister now subscriber,
        s.notifyLowpowerActionOnRegister now subscriber])

/-- What is asked of the service. -/
inductive Request where
  | notifyPowerOverused (module : String) (level : Nat)
  | notifyLowpowerAction (module : String) (action : Nat)
  | addSubscriber (subscriber : Option Subscriber)

/-- A call at a time, in seconds. -/
structure Call where
  now : Int
  request : Request

namespace Call

/-- The calendar day of a call. -/
def day (call : Call) : Int :=
  call.now / SEC_PER_DAY

end Call

/-- The state after a call. -/
def handle (s : StandbyStateSubscriber) (call : Call) : StandbyStateSubscriber :=
  match call.request with
  | .notifyPowerOverused module level => (s.notifyPowerOverusedByCallback call.now module level).1
  | .notifyLowpowerAction module action =>
    (s.notifyLowpowerActionByCallback call.now module action).1
  | .addSubscriber subscriber => (s.addSubscriber call.now subscriber).1

/-- The state after some calls. -/
def run (s : StandbyStateSubscriber) (calls : List Call) : StandbyStateSubscriber :=
  calls.foldl handle s

/-! ## What was reported -/

/-- The kind, the module and the value that a call reports. -/
def Call.report? (call : Call) : Option (ReportKind × String × Nat) :=
  match call.request with
  | .notifyPowerOverused module level => some (.powerOverused, module, level)
  | .notifyLowpowerAction module action => some (.lowpowerAction, module, action)
  | .addSubscriber _ => none

/-- The value that a call reports of a kind for a module. -/
def Call.reported? (call : Call) (kind : ReportKind) (module : String) : Option Nat :=
  match call.report? with
  | some (kind', module', value) => if kind = kind' ∧ module = module' then some value else none
  | none => none

/-- A call reports something of the other kind. -/
def Call.reportsOther (call : Call) (kind : ReportKind) : Bool :=
  call.report?.any fun report => report.1 ≠ kind

/-- The last value reported on a day, or the default. -/
def lastReported (calls : List Call) (day : Int) (kind : ReportKind) (module : String) : Nat :=
  (calls.reverse.findSome? fun call =>
    if call.day = day then call.reported? kind module else none).getD kind.default

/-- Who registers at a time is told what was last reported on the day. -/
def TellsAt (s : StandbyStateSubscriber) (calls : List Call) (now : Int) : Prop :=
  ∀ kind module,
    s.valueOnRegister now kind module = lastReported calls (now / SEC_PER_DAY) kind module

/-- What is kept of a kind for a module, on whichever day it was reported. -/
def kept (s : StandbyStateSubscriber) (kind : ReportKind) (module : String) : Nat :=
  ((s.callBackMap kind).lookup module).getD kind.default

section
variable {s : StandbyStateSubscriber} {calls : List Call} {call : Call} {kind kind' : ReportKind}
  {module module' : String} {now now' day : Int} {value : Nat}

/-- The map of a kind is the one that was set. -/
@[simp]
theorem callBackMap_setCallBackMap {m : Map String Nat} :
    (s.setCallBackMap kind m).callBackMap kind = m := by
  cases kind <;> rfl

/-- The map of the other kind stays. -/
theorem callBackMap_setCallBackMap_of_ne {m : Map String Nat} (h : kind' ≠ kind) :
    (s.setCallBackMap kind m).callBackMap kind' = s.callBackMap kind' := by
  cases kind <;> cases kind' <;> first | rfl | exact absurd rfl h

/-- The stamp stays. -/
@[simp]
theorem curDate_setCallBackMap {m : Map String Nat} :
    (s.setCallBackMap kind m).curDate = s.curDate := by
  cases kind <;> rfl

/-- A date is a date of the day. -/
theorem getCurrentDate_eq (h : now / SEC_PER_DAY = now' / SEC_PER_DAY) :
    TimeProvider.getCurrentDate now = TimeProvider.getCurrentDate now' := by
  unfold TimeProvider.getCurrentDate gmtimeR
  dsimp only
  rw [h]
  split_ifs <;> rfl

/-- After a report the date is that of the report. -/
theorem curDate_updateCallBackMap :
    (s.updateCallBackMap now kind module value).curDate = TimeProvider.getCurrentDate now := by
  unfold updateCallBackMap
  dsimp only
  split_ifs with hdate
  · simp
  · rw [curDate_setCallBackMap]
    exact not_not.1 hdate

/-- What is kept of a module after a map was set. -/
theorem kept_setCallBackMap {m : Map String Nat} : (s.setCallBackMap kind m).kept kind' module' =
    if kind' = kind then (m.lookup module').getD kind.default else s.kept kind' module' := by
  unfold kept
  split_ifs with hkind
  · subst hkind
    rw [callBackMap_setCallBackMap]
  · rw [callBackMap_setCallBackMap_of_ne hkind]

/-- A value that is inserted is found under its key. -/
theorem getD_lookup_insert {m : Map String Nat} {d : Nat} :
    ((m.insert module value).lookup module').getD d =
      if module' = module then value else (m.lookup module').getD d := by
  split_ifs with hmodule
  · subst hmodule
    rw [AList.lookup_insert, Option.getD_some]
  · rw [AList.lookup_insert_ne hmodule]

/-- What is kept after a report on the same date. -/
theorem kept_updateCallBackMap_of_eq (hdate : s.curDate = TimeProvider.getCurrentDate now) :
    (s.updateCallBackMap now kind module value).kept kind' module' =
      if kind' = kind ∧ module' = module then value else s.kept kind' module' := by
  have hupdate : s.updateCallBackMap now kind module value =
      s.setCallBackMap kind ((s.callBackMap kind).insert module value) := by
    simp [updateCallBackMap, hdate]
  rw [hupdate, kept_setCallBackMap, getD_lookup_insert, ite_and]
  split_ifs with hkind
  · rfl
  · rw [hkind]
    rfl
  · rfl

/-- What is kept after a report on another date: of its kind the value alone, and of the other kind
what was kept. -/
theorem kept_updateCallBackMap_of_ne (hdate : s.curDate ≠ TimeProvider.getCurrentDate now) :
    (s.updateCallBackMap now kind module value).kept kind' module' =
      if kind' = kind then if module' = module then value else kind.default
      else s.kept kind' module' := by
  have hupdate : s.updateCallBackMap now kind module value =
      ({ s with curDate := TimeProvider.getCurrentDate now }.setCallBackMap kind ∅).setCallBackMap
        kind ((∅ : Map String Nat).insert module value) := by
    simp [updateCallBackMap, hdate]
  rw [hupdate, kept_setCallBackMap, getD_lookup_insert, AList.lookup_empty, kept_setCallBackMap]
  split_ifs <;> rfl

/-- What was last reported after one more call. -/
theorem lastReported_append : lastReported (calls ++ [call]) day kind module =
    ((if call.day = day then call.reported? kind module else none).getD
      (lastReported calls day kind module)) := by
  unfold lastReported
  rw [List.reverse_append, List.reverse_singleton, List.singleton_append, List.findSome?_cons]
  cases (if call.day = day then call.reported? kind module else none) <;> rfl

/-! ## One call -/

/-- A report updates the map of its kind. -/
theorem handle_of_report (h : call.report? = some (kind, module, value)) :
    s.handle call = s.updateCallBackMap call.now kind module value := by
  obtain ⟨now, request⟩ := call
  cases request <;> cases h <;> rfl

/-- Anything else updates no map. -/
theorem handle_of_no_report (h : call.report? = none) :
    (s.handle call).curDate = s.curDate ∧
      ∀ kind module, (s.handle call).kept kind module = s.kept kind module := by
  obtain ⟨now, request⟩ := call
  cases request with
  | notifyPowerOverused module level => cases h
  | notifyLowpowerAction module action => cases h
  | addSubscriber subscriber =>
    unfold handle addSubscriber
    cases subscriber with
    | none => exact ⟨rfl, fun _ _ => rfl⟩
    | some subscriber =>
      dsimp only
      split_ifs <;> exact ⟨rfl, fun kind _ => by cases kind <;> rfl⟩

/-- What a subscriber is told is what is kept, on the date of the day. -/
theorem valueOnRegister_eq : s.valueOnRegister now kind module =
    if s.curDate = TimeProvider.getCurrentDate now then s.kept kind module else kind.default := rfl

/-- What a subscriber is told after a call, unless the call reports it. -/
theorem valueOnRegister_handle (h : call.reported? kind module = none) :
    (s.handle call).valueOnRegister call.now kind module =
      if s.curDate = TimeProvider.getCurrentDate call.now ∨ call.reportsOther kind then
        s.kept kind module
      else kind.default := by
  rw [valueOnRegister_eq]
  cases hreport : call.report? with
  | none =>
    obtain ⟨hdate, hkept⟩ := handle_of_no_report (s := s) hreport
    simp [hdate, hkept, Call.reportsOther, hreport]
  | some report =>
    obtain ⟨kind', module', value⟩ := report
    have hother : ¬ (kind = kind' ∧ module = module') := fun hsame => by
      simp [Call.reported?, hreport, hsame] at h
    have hkinds : call.reportsOther kind = true ↔ kind' ≠ kind := by
      simp [Call.reportsOther, hreport]
    rw [handle_of_report hreport, curDate_updateCallBackMap, if_pos rfl]
    by_cases hdate : s.curDate = TimeProvider.getCurrentDate call.now
    · rw [kept_updateCallBackMap_of_eq hdate, if_neg hother, if_pos (.inl hdate)]
    · rw [kept_updateCallBackMap_of_ne hdate]
      by_cases hkind : kind = kind'
      · subst hkind
        rw [if_pos rfl, if_neg fun h => hother ⟨rfl, h⟩, if_neg (by simp [hdate, hkinds])]
      · rw [if_neg hkind, if_pos (.inr (hkinds.2 fun h => hkind h.symm))]

/-- What a call reports is told after it. -/
theorem valueOnRegister_handle_reported (h : call.reported? kind module = some value) :
    (s.handle call).valueOnRegister call.now kind module = value := by
  unfold Call.reported? at h
  cases hreport : call.report? with
  | none => simp [hreport] at h
  | some report =>
    obtain ⟨kind', module', value'⟩ := report
    simp only [hreport] at h
    split_ifs at h with hsame
    obtain ⟨rfl, rfl⟩ := hsame
    obtain rfl := Option.some.inj h
    rw [valueOnRegister_eq, handle_of_report hreport, curDate_updateCallBackMap, if_pos rfl]
    by_cases hdate : s.curDate = TimeProvider.getCurrentDate call.now
    · rw [kept_updateCallBackMap_of_eq hdate, if_pos ⟨rfl, rfl⟩]
    · rw [kept_updateCallBackMap_of_ne hdate, if_pos rfl, if_pos rfl]

/-- After a call subscribers are told what they should be if and only if the rest, which the call
does not report, is what was last reported on the day. -/
theorem tellsAt_handle_iff : (s.handle call).TellsAt (calls ++ [call]) call.now ↔
    ∀ kind module, call.reported? kind module = none →
      (s.handle call).valueOnRegister call.now kind module =
        lastReported calls call.day kind module := by
  unfold TellsAt
  refine forall_congr' fun kind => forall_congr' fun module => ?_
  have hday : call.now / SEC_PER_DAY = call.day := rfl
  rw [hday, lastReported_append, if_pos rfl]
  cases hreported : call.reported? kind module with
  | none => simp
  | some value => simp [valueOnRegister_handle_reported hreported]

end

/-! ## Runs of calls -/

/-- What must hold when a call comes. -/
structure Meets (s : StandbyStateSubscriber) (before : List Call) (call : Call) : Prop where
  /-- Where the date is that of the call but the call before was on another day, what is kept is
  what was last reported on this day. -/
  date_again : s.curDate = TimeProvider.getCurrentDate call.now →
    (∀ last, before.getLast? = some last → last.day ≠ call.day) →
      ∀ kind module, call.reported? kind module = none →
        s.kept kind module = lastReported before call.day kind module
  /-- Where a report changes the date, what is kept of the other kind is what was last reported on
  this day. -/
  nothing_stale : s.curDate ≠ TimeProvider.getCurrentDate call.now →
    ∀ kind module, call.reportsOther kind = true →
      s.kept kind module = lastReported before call.day kind module
  /-- Where the date is another one, nothing else was reported on this day before. -/
  nothing_lost : s.curDate ≠ TimeProvider.getCurrentDate call.now →
    ∀ kind module, call.reported? kind module = none → call.reportsOther kind = false →
      lastReported before call.day kind module = kind.default

section
variable {createdAt : Int} {deathRecipient : Bool} {s : StandbyStateSubscriber}
  {before calls : List Call} {call : Call} {kind : ReportKind} {module : String}

/-- A report of the other kind reports nothing of this one. -/
theorem reported?_of_reportsOther (h : call.reportsOther kind = true) :
    call.reported? kind module = none := by
  unfold Call.reportsOther at h
  unfold Call.reported?
  cases hreport : call.report? with
  | none => rfl
  | some report =>
    obtain ⟨kind', module', value⟩ := report
    rw [hreport, Option.any_some, decide_eq_true_iff] at h
    exact if_neg fun hsame => h hsame.1.symm

/-- Subscribers are told right after a call if and only if it comes as it must, when they were told
right on the day of the call before. -/
theorem tellsAt_handle_iff_meets
    (hbefore : ∀ last, before.getLast? = some last → s.TellsAt before last.now) :
    (s.handle call).TellsAt (before ++ [call]) call.now ↔ Meets s before call := by
  rw [tellsAt_handle_iff]
  constructor
  · intro h
    refine ⟨fun hdate _ kind module hnone => ?_, fun hdate kind module hother => ?_,
      fun hdate kind module hnone hsame => ?_⟩
    · rw [← h kind module hnone, valueOnRegister_handle hnone, if_pos (.inl hdate)]
    · have hnone : call.reported? kind module = none := reported?_of_reportsOther hother
      rw [← h kind module hnone, valueOnRegister_handle hnone, if_pos (.inr hother)]
    · rw [← h kind module hnone, valueOnRegister_handle hnone, if_neg (by simp [hdate, hsame])]
  · intro h kind module hnone
    rw [valueOnRegister_handle hnone]
    by_cases hdate : s.curDate = TimeProvider.getCurrentDate call.now
    · rw [if_pos (.inl hdate)]
      by_cases hday : ∀ last, before.getLast? = some last → last.day ≠ call.day
      · exact h.date_again hdate hday kind module hnone
      · -- the call before was on the same day
        obtain ⟨last, hlast, hday⟩ :
            ∃ last, before.getLast? = some last ∧ last.day = call.day := by
          simpa using hday
        have htold := hbefore last hlast kind module
        rwa [valueOnRegister_eq, if_pos (hdate.trans (getCurrentDate_eq hday.symm)),
          show last.now / SEC_PER_DAY = call.day from hday] at htold
    · cases hother : call.reportsOther kind with
      | true => rw [if_pos (.inr rfl), h.nothing_stale hdate kind module hother]
      | false => rw [if_neg (by simp [hdate]), h.nothing_lost hdate kind module hnone hother]

/-- The last call is handled after the others. -/
theorem run_append_singleton : run s (calls ++ [call]) = (run s calls).handle call := by
  rw [run, List.foldl_append]
  rfl

/-- The calls come as they must. -/
def AllMeet (s : StandbyStateSubscriber) (calls : List Call) : Prop :=
  ∀ before call, before ++ [call] <+: calls → Meets (run s before) before call

/-- After each call, who registers on its day is told what was last reported on the day. -/
def AlwaysTells (s : StandbyStateSubscriber) (calls : List Call) : Prop :=
  ∀ before call, before ++ [call] <+: calls →
    (run s (before ++ [call])).TellsAt (before ++ [call]) call.now

/-- What is told is right at every call when every call meets its condition. -/
theorem alwaysTells_iff : AlwaysTells s calls ↔ AllMeet s calls := by
  have hstep : ∀ before call,
      (∀ last, before.getLast? = some last → (run s before).TellsAt before last.now) →
      ((run s (before ++ [call])).TellsAt (before ++ [call]) call.now ↔
        Meets (run s before) before call) := by
    intro before call hbefore
    rw [run_append_singleton]
    exact tellsAt_handle_iff_meets hbefore
  have hlast : ∀ (before : List Call) last, before.getLast? = some last →
      ∃ first, before = first ++ [last] := fun before last hlast =>
    List.getLast?_eq_some_iff.1 hlast
  constructor
  · intro h before call hprefix
    refine (hstep before call fun last hl => ?_).1 (h before call hprefix)
    obtain ⟨first, rfl⟩ := hlast before last hl
    exact h first last ((List.prefix_append _ _).trans hprefix)
  · intro h before
    induction before using List.reverseRecOn with
    | nil =>
      intro call hprefix
      exact (hstep [] call fun last hl => by cases hl).2 (h [] call hprefix)
    | append_singleton first last ih =>
      intro call hprefix
      refine (hstep _ call fun last' hl => ?_).2 (h _ call hprefix)
      rw [List.getLast?_concat] at hl
      obtain rfl := Option.some.inj hl
      exact ih last ((List.prefix_append _ _).trans hprefix)

/-- Whoever registers is told what was last reported of each kind on the day. -/
def RegistersRightly (s : StandbyStateSubscriber) (calls : List Call) : Prop :=
  ∀ before now subscriber callbacks, before ++ [⟨now, .addSubscriber subscriber⟩] <+: calls →
    ((run s before).addSubscriber now subscriber).2 = .ok callbacks →
      ∃ registered, subscriber = some registered ∧ callbacks =
        [.powerOverused, .lowpowerAction].map fun kind =>
          ⟨registered, kind, registered.moduleName,
            lastReported before (now / SEC_PER_DAY) kind registered.moduleName⟩

/-- A subscriber that is added is told what it should be of both kinds. -/
theorem addSubscriber_ok {now : Int} {subscriber : Option Subscriber} {callbacks : List Callback}
    (h : (s.addSubscriber now subscriber).2 = .ok callbacks) :
    ∃ registered, subscriber = some registered ∧ callbacks =
      [.powerOverused, .lowpowerAction].map fun kind =>
        ⟨registered, kind, registered.moduleName,
          s.valueOnRegister now kind registered.moduleName⟩ := by
  unfold addSubscriber at h
  cases subscriber with
  | none => cases h
  | some registered =>
    dsimp only at h
    split_ifs at h
    cases h
    exact ⟨registered, rfl, rfl⟩

/-- Whoever registers in the sequence is told as anyone who would register. -/
theorem registersRightly_of_alwaysTells (h : AlwaysTells s calls) : RegistersRightly s calls := by
  intro before now subscriber callbacks hprefix hok
  obtain ⟨registered, rfl, rfl⟩ := addSubscriber_ok hok
  refine ⟨registered, rfl, List.map_congr_left fun kind _ => ?_⟩
  have htold := h before ⟨now, .addSubscriber (some registered)⟩ hprefix kind registered.moduleName
  obtain ⟨hdate, hkept⟩ := @handle_of_no_report (run s before)
    ⟨now, .addSubscriber (some registered)⟩ rfl
  have hsame : lastReported (before ++ [⟨now, .addSubscriber (some registered)⟩])
      (now / SEC_PER_DAY) kind registered.moduleName =
        lastReported before (now / SEC_PER_DAY) kind registered.moduleName := by
    rw [lastReported_append]
    split_ifs <;> rfl
  rw [run_append_singleton, valueOnRegister_eq, hdate, hkept, hsame, ← valueOnRegister_eq] at htold
  rw [htold]

end

/-- From its creation the service tells those who register what was last reported on the day, at
each call and right after it, if and only if the calls come as they must. -/
theorem told_iff (createdAt : Int) (deathRecipient : Bool) (calls : List Call) :
    RegistersRightly (create deathRecipient createdAt) calls ∧
        AlwaysTells (create deathRecipient createdAt) calls ↔
      AllMeet (create deathRecipient createdAt) calls := by
  rw [← alwaysTells_iff]
  exact and_iff_right_of_imp registersRightly_of_alwaysTells

/-- Not after all calls: the level of yesterday is told when an action was reported today. -/
theorem not_always_told : ¬ ∀ createdAt calls, RegistersRightly (create true createdAt) calls := by
  intro h
  obtain ⟨registered, hregistered, hcallbacks⟩ := h 0
    [⟨0, .notifyPowerOverused "m" 2⟩, ⟨86400, .notifyLowpowerAction "m" 1⟩,
      ⟨86400, .addSubscriber (some ⟨some 1, "m"⟩)⟩]
    [⟨0, .notifyPowerOverused "m" 2⟩, ⟨86400, .notifyLowpowerAction "m" 1⟩] 86400
    (some ⟨some 1, "m"⟩) _ List.prefix_rfl rfl
  cases hregistered
  have hlevel := congrArg (fun callbacks => callbacks.map Callback.value) hcallbacks
  revert hlevel
  decide

end StandbyStateSubscriber

end DeviceStandby
