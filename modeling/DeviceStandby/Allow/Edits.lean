import DeviceStandby.Allow.Service

/-!
# What an operation does to the allow list

A request to apply edits one record and announces the types it adds; a release edits one record and
announces the types it removes. `Edit` says that nothing else changes and that the announcements
lead from the old types of the app to the new ones. Beside it stand the equations of the end times,
`endTime?_applyAllowResInner` and `endTime?_unapplyAllowResInner`, from which everything about time
is derived. `AllowInfoMap.WellKept` is the invariant of the list that both need and keep.
-/

open AssocMap BitMask

namespace DeviceStandby

/-- A record is stored under the key of its app, with at least one type. -/
structure AllowRecord.StoredAt (key : String) (record : AllowRecord) : Prop where
  key : key = mapKey record.uid record.name
  wellFormed : record.WellFormed
  nonempty : record.allowType ≠ 0

/-- Every record is stored under the key of its app. -/
def AllowInfoMap.WellKept (allowInfoMap : AllowInfoMap) : Prop :=
  allowInfoMap.All AllowRecord.StoredAt

/-- The empty list is well kept. -/
theorem AllowInfoMap.wellKept_empty : (∅ : AllowInfoMap).WellKept := Map.All.empty

/-- The messages that announce changes of an app's types. -/
def announcements (uid : Int) (name : String) (log : List (Change 32)) : List StandbyMessage :=
  log.map fun change => .allowListChanged uid name change.bits change.added

/-- An operation on one app: the others keep their records, and what is announced leads from the
app's old types to its new ones. -/
structure Edit (uid : Int) (name : String) (s t : AllowService) : Prop where
  others : ∀ key, key ≠ mapKey uid name → t.allowInfoMap.lookup key = s.allowInfoMap.lookup key
  announced : ∃ log, t.messages = s.messages ++ announcements uid name log ∧
    follow (s.allowTypeOf uid name) log = some (t.allowTypeOf uid name)

section
variable {resourceConfig : ResourceConfigMap} {condition : BitVec 32} {request : ResourceRequest}
  {pid uid : Int} {name key : String} {allowType : BitVec 32} {removeAll : Bool}
  {s : AllowService} {record : AllowRecord}

/-- An operation that does nothing is an edit. -/
theorem Edit.refl : Edit uid name s s :=
  ⟨fun _ _ => rfl, [], (List.append_nil _).symm, rfl⟩

namespace AllowService

/-! ## Applying -/

/-- The record that a request leaves, before an empty one is erased, and the tasks it posts. -/
def applied (resourceConfig : ResourceConfigMap) (condition : BitVec 32)
    (request : ResourceRequest) (pid : Int) (s : AllowService) : AllowRecord × List ReleaseTask :=
  updateRecord resourceConfig condition s.bootTime s.handlerTime request
    (s.recordFor request pid).1

/-- An application writes the record of its uid and name, and no other. -/
theorem lookup_applyAllowResInner :
    (s.applyAllowResInner resourceConfig request pid condition).allowInfoMap.lookup key =
      if key = mapKey request.uid request.name then
        if (s.applied resourceConfig condition request pid).1.allowType = 0 then none
        else some (s.applied resourceConfig condition request pid).1
      else s.allowInfoMap.lookup key := by
  have hmap : (s.applyAllowResInner resourceConfig request pid condition).allowInfoMap =
      if (s.applied resourceConfig condition request pid).1.allowType = 0 then
        (s.allowInfoMap.insert (mapKey request.uid request.name)
          (s.applied resourceConfig condition request pid).1).erase
            (mapKey request.uid request.name)
      else s.allowInfoMap.insert (mapKey request.uid request.name)
        (s.applied resourceConfig condition request pid).1 := rfl
  rw [hmap]
  exact Map.lookup_ite_erase_insert fun _ hkey => AList.lookup_insert_ne hkey

/-- It announces the types that it has added. -/
theorem messages_applyAllowResInner :
    (s.applyAllowResInner resourceConfig request pid condition).messages =
      s.messages ++
        if (s.recordFor request pid).2 ≠
            (s.applied resourceConfig condition request pid).1.allowType then
          announcements request.uid request.name
            [⟨(s.applied resourceConfig condition request pid).1.allowType ^^^
              ((s.recordFor request pid).2 &&&
                (s.applied resourceConfig condition request pid).1.allowType), true⟩]
        else [] := by
  change (if (s.recordFor request pid).2 ≠
    (s.applied resourceConfig condition request pid).1.allowType then _ else _) = _
  split_ifs
  · rfl
  · exact (List.append_nil _).symm

/-- It posts the releases of what it has granted. -/
theorem tasks_applyAllowResInner :
    (s.applyAllowResInner resourceConfig request pid condition).tasks =
      s.tasks ++ (s.applied resourceConfig condition request pid).2 := rfl

/-- The types before a request are those of the record. -/
theorem recordFor_snd : (s.recordFor request pid).2 = s.allowTypeOf request.uid request.name := by
  rw [recordFor, allowTypeOf]
  cases s.allowInfoMap.lookup (mapKey request.uid request.name) <;> rfl

/-- The types of the record that an application starts from. -/
theorem recordFor_allowType :
    (s.recordFor request pid).1.allowType = s.allowTypeOf request.uid request.name := by
  rw [recordFor, allowTypeOf]
  cases s.allowInfoMap.lookup (mapKey request.uid request.name) <;> rfl

/-- The end times of the record that an application starts from. -/
theorem endTime?_recordFor (k : Nat) :
    (s.recordFor request pid).1.endTime? k =
      s.endTime? (mapKey request.uid request.name) k := by
  rw [recordFor, endTime?]
  cases s.allowInfoMap.lookup (mapKey request.uid request.name) <;> rfl

/-- A request updates a well formed record of its app. -/
theorem recordFor_wellFormed (h : s.allowInfoMap.WellKept) :
    (s.recordFor request pid).1.WellFormed ∧
      mapKey request.uid request.name =
        mapKey (s.recordFor request pid).1.uid (s.recordFor request pid).1.name := by
  rw [recordFor]
  cases hlookup : s.allowInfoMap.lookup (mapKey request.uid request.name) with
  | none => exact ⟨⟨List.nodup_nil, fun _ hi => absurd hi List.not_mem_nil, rfl⟩, rfl⟩
  | some record =>
    have hstored := h _ _ hlookup
    exact ⟨⟨hstored.wellFormed.nodup, hstored.wellFormed.inRange, hstored.wellFormed.mask⟩,
      hstored.key⟩

/-- The record that an application leaves is well formed. -/
theorem applied_wellFormed (h : s.allowInfoMap.WellKept) :
    (s.applied resourceConfig condition request pid).1.WellFormed :=
  (recordFor_wellFormed h).1.updateRecord

/-- An application keeps the list well. -/
theorem wellKept_applyAllowResInner (h : s.allowInfoMap.WellKept) :
    (s.applyAllowResInner resourceConfig request pid condition).allowInfoMap.WellKept := by
  intro key record hlookup
  rw [lookup_applyAllowResInner] at hlookup
  split_ifs at hlookup with hkey hzero
  · cases hlookup
    refine ⟨?_, applied_wellFormed h, hzero⟩
    obtain ⟨huid, -, hname, -⟩ := updateRecord_fields s.bootTime s.handlerTime
      (s.recordFor request pid).1 resourceConfig condition request
    rw [applied, huid, hname, hkey]
    exact (recordFor_wellFormed h).2
  · exact h key record hlookup

/-- The types that an app has after its application. -/
theorem allowTypeOf_applyAllowResInner :
    (s.applyAllowResInner resourceConfig request pid condition).allowTypeOf request.uid
      request.name = (s.applied resourceConfig condition request pid).1.allowType := by
  rw [allowTypeOf, lookup_applyAllowResInner, if_pos rfl]
  split_ifs with hzero
  · exact hzero.symm
  · rfl

/-- A request edits the record of its app. -/
theorem edit_applyAllowResInner :
    Edit request.uid request.name s
      (s.applyAllowResInner resourceConfig request pid condition) where
  others key hkey := by rw [lookup_applyAllowResInner, if_neg hkey]
  announced := by
    have hle := updateRecord_mask s.bootTime s.handlerTime (s.recordFor request pid).1
      resourceConfig condition request
    rw [messages_applyAllowResInner, allowTypeOf_applyAllowResInner, ← recordFor_snd]
    split_ifs with hne
    · refine ⟨_, rfl, follow_added ?_⟩
      rw [recordFor_snd, ← recordFor_allowType]
      exact hle
    · rw [Decidable.not_not] at hne
      exact ⟨[], rfl, congrArg some hne⟩

/-- A record without types has no entry. -/
theorem endTime?_of_allowType_eq_zero (h : record.WellFormed) (hzero : record.allowType = 0)
    (k : Nat) : record.endTime? k = none := by
  rw [AllowRecord.endTime?, endTimeOf?_eq_none]
  intro hmem
  have hlt := h.inRange k hmem
  have hbit : record.allowType.getLsbD k = true := by
    rw [h.mask, getLsbD_maskOf]
    exact ⟨lt_trans hlt (by decide), hmem⟩
  rw [eq_zero_iff.1 hzero k] at hbit
  cases hbit

/-- A request extends the granted types of its app to the time they are granted until. -/
theorem endTime?_applyAllowResInner (resourceConfig : ResourceConfigMap)
    (request : ResourceRequest) (pid : Int) (condition : BitVec 32)
    (h : s.allowInfoMap.WellKept) (key : String) (k : Nat) :
    (s.applyAllowResInner resourceConfig request pid condition).endTime? key k =
      if key = mapKey request.uid request.name ∧ k < MAX_ALLOW_TYPE_NUM ∧
          Granted resourceConfig condition request k then
        some (laterEnd (s.endTime? key k)
          (s.bootTime + maxDuration resourceConfig condition request k))
      else s.endTime? key k := by
  rw [endTime?, lookup_applyAllowResInner]
  by_cases hkey : key = mapKey request.uid request.name
  · subst hkey
    have hupdate := endTime?_updateRecord s.bootTime s.handlerTime (s.recordFor request pid).1
      resourceConfig condition request k
    rw [endTime?_recordFor] at hupdate
    simp only [if_true, true_and]
    rw [← hupdate, ← applied]
    split_ifs with hzero
    · exact (endTime?_of_allowType_eq_zero (applied_wellFormed h) hzero k).symm
    · rfl
  · rw [if_neg hkey, if_neg fun h => hkey h.1]
    rfl

/-! ## Releasing -/

/-- A record without the types that a release removes. -/
def releasedRecord (allowType : BitVec 32) (removeAll : Bool) (s : AllowService)
    (record : AllowRecord) : AllowRecord :=
  { record with
    allowTimeList := (releaseTimes allowType removeAll s.bootTime record.allowTimeList).1
    allowType := record.allowType -
      (releaseTimes allowType removeAll s.bootTime record.allowTimeList).2 }

/-- An operation that removes some types of a record. -/
structure Released (uid : Int) (name : String) (allowType : BitVec 32) (removeAll : Bool)
    (record : AllowRecord) (s t : AllowService) : Prop where
  lookup : ∀ key, t.allowInfoMap.lookup key =
    if key = mapKey uid name then
      if (s.releasedRecord allowType removeAll record).allowType = 0 then none
      else some (s.releasedRecord allowType removeAll record)
    else s.allowInfoMap.lookup key
  messages : t.messages = s.messages ++ announcements uid name
    [⟨(releaseTimes allowType removeAll s.bootTime record.allowTimeList).2, false⟩]
  file : t.file = some t.allowInfoMap.parseToJson

/-- The last branch of `UnapplyAllowResInner`. -/
theorem released_unapplyAllowResInner
    (hlookup : s.allowInfoMap.lookup (mapKey uid name) = some record)
    (hnone : allowType &&& record.allowType ≠ 0)
    (hzero : (releaseTimes allowType removeAll s.bootTime record.allowTimeList).2 ≠ 0) :
    Released uid name allowType removeAll record s
      (s.unapplyAllowResInner uid name allowType removeAll) := by
  -- the code compares the removed types with all types, instead of looking at what is left
  have hempty : (releaseTimes allowType removeAll s.bootTime record.allowTimeList).2 =
      record.allowType ↔ (s.releasedRecord allowType removeAll record).allowType = 0 := by
    rw [releasedRecord, BitVec.sub_eq_iff_eq_add]
    exact ⟨fun h => by rw [h]; exact (BitVec.zero_add _).symm,
      fun h => (h.trans (BitVec.zero_add _)).symm⟩
  have heq : s.unapplyAllowResInner uid name allowType removeAll =
      dumpPersistantData { s with
        allowInfoMap :=
          if (releaseTimes allowType removeAll s.bootTime record.allowTimeList).2 =
            record.allowType then s.allowInfoMap.erase (mapKey uid name)
          else s.allowInfoMap.insert (mapKey uid name) (s.releasedRecord allowType removeAll record)
        messages := s.messages ++ announcements uid name
          [⟨(releaseTimes allowType removeAll s.bootTime record.allowTimeList).2, false⟩] } := by
    simp only [unapplyAllowResInner, hlookup, if_neg hnone, if_neg hzero]
    rfl
  rw [heq]
  refine ⟨fun key => ?_, rfl, rfl⟩
  simp only [dumpPersistantData, hempty]
  exact Map.lookup_ite_erase_insert fun _ _ => rfl

/-- Either nothing is to be released, or a record loses some of its types. -/
theorem unapplyAllowResInner_cases (uid : Int) (name : String) (allowType : BitVec 32)
    (removeAll : Bool) (h : s.allowInfoMap.WellKept) :
    (s.unapplyAllowResInner uid name allowType removeAll = s ∧
      ∀ k e, s.endTime? (mapKey uid name) k = some e →
        isReleased allowType removeAll s.bootTime k e = false) ∨
    ∃ record, s.allowInfoMap.lookup (mapKey uid name) = some record ∧
      Released uid name allowType removeAll record s
        (s.unapplyAllowResInner uid name allowType removeAll) := by
  cases hlookup : s.allowInfoMap.lookup (mapKey uid name) with
  | none =>
    refine .inl ⟨by simp only [unapplyAllowResInner, hlookup], fun k e he => ?_⟩
    rw [endTime?, hlookup] at he
    cases he
  | some record =>
    have hwell := (h _ _ hlookup).wellFormed
    have hmem : ∀ k e, s.endTime? (mapKey uid name) k = some e →
        ∃ time ∈ record.allowTimeList, time.allowTypeIndex = k ∧ time.endTime = e := by
      intro k e he
      rw [endTime?, hlookup] at he
      exact exists_of_endTimeOf? he
    have hbit : ∀ time ∈ record.allowTimeList,
        time.allowTypeIndex < 32 ∧ record.allowType.getLsbD time.allowTypeIndex = true := by
      intro time htime
      have hlt := hwell.inRange _ (List.mem_map_of_mem htime)
      refine ⟨lt_trans hlt (by decide), ?_⟩
      rw [hwell.mask, getLsbD_maskOf]
      exact ⟨lt_trans hlt (by decide), List.mem_map_of_mem htime⟩
    by_cases hnone : allowType &&& record.allowType = 0
    · refine .inl ⟨by simp only [unapplyAllowResInner, hlookup, if_pos hnone], fun k e he => ?_⟩
      obtain ⟨time, htime, rfl, rfl⟩ := hmem k e he
      have hzero := eq_zero_iff.1 hnone time.allowTypeIndex
      rw [BitVec.getLsbD_and, (hbit time htime).2, Bool.and_true] at hzero
      rw [isReleased, hzero, Bool.false_and]
    · by_cases hzero : (releaseTimes allowType removeAll s.bootTime record.allowTimeList).2 = 0
      · refine .inl ⟨by simp only [unapplyAllowResInner, hlookup, if_neg hnone, if_pos hzero],
          fun k e he => ?_⟩
        obtain ⟨time, htime, rfl, rfl⟩ := hmem k e he
        refine Bool.eq_false_iff.2 fun hreleased => ?_
        have hclear := eq_zero_iff.1 hzero time.allowTypeIndex
        rw [releaseTimes_eq, ← Bool.not_eq_true, getLsbD_maskOf] at hclear
        exact hclear ⟨(hbit time htime).1,
          List.mem_map_of_mem (List.mem_filter.2 ⟨htime, hreleased⟩)⟩
      · exact .inr ⟨record, rfl, released_unapplyAllowResInner hlookup hnone hzero⟩

/-- A release leaves the tasks and the clocks alone. -/
theorem tasks_unapplyAllowResInner (uid : Int) (name : String) (allowType : BitVec 32)
    (removeAll : Bool) (s : AllowService) :
    (s.unapplyAllowResInner uid name allowType removeAll).tasks = s.tasks ∧
      (s.unapplyAllowResInner uid name allowType removeAll).bootTime = s.bootTime ∧
      (s.unapplyAllowResInner uid name allowType removeAll).handlerTime = s.handlerTime := by
  cases hlookup : s.allowInfoMap.lookup (mapKey uid name) with
  | none =>
    simp only [unapplyAllowResInner, hlookup, and_self]
  | some record =>
    simp only [unapplyAllowResInner, hlookup]
    split
    · exact ⟨rfl, rfl, rfl⟩
    · split <;> exact ⟨rfl, rfl, rfl⟩

/-- A removal keeps the list well. -/
theorem wellKept_unapplyAllowResInner (h : s.allowInfoMap.WellKept) :
    (s.unapplyAllowResInner uid name allowType removeAll).allowInfoMap.WellKept := by
  obtain ⟨heq, -⟩ | ⟨record, hlookup, hreleased⟩ :=
    unapplyAllowResInner_cases uid name allowType removeAll h
  · rwa [heq]
  · intro key found hfound
    rw [hreleased.lookup] at hfound
    have hstored := h _ _ hlookup
    split_ifs at hfound with hkey hzero
    · cases hfound
      exact ⟨hkey.trans hstored.key, hstored.wellFormed.release, hzero⟩
    · exact h key found hfound

/-- A release edits the record of its app. -/
theorem edit_unapplyAllowResInner (uid : Int) (name : String) (allowType : BitVec 32)
    (removeAll : Bool) (h : s.allowInfoMap.WellKept) :
    Edit uid name s (s.unapplyAllowResInner uid name allowType removeAll) := by
  obtain ⟨heq, -⟩ | ⟨record, hlookup, hreleased⟩ :=
    unapplyAllowResInner_cases uid name allowType removeAll h
  · rw [heq]
    exact .refl
  · refine ⟨fun key hkey => ?_, _, hreleased.messages, ?_⟩
    · rw [hreleased.lookup, if_neg hkey]
    · have hold : s.allowTypeOf uid name = record.allowType := by
        rw [allowTypeOf, hlookup]
        rfl
      rw [hold, follow_removed (h _ _ hlookup).wellFormed.released_le, allowTypeOf,
        hreleased.lookup, if_pos rfl]
      split_ifs with hzero
      · exact congrArg some hzero
      · rfl

/-- A release erases the end times of its app that it releases. -/
theorem endTime?_unapplyAllowResInner (uid : Int) (name : String) (allowType : BitVec 32)
    (removeAll : Bool) (h : s.allowInfoMap.WellKept) (key : String) (k : Nat) :
    (s.unapplyAllowResInner uid name allowType removeAll).endTime? key k =
      if key = mapKey uid name then
        (s.endTime? key k).filter fun e => !isReleased allowType removeAll s.bootTime k e
      else s.endTime? key k := by
  obtain ⟨heq, hkept⟩ | ⟨record, hlookup, hreleased⟩ :=
    unapplyAllowResInner_cases uid name allowType removeAll h
  · rw [heq]
    split_ifs with hkey
    · subst hkey
      cases he : s.endTime? (mapKey uid name) k with
      | none => rfl
      | some e => rw [Option.filter_some, hkept k e he, Bool.not_false, if_pos rfl]
    · rfl
  · have hwell := (h _ _ hlookup).wellFormed
    have hend : (s.releasedRecord allowType removeAll record).endTime? k =
        (record.endTime? k).filter fun e => !isReleased allowType removeAll s.bootTime k e :=
      endTimeOf?_releaseTimes hwell.nodup
    rw [endTime?, hreleased.lookup]
    by_cases hkey : key = mapKey uid name
    · subst hkey
      have hold : s.endTime? (mapKey uid name) k = record.endTime? k := by
        rw [endTime?, hlookup]
        rfl
      rw [if_pos rfl, if_pos rfl, hold, ← hend]
      split_ifs with hzero
      · exact (endTime?_of_allowType_eq_zero hwell.release hzero k).symm
      · rfl
    · rw [if_neg hkey, if_neg hkey]
      rfl

/-! ## Steps -/

/-- A release removes the types that its task names, where their entries are over. -/
theorem step_release {i : Nat} {t : AllowService}
    (h : s.step resourceConfig (.release i) = some t) :
    ∃ task, s.tasks[i]? = some task ∧ task.due ≤ s.handlerTime ∧
      t = { s with tasks := s.tasks.eraseIdx i }.unapplyAllowResInner task.uid task.name
        task.allowType false := by
  simp only [step] at h
  cases htask : s.tasks[i]? with
  | none =>
    rw [htask] at h
    cases h
  | some task =>
    rw [htask] at h
    obtain ⟨hdue, ht⟩ := Option.ite_none_right_eq_some.1 h
    exact ⟨task, rfl, hdue, (Option.some.inj ht).symm⟩

end AllowService

end

end DeviceStandby
