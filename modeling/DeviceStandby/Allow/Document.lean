import DeviceStandby.Allow.Reload

/-!
# Record files from elsewhere

The parser checks that the fields of a record have their types, and nothing about how they belong
together. So what a reload makes of a document is well kept exactly when the document itself is
(`wellKept_parsePersistentData_iff`). From then on every operation keeps it so, and the shifts, the
subtraction and the table lookups of the later operations stay within their ranges.
-/

open AssocMap BitMask Json

namespace DeviceStandby

/-- Every record of the document whose process is running is under the key of its app, with one
entry a type, types that exist, and at least one of them. -/
def Json.WellKept (pidNameMap : Map Int String) (document : Json) : Prop :=
  ∀ members, document = .object members → ∀ member ∈ members, ∀ record : AllowRecord,
    record.DescribedBy member.2 → record.isRunning pidNameMap = true →
      record.StoredAt member.1

/-- A service that finds a document when it starts. -/
def AllowService.booted (document : Json) (bootTime : Nat) : AllowService where
  file := some document
  bootTime := bootTime

section
variable {resourceConfig : ResourceConfigMap} {s : AllowService} {processes : Processes}
  {monotonicTime : Int} {document value : Json} {bootTime : Nat} {record : AllowRecord}

/-- What is loaded into an empty list from a document. -/
theorem lookup_booted {key : String} {members : List (String × Json)}
    (hkeys : (members.map Prod.fst).Nodup) :
    ((AllowService.booted (.object members) bootTime).parsePersistentData processes
        monotonicTime).allowInfoMap.lookup key = some record ↔
      (∃ value, (key, value) ∈ members ∧ record.DescribedBy value) ∧
        record.isRunning processes.getPidAndProcName = true := by
  by_cases hprocesses : processes.getPidAndProcName.entries = []
  · have hidle : record.isRunning processes.getPidAndProcName = false := by
      have hnone : processes.getPidAndProcName.lookup record.pid = none := by
        rw [AList.lookup, hprocesses]
        rfl
      rw [AllowRecord.isRunning, hnone]
      rfl
    rw [parsePersistentData_eq_self (.inl hprocesses), hidle]
    simp [AllowService.booted]
  · have hroot : (AllowService.booted (.object members) bootTime).file.bind Json.asObject? =
        some members := rfl
    rw [lookup_parsePersistentData hprocesses hroot]
    have hempty : (AllowService.booted (.object members) bootTime).allowInfoMap.lookup key = none :=
      rfl
    rw [hempty, Option.none_or, Option.filter_eq_some_iff,
      findSome?_parseFromJson hkeys]
    simp only [parseFromJson_eq_some_iff]

/-- What is loaded is well kept exactly when the document is. -/
theorem wellKept_booted_iff
    (hkeys : ∀ members, document = .object members → (members.map Prod.fst).Nodup) :
    ((AllowService.booted document bootTime).parsePersistentData processes
        monotonicTime).allowInfoMap.WellKept ↔
      Json.WellKept processes.getPidAndProcName document := by
  constructor
  · rintro h members rfl member hmember record hdescribed hrunning
    exact h _ _ ((lookup_booted (hkeys members rfl)).2 ⟨⟨member.2, hmember, hdescribed⟩, hrunning⟩)
  · intro h key record hlookup
    cases document with
    | object members =>
      obtain ⟨⟨value, hvalue, hdescribed⟩, hrunning⟩ :=
        (lookup_booted (hkeys members rfl)).1 hlookup
      exact h members rfl _ hvalue record hdescribed hrunning
    | null | boolean | integer | real | string | array =>
      rw [parsePersistentData_eq_self (.inr rfl)] at hlookup
      cases hlookup

/-- Every later operation keeps the list. -/
theorem wellKept_from {init : AllowService} (h : init.allowInfoMap.WellKept)
    (hs : Lts.ReachableUnder { allowSystem resourceConfig with init }
      (fun _ a => a.isReload = false) s) : s.allowInfoMap.WellKept :=
  hs.invariant (I := fun s => s.allowInfoMap.WellKept) h
    fun _ hreload hstep hs => (edit_step hs hstep hreload).1

theorem AllowInfoMap.WellKept.index_lt (h : s.allowInfoMap.WellKept) {key : String}
    (hlookup : s.allowInfoMap.lookup key = some record) :
    ∀ time ∈ record.allowTimeList, time.allowTypeIndex < MAX_ALLOW_TYPE_NUM :=
  fun _ htime => (h key record hlookup).wellFormed.inRange _ (List.mem_map_of_mem htime)

/-- The dump of a well kept list names every type. -/
theorem AllowInfoMap.WellKept.dump (h : s.allowInfoMap.WellKept) (monotonicTime : Int) :
    (s.dumpAllowListInfo monotonicTime).isSome := by
  have htime : ∀ time : AllowTime, time.allowTypeIndex < MAX_ALLOW_TYPE_NUM →
      (AllowService.dumpTime monotonicTime time).isSome := by
    intro time hlt
    rw [AllowService.dumpTime, List.getElem?_eq_getElem hlt]
    rfl
  have htimes : ∀ times : List AllowTime,
      (∀ time ∈ times, time.allowTypeIndex < MAX_ALLOW_TYPE_NUM) →
      (times.mapM (AllowService.dumpTime monotonicTime)).isSome := by
    intro times
    induction times with
    | nil => exact fun _ => rfl
    | cons time times ih =>
      intro hlt
      obtain ⟨text, htext⟩ := Option.isSome_iff_exists.1 (htime time (hlt time List.mem_cons_self))
      obtain ⟨texts, htexts⟩ := Option.isSome_iff_exists.1
        (ih fun t ht => hlt t (List.mem_cons_of_mem _ ht))
      rw [List.mapM_cons, htext, htexts]
      rfl
  have hrecord : ∀ entry ∈ s.allowInfoMap.entries, ∀ index,
      (AllowService.dumpRecord monotonicTime index entry.1 entry.2).isSome := by
    intro entry hentry index
    obtain ⟨texts, htexts⟩ := Option.isSome_iff_exists.1
      (htimes entry.2.allowTimeList (h.index_lt (Map.lookup_eq_some_iff.2 hentry)))
    rw [AllowService.dumpRecord, htexts]
    rfl
  have hrecords : ∀ (entries : List (Sigma fun _ : String => AllowRecord)) (index : Nat),
      (∀ entry ∈ entries, ∀ index,
        (AllowService.dumpRecord monotonicTime index entry.1 entry.2).isSome) →
      ((entries.zipIdx index).mapM fun entry =>
        AllowService.dumpRecord monotonicTime entry.2 entry.1.1 entry.1.2).isSome := by
    intro entries
    induction entries with
    | nil => exact fun _ _ => rfl
    | cons entry entries ih =>
      intro index hsome
      obtain ⟨text, htext⟩ := Option.isSome_iff_exists.1 (hsome entry List.mem_cons_self index)
      obtain ⟨texts, htexts⟩ := Option.isSome_iff_exists.1
        (ih (index + 1) fun e he => hsome e (List.mem_cons_of_mem _ he))
      rw [List.zipIdx_cons, List.mapM_cons, htext, htexts]
      rfl
  rw [AllowService.dumpAllowListInfo]
  split_ifs
  · rfl
  · obtain ⟨texts, htexts⟩ := Option.isSome_iff_exists.1 (hrecords _ 1 hrecord)
    rw [htexts]
    rfl

end

/-- A reload leaves a well kept list exactly when the document is well kept, and then every shift,
subtraction and table lookup of a later operation is within its range. -/
theorem reload_wellKept_iff (resourceConfig : ResourceConfigMap) (document : Json)
    (hkeys : ∀ members, document = .object members → (members.map Prod.fst).Nodup)
    (processes : Processes) (bootTime : Nat) (monotonicTime : Int) :
    let loaded :=
      (AllowService.booted document bootTime).parsePersistentData processes monotonicTime
    (loaded.allowInfoMap.WellKept ↔ Json.WellKept processes.getPidAndProcName document) ∧
    (loaded.allowInfoMap.WellKept → ∀ s,
      Lts.ReachableUnder { allowSystem resourceConfig with init := loaded }
        (fun _ a => a.isReload = false) s →
      (∀ key record, s.allowInfoMap.lookup key = some record →
        (∀ time ∈ record.allowTimeList, time.allowTypeIndex < 7) ∧
        ∀ allowType removeAll curTime,
          (releaseTimes allowType removeAll curTime record.allowTimeList).2 ≤ record.allowType) ∧
      ∀ curTime, (s.dumpAllowListInfo curTime).isSome) := by
  refine ⟨wellKept_booted_iff hkeys, fun hloaded s hs => ?_⟩
  have hkept := wellKept_from hloaded hs
  refine ⟨fun key record hlookup => ⟨hkept.index_lt hlookup, fun _ _ _ => ?_⟩, hkept.dump⟩
  exact le_of_and_not (hkept key record hlookup).wellFormed.released_le

/-- A document whose only record has a type that does not exist. -/
def strayDocument : Json :=
  .object [("7_proc", .object [("uid", .integer 7), ("pid", .integer 100),
    ("name", .string "proc"), ("allowType", .integer 4), ("reasonCode", .integer 0),
    ("allowTimeList", .array [.object [("allowTypeIndex", .integer 40), ("endTime", .integer 1),
      ("reason", .string "")]])])]

/-- The condition of `reload_wellKept_iff` at a document: its record has no such type. -/
theorem reload_wellKept_iff_stray :
    ¬ Json.WellKept sampleProcesses.getPidAndProcName strayDocument := by
  intro h
  have hloaded := (reload_wellKept_iff sampleResourceConfig strayDocument
    (by rintro members ⟨⟩; simp) sampleProcesses 0 0).1.2 h
  have hdump := hloaded.dump 0
  revert hdump
  decide +kernel

/-- Not every document is loaded into a well kept list. -/
theorem reload_not_wellKept :
    ¬ ∀ (document : Json) (processes : Processes) (bootTime : Nat) (monotonicTime : Int),
      (∀ members, document = .object members → (members.map Prod.fst).Nodup) →
      ((AllowService.booted document bootTime).parsePersistentData processes
        monotonicTime).allowInfoMap.WellKept := by
  intro h
  have hdump := (h strayDocument sampleProcesses 0 0 (by rintro members ⟨⟩; simp)).dump 0
  revert hdump
  decide +kernel

end DeviceStandby
