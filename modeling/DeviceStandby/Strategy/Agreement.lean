import DeviceStandby.Strategy.External
import DeviceStandby.Strategy.Firewall

/-!
# When edited flags agree with rebuilt ones

While they restrict, both strategies edit the flags of their apps message by message, and a record
built anew computes them from what is reported. `Agrees` is how far the two may differ: an app that
was on the restrict list before it was allowed keeps RESTRICTED, which EXEMPTION outweighs. Flags
that agree decide the same, and one lemma for each of the four edits says when they agree
afterwards. The running lock strategy has no conditional list, so its edits are these with `False`
for it.
-/

namespace DeviceStandby

open ExemptionTypeFlag AssocMap

/-! ## Flags that agree -/

/-- The flags that are held for an app beside those that the platform reports: the bundle is
allowed, is on the restrict list, is on the conditional list. -/
inductive Agrees (allowed listed conditional : Prop) (reported : ExemptionFlag) :
    ExemptionFlag → Prop where
  | allowed (hallowed : allowed) :
      Agrees allowed listed conditional reported (reported ||| EXEMPTION)
  /-- The app was restricted before it was allowed. -/
  | kept (hallowed : allowed) (hlisted : listed) (hconditional : ¬ conditional) :
      Agrees allowed listed conditional reported (reported ||| EXEMPTION ||| RESTRICTED)
  | restricted (hallowed : ¬ allowed)
      (hrestricted : listed ∨ conditional ∧ reported &&& ~~~UNRESTRICTED = 0) :
      Agrees allowed listed conditional reported (reported ||| RESTRICTED)
  | plain (hallowed : ¬ allowed) (hlisted : ¬ listed)
      (hconditional : conditional → reported &&& ~~~UNRESTRICTED ≠ 0) :
      Agrees allowed listed conditional reported reported

/-- The flags of background tasks. -/
inductive IsTaskFlag : ExemptionFlag → Prop where
  | continuousTask : IsTaskFlag CONTINUOUS_TASK
  | transientTask : IsTaskFlag TRANSIENT_TASK
  | workScheduler : IsTaskFlag WORK_SCHEDULER

/-- The flags of background tasks are flags of tasks. -/
theorem isTaskFlag_of_bgtask {type : String} {flag : ExemptionFlag}
    (h : bgtaskExemptionFlagMap type = some flag) : IsTaskFlag flag := by
  unfold bgtaskExemptionFlagMap at h
  split_ifs at h <;> cases h <;> constructor

section
variable {allowed allowed' listed conditional : Prop} {reported held held' task : ExemptionFlag}

/-- An allowance counts by night too. -/
theorem or_exemption_ne_zero :
    ∀ flag : ExemptionFlag, (flag ||| EXEMPTION) &&& ~~~UNRESTRICTED ≠ 0 := by
  decide

/-- So does a restriction. -/
theorem or_restricted_ne_zero :
    ∀ flag : ExemptionFlag, (flag ||| RESTRICTED) &&& ~~~UNRESTRICTED ≠ 0 := by
  decide

/-- The flags that a record built anew holds agree. -/
theorem agrees_configured [Decidable allowed] [Decidable listed] [Decidable conditional] :
    Agrees allowed listed conditional reported
      (configuredFlag allowed (listed ∧ ¬ allowed) conditional reported) := by
  have hzero : ∀ flag : ExemptionFlag, flag ||| 0 = flag := fun _ => BitVec.or_zero
  unfold configuredFlag
  dsimp only
  by_cases hallowed : allowed
  · rw [show flagIf allowed EXEMPTION = EXEMPTION from if_pos hallowed,
      show flagIf (listed ∧ ¬ allowed) RESTRICTED = 0 from if_neg fun hc => hc.2 hallowed,
      hzero, if_neg fun hc => or_exemption_ne_zero _ hc.2]
    exact .allowed hallowed
  rw [show flagIf allowed EXEMPTION = 0 from if_neg hallowed, hzero]
  by_cases hlisted : listed
  · rw [show flagIf (listed ∧ ¬ allowed) RESTRICTED = RESTRICTED from if_pos ⟨hlisted, hallowed⟩,
      if_neg fun hc => or_restricted_ne_zero _ hc.2]
    exact .restricted hallowed (.inl hlisted)
  · rw [show flagIf (listed ∧ ¬ allowed) RESTRICTED = 0 from if_neg fun hc => hlisted hc.1, hzero]
    split_ifs with hconditional
    · exact .restricted hallowed (.inr hconditional)
    · exact .plain hallowed hlisted fun hc hz => hconditional ⟨hc, hz⟩

/-- An allowance exempts, restricted or not, by day and by night. -/
theorem isExempted_or_exemption : ∀ flag : ExemptionFlag,
    isExempted (flag ||| EXEMPTION) = true ∧ isExempted (flag ||| EXEMPTION ||| RESTRICTED) = true ∧
      isExempted ((flag ||| EXEMPTION) &&& ~~~UNRESTRICTED) = true ∧
      isExempted ((flag ||| EXEMPTION ||| RESTRICTED) &&& ~~~UNRESTRICTED) = true := by
  decide

/-- Flags that agree decide the same. -/
theorem Agrees.decides (h : Agrees allowed listed conditional reported held)
    (condition : ConditionType) (h' : Agrees allowed listed conditional reported held') :
    isExempted held = isExempted held' ∧
      isFlagExempted condition held = isFlagExempted condition held' := by
  obtain ⟨hex, hkept, hnight, hkeptNight⟩ := isExempted_or_exemption reported
  have hcounted : isFlagExempted condition (reported ||| EXEMPTION) =
      isFlagExempted condition (reported ||| EXEMPTION ||| RESTRICTED) := by
    rw [isFlagExempted_eq, isFlagExempted_eq]
    unfold countedFlag
    split_ifs
    · rw [hnight, hkeptNight]
    · rw [hex, hkept]
  cases h with
  | allowed hallowed =>
    cases h' with
    | allowed => exact ⟨rfl, rfl⟩
    | kept => exact ⟨hex.trans hkept.symm, hcounted⟩
    | restricted hnot | plain hnot => exact absurd hallowed hnot
  | kept hallowed =>
    cases h' with
    | allowed => exact ⟨hkept.trans hex.symm, hcounted.symm⟩
    | kept => exact ⟨rfl, rfl⟩
    | restricted hnot | plain hnot => exact absurd hallowed hnot
  | restricted hnot hrestricted =>
    cases h' with
    | allowed hallowed | kept hallowed => exact absurd hallowed hnot
    | restricted => exact ⟨rfl, rfl⟩
    | plain _ hlisted hconditional =>
      rcases hrestricted with hl | ⟨hc, hzero⟩
      · exact absurd hl hlisted
      · exact absurd hzero (hconditional hc)
  | plain hnot hlisted hconditional =>
    cases h' with
    | allowed hallowed | kept hallowed => exact absurd hallowed hnot
    | restricted _ hrestricted =>
      rcases hrestricted with hl | ⟨hc, hzero⟩
      · exact absurd hl hlisted
      · exact absurd hzero (hconditional hc)
    | plain => exact ⟨rfl, rfl⟩

/-! ### The four edits -/

/-- What an allowance that begins does to the flags of a rebuild. -/
theorem granted_exemption : ∀ flag : ExemptionFlag, IsReported flag →
    (flag ||| EXEMPTION ||| EXEMPTION) = flag ||| EXEMPTION ∧
    (flag ||| EXEMPTION ||| RESTRICTED ||| EXEMPTION) = flag ||| EXEMPTION ||| RESTRICTED ∧
    (flag ||| RESTRICTED ||| EXEMPTION) = flag ||| EXEMPTION ||| RESTRICTED ∧
    (flag ||| EXEMPTION) &&& ~~~RESTRICTED = flag ||| EXEMPTION ∧
    (flag ||| EXEMPTION ||| RESTRICTED) &&& ~~~RESTRICTED = flag ||| EXEMPTION := by
  decide

/-- An allowance begins. -/
theorem Agrees.grantExemption [Decidable conditional] (hreported : IsReported reported)
    (hallowed' : allowed') (h : Agrees allowed listed conditional reported held) :
    Agrees allowed' listed conditional reported (grantedFlag conditional EXEMPTION held) := by
  obtain ⟨hagain, hkept, hswap, hclear, hclearKept⟩ := granted_exemption reported hreported
  unfold grantedFlag
  cases h with
  | allowed =>
    rw [hagain]
    split_ifs
    · rw [hclear]
      exact .allowed hallowed'
    · exact .allowed hallowed'
  | kept _ hlisted hconditional =>
    rw [if_neg hconditional, hkept]
    exact .kept hallowed' hlisted hconditional
  | restricted _ hrestricted =>
    rw [hswap]
    split_ifs with hconditional
    · rw [hclearKept]
      exact .allowed hallowed'
    · exact .kept hallowed' (hrestricted.resolve_right fun hc => hconditional hc.1) hconditional
  | plain =>
    split_ifs
    · rw [hclear]
      exact .allowed hallowed'
    · exact .allowed hallowed'

/-- What an allowance that ends does to the flags of a rebuild. -/
theorem revoked_exemption : ∀ flag : ExemptionFlag, IsReported flag →
    (flag ||| EXEMPTION) &&& ~~~EXEMPTION = flag ∧
    (flag ||| EXEMPTION ||| RESTRICTED) &&& ~~~EXEMPTION = flag ||| RESTRICTED ∧
    (flag ||| RESTRICTED) &&& ~~~EXEMPTION = flag ||| RESTRICTED ∧
    flag &&& ~~~EXEMPTION = flag ∧ (flag ||| EXEMPTION) &&& RESTRICTED = 0 := by
  decide

/-- An allowance ends, and the bundle is not allowed any more. An app on the restrict list must hold
RESTRICTED. -/
theorem Agrees.revokeExemption [Decidable conditional] (hreported : IsReported reported)
    (hallowed' : ¬ allowed') (h : Agrees allowed listed conditional reported held)
    (hlisted : listed → held &&& RESTRICTED ≠ 0 ∨
      conditional ∧ reported &&& ~~~UNRESTRICTED = 0) :
    Agrees allowed' listed conditional reported (revokedFlag conditional EXEMPTION held) := by
  obtain ⟨hplain, hkept, hrestricted, hsame, hnone⟩ := revoked_exemption reported hreported
  unfold revokedFlag
  cases h with
  | allowed =>
    rw [hplain]
    split_ifs with hconditional
    · exact .restricted hallowed' (.inr hconditional)
    · refine .plain hallowed' (fun hl => ?_) fun hc hzero => hconditional ⟨hc, hzero⟩
      exact (hlisted hl).elim (fun hne => hne hnone) hconditional
  | kept _ hl hconditional =>
    rw [hkept, if_neg fun hc => hconditional hc.1]
    exact .restricted hallowed' (.inl hl)
  | restricted _ hr =>
    rw [hrestricted, if_neg fun hc => or_restricted_ne_zero _ hc.2]
    exact .restricted hallowed' hr
  | plain _ hl hconditional =>
    rw [hsame, if_neg fun hc => hconditional hc.1 hc.2]
    exact .plain hallowed' hl hconditional

/-- What a task that starts does to the flags of a rebuild. -/
theorem granted_task (htask : IsTaskFlag task) : ∀ flag : ExemptionFlag, IsReported flag →
    (flag ||| EXEMPTION ||| task) = flag ||| task ||| EXEMPTION ∧
    (flag ||| EXEMPTION ||| RESTRICTED ||| task) = flag ||| task ||| EXEMPTION ||| RESTRICTED ∧
    (flag ||| RESTRICTED ||| task) = flag ||| task ||| RESTRICTED ∧
    (flag ||| task ||| EXEMPTION) &&& ~~~RESTRICTED = flag ||| task ||| EXEMPTION ∧
    (flag ||| task ||| RESTRICTED) &&& ~~~RESTRICTED = flag ||| task ∧
    (flag ||| task) &&& ~~~RESTRICTED = flag ||| task ∧
    (flag ||| task) &&& ~~~UNRESTRICTED ≠ 0 := by
  cases htask <;> decide

/-- A task starts. The app must not be restricted by both lists. -/
theorem Agrees.grantTask [Decidable conditional] (htask : IsTaskFlag task)
    (hreported : IsReported reported) (h : Agrees allowed listed conditional reported held)
    (hlists : ¬ (conditional ∧ listed ∧ ¬ allowed)) :
    Agrees allowed listed conditional (reported ||| task) (grantedFlag conditional task held) := by
  obtain ⟨hallowed, hkept, hrestricted, hclear, hclearRestricted, hclearPlain, hne⟩ :=
    granted_task htask reported hreported
  unfold grantedFlag
  cases h with
  | allowed ha =>
    rw [hallowed, hclear, ite_self]
    exact .allowed ha
  | kept ha hl hconditional =>
    rw [if_neg hconditional, hkept]
    exact .kept ha hl hconditional
  | restricted ha hr =>
    rw [hrestricted, hclearRestricted]
    split_ifs with hconditional
    · exact .plain ha (fun hl => hlists ⟨hconditional, hl, ha⟩) fun _ => hne
    · exact .restricted ha (.inl (hr.resolve_right fun hc => hconditional hc.1))
  | plain ha hl hconditional =>
    rw [hclearPlain, ite_self]
    exact .plain ha hl fun _ => hne

/-- What a task that stops does to the flags of a rebuild. -/
theorem revoked_task (htask : IsTaskFlag task) : ∀ flag : ExemptionFlag,
    (flag ||| EXEMPTION) &&& ~~~task = flag &&& ~~~task ||| EXEMPTION ∧
    (flag ||| EXEMPTION ||| RESTRICTED) &&& ~~~task =
      flag &&& ~~~task ||| EXEMPTION ||| RESTRICTED ∧
    (flag ||| RESTRICTED) &&& ~~~task = flag &&& ~~~task ||| RESTRICTED ∧
    (flag &&& ~~~UNRESTRICTED = 0 → flag &&& ~~~task &&& ~~~UNRESTRICTED = 0) := by
  cases htask <;> decide

/-- The last task of a type stops. -/
theorem Agrees.revokeTask [Decidable conditional] (htask : IsTaskFlag task)
    (h : Agrees allowed listed conditional reported held) :
    Agrees allowed listed conditional (reported &&& ~~~task)
      (revokedFlag conditional task held) := by
  obtain ⟨hallowed, hkept, hrestricted, hzero⟩ := revoked_task htask reported
  unfold revokedFlag
  cases h with
  | allowed ha =>
    rw [hallowed, if_neg fun hc => or_exemption_ne_zero _ hc.2]
    exact .allowed ha
  | kept ha hl hconditional =>
    rw [hkept, if_neg fun hc => hconditional hc.1]
    exact .kept ha hl hconditional
  | restricted ha hr =>
    rw [hrestricted, if_neg fun hc => or_restricted_ne_zero _ hc.2]
    exact .restricted ha (hr.imp_right fun hc => ⟨hc.1, hzero hc.2⟩)
  | plain ha hl hconditional =>
    split_ifs with hc
    · exact .restricted ha (.inr hc)
    · exact .plain ha hl fun hcond hz => hc ⟨hcond, hz⟩

end

end DeviceStandby
