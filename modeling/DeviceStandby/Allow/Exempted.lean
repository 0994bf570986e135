import DeviceStandby.Allow.Pending
import DeviceStandby.Allow.Visible

/-!
# What an app may be exempted from

An app declares numbers in `resourcesApply`: 101 to 107 stand for the seven allow types, and 100 for
all of them. `GetExemptedResourceType` keeps of a requested mask what the app declares: with 100 the
mask as it is, and 108 passes for an eighth type. `getExemptedResourceType_eq_iff` says when this is
the mask that the numbers stand for. The check that follows refuses a mask with other types than the
seven.
-/

open BitMask

namespace DeviceStandby

/-- The types that the numbers 101 to 107 of a list stand for. -/
def declaredTypes (resourcesApply : List Int32) : BitVec 32 :=
  maskOf 32 ((resourcesApply.filter fun number =>
    101 ≤ number.toInt ∧ number.toInt ≤ 107).map fun number => (number.toInt - 101).toNat)

/-- The types that a list declares: all of them with 100. -/
def declaredMask (resourcesApply : List Int32) : BitVec 32 :=
  if 100 ∈ resourcesApply then MAX_ALLOW_TYPE_NUMBER else declaredTypes resourcesApply

section
variable {number : Int32} {resourcesApply : List Int32} {caller : Caller}
  {resourceType mask : BitVec 32} {i n : Nat}

/-- A small number is the same with a sign and without. -/
theorem toNat_toUInt32_eq_iff (h : n < 2 ^ 31) : number.toUInt32.toNat = n ↔ number.toInt = n := by
  have hnat : number.toUInt32.toNat = number.toBitVec.toNat := rfl
  have hint : number.toInt = number.toBitVec.toInt := rfl
  have hlt : number.toBitVec.toNat < 2 ^ 32 := number.toBitVec.isLt
  rw [hnat, hint, BitVec.toInt_eq_toNat_cond]
  split_ifs <;> omega

/-- A number that is not negative is found under its value. -/
theorem mem_map_toNat_iff (hint : number.toInt = n) (h : n < 2 ^ 31) :
    n ∈ resourcesApply.map (fun number => number.toUInt32.toNat) ↔ number ∈ resourcesApply := by
  rw [List.mem_map]
  constructor
  · rintro ⟨number', hmem, heq⟩
    rw [toNat_toUInt32_eq_iff h, ← hint] at heq
    exact Int32.toInt.inj heq ▸ hmem
  · exact fun hmem => ⟨number, hmem, (toNat_toUInt32_eq_iff h).2 hint⟩

/-- 100 stands for all types. -/
theorem toInt_hundred : (100 : Int32).toInt = EXEMPT_ALL_RESOURCES := rfl

/-- The declared types, bit by bit. -/
theorem getLsbD_declaredTypes : (declaredTypes resourcesApply).getLsbD i = true ↔
    ∃ number ∈ resourcesApply, number.toInt = 101 + i ∧ i < 7 := by
  rw [declaredTypes, getLsbD_maskOf]
  simp only [List.mem_map, List.mem_filter, decide_eq_true_eq]
  constructor
  · rintro ⟨-, number, ⟨hmem, hlo, hhi⟩, rfl⟩
    exact ⟨number, hmem, by omega, by omega⟩
  · rintro ⟨number, hmem, hint, hi⟩
    exact ⟨by omega, number, ⟨hmem, by omega, by omega⟩, by omega⟩

/-- A turn of the loop sets a bit for the numbers 101 to 108. -/
theorem getLsbD_addExempted : (addExempted mask n).getLsbD i = true ↔
    mask.getLsbD i = true ∨ 101 + i = n ∧ i < 8 := by
  have hexempt : EXEMPT_ALL_RESOURCES = 100 := rfl
  have hmax : MAX_ALLOW_TYPE_NUM = 7 := rfl
  unfold addExempted
  split_ifs with hskip
  · exact (or_iff_left (by omega)).symm
  · rw [BitVec.getLsbD_or, Bool.or_eq_true, BitVec.getLsbD_twoPow, Bool.and_eq_true,
      decide_eq_true_eq, decide_eq_true_eq]
    exact or_congr_right (by omega)

/-- The bits that the numbers of a list set: those from 101 to 108. -/
theorem getLsbD_foldl_addExempted {numbers : List Nat} :
    (numbers.foldl addExempted mask).getLsbD i = true ↔
      mask.getLsbD i = true ∨ 101 + i ∈ numbers ∧ i < 8 := by
  induction numbers generalizing mask with
  | nil => simp
  | cons number numbers ih =>
    rw [List.foldl_cons, ih, getLsbD_addExempted, List.mem_cons, or_and_right, or_assoc]

/-- Without 100, a bit is exempted when it is requested and its number is declared, be it 108. -/
theorem getLsbD_getExemptedResourceType (hall : 100 ∉ caller.resourcesApply) :
    (caller.getExemptedResourceType resourceType).getLsbD i = true ↔
      (∃ number ∈ caller.resourcesApply, number.toInt = 101 + i ∧ i < 8) ∧
        resourceType.getLsbD i = true := by
  have hall' : EXEMPT_ALL_RESOURCES ∉
      caller.resourcesApply.map fun number => number.toUInt32.toNat :=
    fun h => hall ((mem_map_toNat_iff toInt_hundred (by decide)).1 h)
  have hmem : (101 + i ∈ caller.resourcesApply.map (fun number => number.toUInt32.toNat) ∧ i < 8) ↔
      ∃ number ∈ caller.resourcesApply, number.toInt = 101 + i ∧ i < 8 := by
    rw [List.mem_map]
    constructor
    · rintro ⟨⟨number, hmem, heq⟩, hi⟩
      have hlt : 101 + i < 2 ^ 31 := by omega
      exact ⟨number, hmem, (toNat_toUInt32_eq_iff hlt).1 heq, hi⟩
    · rintro ⟨number, hmem, hint, hi⟩
      have hlt : 101 + i < 2 ^ 31 := by omega
      exact ⟨⟨number, hmem, (toNat_toUInt32_eq_iff hlt).2 hint⟩, hi⟩
  unfold Caller.getExemptedResourceType
  dsimp only
  rw [if_neg hall']
  split_ifs with hempty
  · have hnone : caller.resourcesApply = [] := by simpa using hempty
    rw [hnone]
    simp
  · rw [BitVec.getLsbD_and, Bool.and_eq_true, getLsbD_foldl_addExempted, hmem]
    simp

/-- With 100 the requested mask is kept as it is. -/
theorem getExemptedResourceType_of_all (hall : 100 ∈ caller.resourcesApply) :
    caller.getExemptedResourceType resourceType = resourceType := by
  have hall' : EXEMPT_ALL_RESOURCES ∈
      caller.resourcesApply.map fun number => number.toUInt32.toNat :=
    (mem_map_toNat_iff toInt_hundred (by decide)).2 hall
  have hne : ¬ (caller.resourcesApply.map fun number => number.toUInt32.toNat).isEmpty := by
    rw [List.isEmpty_iff]
    exact List.ne_nil_of_mem hall'
  unfold Caller.getExemptedResourceType
  dsimp only
  rw [if_neg hne, if_pos hall']

/-- The largest mask has a bit for each of the seven types. -/
theorem getLsbD_max_iff : MAX_ALLOW_TYPE_NUMBER.getLsbD i = true ↔ i < 7 :=
  ⟨lt_of_checkAllowTypeInfo rfl, getLsbD_max⟩

/-- Without 100 it is what is requested and declared unless 108 meets a request for an eighth
type. -/
theorem getExemptedResourceType_eq (hall : 100 ∉ caller.resourcesApply)
    (heighth : ¬ (108 ∈ caller.resourcesApply ∧ resourceType.getLsbD 7 = true)) :
    caller.getExemptedResourceType resourceType =
      resourceType &&& declaredTypes caller.resourcesApply := by
  refine eq_of_bits fun i _ => ?_
  rw [getLsbD_getExemptedResourceType hall, BitVec.getLsbD_and, Bool.and_eq_true,
    getLsbD_declaredTypes, and_comm]
  refine and_congr_right fun hbit => ⟨?_, ?_⟩
  · rintro ⟨number, hmem, hint, hi⟩
    refine ⟨number, hmem, hint, lt_of_le_of_ne (Nat.le_of_lt_succ hi) ?_⟩
    rintro rfl
    have hnumber : number = 108 := Int32.toInt.inj hint
    exact heighth ⟨hnumber ▸ hmem, hbit⟩
  · rintro ⟨number, hmem, hint, hi⟩
    exact ⟨number, hmem, hint, by omega⟩

/-- What is exempted is what is requested and declared if and only if 100 does not meet a request
for more than the seven types, nor 108, where there is no 100, one for an eighth. -/
theorem getExemptedResourceType_eq_iff :
    caller.getExemptedResourceType resourceType =
        resourceType &&& declaredMask caller.resourcesApply ↔
      (100 ∈ caller.resourcesApply → ∀ i, 7 ≤ i → resourceType.getLsbD i = false) ∧
        (100 ∉ caller.resourcesApply → 108 ∈ caller.resourcesApply →
          resourceType.getLsbD 7 = false) := by
  rw [declaredMask]
  split_ifs with hall
  · rw [getExemptedResourceType_of_all hall]
    constructor
    · intro heq
      refine ⟨fun _ i hi => ?_, fun hno => absurd hall hno⟩
      rw [heq, BitVec.getLsbD_and, Bool.eq_false_iff.2 fun h => not_lt.2 hi (getLsbD_max_iff.1 h),
        Bool.and_false]
    · intro h
      refine eq_of_bits fun i _ => ?_
      rw [BitVec.getLsbD_and, Bool.and_eq_true, getLsbD_max_iff]
      refine (and_iff_left_of_imp fun hbit => ?_).symm
      by_contra hi
      rw [h.1 hall i (not_lt.1 hi)] at hbit
      cases hbit
  · constructor
    · intro heq
      refine ⟨fun h => absurd h hall, fun _ hmem => ?_⟩
      have hseven : ¬ (declaredTypes caller.resourcesApply).getLsbD 7 = true := fun h => by
        obtain ⟨_, -, -, hi⟩ := getLsbD_declaredTypes.1 h
        exact lt_irrefl 7 hi
      refine Bool.eq_false_iff.2 fun hbit => hseven ?_
      have hexempted : (caller.getExemptedResourceType resourceType).getLsbD 7 = true :=
        (getLsbD_getExemptedResourceType hall).2 ⟨⟨108, hmem, rfl, by decide⟩, hbit⟩
      rw [heq, BitVec.getLsbD_and, Bool.and_eq_true] at hexempted
      exact hexempted.2
    · intro h
      refine getExemptedResourceType_eq hall fun heighth => ?_
      rw [h.2 hall heighth.1] at heighth
      cases heighth.2

end

/-- With 100 an app gets what it requests, otherwise, unless 108 meets a request for an eighth type,
what it requests of the types that the numbers 101 to 107 of its list stand for. A result with
another type than the seven is refused. -/
theorem getExemptedResourceType_declared (caller : Caller) (resourceType : BitVec 32) :
    (100 ∈ caller.resourcesApply → caller.getExemptedResourceType resourceType = resourceType) ∧
    (100 ∉ caller.resourcesApply →
      ¬ (108 ∈ caller.resourcesApply ∧ resourceType.getLsbD 7 = true) →
        caller.getExemptedResourceType resourceType =
          resourceType &&& declaredTypes caller.resourcesApply) ∧
    (∀ i, 7 ≤ i → (caller.getExemptedResourceType resourceType).getLsbD i = true →
      checkAllowTypeInfo (caller.getExemptedResourceType resourceType) = false) := by
  refine ⟨getExemptedResourceType_of_all, getExemptedResourceType_eq, fun i hi hbit => ?_⟩
  by_contra hcheck
  exact not_lt.2 hi (lt_of_checkAllowTypeInfo (Bool.not_eq_false _ ▸ hcheck) hbit)

/-- With 100 an app gets a type that there is not. -/
theorem not_always_declaredMask : ¬ ∀ (caller : Caller) (resourceType : BitVec 32),
    caller.getExemptedResourceType resourceType =
      resourceType &&& declaredMask caller.resourcesApply := by
  intro h
  have heq := h { pid := 1, resourcesApply := [100] } 128
  revert heq
  decide

end DeviceStandby
