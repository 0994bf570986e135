import Mathlib.Logic.Basic

/-!
# Sets of indices as bit masks

A mask with the bits of a list of indices, what the usual C idioms on such masks do to its bits, and
logs of changes to a mask. A log is clean when it never sets a bit that is set and never clears one
that is clear; following a clean log reproduces the mask of its writer (`follow_append`).
-/

namespace BitMask

variable {w : Nat} {mask mask' added removed : BitVec w} {i : Nat} {l l' : List Nat}

/-- The mask with the bits of a list of indices. -/
def maskOf (w : Nat) : List Nat → BitVec w
  | [] => 0
  | i :: l => BitVec.twoPow w i ||| maskOf w l

@[simp]
theorem maskOf_nil : maskOf w [] = 0 := rfl

@[simp]
theorem maskOf_cons : maskOf w (i :: l) = BitVec.twoPow w i ||| maskOf w l := rfl

/-- A bit is set exactly when its index is in the list. -/
theorem getLsbD_maskOf : (maskOf w l).getLsbD i = true ↔ i < w ∧ i ∈ l := by
  induction l with
  | nil => simp
  | cons j l ih =>
    rw [maskOf_cons, BitVec.getLsbD_or, Bool.or_eq_true, ih, BitVec.getLsbD_twoPow,
      Bool.and_eq_true, decide_eq_true_eq, decide_eq_true_eq, List.mem_cons]
    constructor
    · rintro (⟨hj, rfl⟩ | ⟨hi, hmem⟩)
      · exact ⟨hj, .inl rfl⟩
      · exact ⟨hi, .inr hmem⟩
    · rintro ⟨hi, rfl | hmem⟩
      · exact .inl ⟨hi, rfl⟩
      · exact .inr ⟨hi, hmem⟩

/-- Two masks are equal when they have the same bits. -/
theorem eq_of_bits (h : ∀ i, i < w → (mask.getLsbD i = true ↔ mask'.getLsbD i = true)) :
    mask = mask' :=
  BitVec.eq_of_getLsbD_eq fun i hi => Bool.eq_iff_iff.2 (h i hi)

/-- A mask is zero when it has no bit. -/
theorem eq_zero_iff : mask = 0 ↔ ∀ i, mask.getLsbD i = false := by
  constructor
  · rintro rfl i
    exact BitVec.getLsbD_zero
  · intro h
    refine eq_of_bits fun i _ => ?_
    rw [h i, BitVec.ofNat_eq_ofNat, BitVec.getLsbD_zero]

/-- `mask & (1 << i)` is zero exactly when the bit is clear. -/
theorem and_twoPow_eq_zero_iff : mask &&& BitVec.twoPow w i = 0 ↔ mask.getLsbD i = false := by
  rw [eq_zero_iff]
  constructor
  · intro h
    by_cases hi : i < w
    · have := h i
      rwa [BitVec.getLsbD_and, BitVec.getLsbD_twoPow, decide_eq_true hi, decide_eq_true rfl,
        Bool.and_true, Bool.and_true] at this
    · exact BitVec.getLsbD_of_ge mask i (by omega)
  · intro h j
    rw [BitVec.getLsbD_and, BitVec.getLsbD_twoPow]
    by_cases hij : i = j
    · subst hij
      rw [h, Bool.false_and]
    · rw [decide_eq_false hij, Bool.and_false, Bool.and_false]

/-- `mask & (1 << i)` is `1 << i` when the bit is set. -/
theorem and_twoPow_of_bit (h : mask.getLsbD i = true) :
    mask &&& BitVec.twoPow w i = BitVec.twoPow w i := by
  refine eq_of_bits fun j _ => ?_
  rw [BitVec.getLsbD_and, BitVec.getLsbD_twoPow, Bool.and_eq_true, Bool.and_eq_true,
    decide_eq_true_eq, decide_eq_true_eq]
  constructor
  · exact And.right
  · rintro ⟨hi, rfl⟩
    exact ⟨h, hi, rfl⟩

/-- A mask is a submask of itself. -/
theorem and_not_self : mask &&& ~~~mask = 0 := by
  refine eq_zero_iff.2 fun i => ?_
  rw [BitVec.getLsbD_and, BitVec.getLsbD_not]
  cases mask.getLsbD i <;> simp

/-- Clearing the bits that two masks share leaves none of them. -/
theorem and_not_and_self : mask &&& ~~~(mask &&& mask') &&& mask' = 0 := by
  refine eq_zero_iff.2 fun i => ?_
  simp only [BitVec.getLsbD_and, BitVec.getLsbD_not]
  cases mask.getLsbD i <;> cases mask'.getLsbD i <;> simp

/-- A submask is not the larger number. -/
theorem le_of_and_not (h : removed &&& ~~~mask = 0) : removed ≤ mask := by
  have heq : removed = mask &&& removed := by
    refine eq_of_bits fun i hi => ?_
    have hbit := eq_zero_iff.1 h i
    simp only [BitVec.getLsbD_and, BitVec.getLsbD_not, hi, decide_true, Bool.true_and] at hbit ⊢
    revert hbit
    cases mask.getLsbD i <;> cases removed.getLsbD i <;> decide
  rw [heq, BitVec.le_def, BitVec.toNat_and]
  exact Nat.and_le_left

/-- A submask of a mask is one of a larger mask. -/
theorem and_not_or (h : mask &&& ~~~mask' = 0) : mask &&& ~~~(mask' ||| added) = 0 := by
  rw [BitVec.not_or, ← BitVec.and_assoc, h]
  exact BitVec.zero_and

/-- Subtracting a submask clears its bits. -/
theorem sub_eq_and_not (h : removed &&& ~~~mask = 0) : mask - removed = mask &&& ~~~removed := by
  have hsplit : mask = removed + (mask &&& ~~~removed) := by
    rw [BitVec.add_eq_or_of_and_eq_zero]
    · refine eq_of_bits fun i hi => ?_
      have hbit := eq_zero_iff.1 h i
      simp only [BitVec.getLsbD_and, BitVec.getLsbD_not, BitVec.getLsbD_or, hi, decide_true,
        Bool.true_and] at hbit ⊢
      revert hbit
      cases mask.getLsbD i <;> cases removed.getLsbD i <;> decide
    · refine eq_zero_iff.2 fun i => ?_
      simp only [BitVec.getLsbD_and, BitVec.getLsbD_not]
      cases removed.getLsbD i <;> simp
  rw [BitVec.sub_eq_iff_eq_add, BitVec.add_comm]
  exact hsplit

/-- `mask ^ (mask' & mask)` is what `mask` has and `mask'` has not. -/
theorem xor_and_eq : mask ^^^ (mask' &&& mask) = mask &&& ~~~mask' := by
  refine eq_of_bits fun i hi => ?_
  simp only [BitVec.getLsbD_xor, BitVec.getLsbD_and, BitVec.getLsbD_not, hi, decide_true,
    Bool.true_and]
  cases mask.getLsbD i <;> cases mask'.getLsbD i <;> decide

/-! ## Logs of changes -/

/-- One change of a mask: bits that are set, or bits that are cleared. -/
structure Change (w : Nat) where
  bits : BitVec w
  added : Bool

/-- Follow one change, unless it sets a bit that is set or clears one that is clear. -/
def Change.follow (change : Change w) (mask : BitVec w) : Option (BitVec w) :=
  if change.added then
    if mask &&& change.bits = 0 then some (mask ||| change.bits) else none
  else
    if change.bits &&& ~~~mask = 0 then some (mask &&& ~~~change.bits) else none

/-- Follow a log from a mask. -/
def follow (mask : BitVec w) : List (Change w) → Option (BitVec w)
  | [] => some mask
  | change :: log => (change.follow mask).bind (follow · log)

/-- A longer log is followed piece by piece. -/
theorem follow_append {log log' : List (Change w)} (h : follow mask log = some mask') :
    follow mask (log ++ log') = follow mask' log' := by
  induction log generalizing mask with
  | nil =>
    cases h
    rfl
  | cons change log ih =>
    obtain ⟨next, hchange, h⟩ := Option.bind_eq_some_iff.1 h
    rw [List.cons_append, follow, hchange, Option.bind_some, ih h]

/-- Growing from one mask to a larger one is a clean change by their difference. -/
theorem follow_added (h : mask &&& ~~~mask' = 0) :
    follow mask [⟨mask' ^^^ (mask &&& mask'), true⟩] = some mask' := by
  have hclean : mask &&& (mask' ^^^ (mask &&& mask')) = 0 := by
    rw [xor_and_eq]
    refine eq_zero_iff.2 fun i => ?_
    simp only [BitVec.getLsbD_and, BitVec.getLsbD_not]
    cases mask.getLsbD i <;> simp
  have hresult : mask ||| (mask' ^^^ (mask &&& mask')) = mask' := by
    rw [xor_and_eq]
    refine eq_of_bits fun i hi => ?_
    have hbit := eq_zero_iff.1 h i
    simp only [BitVec.getLsbD_and, BitVec.getLsbD_not, BitVec.getLsbD_or, hi, decide_true,
      Bool.true_and] at hbit ⊢
    revert hbit
    cases mask.getLsbD i <;> cases mask'.getLsbD i <;> decide
  simp only [follow, Change.follow, if_true, if_pos hclean, hresult, Option.bind_some]

/-- Clearing the bits of a submask is a clean change. -/
theorem follow_removed (h : removed &&& ~~~mask = 0) :
    follow mask [⟨removed, false⟩] = some (mask - removed) := by
  rw [sub_eq_and_not h]
  simp only [follow, Change.follow, Bool.false_eq_true, if_false, if_pos h, Option.bind_some]

end BitMask
