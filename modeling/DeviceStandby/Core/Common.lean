import DeviceStandby.Core.Message
import Std.Data.String.ToInt

/-!
# Constants and keys of the service and the strategies

The allow types with their bits, the unsigned form of a uid, and the key under which an app is
recorded: its uid and its name, joined by an underscore. No two apps share a key, since a number is
written without an underscore (`mapKey_inj`).
-/

namespace DeviceStandby

/-- The allow types, in the order of their bits. -/
inductive AllowType where
  | network | runningLock | timer | workScheduler | autoSync | push | freeze
  deriving DecidableEq, Repr

/-- The bit of an allow type. -/
def AllowType.index : AllowType → Nat
  | .network => 0
  | .runningLock => 1
  | .timer => 2
  | .workScheduler => 3
  | .autoSync => 4
  | .push => 5
  | .freeze => 6

/-- The number of an allow type. -/
def AllowType.mask (allowType : AllowType) : BitVec 32 :=
  1#32 <<< allowType.index

/-- `static_cast<uint32_t>`. -/
def toUInt32 (n : Int) : Int :=
  n % 2 ^ 32

/-- The values of an `int32_t`. -/
def IsInt32 (n : Int) : Prop :=
  -2 ^ 31 ≤ n ∧ n < 2 ^ 31

/-- The uid that a message carries is an `int32_t`. -/
def StandbyMessage.WellTyped : StandbyMessage → Prop
  | .allowListChanged uid .. | .bgTaskStatusChange _ _ uid .. | .processStateChanged uid .. =>
    IsInt32 uid
  | _ => True

/-- `std::to_string(uid) + "_" + name`. -/
def mapKey (uid : Int) (name : String) : String :=
  toString uid ++ "_" ++ name

section
variable {α : Type} {c : α} {uid uid' : Int} {name name' : String}

/-- Different uids have different unsigned forms. -/
theorem toUInt32_inj {n n' : Int} (h : IsInt32 n) (h' : IsInt32 n')
    (heq : toUInt32 n = toUInt32 n') : n = n' := by
  unfold IsInt32 toUInt32 at *
  omega

/-- The unsigned form of a negative uid is no uid. -/
theorem toUInt32_of_neg {n : Int} (h : IsInt32 n) (hneg : n < 0) : 2 ^ 31 ≤ toUInt32 n := by
  unfold IsInt32 toUInt32 at *
  omega

theorem toUInt32_of_nonneg {n : Int} (h : IsInt32 n) (hpos : 0 ≤ n) : toUInt32 n = n := by
  unfold IsInt32 toUInt32 at *
  omega

/-- Two lists are cut at the first occurrence of a separator. -/
theorem append_separator_inj {l l' r r' : List α} (hl : c ∉ l) (hl' : c ∉ l')
    (h : l ++ c :: r = l' ++ c :: r') : l = l' ∧ r = r' := by
  induction l generalizing l' with
  | nil =>
    cases l' with
    | nil => exact ⟨rfl, (List.cons.inj h).2⟩
    | cons b l' => exact absurd (List.cons.inj h).1 fun hc => hl' (hc ▸ List.mem_cons_self)
  | cons a l ih =>
    cases l' with
    | nil => exact absurd (List.cons.inj h).1.symm fun hc => hl (hc ▸ List.mem_cons_self)
    | cons b l' =>
      obtain ⟨hab, h⟩ := List.cons.inj h
      obtain ⟨hll, hrr⟩ := ih (fun hm => hl (List.mem_cons_of_mem a hm))
        (fun hm => hl' (List.mem_cons_of_mem b hm)) h
      exact ⟨by rw [hab, hll], hrr⟩

/-- A number is written without an underscore. -/
theorem underscore_notMem_toString (n : Int) : '_' ∉ (toString n).toList := by
  rw [Int.toString_eq_repr, Int.repr_eq_if]
  split <;> simp

/-- Different apps have different keys. -/
theorem mapKey_inj (h : mapKey uid name = mapKey uid' name') : uid = uid' ∧ name = name' := by
  have hlist := congrArg String.toList h
  simp only [mapKey, String.toList_append, List.append_assoc] at hlist
  obtain ⟨huid, hname⟩ := append_separator_inj (underscore_notMem_toString uid)
    (underscore_notMem_toString uid') hlist
  have huid := String.toList_injective huid
  rw [Int.toString_eq_repr, Int.toString_eq_repr, Int.repr_inj] at huid
  exact ⟨huid, String.toList_injective hname⟩

end

end DeviceStandby
