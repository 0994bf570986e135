import Mathlib.Order.Lattice
import Mathlib.Tactic.SplitIfs

/-!
# Ordered sets

A `std::set` whose elements are compared by a key, as the list of its elements in ascending order.
Inserting keeps the element that is already there.
-/

namespace OrderedSet

universe u v

variable {α : Type u} {κ : Type v} [LinearOrder κ] {key : α → κ} {a b : α} {l set : List α}

/-- `insert` of one element. -/
def insert (key : α → κ) (a : α) : List α → List α
  | [] => [a]
  | b :: set =>
    if key a < key b then a :: b :: set
    else if key b < key a then b :: insert key a set
    else b :: set

/-- `insert` of a range. -/
def insertRange (key : α → κ) (set l : List α) : List α :=
  l.foldl (fun set a => insert key a set) set

/-- The list is in strictly ascending order of its keys. -/
def Sorted (key : α → κ) (set : List α) : Prop :=
  set.Pairwise fun a b => key a < key b

/-- An inserted element is new or was there. -/
theorem mem_of_mem_insert (h : b ∈ insert key a set) : b = a ∨ b ∈ set := by
  induction set with
  | nil => exact .inl (List.mem_singleton.1 h)
  | cons c set ih =>
    rw [insert] at h
    split_ifs at h
    · exact List.mem_cons.1 h
    · rcases List.mem_cons.1 h with rfl | h
      · exact .inr List.mem_cons_self
      · exact (ih h).imp id (List.mem_cons_of_mem c)
    · exact .inr h

/-- The keys of a set after an insertion. -/
theorem mem_keys_insert {k : κ} :
    k ∈ (insert key a set).map key ↔ k = key a ∨ k ∈ set.map key := by
  induction set with
  | nil => exact List.mem_cons
  | cons c set ih =>
    rw [insert]
    split_ifs with hlt hgt
    · exact List.mem_cons
    · rw [List.map_cons, List.mem_cons, ih, List.map_cons, List.mem_cons]
      exact or_left_comm
    · have heq : key a = key c := le_antisymm (not_lt.1 hgt) (not_lt.1 hlt)
      rw [heq, List.map_cons, List.mem_cons]
      exact ⟨.inr, fun h => h.elim .inl id⟩

/-- Inserting keeps the order. -/
theorem Sorted.insert (h : Sorted key set) : Sorted key (OrderedSet.insert key a set) := by
  induction set with
  | nil => exact List.pairwise_singleton _ a
  | cons c set ih =>
    obtain ⟨hc, hset⟩ := List.pairwise_cons.1 h
    rw [OrderedSet.insert]
    split_ifs with hlt hgt
    · refine List.pairwise_cons.2 ⟨fun b hb => ?_, h⟩
      rcases List.mem_cons.1 hb with rfl | hb
      · exact hlt
      · exact lt_trans hlt (hc b hb)
    · refine List.pairwise_cons.2 ⟨fun b hb => ?_, ih hset⟩
      rcases mem_of_mem_insert hb with rfl | hb
      · exact hgt
      · exact hc b hb
    · exact h

/-- Inserting a range keeps the order. -/
theorem Sorted.insertRange (h : Sorted key set) : Sorted key (insertRange key set l) := by
  induction l generalizing set with
  | nil => exact h
  | cons a l ih => exact ih h.insert

/-- The keys of a set after the insertion of a range. -/
theorem mem_keys_insertRange {k : κ} :
    k ∈ (insertRange key set l).map key ↔ k ∈ set.map key ∨ k ∈ l.map key := by
  induction l generalizing set with
  | nil => exact (or_iff_left List.not_mem_nil).symm
  | cons a l ih =>
    rw [insertRange, List.foldl_cons, ← insertRange, ih, mem_keys_insert, List.map_cons,
      List.mem_cons]
    constructor
    · rintro ((rfl | h) | h)
      · exact .inr (.inl rfl)
      · exact .inl h
      · exact .inr (.inr h)
    · rintro (h | rfl | h)
      · exact .inl (.inr h)
      · exact .inl (.inl rfl)
      · exact .inr h

/-- The keys of a set after the insertion of several ranges. -/
theorem mem_keys_foldl_insertRange {β : Type v} (key : α → κ) (listed : β → List α)
    (sources : List β) (set : List α) {k : κ} :
    k ∈ (sources.foldl (fun set source => insertRange key set (listed source)) set).map key ↔
      k ∈ set.map key ∨ ∃ source ∈ sources, k ∈ (listed source).map key := by
  induction sources generalizing set with
  | nil => simp
  | cons source sources ih =>
    rw [List.foldl_cons, ih, mem_keys_insertRange, or_assoc]
    simp only [List.mem_cons, exists_eq_or_imp]

/-- Inserting the ranges of several sources keeps the order. -/
theorem Sorted.foldl_insertRange {β : Type v} (listed : β → List α) (sources : List β)
    (h : Sorted key set) :
    Sorted key (sources.foldl (fun set source => OrderedSet.insertRange key set (listed source))
      set) := by
  induction sources generalizing set with
  | nil => exact h
  | cons source sources ih => exact ih h.insertRange

/-- No key occurs twice. -/
theorem Sorted.nodup_keys (h : Sorted key set) : (set.map key).Nodup :=
  List.pairwise_map.2 (h.imp fun hlt => ne_of_lt hlt)

end OrderedSet
