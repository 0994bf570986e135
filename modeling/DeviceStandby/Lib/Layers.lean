import DeviceStandby.Lib.AssocMap

/-!
# Layers of bindings

A configuration is read from layers, each of which binds some keys of a map. A parser either assigns
a binding, so that the last layer counts, or emplaces it, so that the first one does. `Rule` is the
choice, `Rule.merge` is what it makes of one layer, and `Rule.foldl_merge_eq_last_iff` says when a
map that is emplaced cannot be told from one that is assigned.
-/

namespace AssocMap

universe u v w

/-- How a binding is stored where there may be one. -/
inductive Rule where
  | assign
  | emplace
  deriving DecidableEq

namespace Rule
variable {κ : Type u} {ν : Type v} {α : Type w}

/-- `map[key] = value`, or `map.emplace(key, value)`. -/
def store [DecidableEq κ] : Rule → κ → ν → Map κ ν → Map κ ν
  | assign, key, value, m => m.insert key value
  | emplace, key, value, m => m.emplace key value

/-- What is bound when a layer that may bind the key comes over what was bound. -/
def merge : Rule → Option ν → Option ν → Option ν
  | assign, new, old => new.or old
  | emplace, new, old => old.or new

section
variable {rule : Rule} {new newer old : Option ν} {layers : List α} {binds : α → Option ν}

/-- A layer without a binding changes nothing. -/
@[simp]
theorem merge_none : rule.merge none old = old := by
  cases rule
  · rfl
  · exact Option.or_none

/-- Two layers that are assigned are one. -/
theorem merge_assign_merge :
    assign.merge newer (assign.merge new old) = assign.merge (newer.or new) old :=
  Option.or_assoc.symm

variable [DecidableEq κ] {m : Map κ ν} {key key' : κ} {value : ν}

theorem lookup_store : (rule.store key value m).lookup key' =
    rule.merge (if key' = key then some value else none) (m.lookup key') := by
  by_cases hkey : key' = key
  · subst hkey
    rw [if_pos rfl]
    cases rule
    · exact AList.lookup_insert m
    · rw [store, Map.lookup_emplace, if_pos rfl]
      cases hlookup : m.lookup key' <;> rfl
  · rw [if_neg hkey, merge_none]
    cases rule
    · exact AList.lookup_insert_ne hkey
    · rw [store, Map.lookup_emplace, if_neg hkey]

omit [DecidableEq κ]

/-- What the layers bind together: what the last one binds, or the first one. -/
theorem foldl_merge (old : Option ν) :
    layers.foldl (fun old layer => rule.merge (binds layer) old) old =
      match rule with
      | assign => (layers.reverse.findSome? binds).or old
      | emplace => old.or (layers.findSome? binds) := by
  induction layers generalizing old with
  | nil => cases rule <;> simp
  | cons layer layers ih =>
    rw [List.foldl_cons, ih]
    cases rule
    · have hlayer : [layer].findSome? binds = binds layer := by
        cases hbinds : binds layer <;> simp [hbinds]
      simp only [merge, List.reverse_cons, List.findSome?_append, Option.or_assoc, hlayer]
    · cases hold : old <;> cases hbinds : binds layer <;> simp [merge, hbinds]

/-- The last layer counts, unless the map is emplaced and the first one binds something else. -/
theorem foldl_merge_eq_last_iff :
    layers.foldl (fun old layer => rule.merge (binds layer) old) none =
        layers.reverse.findSome? binds ↔
      (rule = emplace → layers.findSome? binds = layers.reverse.findSome? binds) := by
  rw [foldl_merge]
  cases rule <;> dsimp only
  · exact iff_of_true Option.or_none fun h => by cases h
  · rw [Option.none_or]
    exact ⟨fun h _ => h, fun h => h rfl⟩

end

end Rule

end AssocMap
