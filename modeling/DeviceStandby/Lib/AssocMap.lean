import Mathlib.Data.List.AList

/-!
# Finite maps by their entries

An unordered map of a program is an association list with distinct keys, `AList`, whose order
stands for the order in which the map happens to be traversed. Beside what `AList` has, programs
insert a value unless the key is bound (`emplace`), change values in place (`mapVals`, `modify`)
and erase what a test selects (`filter`). Each operation has one lemma that says what is found
under a key afterwards; proofs about programs use these and never look at the entries.
-/

namespace AssocMap

universe u v w

/-- A finite map. -/
abbrev Map (κ : Type u) (ν : Type v) := AList fun _ : κ => ν

namespace Map
variable {κ : Type u} {ν : Type v}

/-- The values, in the order of the entries. -/
def values (m : Map κ ν) : List ν :=
  m.entries.map Sigma.snd

/-- Change every value in place. -/
def mapVals (f : κ → ν → ν) (m : Map κ ν) : Map κ ν where
  entries := m.entries.map (Sigma.map id f)
  nodupKeys := by
    rw [List.NodupKeys, List.keys, List.map_map]
    exact m.nodupKeys

/-- Keep the entries that a test selects. -/
def filter (test : κ → ν → Bool) (m : Map κ ν) : Map κ ν where
  entries := m.entries.filter fun entry => test entry.1 entry.2
  nodupKeys := m.nodupKeys.sublist List.filter_sublist

/-- A change of the values keeps the keys and their order. -/
theorem keys_mapVals (f : κ → ν → ν) (m : Map κ ν) : (m.mapVals f).keys = m.keys := by
  simp only [mapVals, AList.keys, List.keys, List.map_map]
  rfl

/-- A change that changes no value changes nothing. -/
theorem mapVals_id (m : Map κ ν) : m.mapVals (fun _ value => value) = m :=
  AList.ext (List.map_id _)

variable [DecidableEq κ]

/-- Bind a key that is not bound yet. -/
def emplace (key : κ) (value : ν) (m : Map κ ν) : Map κ ν :=
  if key ∈ m then m else m.insert key value

/-- Change the value of one key. -/
def modify (key : κ) (f : ν → ν) (m : Map κ ν) : Map κ ν :=
  m.mapVals fun k value => if k = key then f value else value

section
variable {m : Map κ ν} {key key' : κ} {value : ν}

/-- A value is found under a key exactly when the entry is there. -/
theorem lookup_eq_some_iff : m.lookup key = some value ↔ ⟨key, value⟩ ∈ m.entries :=
  AList.mem_lookup_iff

/-- The values are what can be found. -/
theorem mem_values : value ∈ m.values ↔ ∃ key, m.lookup key = some value := by
  simp only [values, List.mem_map, lookup_eq_some_iff]
  constructor
  · rintro ⟨⟨key, value⟩, hmem, rfl⟩
    exact ⟨key, hmem⟩
  · rintro ⟨key, hmem⟩
    exact ⟨_, hmem, rfl⟩

/-- Changing values in place changes what is found. -/
@[simp]
theorem lookup_mapVals (f : κ → ν → ν) :
    (m.mapVals f).lookup key = (m.lookup key).map (f key) :=
  List.dlookup_map₂ key

/-- Changing one value changes what is found under its key. -/
theorem lookup_modify (f : ν → ν) :
    (m.modify key f).lookup key' =
      if key' = key then (m.lookup key').map f else m.lookup key' := by
  rw [modify, lookup_mapVals]
  split_ifs
  · rfl
  · exact Option.map_id'

/-- There is nothing to change under an unbound key. -/
theorem modify_of_lookup_eq_none (h : m.lookup key = none) (f : ν → ν) : m.modify key f = m := by
  refine AList.ext ((List.map_congr_left fun entry hentry => ?_).trans (List.map_id _))
  have hne : entry.1 ≠ key := by
    rintro rfl
    rw [lookup_eq_some_iff.2 hentry] at h
    cases h
  rw [Sigma.map, if_neg hne]
  rfl

/-- What a test does not select is gone. -/
@[simp]
theorem lookup_filter (test : κ → ν → Bool) :
    (m.filter test).lookup key = (m.lookup key).filter (test key) := by
  ext value
  rw [lookup_eq_some_iff, Option.filter_eq_some_iff, lookup_eq_some_iff]
  exact List.mem_filter

/-- Binding an unbound key changes nothing else. -/
theorem lookup_emplace :
    (m.emplace key value).lookup key' =
      if key' = key then some ((m.lookup key).getD value) else m.lookup key' := by
  unfold emplace
  by_cases hk : key' = key
  · subst hk
    rw [if_pos rfl]
    split_ifs with hmem
    · obtain ⟨v, hv⟩ := Option.isSome_iff_exists.1 (AList.lookup_isSome.2 hmem)
      rw [hv]
      rfl
    · rw [AList.lookup_insert, AList.lookup_eq_none.2 hmem]
      rfl
  · rw [if_neg hk]
    split_ifs
    · rfl
    · exact AList.lookup_insert_ne hk

/-- A key that is bound to a value, or erased from a map that does not differ elsewhere. -/
theorem lookup_ite_erase_insert {p : Prop} [Decidable p] {erased : Map κ ν}
    (h : ∀ k, k ≠ key → erased.lookup k = m.lookup k) :
    (if p then erased.erase key else m.insert key value).lookup key' =
      if key' = key then if p then none else some value else m.lookup key' := by
  by_cases hk : key' = key
  · subst hk
    rw [if_pos rfl]
    split_ifs
    · exact AList.lookup_erase _ _
    · exact AList.lookup_insert _
  · rw [if_neg hk]
    split_ifs
    · rw [AList.lookup_erase_ne hk, h key' hk]
    · exact AList.lookup_insert_ne hk

/-- What a loop of `emplace` binds: the first value of a key, unless the key was bound. -/
theorem lookup_foldl_emplace {α : Type w} (key : α → κ) (value : α → ν) (l : List α) :
    (l.foldl (fun m a => m.emplace (key a) (value a)) m).lookup key' =
      (m.lookup key').or ((l.find? fun a => key a = key').map value) := by
  induction l generalizing m with
  | nil => exact (Option.or_none).symm
  | cons a l ih =>
    rw [List.foldl_cons, ih, lookup_emplace, List.find?_cons]
    by_cases hk : key' = key a
    · subst hk
      cases m.lookup (key a) <;> simp
    · have hne : ¬ key a = key' := fun h => hk h.symm
      simp [hk, hne]

/-- A loop that changes the values of some keys changes each of them once, when a second change adds
nothing. -/
theorem lookup_foldl_modify {α : Type w} (key : α → κ) {f : ν → ν} (hf : ∀ v, f (f v) = f v)
    (l : List α) :
    (l.foldl (fun m a => m.modify (key a) f) m).lookup key' =
      (m.lookup key').map fun v => if key' ∈ l.map key then f v else v := by
  induction l generalizing m with
  | nil => simp
  | cons a l ih =>
    rw [List.foldl_cons, ih, lookup_modify]
    cases m.lookup key' with
    | none => simp
    | some v =>
      simp only [List.map_cons, List.mem_cons]
      by_cases hk : key' = key a
      · rw [if_pos hk]
        simp [hk, hf]
      · rw [if_neg hk]
        simp [hk]

/-! ## What holds of every entry -/

/-- A property of every entry. -/
def All (P : κ → ν → Prop) (m : Map κ ν) : Prop :=
  ∀ key value, m.lookup key = some value → P key value

variable {P : κ → ν → Prop}

/-- Anything holds of the entries of the empty map. -/
theorem All.empty : All P (∅ : Map κ ν) := fun _ _ h => nomatch h

/-- What the change preserves holds of the changed values. -/
theorem All.mapVals {f : κ → ν → ν} (h : m.All P) (hf : ∀ key value, P key value →
    P key (f key value)) : (m.mapVals f).All P := by
  intro key value hmem
  rw [lookup_mapVals] at hmem
  obtain ⟨v, hv, rfl⟩ := Option.map_eq_some_iff.1 hmem
  exact hf key v (h key v hv)

/-- What the change preserves at its key holds of the changed map. -/
theorem All.modify {f : ν → ν} (h : m.All P) (hf : ∀ value, P key value → P key (f value)) :
    (m.modify key f).All P :=
  h.mapVals fun k value hk => by
    split_ifs with heq
    · subst heq
      exact hf value hk
    · exact hk

/-- What holds of a map holds of what is left of it. -/
theorem All.filter {test : κ → ν → Bool} (h : m.All P) : (m.filter test).All P := by
  intro key value hmem
  rw [lookup_filter] at hmem
  exact h key value (Option.filter_eq_some_iff.1 hmem).1

/-- A value that is emplaced has to meet what the others meet. -/
theorem All.emplace (h : m.All P) (hv : P key value) : (m.emplace key value).All P := by
  intro k v hmem
  rw [lookup_emplace] at hmem
  split_ifs at hmem with heq
  · subst heq
    cases hl : m.lookup k with
    | none =>
      rw [hl] at hmem
      cases hmem
      exact hv
    | some w =>
      rw [hl] at hmem
      cases hmem
      exact h k w hl
  · exact h k v hmem

/-- What holds of a map holds of it without a key. -/
theorem All.erase (h : m.All P) (key : κ) : All P (m.erase key) := by
  intro k v hmem
  by_cases hk : k = key
  · subst hk
    rw [AList.lookup_erase] at hmem
    cases hmem
  · rw [AList.lookup_erase_ne hk] at hmem
    exact h k v hmem

/-! ## Two maps that differ in their values -/

/-- Two maps bind the same keys, in the same order, to related values. -/
structure Related (R : κ → ν → ν → Prop) (m m' : Map κ ν) : Prop where
  keys : m.keys = m'.keys
  values : ∀ key value value', m.lookup key = some value → m'.lookup key = some value' →
    R key value value'

variable {R : κ → ν → ν → Prop} {m' : Map κ ν} {value' : ν}

/-- Related maps have the same keys. -/
theorem Related.mem_iff (h : Related R m m') : key ∈ m ↔ key ∈ m' := by
  rw [AList.mem_keys, h.keys, ← AList.mem_keys]

/-- What is found in one of the maps has its counterpart in the other. -/
theorem Related.cases (h : Related R m m') (key : κ) :
    (m.lookup key = none ∧ m'.lookup key = none) ∨
      ∃ value value', m.lookup key = some value ∧ m'.lookup key = some value' ∧
        R key value value' := by
  cases hvalue : m.lookup key with
  | none =>
    rw [AList.lookup_eq_none, h.mem_iff] at hvalue
    exact .inl ⟨rfl, AList.lookup_eq_none.2 hvalue⟩
  | some value =>
    have hmem : key ∈ m' := h.mem_iff.1 (AList.lookup_isSome.1 (by rw [hvalue]; rfl))
    obtain ⟨value', hvalue'⟩ := Option.isSome_iff_exists.1 (AList.lookup_isSome.2 hmem)
    exact .inr ⟨value, value', rfl, hvalue', h.values key value value' hvalue hvalue'⟩

/-- Under a reflexive relation a map is related to itself. -/
theorem Related.refl (hR : ∀ key value, R key value value) : Related R m m := by
  refine ⟨rfl, fun key value value' hv hv' => ?_⟩
  rw [hv] at hv'
  cases hv'
  exact hR key value

/-- Under a symmetric relation related maps are related in both orders. -/
theorem Related.symm (hR : ∀ key value value', R key value value' → R key value' value)
    (h : Related R m m') : Related R m' m :=
  ⟨h.keys.symm, fun key value value' hv hv' => hR _ _ _ (h.values key value' value hv' hv)⟩

/-- Changing the values of both maps keeps them related when it keeps related values so. -/
theorem Related.mapVals {f f' : κ → ν → ν} (h : Related R m m')
    (hf : ∀ key value value', R key value value' → R key (f key value) (f' key value')) :
    Related R (m.mapVals f) (m'.mapVals f') := by
  refine ⟨by rw [keys_mapVals, keys_mapVals, h.keys], fun key value value' hv hv' => ?_⟩
  rw [lookup_mapVals] at hv hv'
  obtain ⟨v, hfound, rfl⟩ := Option.map_eq_some_iff.1 hv
  obtain ⟨v', hfound', rfl⟩ := Option.map_eq_some_iff.1 hv'
  exact hf key v v' (h.values key v v' hfound hfound')

/-- Changes that preserve the relation at their key preserve it. -/
theorem Related.modify {f f' : ν → ν} (h : Related R m m') (key : κ)
    (hf : ∀ value value', R key value value' → R key (f value) (f' value')) :
    Related R (m.modify key f) (m'.modify key f') :=
  h.mapVals fun k value value' hk => by
    split_ifs with heq
    · subst heq
      exact hf value value' hk
    · exact hk

/-- Changing a value of one map only. -/
theorem Related.modify_left {f : ν → ν} (h : Related R m m') (key : κ)
    (hf : ∀ value value', R key value value' → R key (f value) value') :
    Related R (m.modify key f) m' := by
  rw [← mapVals_id m']
  refine h.mapVals fun k value value' hk => ?_
  split_ifs with heq
  · subst heq
    exact hf value value' hk
  · exact hk

/-- Related values may be inserted under a key. -/
theorem Related.insert (h : Related R m m') (hv : R key value value') :
    Related R (AList.insert key value m) (AList.insert key value' m') := by
  refine ⟨by rw [AList.keys_insert, AList.keys_insert, h.keys], fun k v v' hk hk' => ?_⟩
  by_cases heq : k = key
  · subst heq
    rw [AList.lookup_insert] at hk hk'
    cases hk
    cases hk'
    exact hv
  · rw [AList.lookup_insert_ne heq] at hk hk'
    exact h.values k v v' hk hk'

/-- Related values may be emplaced under a key. -/
theorem Related.emplace (h : Related R m m') (hv : R key value value') :
    Related R (m.emplace key value) (m'.emplace key value') := by
  unfold Map.emplace
  by_cases hmem : key ∈ m
  · rwa [if_pos hmem, if_pos (h.mem_iff.1 hmem)]
  · rw [if_neg hmem, if_neg fun hmem' => hmem (h.mem_iff.2 hmem')]
    exact h.insert hv

/-- A key may be erased from both maps. -/
theorem Related.erase (h : Related R m m') (key : κ) :
    Related R (AList.erase key m) (AList.erase key m') := by
  refine ⟨by rw [AList.keys_erase, AList.keys_erase, h.keys], fun k v v' hk hk' => ?_⟩
  by_cases heq : k = key
  · subst heq
    rw [AList.lookup_erase] at hk
    cases hk
  · rw [AList.lookup_erase_ne heq] at hk hk'
    exact h.values k v v' hk hk'

end

end Map

end AssocMap
