import DeviceStandby.Lib.Json

/-!
# Accesses that throw

`at` and `get` throw when a key is missing or a value is of another kind. A program that does not
catch looks before it reads: it asks whether a key is there, and then for the kind of its value. The
kind of a value is itself read with `at`, so that the checks are to be in this order (`guardedBy`).
Then none of them throws, and neither does a read of what they have found: `Returns` says so of a
program, and has a rule for each way in which a program looks and reads.
-/

namespace Json

/-- What an access throws. -/
inductive AccessError where
  | typeError
  | outOfRange
  deriving DecidableEq

/-- `value.at(key)`, and `value[key]` where it is to find the key. -/
def atKey (key : String) : Json → Except AccessError Json
  | object members =>
    match members.lookup key with
    | some found => .ok found
    | none => .error .outOfRange
  | _ => .error .typeError

/-- `get<std::string>`. -/
def getString : Json → Except AccessError String
  | string value => .ok value
  | _ => .error .typeError

/-- `get<int32_t>`, which is to be of an integer. -/
def getInt32 : Json → Except AccessError Int
  | integer value => .ok (toInt32 value)
  | _ => .error .typeError

/-- `get<uint32_t>`, which is to be of an integer. -/
def getUInt32 : Json → Except AccessError Nat
  | integer value => .ok (toUInt32 value)
  | _ => .error .typeError

/-- `is_number_unsigned`. A zero that is written with a sign counts as one without. -/
def isNumberUnsigned : Json → Bool
  | integer value => 0 ≤ value
  | _ => false

/-- `value[key].get<std::string>()`. -/
def stringAt (key : String) (value : Json) : Except AccessError String := do
  (← value.atKey key).getString

/-- `value[key].get<int32_t>()`. -/
def int32At (key : String) (value : Json) : Except AccessError Int := do
  (← value.atKey key).getInt32

/-- `value[key].get<uint32_t>()`. -/
def uint32At (key : String) (value : Json) : Except AccessError Nat := do
  (← value.atKey key).getUInt32

/-! ## Checks -/

/-- A check before a read: the key is there, or its value is of a kind. -/
inductive Check where
  | contains (key : String)
  | isString (key : String)
  | isNumberUnsigned (key : String)

/-- `value.contains(key)`, which is false of a value that is no object, or `value.at(key)` with a
test of its kind. -/
def Check.run (value : Json) : Check → Except AccessError Bool
  | .contains key => .ok (value.member? key).isSome
  | .isString key => do return (← value.atKey key).asString?.isSome
  | .isNumberUnsigned key => do return (← value.atKey key).isNumberUnsigned

/-- Some checks in their order, up to one that fails. -/
def passes (value : Json) : List Check → Except AccessError Bool
  | [] => .ok true
  | check :: checks => do if ← check.run value then passes value checks else return false

/-- What a check finds. -/
def Check.Holds (value : Json) : Check → Prop
  | .contains key => ∃ found, value.member? key = some found
  | .isString key => ∃ text, value.member? key = some (string text)
  | .isNumberUnsigned key => ∃ n, value.member? key = some (integer n) ∧ 0 ≤ n

/-- Each kind is asked of a key that is known to be there. -/
def guardedBy (known : List String) : List Check → Bool
  | [] => true
  | .contains key :: checks => guardedBy (key :: known) checks
  | .isString key :: checks => known.contains key && guardedBy known checks
  | .isNumberUnsigned key :: checks => known.contains key && guardedBy known checks

/-- A program that does not throw. -/
def Returns {α : Type} (program : Except AccessError α) : Prop :=
  ∃ result, program = .ok result

/-- A program that has read goes on with what it found. -/
theorem ok_bind {ε α β : Type} (a : α) (f : α → Except ε β) : (Except.ok a >>= f) = f a :=
  rfl

section
variable {value found : Json} {key text : String} {n : Int} {known : List String}
  {checks : List Check}

/-- A key that is there is found. -/
theorem atKey_of_member (h : value.member? key = some found) : value.atKey key = .ok found := by
  cases value with
  | object members =>
    rw [member?] at h
    rw [atKey, h]
  | _ => cases h

/-- A key that is not there throws. -/
theorem atKey_of_missing (h : value.member? key = none) :
    ∃ error, value.atKey key = .error error := by
  cases value with
  | object members =>
    rw [member?] at h
    exact ⟨.outOfRange, by rw [atKey, h]⟩
  | _ => exact ⟨.typeError, rfl⟩

/-- A text that is there is read. -/
theorem stringAt_of_member (h : value.member? key = some (string text)) :
    value.stringAt key = .ok text := by
  rw [stringAt, atKey_of_member h]
  rfl

/-- A number that is there is read into 32 bits. -/
theorem int32At_of_member (h : value.member? key = some (integer n)) :
    value.int32At key = .ok (toInt32 n) := by
  rw [int32At, atKey_of_member h]
  rfl

/-- A number that is there is read into 32 bits without a sign. -/
theorem uint32At_of_member (h : value.member? key = some (integer n)) :
    value.uint32At key = .ok (toUInt32 n) := by
  rw [uint32At, atKey_of_member h]
  rfl

/-- A check of a key that is there gives an answer, and a positive one is right. -/
theorem Check.run_spec (check : Check)
    (h : ∀ key, check = .isString key ∨ check = .isNumberUnsigned key →
      (value.member? key).isSome) :
    ∃ answer, check.run value = .ok answer ∧ (answer = true → check.Holds value) := by
  cases check with
  | contains key => exact ⟨_, rfl, Option.isSome_iff_exists.1⟩
  | isString key =>
    obtain ⟨found, hfound⟩ := Option.isSome_iff_exists.1 (h key (.inl rfl))
    refine ⟨found.asString?.isSome, by rw [run, atKey_of_member hfound]; rfl, fun hkind => ?_⟩
    cases found with
    | string text => exact ⟨text, hfound⟩
    | _ => cases hkind
  | isNumberUnsigned key =>
    obtain ⟨found, hfound⟩ := Option.isSome_iff_exists.1 (h key (.inr rfl))
    refine ⟨found.isNumberUnsigned, by rw [run, atKey_of_member hfound]; rfl, fun hkind => ?_⟩
    cases found with
    | integer n => exact ⟨n, hfound, of_decide_eq_true hkind⟩
    | _ => cases hkind

/-- Guarded checks do not throw, and when they pass each of them holds. -/
theorem passes_of_guarded (hknown : ∀ key ∈ known, (value.member? key).isSome)
    (h : guardedBy known checks) :
    ∃ answer, value.passes checks = .ok answer ∧
      (answer = true → ∀ check ∈ checks, check.Holds value) := by
  induction checks generalizing known with
  | nil => exact ⟨true, rfl, by simp⟩
  | cons check checks ih =>
    -- A kind is asked of a known key, and a key that was found is known to the checks that follow.
    have hhead : ∀ key, check = .isString key ∨ check = .isNumberUnsigned key →
        (value.member? key).isSome := by
      rintro key (rfl | rfl) <;> rw [guardedBy, Bool.and_eq_true] at h <;>
        exact hknown key (List.contains_iff_mem.1 h.1)
    obtain ⟨answer, hrun, hholds⟩ := check.run_spec hhead
    cases answer with
    | false => exact ⟨false, by rw [passes, hrun]; rfl, nofun⟩
    | true =>
      have hrest : ∃ answer, value.passes checks = .ok answer ∧
          (answer = true → ∀ check ∈ checks, check.Holds value) := by
        cases check with
        | contains key =>
          refine @ih (key :: known) (fun key' hkey' => ?_) h
          rcases List.mem_cons.1 hkey' with rfl | hkey'
          · exact Option.isSome_iff_exists.2 (hholds rfl)
          · exact hknown key' hkey'
        | isString key =>
          rw [guardedBy, Bool.and_eq_true] at h
          exact ih hknown h.2
        | isNumberUnsigned key =>
          rw [guardedBy, Bool.and_eq_true] at h
          exact ih hknown h.2
      obtain ⟨answer, hpasses, hall⟩ := hrest
      refine ⟨answer, by rw [passes, hrun, ok_bind, if_pos rfl, hpasses], fun hanswer => ?_⟩
      exact List.forall_mem_cons.2 ⟨hholds rfl, hall hanswer⟩

end

/-! ## Programs that return -/

section
variable {α β : Type} {value : Json} {key : String} {known : List String} {checks : List Check}

/-- A program that reads nothing returns. -/
theorem returns_ok (result : α) : Returns (.ok result) :=
  ⟨result, rfl⟩

/-- One program after another. -/
theorem Returns.bind {program : Except AccessError α} {rest : α → Except AccessError β}
    (h : Returns program) (hrest : ∀ result, Returns (rest result)) :
    Returns (program >>= rest) := by
  obtain ⟨result, rfl⟩ := h
  exact hrest result

/-- A string that was checked is read. -/
theorem returns_stringAt (h : (Check.isString key).Holds value) : Returns (value.stringAt key) := by
  obtain ⟨text, htext⟩ := h
  exact ⟨text, stringAt_of_member htext⟩

/-- A number that was checked is read. -/
theorem returns_uint32At (h : (Check.isNumberUnsigned key).Holds value) :
    Returns (value.uint32At key) := by
  obtain ⟨n, hn, -⟩ := h
  exact ⟨_, uint32At_of_member hn⟩

variable {program skip : Except AccessError α}

/-- A program that looks before it reads, where some keys are known to be there. -/
theorem returns_ite_passes_of_known
    (hknown : ∀ key ∈ known, (value.member? key).isSome) (hguarded : guardedBy known checks)
    (hprogram : (∀ check ∈ checks, check.Holds value) → Returns program) (hskip : Returns skip) :
    Returns (do if ← value.passes checks then program else skip) := by
  obtain ⟨answer, hpasses, hholds⟩ := passes_of_guarded hknown hguarded
  rw [hpasses, ok_bind]
  cases answer with
  | false => exact hskip
  | true => exact hprogram (hholds rfl)

/-- A program that looks before it reads. -/
theorem returns_ite_passes (hguarded : guardedBy [] checks)
    (hprogram : (∀ check ∈ checks, check.Holds value) → Returns program) (hskip : Returns skip) :
    Returns (do if ← value.passes checks then program else skip) :=
  returns_ite_passes_of_known (fun _ h => absurd h List.not_mem_nil) hguarded hprogram hskip

end

end Json
