import DeviceStandby.Lib.AssocMap
import Mathlib.Algebra.Group.Int.Defs
import Mathlib.Algebra.Group.Nat.Defs
import Mathlib.Data.Rat.Init
import Mathlib.Tactic.TypeStar

/-!
# JSON values

The values of a JSON library in the style of `nlohmann::json`, with its accessors: a member of an
object, the type tests and the conversions to the integer types of the host, which keep the low
bits of a number as a cast does. Printing and parsing are taken to be faithful, so that a file holds
a value.
-/

/-- A JSON value. -/
inductive Json where
  | null
  | boolean (value : Bool)
  | integer (value : Int)
  | real (value : Rat)
  | string (value : String)
  | array (elements : List Json)
  | object (members : List (String × Json))

namespace Json

/-- `value[key]`, for a key that may be missing. -/
def member? (key : String) : Json → Option Json
  | object members => members.lookup key
  | _ => none

/-- `is_number_integer`. -/
def asInteger? : Json → Option Int
  | integer value => some value
  | _ => none

/-- `is_string`. -/
def asString? : Json → Option String
  | string value => some value
  | _ => none

/-- `is_array`. -/
def asArray? : Json → Option (List Json)
  | array elements => some elements
  | _ => none

/-- `is_object`. -/
def asObject? : Json → Option (List (String × Json))
  | object members => some members
  | _ => none

/-- `is_boolean`. -/
def asBoolean? : Json → Option Bool
  | boolean value => some value
  | _ => none

/-- `items`: the members of an object, of which the first hides others of its key. -/
def items : Json → AssocMap.Map String Json
  | object members => (members.map fun member => ⟨member.1, member.2⟩).toAList
  | _ => ∅

/-- The integer under a key. -/
def integer? (key : String) (value : Json) : Option Int :=
  (value.member? key).bind asInteger?

/-- The string under a key. -/
def string? (key : String) (value : Json) : Option String :=
  (value.member? key).bind asString?

/-- The array under a key. -/
def array? (key : String) (value : Json) : Option (List Json) :=
  (value.member? key).bind asArray?

/-- `empty`. -/
def isEmpty : Json → Bool
  | null => true
  | array elements => elements.isEmpty
  | object members => members.isEmpty
  | _ => false

/-- `get<int32_t>` of an integer. -/
def toInt32 (value : Int) : Int :=
  value.bmod (2 ^ 32)

/-- `get<int64_t>` of an integer. -/
def toInt64 (value : Int) : Int :=
  value.bmod (2 ^ 64)

/-- `get<uint32_t>` of an integer. -/
def toUInt32 (value : Int) : Nat :=
  (value % 2 ^ 32).toNat

/-- `get<int32_t>` of a value, which reads numbers and booleans. A real loses its fraction; what one
out of range becomes is not defined, and stands here as if it were an integer. -/
def getInt32? : Json → Option Int
  | integer value => some (toInt32 value)
  | real value => some (toInt32 (value.num.tdiv value.den))
  | boolean value => some value.toInt
  | _ => none

/-- The members are what can be looked up. -/
theorem lookup_items (value : Json) (key : String) :
    value.items.lookup key = value.member? key := by
  cases value with
  | object members =>
    rw [items, AList.lookup_to_alist, member?]
    induction members with
    | nil => rfl
    | cons member members ih =>
      by_cases hkey : key = member.1
      · subst hkey
        rw [List.map_cons, List.dlookup_cons_eq, List.lookup_cons, beq_self_eq_true]
      · rw [List.map_cons, List.dlookup_cons_ne _ _ (fun h => hkey h), ih, List.lookup_cons,
          beq_eq_false_iff_ne.2 hkey]
  | _ => rfl

section
variable {n : Int}

/-- A number that fits keeps its value. -/
theorem toInt32_of_fits (hlo : -2 ^ 31 ≤ n) (hhi : n < 2 ^ 31) : toInt32 n = n :=
  Int.bmod_eq_of_le (by omega) (by omega)

/-- A positive number keeps its value only when it fits. -/
theorem toInt32_eq_iff (hpos : 0 < n) : toInt32 n = n ↔ n < 2 ^ 31 := by
  constructor
  · intro h
    have hlt : toInt32 n < 2 ^ 31 := Int.bmod_lt (by decide)
    rwa [h] at hlt
  · exact fun h => toInt32_of_fits (by omega) h

theorem toInt64_of_fits (hlo : -2 ^ 63 ≤ n) (hhi : n < 2 ^ 63) : toInt64 n = n :=
  Int.bmod_eq_of_le (by omega) (by omega)

theorem toUInt32_natCast {m : Nat} (h : m < 2 ^ 32) : toUInt32 m = m := by
  rw [toUInt32]
  omega

end

end Json
