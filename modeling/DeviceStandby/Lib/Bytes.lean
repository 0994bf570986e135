import Mathlib.Algebra.Order.Group.Nat
import Mathlib.Data.List.TakeWhile
import Mathlib.Data.Nat.Notation

/-!
# Bytes

Numbers as little-endian bytes of a fixed width, and texts that are padded with zeros to a fixed
width, as a program copies its structures into a file. Each form is read back.
-/

/-- A string of bytes. -/
abbrev Bytes := List UInt8

namespace Bytes

/-- The lowest bytes of a number, the lowest one first. -/
def encode : Nat → Nat → Bytes
  | 0, _ => []
  | width + 1, n => UInt8.ofNat n :: encode width (n / 256)

/-- The number that little-endian bytes stand for. -/
def decode : Bytes → Nat
  | [] => 0
  | b :: bytes => b.toNat + 256 * decode bytes

/-- A text up to its first zero. -/
def text (bytes : Bytes) : Bytes :=
  bytes.takeWhile (· ≠ 0)

/-- A text that is padded with zeros, of which there is at least one. -/
def pad (width : Nat) (bytes : Bytes) : Option Bytes :=
  if bytes.text.length < width then
    some (bytes.text ++ List.replicate (width - bytes.text.length) 0)
  else none

section
variable {width n : Nat} {bytes padded : Bytes}

/-- A number takes its width. -/
@[simp]
theorem length_encode : (encode width n).length = width := by
  induction width generalizing n with
  | zero => rfl
  | succ width ih => rw [encode, List.length_cons, ih]

/-- A number that fits is read back. -/
theorem decode_encode (h : n < 256 ^ width) : decode (encode width n) = n := by
  induction width generalizing n with
  | zero =>
    rw [pow_zero, Nat.lt_one_iff] at h
    rw [h]
    rfl
  | succ width ih =>
    have hrest : n / 256 < 256 ^ width := Nat.div_lt_of_lt_mul (by rwa [← Nat.pow_succ'])
    rw [encode, decode, ih hrest, UInt8.toNat_ofNat']
    omega

/-- A number of some width fits it. -/
theorem decode_lt (bytes : Bytes) : decode bytes < 256 ^ bytes.length := by
  induction bytes with
  | nil => exact Nat.one_pos
  | cons b bytes ih =>
    have hb : b.toNat < 256 := b.toNat_lt
    rw [decode, List.length_cons, Nat.pow_succ]
    omega

/-- Bytes without a zero are a text. -/
theorem text_of_notMem (h : 0 ∉ bytes) : bytes.text = bytes :=
  List.takeWhile_eq_self_iff.2 fun b hb => by
    have hne : b ≠ 0 := fun h0 => h (h0 ▸ hb)
    simpa using hne

/-- A text that fits is padded with zeros. -/
theorem pad_of_notMem (h : 0 ∉ bytes) (hwidth : bytes.length < width) :
    bytes.pad width = some (bytes ++ List.replicate (width - bytes.length) 0) := by
  rw [pad, text_of_notMem h, if_pos hwidth]

/-- A text is read back from its padded form. -/
theorem text_append_replicate (h : 0 ∉ bytes) (hn : 0 < n) :
    text (bytes ++ List.replicate n 0) = bytes := by
  obtain ⟨m, rfl⟩ := Nat.exists_eq_succ_of_ne_zero hn.ne'
  rw [text, List.takeWhile_append_of_pos fun b hb => by
    have hne : b ≠ 0 := fun h0 => h (h0 ▸ hb)
    simpa using hne]
  simp [List.replicate_succ]

end

end Bytes
