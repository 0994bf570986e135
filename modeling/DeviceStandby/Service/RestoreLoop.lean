import DeviceStandby.Service.Backup
import Mathlib.Algebra.Group.Int.Defs
import Mathlib.Tactic.SplitIfs

/-!
# The loop of a restore on any file

The file that `OnRestore` reads may be any bytes. Here the loop runs turn by turn with the
arithmetic of the machine: an offset is an `off_t` of 64 bits, and the size of a module is computed
in `size_t`, of `sizeBits` bits. A turn may read outside of the buffer. `restoresSafely_iff` says
which files the loop reads within the buffer, going ahead by a head at each turn, to an end: those
whose heads keep all sums within their types.
-/

namespace DeviceStandby

open AssocMap

namespace Backup

/-- The value of an `off_t`. -/
def offT (n : Int) : Int := n.bmod (2 ^ 64)

/-- What a turn of the loop comes to. -/
inductive Turn where
  | done
  | outOfBounds
  | next (buff : Bytes) (offset : Int)

/-- A turn of the loop of `OnRestore`, on a buffer that is as long as the file. The head is read and
its name is ended with a zero; the payload is copied when its module is subscribed. -/
def restoreTurn (sizeBits : Nat) (onRestoreFuncMap : Finset Bytes) (buff : Bytes) (offset : Int) :
    Turn :=
  if offT (offset + SIZE_OF_CLONE_FILE_HEAD) < buff.length then
    if offset < 0 ∨ buff.length < offset + SIZE_OF_CLONE_FILE_HEAD then .outOfBounds
    else
      let buff := buff.set (offset.toNat + (SIZE_OF_MODULE_NAME - 1)) 0
      let head := CloneFileHead.ofBytes (buff.drop offset.toNat)
      let size := (SIZE_OF_CLONE_FILE_HEAD + head.fileSize) % 2 ^ sizeBits
      if buff.length < offT (offset + offT size) then .done
      else if head.moduleName.text ∈ onRestoreFuncMap ∧
          buff.length < offset.toNat + SIZE_OF_CLONE_FILE_HEAD + head.fileSize then .outOfBounds
      else .next buff (offT (offset + offT size))
  else .done

/-- The loop is entered: the file is not empty, its length is an `off_t`, and `read` is asked for
all of it, in a `size_t`. -/
structure Entered (sizeBits : Nat) (file : Bytes) : Prop where
  nonempty : file ≠ []
  length_lt : file.length < 2 ^ 63
  count_lt : file.length < 2 ^ sizeBits

/-- The buffers and offsets at which turns begin. -/
inductive Reaches (sizeBits : Nat) (onRestoreFuncMap : Finset Bytes) (file : Bytes) :
    Bytes → Int → Prop
  | start (h : Entered sizeBits file) : Reaches sizeBits onRestoreFuncMap file file 0
  | turn {buff buff' : Bytes} {offset offset' : Int}
      (h : Reaches sizeBits onRestoreFuncMap file buff offset)
      (hturn : restoreTurn sizeBits onRestoreFuncMap buff offset = .next buff' offset') :
      Reaches sizeBits onRestoreFuncMap file buff' offset'

/-- The loop reads within the buffer, goes ahead by a head at least, and ends. -/
structure RestoresSafely (sizeBits : Nat) (onRestoreFuncMap : Finset Bytes) (file : Bytes) :
    Prop where
  inBounds : ∀ buff offset, Reaches sizeBits onRestoreFuncMap file buff offset →
    restoreTurn sizeBits onRestoreFuncMap buff offset ≠ .outOfBounds
  advances : ∀ buff offset buff' offset', Reaches sizeBits onRestoreFuncMap file buff offset →
    restoreTurn sizeBits onRestoreFuncMap buff offset = .next buff' offset' →
      offset + SIZE_OF_CLONE_FILE_HEAD ≤ offset'
  terminates : Entered sizeBits file → ∃ buff offset,
    Reaches sizeBits onRestoreFuncMap file buff offset ∧
      restoreTurn sizeBits onRestoreFuncMap buff offset = .done

/-- The size that the head at an offset gives. -/
def fileSizeAt (file : Bytes) (offset : Nat) : Nat :=
  (CloneFileHead.ofBytes (file.drop offset)).fileSize

/-- The offsets of the heads, one after the other, by their sizes. -/
inductive HeadAt (sizeBits : Nat) (file : Bytes) : Nat → Prop
  | start (h : Entered sizeBits file) : HeadAt sizeBits file 0
  | next {offset : Nat} (h : HeadAt sizeBits file offset)
      (hhead : offset + SIZE_OF_CLONE_FILE_HEAD < file.length)
      (hpayload : offset + (SIZE_OF_CLONE_FILE_HEAD + fileSizeAt file offset) ≤ file.length) :
      HeadAt sizeBits file (offset + (SIZE_OF_CLONE_FILE_HEAD + fileSizeAt file offset))

/-- The sums that a turn takes stay within their types. -/
def SumsFit (sizeBits : Nat) (file : Bytes) (offset : Nat) : Prop :=
  offset + SIZE_OF_CLONE_FILE_HEAD < 2 ^ 63 ∧
    (offset + SIZE_OF_CLONE_FILE_HEAD < file.length →
      SIZE_OF_CLONE_FILE_HEAD + fileSizeAt file offset < 2 ^ sizeBits ∧
        offset + (SIZE_OF_CLONE_FILE_HEAD + fileSizeAt file offset) < 2 ^ 63)

/-- The buffer is that of the file, but for what lies before the offset. -/
structure Ahead (file buff : Bytes) (offset : Nat) : Prop where
  length : buff.length = file.length
  drop : buff.drop offset = file.drop offset

section
variable {sizeBits : Nat} {onRestoreFuncMap : Finset Bytes} {file buff : Bytes} {offset : Nat}
  {n : Int}

/-- A sum that fits an `off_t` is itself. -/
theorem offT_of_fits (hlo : -2 ^ 63 ≤ n) (hhi : n < 2 ^ 63) : offT n = n :=
  Int.bmod_eq_of_le (by omega) (by omega)

/-- A sum that is a little too great is negative. -/
theorem offT_of_overflow (hlo : 2 ^ 63 ≤ n) (hhi : n < 2 ^ 64) : offT n < 0 := by
  rw [offT, Int.bmod_def]
  omega

/-- The size in a head is a `uint32_t`. -/
theorem fileSizeAt_lt (file : Bytes) (offset : Nat) : fileSizeAt file offset < 2 ^ 32 := by
  have hlength : (((file.drop offset).drop (SIZE_OF_MODULE_NAME + 4)).take 4).length ≤ 4 :=
    List.length_take_le 4 _
  exact (Bytes.decode_lt _).trans_le (Nat.pow_le_pow_right (by decide) hlength)

/-- The zero that ends the name does not touch the size. -/
theorem fileSizeAt_set (b : UInt8) :
    fileSizeAt (buff.set (offset + (SIZE_OF_MODULE_NAME - 1)) b) offset =
      fileSizeAt buff offset := by
  have hlt : offset + (SIZE_OF_MODULE_NAME - 1) < offset + (SIZE_OF_MODULE_NAME + 4) := by
    simp only [SIZE_OF_MODULE_NAME]
    omega
  simp only [fileSizeAt, CloneFileHead.ofBytes, List.drop_drop, List.drop_set_of_lt hlt]

/-- The buffer has the heads of the file that lie ahead. -/
theorem Ahead.fileSizeAt (h : Ahead file buff offset) :
    fileSizeAt buff offset = Backup.fileSizeAt file offset := by
  rw [Backup.fileSizeAt, Backup.fileSizeAt, h.drop]

/-- Behind a head the buffer is still that of the file. -/
theorem Ahead.set (h : Ahead file buff offset) (b : UInt8) {size : Nat}
    (hsize : SIZE_OF_CLONE_FILE_HEAD ≤ size) :
    Ahead file (buff.set (offset + (SIZE_OF_MODULE_NAME - 1)) b) (offset + size) := by
  have hlt : offset + (SIZE_OF_MODULE_NAME - 1) < offset + size := by
    simp only [SIZE_OF_MODULE_NAME, SIZE_OF_CLONE_FILE_HEAD] at hsize ⊢
    omega
  refine ⟨(List.length_set ..).trans h.length, ?_⟩
  rw [List.drop_set_of_lt hlt, ← List.drop_drop, ← List.drop_drop, h.drop]

/-- The size that a turn reads is that of the file. -/
theorem Ahead.fileSize (h : Ahead file buff offset) :
    (CloneFileHead.ofBytes ((buff.set (offset + (SIZE_OF_MODULE_NAME - 1)) 0).drop
      offset)).fileSize = Backup.fileSizeAt file offset :=
  (fileSizeAt_set 0).trans h.fileSizeAt

/-- When its sums fit, a turn goes ahead by a head and its payload, as long as they are there. -/
theorem restoreTurn_of_sumsFit (h : Ahead file buff offset) (hfits : SumsFit sizeBits file offset) :
    restoreTurn sizeBits onRestoreFuncMap buff offset =
      if offset + SIZE_OF_CLONE_FILE_HEAD < file.length ∧
          offset + (SIZE_OF_CLONE_FILE_HEAD + fileSizeAt file offset) ≤ file.length then
        .next (buff.set (offset + (SIZE_OF_MODULE_NAME - 1)) 0)
          ((offset + (SIZE_OF_CLONE_FILE_HEAD + fileSizeAt file offset) : Nat) : Int)
      else .done := by
  obtain ⟨hsum, hmore⟩ := hfits
  have hhead : offT ((offset : Int) + SIZE_OF_CLONE_FILE_HEAD) =
      offset + SIZE_OF_CLONE_FILE_HEAD := offT_of_fits (by omega) (by omega)
  unfold restoreTurn
  rw [hhead, h.length]
  by_cases hlt : offset + SIZE_OF_CLONE_FILE_HEAD < file.length
  · obtain ⟨hbits, hnext⟩ := hmore hlt
    have hsize : offT ((SIZE_OF_CLONE_FILE_HEAD + fileSizeAt file offset : Nat) : Int) =
        (SIZE_OF_CLONE_FILE_HEAD + fileSizeAt file offset : Nat) :=
      offT_of_fits (by omega) (by omega)
    have hoffset : offT
        ((offset : Int) + (SIZE_OF_CLONE_FILE_HEAD + fileSizeAt file offset : Nat)) =
          (offset + (SIZE_OF_CLONE_FILE_HEAD + fileSizeAt file offset) : Nat) := by
      rw [offT_of_fits (by omega) (by omega)]
      omega
    rw [if_pos (by omega), if_neg (by omega)]
    simp only [Int.toNat_natCast, h.fileSize, Nat.mod_eq_of_lt hbits, hsize, hoffset,
      List.length_set, h.length]
    by_cases hpayload : offset + (SIZE_OF_CLONE_FILE_HEAD + fileSizeAt file offset) ≤ file.length
    · rw [if_neg (by omega), if_neg (by omega), if_pos ⟨hlt, hpayload⟩]
    · rw [if_pos (by omega), if_neg fun h => hpayload h.2]
  · rw [if_neg (by omega), if_neg fun h => hlt h.1]

/-- When its sums do not fit, a turn reads outside of the buffer or does not go ahead by a head. -/
theorem restoreTurn_of_not_sumsFit (hbits : 32 ≤ sizeBits) (h : Ahead file buff offset)
    (hfile : file.length < 2 ^ 63) (hoffset : offset ≤ file.length)
    (hnot : ¬ SumsFit sizeBits file offset) :
    restoreTurn sizeBits onRestoreFuncMap buff offset = .outOfBounds ∨
      ∃ buff' offset', restoreTurn sizeBits onRestoreFuncMap buff offset = .next buff' offset' ∧
        offset' < offset + SIZE_OF_CLONE_FILE_HEAD := by
  have hforty : SIZE_OF_CLONE_FILE_HEAD = 40 := rfl
  have hfileSize := fileSizeAt_lt file offset
  have hpow : 2 ^ 32 ≤ 2 ^ sizeBits := Nat.pow_le_pow_right (by decide) hbits
  unfold restoreTurn
  rw [h.length]
  by_cases hsum : offset + SIZE_OF_CLONE_FILE_HEAD < 2 ^ 63
  · have hhead : offT ((offset : Int) + SIZE_OF_CLONE_FILE_HEAD) =
        offset + SIZE_OF_CLONE_FILE_HEAD := offT_of_fits (by omega) (by omega)
    have hlt : offset + SIZE_OF_CLONE_FILE_HEAD < file.length := by
      by_contra hge
      exact hnot ⟨hsum, fun hlt => absurd hlt hge⟩
    rw [hhead, if_pos (by omega), if_neg (by omega)]
    simp only [Int.toNat_natCast, h.fileSize, List.length_set, h.length]
    generalize hsize : (SIZE_OF_CLONE_FILE_HEAD + fileSizeAt file offset) % 2 ^ sizeBits = size
    -- the offset after the turn is before the end of the head
    have hnext : offT ((offset : Int) + offT (size : Nat)) < offset + SIZE_OF_CLONE_FILE_HEAD := by
      by_cases hwrap : SIZE_OF_CLONE_FILE_HEAD + fileSizeAt file offset < 2 ^ sizeBits
      · rw [Nat.mod_eq_of_lt hwrap] at hsize
        have hover : 2 ^ 63 ≤ offset + (SIZE_OF_CLONE_FILE_HEAD + fileSizeAt file offset) := by
          by_contra hlow
          exact hnot ⟨hsum, fun _ => ⟨hwrap, not_le.1 hlow⟩⟩
        have hcast : offT (size : Nat) = size := offT_of_fits (by omega) (by omega)
        have hneg : offT ((offset : Int) + size) < 0 := offT_of_overflow (by omega) (by omega)
        rw [hcast]
        omega
      · have hsmall : size < SIZE_OF_CLONE_FILE_HEAD := by
          rw [← hsize, Nat.mod_eq_sub_mod (not_lt.1 hwrap)]
          refine (Nat.mod_le _ _).trans_lt ?_
          omega
        have hcast : offT (size : Nat) = size := offT_of_fits (by omega) (by omega)
        rw [hcast, offT_of_fits (by omega) (by omega)]
        omega
    rw [if_neg (by omega)]
    split_ifs
    · exact .inl rfl
    · exact .inr ⟨_, _, rfl, hnext⟩
  · have hhead : offT ((offset : Int) + SIZE_OF_CLONE_FILE_HEAD) < 0 :=
      offT_of_overflow (by omega) (by omega)
    exact .inl (by rw [if_pos (by omega), if_pos (by omega)])

/-- A head is only looked at in a loop that is entered. -/
theorem HeadAt.entered (h : HeadAt sizeBits file offset) : Entered sizeBits file := by
  induction h with
  | start h => exact h
  | next _ _ _ ih => exact ih

/-- A head lies in the file. -/
theorem HeadAt.le_length (h : HeadAt sizeBits file offset) : offset ≤ file.length := by
  cases h with
  | start h => exact Nat.zero_le _
  | next h hhead hpayload => exact hpayload

/-- When all sums fit, turns begin at the heads, before what is still of the file. -/
theorem Reaches.headAt {offset : Int}
    (hfits : ∀ offset, HeadAt sizeBits file offset → SumsFit sizeBits file offset)
    (h : Reaches sizeBits onRestoreFuncMap file buff offset) :
    ∃ head : Nat, offset = head ∧ HeadAt sizeBits file head ∧ Ahead file buff head := by
  induction h with
  | start h => exact ⟨0, rfl, .start h, rfl, rfl⟩
  | turn h hturn ih =>
    obtain ⟨head, rfl, hhead, hahead⟩ := ih
    rw [restoreTurn_of_sumsFit hahead (hfits head hhead)] at hturn
    split_ifs at hturn with hmore
    cases hturn
    exact ⟨_, rfl, .next hhead hmore.1 hmore.2, hahead.set 0 (Nat.le_add_right _ _)⟩

/-- When all sums fit, the loop comes to an end: each turn leaves less of the file. -/
theorem exists_done (hfits : ∀ offset, HeadAt sizeBits file offset → SumsFit sizeBits file offset)
    (h : Reaches sizeBits onRestoreFuncMap file buff offset) (hhead : HeadAt sizeBits file offset)
    (hahead : Ahead file buff offset) : ∃ buff offset,
      Reaches sizeBits onRestoreFuncMap file buff offset ∧
        restoreTurn sizeBits onRestoreFuncMap buff offset = .done := by
  induction hleft : file.length - offset using Nat.strong_induction_on generalizing buff offset with
  | _ left ih =>
    have hturn : restoreTurn sizeBits onRestoreFuncMap buff offset = _ :=
      restoreTurn_of_sumsFit hahead (hfits offset hhead)
    split_ifs at hturn with hmore
    · refine ih _ ?_ (.turn h hturn) (.next hhead hmore.1 hmore.2)
        (hahead.set 0 (Nat.le_add_right _ _)) rfl
      have hforty : SIZE_OF_CLONE_FILE_HEAD = 40 := rfl
      omega
    · exact ⟨buff, offset, h, hturn⟩

/-- A file whose sums fit at every head is restored safely. -/
theorem restoresSafely_of_sumsFit
    (hfits : ∀ offset, HeadAt sizeBits file offset → SumsFit sizeBits file offset) :
    RestoresSafely sizeBits onRestoreFuncMap file := by
  refine ⟨fun buff offset h hout => ?_, fun buff offset buff' offset' h hturn => ?_,
    fun hentered => exists_done hfits (.start hentered) (.start hentered) ⟨rfl, rfl⟩⟩
  · obtain ⟨head, rfl, hhead, hahead⟩ := h.headAt hfits
    rw [restoreTurn_of_sumsFit hahead (hfits head hhead)] at hout
    split_ifs at hout
  · obtain ⟨head, rfl, hhead, hahead⟩ := h.headAt hfits
    rw [restoreTurn_of_sumsFit hahead (hfits head hhead)] at hturn
    split_ifs at hturn
    cases hturn
    omega

/-- A loop that is safe begins a turn at each head, and its sums fit. -/
theorem RestoresSafely.sumsFit (hbits : 32 ≤ sizeBits)
    (hsafe : RestoresSafely sizeBits onRestoreFuncMap file) (hhead : HeadAt sizeBits file offset) :
    SumsFit sizeBits file offset ∧ ∃ buff,
      Reaches sizeBits onRestoreFuncMap file buff offset ∧ Ahead file buff offset := by
  have hstep : ∀ {offset : Nat} {buff}, HeadAt sizeBits file offset →
      Reaches sizeBits onRestoreFuncMap file buff offset → Ahead file buff offset →
        SumsFit sizeBits file offset := by
    intro offset buff hhead h hahead
    by_contra hnot
    rcases restoreTurn_of_not_sumsFit hbits hahead hhead.entered.length_lt hhead.le_length hnot with
      hout | ⟨buff', offset', hturn, hlt⟩
    · exact hsafe.inBounds buff offset h hout
    · exact not_lt.2 (hsafe.advances buff offset buff' offset' h hturn) hlt
  induction hhead with
  | start hentered =>
    exact ⟨hstep (.start hentered) (.start hentered) ⟨rfl, rfl⟩, file, .start hentered, rfl, rfl⟩
  | @next head hhead hmore hpayload ih =>
    obtain ⟨hfits, buff, h, hahead⟩ := ih
    have hturn : restoreTurn sizeBits onRestoreFuncMap buff head = _ :=
      restoreTurn_of_sumsFit hahead hfits
    rw [if_pos ⟨hmore, hpayload⟩] at hturn
    have hset := hahead.set 0 (Nat.le_add_right SIZE_OF_CLONE_FILE_HEAD (fileSizeAt file head))
    exact ⟨hstep (.next hhead hmore hpayload) (.turn h hturn) hset, _, .turn h hturn, hset⟩

/-- When all sums fit, the loop of `onRestore` ends within as many turns as the file has bytes. -/
theorem exists_restoreLoop {fuel : Nat}
    (hfits : ∀ offset, HeadAt sizeBits file offset → SumsFit sizeBits file offset)
    (hhead : HeadAt sizeBits file offset) (hahead : Ahead file buff offset)
    (hfuel : file.length - offset < fuel) :
    ∃ calls, restoreLoop sizeBits onRestoreFuncMap fuel buff offset = some calls := by
  have hforty : SIZE_OF_CLONE_FILE_HEAD = 40 := rfl
  induction fuel generalizing buff offset with
  | zero => exact absurd hfuel (Nat.not_lt_zero _)
  | succ fuel ih =>
    rw [restoreLoop, hahead.length]
    split_ifs with hmore
    · have hbits := ((hfits offset hhead).2 hmore).1
      simp only [hahead.fileSize, Nat.mod_eq_of_lt hbits, List.length_set, hahead.length]
      split_ifs with hpayload hmem
      · exact ⟨[], rfl⟩
      all_goals
        obtain ⟨calls, hcalls⟩ := ih (.next hhead hmore (not_lt.1 hpayload))
          (hahead.set 0 (Nat.le_add_right _ _)) (by omega)
        rw [hcalls]
        exact ⟨_, rfl⟩
    · exact ⟨[], rfl⟩

/-- `OnRestore` answers when all sums fit. -/
theorem exists_onRestore {fuel : Nat} (hentered : Entered sizeBits file)
    (hfits : ∀ offset, HeadAt sizeBits file offset → SumsFit sizeBits file offset)
    (hfuel : file.length < fuel) :
    ∃ calls, onRestore sizeBits onRestoreFuncMap fuel file = some (0, calls) := by
  obtain ⟨calls, hcalls⟩ :
      ∃ calls, restoreLoop sizeBits onRestoreFuncMap fuel file 0 = some calls :=
    exists_restoreLoop hfits (.start hentered) ⟨rfl, rfl⟩ (by omega)
  exact ⟨calls, by rw [onRestore, if_neg hentered.nonempty, hcalls, Option.map_some]⟩

/-- With a `size_t` of more than 32 bits every file that leaves some room in an `off_t` is read
safely. -/
theorem restoresSafely_of_length (hbits : 32 < sizeBits)
    (hfile : file.length + (2 ^ 32 + 80) ≤ 2 ^ 63) :
    RestoresSafely sizeBits onRestoreFuncMap file := by
  refine restoresSafely_of_sumsFit fun offset hhead => ?_
  have hforty : SIZE_OF_CLONE_FILE_HEAD = 40 := rfl
  have hpow : 2 ^ 33 ≤ 2 ^ sizeBits := Nat.pow_le_pow_right (by decide) hbits
  have hfileSize := fileSizeAt_lt file offset
  have hoffset := hhead.le_length
  exact ⟨by omega, fun _ => ⟨by omega, by omega⟩⟩

/-- With a `size_t` of 32 bits the sums fit at a head that gives no size within a head of its
range. -/
theorem sumsFit_iff_of_entered (h : Entered 32 file) (hoffset : offset ≤ file.length) :
    SumsFit 32 file offset ↔ (offset + SIZE_OF_CLONE_FILE_HEAD < file.length →
      fileSizeAt file offset < 2 ^ 32 - SIZE_OF_CLONE_FILE_HEAD) := by
  have hforty : SIZE_OF_CLONE_FILE_HEAD = 40 := rfl
  have hcount := h.count_lt
  constructor
  · intro hfits hmore
    have hbits := (hfits.2 hmore).1
    omega
  · intro hsize
    refine ⟨by omega, fun hmore => ?_⟩
    have hsize := hsize hmore
    exact ⟨by omega, by omega⟩

/-- The loop that restores is safe for whatever modules are subscribed if and only if the sums fit
at each head of the file, and then `OnRestore` answers. With more than 32 bits they fit in every
file that leaves some room in an `off_t`. -/
theorem restoresSafely_iff (hbits : 32 ≤ sizeBits) (onRestoreFuncMap : Finset Bytes)
    (file : Bytes) :
    (RestoresSafely sizeBits onRestoreFuncMap file ↔
      ∀ offset, HeadAt sizeBits file offset → SumsFit sizeBits file offset) ∧
    (Entered sizeBits file → RestoresSafely sizeBits onRestoreFuncMap file →
      ∀ fuel, file.length < fuel →
        ∃ calls, onRestore sizeBits onRestoreFuncMap fuel file = some (0, calls)) ∧
    (32 < sizeBits → file.length + (2 ^ 32 + 80) ≤ 2 ^ 63 →
      RestoresSafely sizeBits onRestoreFuncMap file) :=
  ⟨⟨fun hsafe _ hhead => (hsafe.sumsFit hbits hhead).1, restoresSafely_of_sumsFit⟩,
    fun hentered hsafe _ hfuel =>
      exists_onRestore hentered (fun _ hhead => (hsafe.sumsFit hbits hhead).1) hfuel,
    restoresSafely_of_length⟩

end

section
variable {offset : Nat}

/-- Two modules with their payloads. -/
def twoModules : Bytes := frames 0 [([97], [1, 2]), ([98], [3])]

/-- The loop begins a turn at both heads and at the end. -/
theorem headAt_twoModules (h : HeadAt 32 twoModules offset) :
    offset = 0 ∨ offset = 42 ∨ offset = 83 := by
  have hfirst : fileSizeAt twoModules 0 = 2 := by decide
  have hsecond : fileSizeAt twoModules 42 = 1 := by decide
  have hlength : twoModules.length = 83 := by decide
  induction h with
  | start => exact .inl rfl
  | next h hhead hpayload ih =>
    rcases ih with rfl | rfl | rfl
    · rw [hfirst]
      exact .inr (.inl rfl)
    · rw [hsecond]
      exact .inr (.inr rfl)
    · rw [hlength] at hhead
      exact absurd hhead (by decide)

/-- They are read safely also with 32 bits, whether they are subscribed or not. -/
theorem restoresSafely_twoModules : RestoresSafely 32 {[97]} twoModules ∧
    ∃ calls, onRestore 32 {[97]} 84 twoModules = some (0, calls) := by
  obtain ⟨hiff, hanswers, -⟩ := restoresSafely_iff (le_refl 32) {[97]} twoModules
  have hsafe : RestoresSafely 32 {[97]} twoModules := hiff.2 fun offset hhead => by
    rcases headAt_twoModules hhead with rfl | rfl | rfl
    · exact ⟨by decide, fun _ => by decide⟩
    · exact ⟨by decide, fun _ => by decide⟩
    · exact ⟨by decide, fun _ => by decide⟩
  exact ⟨hsafe, hanswers ⟨by decide, by decide, by decide⟩ hsafe 84 (by decide)⟩

end

/-- A head whose size is within a head of the range of a `size_t` of 32 bits, and a byte. -/
def stuckFile : Bytes :=
  List.replicate 36 0 ++ [216, 255, 255, 255, 0]

/-- With a `size_t` of 32 bits not every file is read safely: the loop stays at such a head. -/
theorem not_always_restoresSafely :
    ¬ ∀ sizeBits, sizeBits = 32 ∨ sizeBits = 64 → ∀ onRestoreFuncMap file,
      RestoresSafely sizeBits onRestoreFuncMap file := by
  intro h
  have hentered : Entered 32 stuckFile := ⟨by decide, by decide, by decide⟩
  have hsize : fileSizeAt stuckFile 0 = 2 ^ 32 - SIZE_OF_CLONE_FILE_HEAD := by decide
  have hfits := ((h 32 (.inl rfl) ∅ stuckFile).sumsFit le_rfl (.start hentered)).1
  rw [sumsFit_iff_of_entered hentered (Nat.zero_le _), hsize] at hfits
  exact lt_irrefl _ (hfits (by decide))

end Backup

end DeviceStandby
