import DeviceStandby.Lib.AssocMap
import DeviceStandby.Lib.Bytes
import Mathlib.Data.Finset.Basic

/-!
# Backup and restore

Modules subscribe to a backup. `OnBackup` writes a file in which each module has a head of forty
bytes and then its payload, and `OnRestore` reads one head after the other and calls the module that
it names. The loop goes on while more than a head is left, so a last module with an empty payload is
written but not restored. `restored_iff` says that nothing else is lost.

`size_t` has `sizeBits` bits, in which the size of a module is computed.
-/

namespace DeviceStandby

open AssocMap

abbrev ERR_OK : Int := 0
abbrev EXTENSION_ERROR_CODE : Int := 13500099
abbrev SIZE_OF_MODULE_NAME : Nat := 32
abbrev SIZE_OF_CLONE_FILE_HEAD : Nat := 40

/-- The head of a module in the file. -/
structure CloneFileHead where
  moduleName : Bytes
  fileOffset : Nat
  fileSize : Nat

namespace CloneFileHead

/-- The head in memory. -/
def bytes (head : CloneFileHead) : Bytes :=
  head.moduleName ++ (Bytes.encode 4 head.fileOffset ++ Bytes.encode 4 head.fileSize)

/-- The head that some bytes are. -/
def ofBytes (bytes : Bytes) : CloneFileHead where
  moduleName := bytes.take SIZE_OF_MODULE_NAME
  fileOffset := Bytes.decode ((bytes.drop SIZE_OF_MODULE_NAME).take 4)
  fileSize := Bytes.decode ((bytes.drop (SIZE_OF_MODULE_NAME + 4)).take 4)

end CloneFileHead

namespace Backup

/-- The modules and what their backup functions answer, an error code and a payload, in the order of
the map. -/
abbrev OnBackupFuncMap := Map Bytes (Int × Bytes)

/-- The loop of `OnBackup`. -/
def appendModule (buff : Bytes) (module : Sigma fun _ : Bytes => Int × Bytes) : Bytes :=
  if module.2.1 ≠ ERR_OK then buff
  else
    match module.1.pad SIZE_OF_MODULE_NAME with
    | none => buff
    | some moduleName =>
      let head : CloneFileHead :=
        { moduleName := moduleName, fileOffset := buff.length, fileSize := module.2.2.length }
      buff ++ (head.bytes ++ module.2.2)

/-- The buffer of `OnBackup`. -/
def buffer (onBackupFuncMap : OnBackupFuncMap) : Bytes :=
  onBackupFuncMap.entries.foldl appendModule []

/-- `StandbyServiceImpl::OnBackup`: the file that is sent, if it can be saved, and the code of the
reply. -/
def onBackup (onBackupFuncMap : OnBackupFuncMap) (saved : Bool) : Option Bytes × Int :=
  if buffer onBackupFuncMap ≠ [] ∧ saved then (some (buffer onBackupFuncMap), 0)
  else (none, EXTENSION_ERROR_CODE)

/-- The loop of `OnRestore`, and the modules that it calls with their payloads. The last byte of the
name is overwritten in the buffer. -/
def restoreLoop (sizeBits : Nat) (onRestoreFuncMap : Finset Bytes) :
    Nat → Bytes → Nat → Option (List (Bytes × Bytes))
  | 0, _, _ => none
  | fuel + 1, buff, offset =>
    if offset + SIZE_OF_CLONE_FILE_HEAD < buff.length then
      let buff := buff.set (offset + (SIZE_OF_MODULE_NAME - 1)) 0
      let head := CloneFileHead.ofBytes (buff.drop offset)
      let size := (SIZE_OF_CLONE_FILE_HEAD + head.fileSize) % 2 ^ sizeBits
      if buff.length < offset + size then some []
      else if head.moduleName.text ∈ onRestoreFuncMap then
        (restoreLoop sizeBits onRestoreFuncMap fuel buff (offset + size)).map
          ((head.moduleName.text,
            (buff.drop (offset + SIZE_OF_CLONE_FILE_HEAD)).take head.fileSize) :: ·)
      else restoreLoop sizeBits onRestoreFuncMap fuel buff (offset + size)
    else some []

/-- `StandbyServiceImpl::OnRestore`: the code of the reply and the modules that are called, when the
loop ends within the fuel. -/
def onRestore (sizeBits : Nat) (onRestoreFuncMap : Finset Bytes) (fuel : Nat) (file : Bytes) :
    Option (Int × List (Bytes × Bytes)) :=
  if file = [] then some (EXTENSION_ERROR_CODE, [])
  else (restoreLoop sizeBits onRestoreFuncMap fuel file 0).map fun calls => (0, calls)

/-! ## What is written -/

/-- The modules whose backup succeeds, with their payloads. -/
def written (onBackupFuncMap : OnBackupFuncMap) : List (Bytes × Bytes) :=
  (onBackupFuncMap.entries.filter fun module => module.2.1 = ERR_OK).map fun module =>
    (module.1, module.2.2)

/-- A name that fits into a head. -/
def ValidName (name : Bytes) : Prop :=
  0 ∉ name ∧ name.length < SIZE_OF_MODULE_NAME

/-- The head of a module that is written at an offset. -/
def headAt (offset : Nat) (module : Bytes × Bytes) : CloneFileHead where
  moduleName := module.1 ++ List.replicate (SIZE_OF_MODULE_NAME - module.1.length) 0
  fileOffset := offset
  fileSize := module.2.length

/-- The modules one after the other, from an offset. -/
def frames : Nat → List (Bytes × Bytes) → Bytes
  | _, [] => []
  | offset, module :: modules =>
    (headAt offset module).bytes ++ (module.2 ++
      frames (offset + (SIZE_OF_CLONE_FILE_HEAD + module.2.length)) modules)

section
variable {onBackupFuncMap : OnBackupFuncMap} {onRestoreFuncMap : Finset Bytes}
  {name payload pre post : Bytes} {module : Bytes × Bytes} {modules : List (Bytes × Bytes)}
  {offset fuel sizeBits : Nat}

variable (offset) in
/-- A head has the size of its structure. -/
theorem length_headAt (hname : ValidName module.1) :
    (headAt offset module).bytes.length = SIZE_OF_CLONE_FILE_HEAD := by
  have hlength : module.1.length < 32 := hname.2
  simp only [headAt, CloneFileHead.bytes, List.length_append, List.length_replicate,
    Bytes.length_encode, SIZE_OF_MODULE_NAME, SIZE_OF_CLONE_FILE_HEAD]
  omega

/-- The modules are appended in their order, without those whose backup failed. -/
theorem foldl_appendModule (entries : List (Sigma fun _ : Bytes => Int × Bytes)) (buff : Bytes)
    (hname : ∀ module ∈ entries, ValidName module.1) :
    entries.foldl appendModule buff = buff ++ frames buff.length
      ((entries.filter fun module => module.2.1 = ERR_OK).map fun module =>
        (module.1, module.2.2)) := by
  induction entries generalizing buff with
  | nil => exact (List.append_nil buff).symm
  | cons module entries ih =>
    have hvalid := hname module List.mem_cons_self
    have hrest := fun buff => ih buff fun module hmem => hname module (List.mem_cons_of_mem _ hmem)
    rw [List.foldl_cons, hrest, appendModule]
    by_cases herr : module.2.1 = ERR_OK
    · have hlength : (headAt buff.length (module.1, module.2.2)).bytes.length =
          SIZE_OF_CLONE_FILE_HEAD := length_headAt _ hvalid
      rw [if_neg (not_not_intro herr), Bytes.pad_of_notMem hvalid.1 hvalid.2,
        List.filter_cons_of_pos (by simpa using herr), List.map_cons, frames]
      simp only [List.append_assoc, List.length_append]
      simp only [headAt] at hlength
      rw [hlength]
      rfl
    · rw [if_pos herr, List.filter_cons_of_neg (by simpa using herr)]

/-- The buffer holds the modules whose backup succeeds. -/
theorem buffer_eq (hname : ∀ name ∈ onBackupFuncMap, ValidName name) :
    buffer onBackupFuncMap = frames 0 (written onBackupFuncMap) :=
  foldl_appendModule _ _ fun _ hmem => hname _ (AList.mem_keys.2 (List.mem_map_of_mem hmem))

/-- The file that is saved is the buffer. -/
theorem onBackup_file {saved : Bool} {file : Bytes}
    (h : (onBackup onBackupFuncMap saved).1 = some file) : file = buffer onBackupFuncMap := by
  unfold onBackup at h
  split_ifs at h
  exact (Option.some.inj h).symm

/-! ## What is read -/

/-- The modules that the loop reaches: not the last one when its payload is empty. -/
def reached : List (Bytes × Bytes) → List (Bytes × Bytes)
  | [] => []
  | [module] => if module.2 = [] then [] else [module]
  | module :: next :: modules => module :: reached (next :: modules)

variable (offset) in
/-- The name in a head is padded to its size. -/
theorem length_moduleName (hname : ValidName module.1) :
    (headAt offset module).moduleName.length = SIZE_OF_MODULE_NAME := by
  have hlength : module.1.length < 32 := hname.2
  simp only [headAt, List.length_append, List.length_replicate, SIZE_OF_MODULE_NAME]
  omega

/-- The name is read back up to its first zero. -/
theorem text_moduleName (hname : ValidName module.1) :
    (headAt offset module).moduleName.text = module.1 :=
  Bytes.text_append_replicate hname.1 (Nat.sub_pos_of_lt hname.2)

variable (offset) (post) in
/-- The name and the size are read back from a head. -/
theorem ofBytes_headAt (hname : ValidName module.1) (hsize : module.2.length < 2 ^ 32) :
    (CloneFileHead.ofBytes ((headAt offset module).bytes ++ post)).moduleName.text = module.1 ∧
      (CloneFileHead.ofBytes ((headAt offset module).bytes ++ post)).fileSize =
        module.2.length := by
  have hlength := length_moduleName offset hname
  have hskip : SIZE_OF_MODULE_NAME + 4 =
      ((headAt offset module).moduleName ++ Bytes.encode 4 offset).length := by
    rw [List.length_append, hlength, Bytes.length_encode]
  constructor
  · simp only [CloneFileHead.ofBytes, CloneFileHead.bytes, List.append_assoc]
    rw [← hlength, List.take_left, text_moduleName hname]
  · have hbytes : (headAt offset module).bytes ++ post =
        ((headAt offset module).moduleName ++ Bytes.encode 4 offset) ++
          (Bytes.encode 4 module.2.length ++ post) := by
      simp only [CloneFileHead.bytes, List.append_assoc]
      rfl
    have htake : (Bytes.encode 4 module.2.length ++ post).take 4 =
        Bytes.encode 4 module.2.length := List.take_left' Bytes.length_encode
    simp only [CloneFileHead.ofBytes, hbytes, hskip, List.drop_left, htake]
    exact Bytes.decode_encode (by omega)

/-- The last byte of a name is zero already. -/
theorem set_lastByte (hname : ValidName module.1) :
    (pre ++ ((headAt offset module).bytes ++ post)).set (pre.length + (SIZE_OF_MODULE_NAME - 1)) 0 =
      pre ++ ((headAt offset module).bytes ++ post) := by
  have hlength : module.1.length < 32 := hname.2
  have hpadding : List.replicate (SIZE_OF_MODULE_NAME - module.1.length) (0 : UInt8) =
      List.replicate (31 - module.1.length) 0 ++ [0] := by
    rw [← List.replicate_succ']
    congr 1
    simp only [SIZE_OF_MODULE_NAME]
    omega
  have hzero : pre ++ ((headAt offset module).bytes ++ post) =
      (pre ++ (module.1 ++ List.replicate (31 - module.1.length) 0)) ++
        0 :: (Bytes.encode 4 offset ++ (Bytes.encode 4 module.2.length ++ post)) := by
    simp only [CloneFileHead.bytes, headAt, hpadding, List.append_assoc, List.cons_append,
      List.nil_append]
  have hindex : pre.length + (SIZE_OF_MODULE_NAME - 1) =
      (pre ++ (module.1 ++ List.replicate (31 - module.1.length) (0 : UInt8))).length := by
    simp only [List.length_append, List.length_replicate, SIZE_OF_MODULE_NAME]
    omega
  rw [hzero, hindex, List.set_append_right _ _ le_rfl, Nat.sub_self, List.set_cons_zero]

/-- The loop stands before a module that something follows, or that has a payload. -/
theorem restoreLoop_module (hname : ValidName module.1) (hsize : module.2.length < 2 ^ 32)
    (hbits : SIZE_OF_CLONE_FILE_HEAD + module.2.length < 2 ^ sizeBits)
    (hmore : module.2 ++ post ≠ []) :
    restoreLoop sizeBits onRestoreFuncMap (fuel + 1)
        (pre ++ ((headAt offset module).bytes ++ (module.2 ++ post))) pre.length =
      (restoreLoop sizeBits onRestoreFuncMap fuel
        ((pre ++ ((headAt offset module).bytes ++ module.2)) ++ post)
        (pre ++ ((headAt offset module).bytes ++ module.2)).length).map fun calls =>
          if module.1 ∈ onRestoreFuncMap then module :: calls else calls := by
  have hhead := length_headAt offset hname
  have hlong : 0 < (module.2 ++ post).length := List.length_pos_iff.2 hmore
  obtain ⟨htext, hfileSize⟩ := ofBytes_headAt (module.2 ++ post) offset hname hsize
  have hpayload : ((pre ++ ((headAt offset module).bytes ++ (module.2 ++ post))).drop
      (pre.length + SIZE_OF_CLONE_FILE_HEAD)).take module.2.length = module.2 := by
    rw [← hhead, ← List.append_assoc, ← List.length_append, List.drop_left, List.take_left]
  have hafter : pre.length + (SIZE_OF_CLONE_FILE_HEAD + module.2.length) =
      (pre ++ ((headAt offset module).bytes ++ module.2)).length := by
    simp only [List.length_append, hhead]
  have hbuff : pre ++ ((headAt offset module).bytes ++ (module.2 ++ post)) =
      (pre ++ ((headAt offset module).bytes ++ module.2)) ++ post := by
    simp only [List.append_assoc]
  rw [restoreLoop, if_pos (by
    simp only [List.length_append, hhead] at hlong ⊢
    omega)]
  simp only [set_lastByte hname, List.drop_left, htext, hfileSize, Nat.mod_eq_of_lt hbits, hpayload]
  rw [if_neg (by
    simp only [List.length_append, hhead]
    omega), hafter, hbuff]
  split_ifs
  · rfl
  · exact Option.map_id'.symm

/-- A module takes place in the file. -/
theorem frames_ne_nil : frames offset (module :: modules) ≠ [] := by
  intro h
  have hlength := congrArg List.length h
  simp [frames, CloneFileHead.bytes] at hlength

/-- The loop calls the modules that it reaches and that are subscribed. -/
theorem restoreLoop_frames (pre : Bytes) (offset : Nat) {fuel : Nat}
    (hname : ∀ module ∈ modules, ValidName module.1)
    (hsize : ∀ module ∈ modules, module.2.length < 2 ^ 32)
    (hbits : ∀ module ∈ modules, SIZE_OF_CLONE_FILE_HEAD + module.2.length < 2 ^ sizeBits)
    (hfuel : modules.length < fuel) :
    restoreLoop sizeBits onRestoreFuncMap fuel (pre ++ frames offset modules) pre.length =
      some ((reached modules).filter fun module => module.1 ∈ onRestoreFuncMap) := by
  induction modules generalizing fuel pre offset with
  | nil =>
    obtain ⟨fuel, rfl⟩ := Nat.exists_eq_succ_of_ne_zero (Nat.ne_zero_of_lt hfuel)
    rw [frames, List.append_nil, restoreLoop, if_neg (by omega)]
    rfl
  | cons module modules ih =>
    obtain ⟨fuel, rfl⟩ := Nat.exists_eq_succ_of_ne_zero (Nat.ne_zero_of_lt hfuel)
    have hvalid := hname module List.mem_cons_self
    have hnext := ih (pre ++ ((headAt offset module).bytes ++ module.2))
      (offset + (SIZE_OF_CLONE_FILE_HEAD + module.2.length))
      (fun m hm => hname m (List.mem_cons_of_mem _ hm))
      (fun m hm => hsize m (List.mem_cons_of_mem _ hm))
      (fun m hm => hbits m (List.mem_cons_of_mem _ hm)) (Nat.lt_of_succ_lt_succ hfuel)
    by_cases hmore : module.2 ++
        frames (offset + (SIZE_OF_CLONE_FILE_HEAD + module.2.length)) modules = []
    · -- nothing follows the head, and the loop ends before it
      obtain ⟨hempty, hlast⟩ := List.append_eq_nil_iff.1 hmore
      cases modules with
      | cons next modules => exact absurd hlast frames_ne_nil
      | nil =>
        have hhead := length_headAt offset hvalid
        rw [frames, hmore, List.append_nil, restoreLoop, if_neg (by
          rw [List.length_append, hhead]
          exact lt_irrefl _)]
        simp [reached, hempty]
    · rw [frames, restoreLoop_module hvalid (hsize module List.mem_cons_self)
        (hbits module List.mem_cons_self) hmore, hnext, Option.map_some]
      have hreached : reached (module :: modules) = module :: reached modules := by
        cases modules with
        | cons next modules => rfl
        | nil =>
          rw [frames, List.append_nil] at hmore
          exact if_neg hmore
      rw [hreached, List.filter_cons]
      split_ifs <;> simp_all

/-- Every module is reached but a last one with an empty payload. -/
theorem reached_eq (modules : List (Bytes × Bytes)) :
    (∃ module, modules.getLast? = some module ∧ module.2 = [] ∧
        modules = reached modules ++ [module]) ∨
      (∀ module, modules.getLast? = some module → module.2 ≠ []) ∧ reached modules = modules := by
  induction modules with
  | nil => exact .inr ⟨by simp, rfl⟩
  | cons module modules ih =>
    cases modules with
    | nil =>
      by_cases hempty : module.2 = []
      · exact .inl ⟨module, rfl, hempty, by rw [reached, if_pos hempty, List.nil_append]⟩
      · refine .inr ⟨fun m hm => ?_, by rw [reached, if_neg hempty]⟩
        rwa [← Option.some.inj hm]
    | cons next modules =>
      rcases ih with ⟨last, hlast, hempty, heq⟩ | ⟨hlast, heq⟩
      · exact .inl ⟨last, hlast, hempty, congrArg (module :: ·) heq⟩
      · exact .inr ⟨hlast, congrArg (module :: ·) heq⟩

/-- A module takes its place in the file. -/
theorem length_frames (offset : Nat) (hname : ∀ module ∈ modules, ValidName module.1) :
    modules.length ≤ (frames offset modules).length ∧ ∀ module ∈ modules,
      SIZE_OF_CLONE_FILE_HEAD + module.2.length ≤ (frames offset modules).length := by
  induction modules generalizing offset with
  | nil => exact ⟨le_rfl, by simp⟩
  | cons module modules ih =>
    have hhead := length_headAt offset (hname module List.mem_cons_self)
    obtain ⟨hcount, hfits⟩ := ih (offset + (SIZE_OF_CLONE_FILE_HEAD + module.2.length))
      fun m hm => hname m (List.mem_cons_of_mem _ hm)
    have hpos : 0 < SIZE_OF_CLONE_FILE_HEAD := by decide
    simp only [frames, List.length_append, List.length_cons, hhead]
    refine ⟨by omega, fun m hm => ?_⟩
    rcases List.mem_cons.1 hm with rfl | hm
    · omega
    · have hm := hfits m hm
      omega

/-- The modules in the file have names that fit. -/
theorem validName_of_mem_written (hname : ∀ name ∈ onBackupFuncMap, ValidName name)
    (h : module ∈ written onBackupFuncMap) : ValidName module.1 := by
  obtain ⟨entry, hmem, rfl⟩ := List.mem_map.1 h
  exact hname _ (AList.mem_keys.2 (List.mem_map_of_mem (List.mem_of_mem_filter hmem)))

/-- Only a last module with an empty payload that is subscribed makes a difference. -/
theorem filter_reached_iff :
    (reached modules).filter (fun module => module.1 ∈ onRestoreFuncMap) =
        modules.filter (fun module => module.1 ∈ onRestoreFuncMap) ↔
      ¬ ∃ name, modules.getLast? = some (name, []) ∧ name ∈ onRestoreFuncMap := by
  rcases reached_eq modules with ⟨⟨name, payload⟩, hlast, rfl, heq⟩ | ⟨hlast, heq⟩
  · have hexists : (∃ name', modules.getLast? = some (name', []) ∧ name' ∈ onRestoreFuncMap) ↔
        name ∈ onRestoreFuncMap := by
      rw [hlast]
      simp
    have hfilter : modules.filter (fun module => module.1 ∈ onRestoreFuncMap) =
        (reached modules).filter (fun module => module.1 ∈ onRestoreFuncMap) ++
          if name ∈ onRestoreFuncMap then [(name, [])] else [] := by
      conv_lhs => rw [heq]
      rw [List.filter_append, List.filter_singleton]
      simp
    rw [hexists, hfilter]
    split_ifs with hmem <;> simp [hmem]
  · rw [heq]
    refine iff_of_true rfl ?_
    rintro ⟨name, hname, -⟩
    exact hlast _ hname rfl

end

/-- From the file that `OnBackup` writes, `OnRestore` calls each subscribed module whose backup
succeeded once, in the order of the file and with its payload, if and only if the last module of the
file does not have an empty payload, or is not subscribed any more. In `size_t` the sizes are not
wrapped when it has more than 32 bits, nor when the file is smaller than its range. -/
theorem restored_iff (sizeBits : Nat) (onBackupFuncMap : OnBackupFuncMap)
    (onRestoreFuncMap : Finset Bytes) (saved : Bool) (file : Bytes)
    (hname : ∀ name ∈ onBackupFuncMap, ValidName name)
    (hpayload : ∀ module ∈ written onBackupFuncMap, module.2.length < 2 ^ 32)
    (hfile : (onBackup onBackupFuncMap saved).1 = some file)
    (hbits : 32 < sizeBits ∨ file.length < 2 ^ sizeBits) :
    ∃ calls, (∀ fuel, file.length < fuel →
        onRestore sizeBits onRestoreFuncMap fuel file = some (0, calls)) ∧
      (calls = (written onBackupFuncMap).filter (fun module => module.1 ∈ onRestoreFuncMap) ↔
        ¬ ∃ name, (written onBackupFuncMap).getLast? = some (name, []) ∧
          name ∈ onRestoreFuncMap) := by
  have hvalid : ∀ module ∈ written onBackupFuncMap, ValidName module.1 := fun _ =>
    validName_of_mem_written hname
  have hne : file ≠ [] := by
    unfold onBackup at hfile
    split_ifs at hfile with hsaved
    exact Option.some.inj hfile ▸ hsaved.1
  obtain rfl : file = frames 0 (written onBackupFuncMap) :=
    (onBackup_file hfile).trans (buffer_eq hname)
  obtain ⟨hcount, hfits⟩ := length_frames 0 hvalid
  have hsize : ∀ module ∈ written onBackupFuncMap,
      SIZE_OF_CLONE_FILE_HEAD + module.2.length < 2 ^ sizeBits := by
    intro module hmem
    rcases hbits with hbits | hbits
    · have hpayload := hpayload module hmem
      have hpow : 2 ^ 33 ≤ 2 ^ sizeBits := Nat.pow_le_pow_right (by decide) hbits
      have hhead : SIZE_OF_CLONE_FILE_HEAD < 2 ^ 32 := by decide
      omega
    · exact (hfits module hmem).trans_lt hbits
  refine ⟨_, fun fuel hfuel => ?_, filter_reached_iff⟩
  rw [onRestore, if_neg hne]
  have hloop : restoreLoop sizeBits onRestoreFuncMap fuel (frames 0 (written onBackupFuncMap)) 0 =
      some ((reached (written onBackupFuncMap)).filter fun module => module.1 ∈ onRestoreFuncMap) :=
    restoreLoop_frames [] 0 hvalid hpayload hsize (hcount.trans_lt hfuel)
  rw [hloop, Option.map_some]

/-- One module, with its payload. -/
def oneModule (name payload : Bytes) : OnBackupFuncMap :=
  (∅ : OnBackupFuncMap).insert name (ERR_OK, payload)

/-- The one module has its name. -/
theorem eq_of_mem_oneModule {name name' payload : Bytes} (h : name' ∈ oneModule name payload) :
    name' = name :=
  ((AList.mem_insert _).1 h).resolve_right (AList.notMem_empty _)

/-- The backup of the second module fails, the third has nothing to save, and the fourth is not
subscribed at the restore. -/
def sampleModules : OnBackupFuncMap :=
  ((((((∅ : OnBackupFuncMap).insert [101] (ERR_OK, [4])).insert [100] (ERR_OK, [3])).insert
    [99] (ERR_OK, [])).insert [98] (EXTENSION_ERROR_CODE, [9])).insert [97] (ERR_OK, [1, 2]))

/-- The first, the third and the last are restored. -/
theorem restored_sampleModules :
    onRestore 64 {[97], [99], [101]} 200 (buffer sampleModules) =
      some (0, [([97], [1, 2]), ([99], []), ([101], [4])]) := by
  have hnames : ∀ name ∈ sampleModules.keys, 0 ∉ name ∧ name.length < SIZE_OF_MODULE_NAME := by
    decide
  obtain ⟨calls, hcalls, hiff⟩ := restored_iff 64 sampleModules {[97], [99], [101]} true
    (buffer sampleModules) hnames (by decide) rfl (.inl (by decide))
  have hlast : ¬ ∃ name, (written sampleModules).getLast? = some (name, []) ∧
      name ∈ ({[97], [99], [101]} : Finset Bytes) := by
    rintro ⟨name, hname, -⟩
    have hcases : (written sampleModules).getLast? = some ([101], [4]) := by decide
    rw [hcases] at hname
    cases hname
  rw [hcalls 200 (by decide +kernel), hiff.2 hlast]
  decide

/-- Not every module is restored: one with an empty payload is not when it is the last. -/
theorem not_always_restored : ¬ ∀ onBackupFuncMap onRestoreFuncMap file,
    (∀ name ∈ onBackupFuncMap, ValidName name) →
    (∀ module ∈ written onBackupFuncMap, module.2.length < 2 ^ 32) →
    (onBackup onBackupFuncMap true).1 = some file →
      ∃ calls, (∀ fuel, file.length < fuel →
          onRestore 64 onRestoreFuncMap fuel file = some (0, calls)) ∧
        calls = (written onBackupFuncMap).filter fun module => module.1 ∈ onRestoreFuncMap := by
  intro h
  obtain ⟨calls, hcalls, heq⟩ := h (oneModule [97] []) {[97]} _
    (fun name hname => by
      obtain rfl := eq_of_mem_oneModule hname
      exact ⟨by decide, by decide⟩)
    (fun module hmodule => by
      obtain rfl : module = ([97], []) := by simpa [written, oneModule] using hmodule
      decide)
    rfl
  have hnone := hcalls 41 (by decide)
  rw [heq] at hnone
  revert hnone
  decide

end Backup

end DeviceStandby
