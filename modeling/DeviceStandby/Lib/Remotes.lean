import Mathlib.Data.List.Perm.Basic
import Mathlib.Data.List.Basic

/-!
# Remote objects and their death recipients

What a platform keeps of the objects of other processes: which of them are alive, which death
recipients are registered at them, and the death notices that it still has to deliver. An object
that has died stays dead; a process that is started again has a new object. A registration is a
watch from the moment it is made until its notice is delivered or it is removed, wherever it is
kept, so an argument about who is watched need not ask who is alive (`kill_watches`).
-/

universe u

/-- The remote objects of a platform, numbered in the order they were started. -/
structure Remotes (δ : Type u) where
  started : Nat := 0
  alive : List Nat := []
  /-- The recipients registered at objects that are alive. -/
  recipients : List (Nat × δ) := []
  /-- The notices that are not delivered yet. -/
  notices : List (Nat × δ) := []

namespace Remotes

variable {δ : Type u}

/-- A process is started: its object gets the next number. -/
def start (r : Remotes δ) : Remotes δ :=
  { r with
    started := r.started + 1
    alive := r.started :: r.alive }

/-- The process of an object dies, and the recipients at the object are told. -/
def kill (o : Nat) (r : Remotes δ) : Remotes δ :=
  { r with
    alive := r.alive.filter (· ≠ o)
    recipients := r.recipients.filter (·.1 ≠ o)
    notices := r.notices ++ r.recipients.filter (·.1 = o) }

/-- A recipient is registered at an object; at one that is dead it is told at once. -/
def addDeathRecipient (o : Nat) (d : δ) (r : Remotes δ) : Remotes δ :=
  if o ∈ r.alive then { r with recipients := r.recipients ++ [(o, d)] }
  else { r with notices := r.notices ++ [(o, d)] }

/-- A recipient is no longer registered at an object. A notice on its way is delivered still. -/
def removeDeathRecipient [DecidableEq δ] (o : Nat) (d : δ) (r : Remotes δ) : Remotes δ :=
  { r with recipients := r.recipients.filter (· ≠ (o, d)) }

/-- Take a notice out for its delivery. -/
def takeNotice (i : Nat) (r : Remotes δ) : Option ((Nat × δ) × Remotes δ) :=
  r.notices[i]?.map fun notice => (notice, { r with notices := r.notices.eraseIdx i })

/-- All registrations that have not been answered. -/
def watches (r : Remotes δ) : List (Nat × δ) := r.recipients ++ r.notices

/-- Recipients are at objects that are alive, notices tell of objects that are dead, and the objects
are those that were started. -/
structure Sound (r : Remotes δ) : Prop where
  recipients : ∀ w ∈ r.recipients, w.1 ∈ r.alive
  notices : ∀ w ∈ r.notices, w.1 ∉ r.alive ∧ w.1 < r.started
  alive : ∀ o ∈ r.alive, o < r.started

/-! ## The registrations -/

section
variable {r r' : Remotes δ} {o : Nat} {d : δ} {i : Nat} {w : Nat × δ}

/-- An object that starts is not watched. -/
@[simp] theorem start_watches : r.start.watches = r.watches := rfl

/-- A death moves registrations, it answers none. -/
theorem kill_watches : (r.kill o).watches.Perm r.watches := by
  have hsplit : (r.recipients.filter (·.1 ≠ o) ++ r.recipients.filter (·.1 = o)).Perm
      r.recipients := by
    have h := List.filter_append_perm (fun w : Nat × δ => decide (w.1 ≠ o)) r.recipients
    simp only [ne_eq, decide_not, Bool.not_not] at h ⊢
    exact h
  refine (List.perm_append_comm.append_left _).trans ?_
  rw [← List.append_assoc]
  exact hsplit.append_right r.notices

/-- Wherever the object is, its new recipient watches it. -/
theorem addDeathRecipient_watches :
    (r.addDeathRecipient o d).watches.Perm ((o, d) :: r.watches) := by
  unfold addDeathRecipient
  split_ifs
  · rw [watches, List.append_assoc]
    exact List.perm_middle
  · rw [watches, ← List.append_assoc]
    exact List.perm_append_comm

/-- Removing a recipient makes no registration. -/
theorem removeDeathRecipient_watches [DecidableEq δ] :
    (r.removeDeathRecipient o d).watches.Sublist r.watches :=
  List.filter_sublist.append_right r.notices

/-- A delivery answers one registration. -/
theorem takeNotice_watches (h : r.takeNotice i = some (w, r')) :
    w ∈ r.notices ∧ r.watches.Perm (w :: r'.watches) := by
  obtain ⟨notice, hi, heq⟩ := Option.map_eq_some_iff.1 h
  cases heq
  obtain ⟨hlt, rfl⟩ := List.getElem?_eq_some_iff.1 hi
  refine ⟨List.getElem_mem hlt, ?_⟩
  exact ((List.getElem_cons_eraseIdx_perm hlt).symm.append_left _).trans List.perm_middle

end

/-! ## Soundness -/

namespace Sound

variable {r r' : Remotes δ} {o : Nat} {d : δ} {i : Nat} {w : Nat × δ}

/-- An object that starts keeps the registrations sound. -/
theorem start (h : r.Sound) : r.start.Sound where
  recipients := fun w hw => List.mem_cons_of_mem _ (h.recipients w hw)
  notices := fun w hw => by
    obtain ⟨hdead, hlt⟩ := h.notices w hw
    refine ⟨fun hmem => ?_, Nat.lt_succ_of_lt hlt⟩
    rcases List.mem_cons.1 hmem with heq | hmem
    · exact absurd heq (Nat.ne_of_lt hlt)
    · exact hdead hmem
  alive := fun o ho => by
    rcases List.mem_cons.1 ho with rfl | ho
    · exact Nat.lt_succ_self _
    · exact Nat.lt_succ_of_lt (h.alive o ho)

/-- So does one that dies: its recipients become notices. -/
theorem kill (h : r.Sound) : (r.kill o).Sound where
  recipients := fun w hw => by
    obtain ⟨hmem, hne⟩ := List.mem_filter.1 hw
    exact List.mem_filter.2 ⟨h.recipients w hmem, hne⟩
  notices := fun w hw => by
    rcases List.mem_append.1 hw with hw | hw
    · obtain ⟨hdead, hlt⟩ := h.notices w hw
      exact ⟨fun hmem => hdead (List.mem_filter.1 hmem).1, hlt⟩
    · obtain ⟨hmem, heq⟩ := List.mem_filter.1 hw
      have heq : w.1 = o := of_decide_eq_true heq
      refine ⟨fun hmem => ?_, h.alive _ (h.recipients w hmem)⟩
      exact of_decide_eq_true (List.mem_filter.1 hmem).2 heq
  alive := fun o ho => h.alive o (List.mem_filter.1 ho).1

/-- So does a registration at an object that was started. -/
theorem addDeathRecipient (h : r.Sound) (ho : o < r.started) :
    (r.addDeathRecipient o d).Sound := by
  unfold Remotes.addDeathRecipient
  split_ifs with halive
  · refine ⟨fun w hw => ?_, h.notices, h.alive⟩
    rcases List.mem_append.1 hw with hw | hw
    · exact h.recipients w hw
    · cases List.mem_singleton.1 hw
      exact halive
  · refine ⟨h.recipients, fun w hw => ?_, h.alive⟩
    rcases List.mem_append.1 hw with hw | hw
    · exact h.notices w hw
    · cases List.mem_singleton.1 hw
      exact ⟨halive, ho⟩

/-- So does the removal of a recipient. -/
theorem removeDeathRecipient [DecidableEq δ] (h : r.Sound) :
    (r.removeDeathRecipient o d).Sound :=
  ⟨fun w hw => h.recipients w (List.mem_filter.1 hw).1, h.notices, h.alive⟩

/-- So does a notice that is delivered. -/
theorem takeNotice (h : r.Sound) (htake : r.takeNotice i = some (w, r')) : r'.Sound := by
  obtain ⟨notice, -, heq⟩ := Option.map_eq_some_iff.1 htake
  cases heq
  exact ⟨h.recipients, fun w hw => h.notices w (List.mem_of_mem_eraseIdx hw), h.alive⟩

end Sound

end Remotes
