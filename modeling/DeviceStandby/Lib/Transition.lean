import Mathlib.Logic.Relation

/-!
# Transition systems with guarded runs

A system is an initial state and a partial step function. `ReachableUnder` is what a run reaches
when every step it takes meets a condition on the state before the step and on the action, so a
result about the runs that avoid a defect and a result about all runs are instances of one
induction (`ReachableUnder.invariant`). What a property says of the past of a run is a ghost that
the system carries along (`System.withGhost`). An operation that is a long composition of writes is
related to its result by a chain of small effects (`Relation.ReflTransGen`); `chain_invariant` is
the rule by which an invariant is proved once for an effect.
-/

namespace Lts

universe u v w

/-- A transition system: where its runs start, and the state an action leads to. `none` is an
action that the state does not enable. -/
structure System (σ : Type u) (α : Type v) where
  init : σ
  step : σ → α → Option σ

section
variable {σ : Type u} {α : Type v} {S : System σ α} {ok ok' : σ → α → Prop} {I : σ → Prop}

/-- The states of the runs whose every step meets `ok`. -/
inductive ReachableUnder (S : System σ α) (ok : σ → α → Prop) : σ → Prop where
  | init : ReachableUnder S ok S.init
  | step {s s' : σ} {a : α} :
      ReachableUnder S ok s → ok s a → S.step s a = some s' → ReachableUnder S ok s'

/-- The states of all runs. -/
abbrev Reachable (S : System σ α) : σ → Prop := ReachableUnder S fun _ _ => True

/-- The induction over a run: what holds at its start and is kept by every step that meets the
condition holds in every state it reaches. -/
theorem ReachableUnder.invariant (h0 : I S.init)
    (hstep : ∀ {s s' a}, ReachableUnder S ok s → ok s a → S.step s a = some s' → I s → I s')
    {s : σ} (h : ReachableUnder S ok s) : I s := by
  induction h with
  | init => exact h0
  | step hr hok hs ih => exact hstep hr hok hs ih

/-- A weaker condition admits more runs. -/
theorem ReachableUnder.mono (hle : ∀ {s a}, ok s a → ok' s a) {s : σ}
    (h : ReachableUnder S ok s) : ReachableUnder S ok' s := by
  induction h with
  | init => exact .init
  | step _ hok hs ih => exact .step ih (hle hok) hs

/-- A condition that every step from a reachable state meets excludes no run. -/
theorem ReachableUnder.of_forall (hok : ∀ {s a}, Reachable S s → ok s a) {s : σ}
    (h : Reachable S s) : ReachableUnder S ok s := by
  induction h with
  | init => exact .init
  | step hr _ hs ih => exact .step ih (hok hr) hs

/-- A state of a guarded run is reachable. -/
theorem ReachableUnder.reachable {s : σ} (h : ReachableUnder S ok s) : Reachable S s :=
  h.mono fun _ => trivial

/-- Execute a list of actions; `none` when one of them is not enabled. -/
def System.run (S : System σ α) : σ → List α → Option σ
  | s, [] => some s
  | s, a :: as => (S.step s a).bind fun s' => S.run s' as

/-- The condition at every step of an execution. -/
def System.RunMeets (S : System σ α) (ok : σ → α → Prop) : σ → List α → Prop
  | _, [] => True
  | s, a :: as => ok s a ∧ ∀ s', S.step s a = some s' → S.RunMeets ok s' as

/-- An execution from a state of a guarded run, every step of which meets the condition, stays in
guarded runs. -/
theorem ReachableUnder.run {s s' : σ} {as : List α} (h : ReachableUnder S ok s)
    (hok : S.RunMeets ok s as) (hrun : S.run s as = some s') : ReachableUnder S ok s' := by
  induction as generalizing s with
  | nil => cases hrun; exact h
  | cons a as ih =>
    obtain ⟨t, hst, hrun⟩ := Option.bind_eq_some_iff.1 hrun
    exact ih (h.step hok.1 hst) (hok.2 t hst) hrun

/-- What an execution from the initial state ends in is reachable. -/
theorem reachable_of_run {s : σ} {as : List α} (hrun : S.run S.init as = some s) :
    Reachable S s := by
  refine ReachableUnder.init.run ?_ hrun
  clear hrun
  generalize S.init = t
  induction as generalizing t with
  | nil => trivial
  | cons a as ih => exact ⟨trivial, fun t' _ => ih t'⟩

/-- One step by an action that meets the condition. -/
def System.StepUnder (S : System σ α) (ok : σ → α → Prop) (s s' : σ) : Prop :=
  ∃ a, ok s a ∧ S.step s a = some s'

/-- What guarded steps lead to from a reachable state is reachable. -/
theorem ReachableUnder.steps {s s' : σ} (h : Reachable S s)
    (hsteps : Relation.ReflTransGen (S.StepUnder ok) s s') : Reachable S s' := by
  induction hsteps with
  | refl => exact h
  | tail _ hs ih =>
    obtain ⟨a, -, hs⟩ := hs
    exact ih.step trivial hs

/-- Actions that meet the condition in every state meet it throughout an execution. -/
theorem System.runMeets_of_forall (ok : σ → α → Prop) {s : σ} {as : List α}
    (h : ∀ a ∈ as, ∀ s, ok s a) :
    S.RunMeets ok s as := by
  induction as generalizing s with
  | nil => trivial
  | cons a as ih =>
    exact ⟨h a List.mem_cons_self s, fun t _ => ih fun b hb => h b (List.mem_cons_of_mem a hb)⟩

/-- What every enabled step keeps exactly when it meets the condition, an execution keeps in all its
states exactly when it meets the condition throughout. -/
theorem System.forall_take_iff_runMeets {P : σ → Prop}
    (hstep : ∀ {s s' a}, I s → P s → S.step s a = some s' → I s' ∧ (P s' ↔ ok s a))
    (hnone : ∀ {s a}, S.step s a = none → ok s a) {s : σ} (hI : I s) (hP : P s) (as : List α) :
    (∀ n s', S.run s (as.take n) = some s' → P s') ↔ S.RunMeets ok s as := by
  induction as generalizing s with
  | nil =>
    refine iff_of_true (fun n s' hs' => ?_) trivial
    rw [List.take_nil] at hs'
    cases hs'
    exact hP
  | cons a as ih =>
    have hnext : ∀ n, S.run s ((a :: as).take (n + 1)) =
        (S.step s a).bind fun t => S.run t (as.take n) := fun n => rfl
    cases hst : S.step s a with
    | none =>
      refine iff_of_true (fun n s' hs' => ?_) ⟨hnone hst, fun t ht => ?_⟩
      · cases n with
        | zero =>
          cases hs'
          exact hP
        | succ n =>
          rw [hnext, hst] at hs'
          cases hs'
      · rw [hst] at ht
        cases ht
    | some t =>
      obtain ⟨hIt, hPt⟩ := hstep hI hP hst
      simp only [hst, Option.bind_some] at hnext
      constructor
      · intro hall
        have hPt' : P t := hall 1 t (by rw [hnext]; rfl)
        refine ⟨hPt.1 hPt', fun t' ht' => ?_⟩
        rw [hst] at ht'
        cases ht'
        exact (ih hIt hPt').1 fun n s' hs' => hall (n + 1) s' (by rwa [hnext])
      · rintro ⟨hok, hrest⟩ n s' hs'
        cases n with
        | zero =>
          cases hs'
          exact hP
        | succ n =>
          rw [hnext] at hs'
          exact (ih hIt (hPt.2 hok)).2 (hrest t hst) n s' hs'

/-- An execution found by evaluation: what is decided of the state it ends in holds of a state of
guarded runs. -/
theorem System.exists_run (S : System σ α) (as : List α) (hok : S.RunMeets ok S.init as)
    (P : σ → Prop) [∀ s, Decidable (P s)]
    (h : (S.run S.init as).map (fun s => decide (P s)) = some true) :
    ∃ s, ReachableUnder S ok s ∧ P s := by
  obtain ⟨s, hrun, h⟩ := Option.map_eq_some_iff.1 h
  exact ⟨s, ReachableUnder.init.run hok hrun, of_decide_eq_true h⟩

/-- Evaluate an execution: every step meets a test, and the state it ends in meets another. -/
def System.check (S : System σ α) (test : σ → α → Bool) (P : σ → Bool) : σ → List α → Bool
  | s, [] => P s
  | s, a :: as =>
    test s a && match S.step s a with
      | none => false
      | some s' => S.check test P s' as

/-- An execution that evaluates well, its test being sufficient for `ok`, is a guarded run. -/
theorem System.exists_check (S : System σ α) (ok : σ → α → Prop) (test : σ → α → Bool)
    (htest : ∀ s a, test s a = true → ok s a) (P : σ → Bool) (as : List α)
    (h : S.check test P S.init as = true) :
    ∃ s, ReachableUnder S ok s ∧ P s = true := by
  have hrun : ∀ s, ReachableUnder S ok s → S.check test P s as = true →
      ∃ s', ReachableUnder S ok s' ∧ P s' = true := by
    clear h
    induction as with
    | nil => exact fun s hr h => ⟨s, hr, h⟩
    | cons a as ih =>
      intro s hr h
      simp only [System.check, Bool.and_eq_true] at h
      obtain ⟨ha, h⟩ := h
      split at h
      · cases h
      · rename_i t hst
        exact ih t (hr.step (htest s a ha) hst) h
  exact hrun S.init .init h

/-- An execution and a further step, found by evaluation: what is decided of the two states at its
end holds of a reachable step. -/
theorem System.exists_step (S : System σ α) (as : List α) (a : α) (P : σ → σ → Prop)
    [∀ s t, Decidable (P s t)]
    (h : ((S.run S.init as).bind fun s => (S.step s a).map fun t => decide (P s t)) = some true) :
    ∃ s t, Reachable S s ∧ S.step s a = some t ∧ P s t := by
  obtain ⟨s, hrun, h⟩ := Option.bind_eq_some_iff.1 h
  obtain ⟨t, hstep, h⟩ := Option.map_eq_some_iff.1 h
  exact ⟨s, t, reachable_of_run hrun, hstep, of_decide_eq_true h⟩

/-! ## Ghost state -/

section
variable {γ : Type w} {g : γ} {update : σ → α → σ → γ → γ}

/-- A system that carries along a value which no step reads. -/
def System.withGhost (S : System σ α) (g : γ) (update : σ → α → σ → γ → γ) :
    System (σ × γ) α where
  init := (S.init, g)
  step s a := (S.step s.1 a).map fun t => (t, update s.1 a t s.2)

theorem System.withGhost_step_iff {s t : σ × γ} {a : α} :
    (S.withGhost g update).step s a = some t ↔
      S.step s.1 a = some t.1 ∧ t.2 = update s.1 a t.1 s.2 := by
  simp only [withGhost, Option.map_eq_some_iff]
  constructor
  · rintro ⟨t, hs, rfl⟩
    exact ⟨hs, rfl⟩
  · rintro ⟨hs, ht⟩
    exact ⟨t.1, hs, by rw [← ht]⟩

/-- Without the ghost a run is a run. -/
theorem ReachableUnder.of_withGhost {ok : σ × γ → α → Prop} {s : σ × γ}
    (h : ReachableUnder (S.withGhost g update) ok s) : Reachable S s.1 := by
  induction h with
  | init => exact .init
  | step _ _ hs ih => exact ih.step trivial (System.withGhost_step_iff.1 hs).1

end

end

section
variable {σ : Type u} {E E' : σ → σ → Prop} {I : σ → Prop} {s t : σ}

/-- What every effect keeps, a chain of effects keeps. -/
theorem chain_invariant (h : Relation.ReflTransGen E s t)
    (hE : ∀ {s t}, E s t → I s → I t) (hs : I s) : I t := by
  induction h with
  | refl => exact hs
  | tail _ he ih => exact hE he ih

end

end Lts
