import DeviceStandby.Lib.Transition

/-!
# Machines that answer, and what cannot influence them

A machine answers every action, and an execution of it has a log of what was asked and answered. An
unwinding hides some entries of a log, by what was asked or by the answer, and relates the states
that the others do not tell apart: a hidden action stays within the relation, and a visible one is
answered alike in related states. Then an execution without its hidden actions is an execution with
the same answers (`Unwinding.exec`). Over equality this says that the hidden actions have no
influence at all.
-/

namespace Lts

universe u v w

/-- A machine: where it starts, and the state an action leads to with the answer it gets. `none` is
an action that the state does not enable. -/
structure Machine (σ : Type u) (α : Type v) (ω : Type w) where
  init : σ
  step : σ → α → Option (σ × ω)

variable {σ : Type u} {α : Type v} {ω : Type w} {M : Machine σ α ω} {hidden : α → ω → Prop}
  {R : σ → σ → Prop} {s s' t : σ} {a : α} {as : List α} {log : List (α × ω)}

/-- The transition system of a machine, without the answers. -/
def Machine.system (M : Machine σ α ω) : System σ α where
  init := M.init
  step s a := (M.step s a).map Prod.fst

/-- A step of the system gets some answer. -/
theorem Machine.system_step_iff :
    M.system.step s a = some t ↔ ∃ answer, M.step s a = some (t, answer) := by
  refine Option.map_eq_some_iff.trans ⟨?_, ?_⟩
  · rintro ⟨⟨t, answer⟩, hstep, rfl⟩
    exact ⟨answer, hstep⟩
  · rintro ⟨answer, hstep⟩
    exact ⟨(t, answer), hstep, rfl⟩

/-- Execute a list of actions; the log has each of them with its answer. -/
def Machine.exec (M : Machine σ α ω) : σ → List α → Option (σ × List (α × ω))
  | s, [] => some (s, [])
  | s, a :: as =>
    (M.step s a).bind fun next =>
      (M.exec next.1 as).map fun rest => (rest.1, (a, next.2) :: rest.2)

/-- An execution of an action and others. -/
theorem Machine.exec_cons :
    M.exec s (a :: as) = some (t, log) ↔ ∃ next answer rest,
      M.step s a = some (next, answer) ∧ M.exec next as = some (t, rest) ∧
        log = (a, answer) :: rest := by
  rw [exec, Option.bind_eq_some_iff]
  constructor
  · rintro ⟨⟨next, answer⟩, hstep, hexec⟩
    obtain ⟨⟨t', rest⟩, hrest, heq⟩ := Option.map_eq_some_iff.1 hexec
    obtain ⟨rfl, rfl⟩ := Prod.mk.inj heq
    exact ⟨next, answer, rest, hstep, hrest, rfl⟩
  · rintro ⟨next, answer, rest, hstep, hexec, rfl⟩
    exact ⟨(next, answer), hstep, Option.map_eq_some_iff.2 ⟨(t, rest), hexec, rfl⟩⟩

/-- A log has the actions that were executed. -/
theorem Machine.map_log (h : M.exec s as = some (t, log)) : log.map Prod.fst = as := by
  induction as generalizing s log with
  | nil =>
    cases h
    rfl
  | cons a as ih =>
    obtain ⟨next, answer, rest, -, hrest, rfl⟩ := Machine.exec_cons.1 h
    rw [List.map_cons, ih hrest]

/-- An entry of a log is a step between what was executed before it and what was executed after. -/
theorem Machine.exec_split {answer : ω} {log₁ log₂ : List (α × ω)}
    (h : M.exec s as = some (t, log₁ ++ (a, answer) :: log₂)) :
    ∃ before after, M.exec s (log₁.map Prod.fst) = some (before, log₁) ∧
      M.step before a = some (after, answer) ∧
        M.exec after (log₂.map Prod.fst) = some (t, log₂) := by
  induction as generalizing s log₁ with
  | nil =>
    have hlog := congrArg Prod.snd (Option.some.inj h)
    exact absurd hlog.symm (List.append_ne_nil_of_right_ne_nil _ (List.cons_ne_nil _ _))
  | cons b as ih =>
    obtain ⟨next, answer', rest, hs, hrest, hlog⟩ := Machine.exec_cons.1 h
    cases log₁ with
    | nil =>
      cases hlog
      exact ⟨s, next, rfl, hs, by rwa [Machine.map_log hrest]⟩
    | cons entry log₁ =>
      cases hlog
      obtain ⟨before, after, hbefore, hstep, hafter⟩ := ih hrest
      exact ⟨before, after, Machine.exec_cons.2 ⟨next, _, log₁, hs, hbefore, rfl⟩, hstep, hafter⟩

/-- An entry of a log is a step that was taken. -/
theorem Machine.exists_step_of_mem {answer : ω} (h : M.exec s as = some (t, log))
    (hmem : (a, answer) ∈ log) : ∃ before after, M.step before a = some (after, answer) := by
  obtain ⟨log₁, log₂, rfl⟩ := List.append_of_mem hmem
  obtain ⟨before, after, -, hstep, -⟩ := Machine.exec_split h
  exact ⟨before, after, hstep⟩

/-- Hidden actions stay within a relation, and visible ones are answered alike in related states. -/
structure Unwinding (M : Machine σ α ω) (hidden : α → ω → Prop) (R : σ → σ → Prop) : Prop where
  hides : ∀ {s s' t a answer}, hidden a answer → R s s' → M.step s a = some (t, answer) → R t s'
  shows : ∀ {s s' t a answer}, ¬ hidden a answer → R s s' → M.step s a = some (t, answer) →
    ∃ t', M.step s' a = some (t', answer) ∧ R t t'

/-- An execution goes without its hidden actions as well, with the same answers to the others. -/
theorem Unwinding.exec [∀ a, DecidablePred (hidden a)] (h : Unwinding M hidden R) (hR : R s s')
    (hexec : M.exec s as = some (t, log)) :
    ∃ t', M.exec s' ((log.filter fun entry => ¬ hidden entry.1 entry.2).map Prod.fst) =
      some (t', log.filter fun entry => ¬ hidden entry.1 entry.2) ∧ R t t' := by
  induction as generalizing s s' log with
  | nil =>
    cases hexec
    exact ⟨s', rfl, hR⟩
  | cons a as ih =>
    obtain ⟨next, answer, rest, hs, hrest, rfl⟩ := Machine.exec_cons.1 hexec
    by_cases ha : hidden a answer
    · rw [List.filter_cons_of_neg (by simpa using ha)]
      exact ih (h.hides ha hR hs) hrest
    · rw [List.filter_cons_of_pos (by simpa using ha), List.map_cons]
      obtain ⟨next', hs', hR⟩ := h.shows ha hR hs
      obtain ⟨t', hexec', hR⟩ := ih hR hrest
      exact ⟨t', Machine.exec_cons.2 ⟨next', answer, _, hs', hexec', rfl⟩, hR⟩

/-- Actions that change nothing have no influence. -/
theorem Unwinding.of_unchanged
    (h : ∀ {s t a answer}, hidden a answer → M.step s a = some (t, answer) → t = s) :
    Unwinding M hidden Eq where
  hides ha hR hs := (h ha hs).trans hR
  shows _ hR hs := ⟨_, hR ▸ hs, rfl⟩

end Lts
