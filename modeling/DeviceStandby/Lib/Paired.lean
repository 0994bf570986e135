import DeviceStandby.Lib.Transition

/-!
# Two runs side by side

What holds of every two runs that differ only in hidden actions is an invariant of the system that
makes both runs at once: it takes the visible actions in both, and the hidden ones in either.
`ReachableUnder.paired` is the rule, and `System.exists_paired_run` says that no two such runs are
missed.
-/

namespace Lts

universe u v

/-- An action of two runs: one that both take, or one that only one of them takes. -/
inductive PairAction (α : Type v) where
  | both (a : α)
  | left (a : α)
  | right (a : α)

variable {σ : Type u} {α : Type v} {S : System σ α} {hidden : α → Prop} [DecidablePred hidden]

/-- Two runs of a system, each of which may take hidden actions of its own. -/
def System.paired (S : System σ α) (hidden : α → Prop) [DecidablePred hidden] :
    System (σ × σ) (PairAction α) where
  init := (S.init, S.init)
  step s
    | .both a => (S.step s.1 a).bind fun t => (S.step s.2 a).map fun t' => (t, t')
    | .left a => if hidden a then (S.step s.1 a).map fun t => (t, s.2) else none
    | .right a => if hidden a then (S.step s.2 a).map fun t => (s.1, t) else none

/-- The rule for two runs: a symmetric relation that holds at their start, and is kept by the steps
of both and by the hidden steps of one. -/
theorem ReachableUnder.paired {R : σ → σ → Prop} {ok : σ × σ → PairAction α → Prop}
    (h0 : R S.init S.init) (hsymm : ∀ {s t}, R s t → R t s)
    (hboth : ∀ {s s' t t' a}, ok (s, s') (.both a) → S.step s a = some t → S.step s' a = some t' →
      R s s' → R t t')
    (hhidden : ∀ {s s' t a}, hidden a → S.step s a = some t → R s s' → R t s')
    {s : σ × σ} (h : ReachableUnder (S.paired hidden) ok s) : R s.1 s.2 := by
  refine h.invariant (I := fun s => R s.1 s.2) h0 fun {s t a} _ hok hst hs => ?_
  cases a with
  | both a =>
    obtain ⟨t₁, ht₁, hst⟩ := Option.bind_eq_some_iff.1 hst
    obtain ⟨t₂, ht₂, rfl⟩ := Option.map_eq_some_iff.1 hst
    exact hboth hok ht₁ ht₂ hs
  | left a =>
    obtain ⟨ha, hst⟩ := Option.ite_none_right_eq_some.1 hst
    obtain ⟨t₁, ht₁, rfl⟩ := Option.map_eq_some_iff.1 hst
    exact hhidden ha ht₁ hs
  | right a =>
    obtain ⟨ha, hst⟩ := Option.ite_none_right_eq_some.1 hst
    obtain ⟨t₂, ht₂, rfl⟩ := Option.map_eq_some_iff.1 hst
    exact hsymm (hhidden ha ht₂ (hsymm hs))

/-- Two executions that take the same visible actions are one execution of both. -/
theorem System.exists_paired_run {s s' t t' : σ} {as bs : List α}
    (h : as.filter (¬ hidden ·) = bs.filter (¬ hidden ·)) (hs : S.run s as = some t)
    (ht : S.run s' bs = some t') :
    ∃ cs, (S.paired hidden).run (s, s') cs = some (t, t') := by
  induction as generalizing s s' bs with
  | nil =>
    cases hs
    -- the second run goes on alone
    induction bs generalizing s' with
    | nil =>
      cases ht
      exact ⟨[], rfl⟩
    | cons b bs ih =>
      obtain ⟨u, hu, ht⟩ := Option.bind_eq_some_iff.1 ht
      have hb : hidden b := Decidable.byContradiction fun hb => by
        rw [List.filter_cons_of_pos (by simpa using hb)] at h
        cases h
      rw [List.filter_cons_of_neg (by simpa using hb)] at h
      obtain ⟨cs, hcs⟩ := ih h ht
      exact ⟨.right b :: cs, by simpa [run, paired, hb, hu] using hcs⟩
  | cons a as ih =>
    obtain ⟨u, hu, hs⟩ := Option.bind_eq_some_iff.1 hs
    by_cases ha : hidden a
    · rw [List.filter_cons_of_neg (by simpa using ha)] at h
      obtain ⟨cs, hcs⟩ := ih h hs ht
      exact ⟨.left a :: cs, by simpa [run, paired, ha, hu] using hcs⟩
    · rw [List.filter_cons_of_pos (by simpa using ha)] at h
      -- the second run takes its hidden actions first
      induction bs generalizing s' with
      | nil => cases h
      | cons b bs ih' =>
        obtain ⟨u', hu', hafter⟩ := Option.bind_eq_some_iff.1 ht
        by_cases hb : hidden b
        · rw [List.filter_cons_of_neg (by simpa using hb)] at h
          obtain ⟨cs, hcs⟩ := ih' h hafter
          exact ⟨.right b :: cs, by simpa [run, paired, hb, hu'] using hcs⟩
        · rw [List.filter_cons_of_pos (by simpa using hb)] at h
          obtain ⟨rfl, hrest⟩ := List.cons.inj h
          obtain ⟨cs, hcs⟩ := ih hrest hs hafter
          exact ⟨.both a :: cs, by simpa [run, paired, hu, hu'] using hcs⟩

end Lts
