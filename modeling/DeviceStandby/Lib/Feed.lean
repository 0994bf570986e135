import DeviceStandby.Lib.Transition

/-!
# Systems that are listened to

`System.feed` puts a listener beside a system: the listener takes in what a step emits, and between
the steps of the system others may act on it. A party that hears news knows the system as far as
the news let it follow a view of it; `System.run_follows` carries that from one step to a run.
-/

namespace Lts

universe u v w x

variable {σ : Type u} {α : Type v} {τ : Type w} {β : Type x} {S : System σ α}

/-- A system and its listener, which takes in what the steps of the system emit, and what others do
to it. -/
def System.feed (S : System σ α) (emits : σ → α → σ → List β) (listener : τ)
    (take : τ → β → τ) : System (σ × τ) (α ⊕ β) where
  init := (S.init, listener)
  step s
    | .inl a => (S.step s.1 a).map fun t => (t, (emits s.1 a t).foldl take s.2)
    | .inr b => some (s.1, take s.2 b)

section
variable {emits : σ → α → σ → List β} {listener : τ} {take : τ → β → τ}

/-- A step of the system is one with the listener. -/
theorem System.feed_step_inl {s t : σ × τ} {a : α} :
    (S.feed emits listener take).step s (.inl a) = some t ↔
      S.step s.1 a = some t.1 ∧ t.2 = (emits s.1 a t.1).foldl take s.2 := by
  simp only [feed, Option.map_eq_some_iff]
  constructor
  · rintro ⟨t, ht, rfl⟩
    exact ⟨ht, rfl⟩
  · rintro ⟨ht, hlistener⟩
    exact ⟨t.1, ht, by rw [← hlistener]⟩

/-- What others do to the listener leaves the system alone. -/
theorem System.feed_step_inr {s t : σ × τ} {b : β} :
    (S.feed emits listener take).step s (.inr b) = some t ↔ t = (s.1, take s.2 b) := by
  simp only [feed, Option.some.injEq]
  exact eq_comm

/-- The listener does not keep the system from anything, nor lets it do more. -/
theorem ReachableUnder.of_feed {ok : σ × τ → α ⊕ β → Prop} {ok' : σ → α → Prop}
    (hok : ∀ {s a}, ok s (.inl a) → ok' s.1 a) {s : σ × τ}
    (h : ReachableUnder (S.feed emits listener take) ok s) : ReachableUnder S ok' s.1 := by
  induction h with
  | init => exact .init
  | @step s t a _ hmeets hst ih =>
    cases a with
    | inl a => exact ih.step (hok hmeets) (System.feed_step_inl.1 hst).1
    | inr b =>
      rw [System.feed_step_inr.1 hst]
      exact ih

end

section
variable {ε : Type w} {V : Type x} {ok : σ → α → Prop} {I : σ → Prop} {heard : σ → List ε}
  {view : σ → V} {follow : V → ε → Option V}

/-- News let follow a view from one state to another. -/
def Follows (heard : σ → List ε) (view : σ → V) (follow : V → ε → Option V) (s t : σ) : Prop :=
  ∃ news, heard t = heard s ++ news ∧ news.foldlM follow (view s) = some (view t)

theorem Follows.refl {s : σ} : Follows heard view follow s s :=
  ⟨[], (List.append_nil _).symm, rfl⟩

theorem Follows.trans {s t u : σ} (h : Follows heard view follow s t)
    (h' : Follows heard view follow t u) : Follows heard view follow s u := by
  obtain ⟨news, hheard, hfollow⟩ := h
  obtain ⟨news', hheard', hfollow'⟩ := h'
  refine ⟨news ++ news', by rw [hheard', hheard, List.append_assoc], ?_⟩
  rw [List.foldlM_append, hfollow]
  exact hfollow'

/-- News that each leave a view as it is leave it together. -/
theorem foldlM_eq_self {known : V} {news : List ε} (h : ∀ e ∈ news, follow known e = some known) :
    news.foldlM follow known = some known := by
  induction news with
  | nil => rfl
  | cons e news ih =>
    rw [List.foldlM_cons, h e List.mem_cons_self]
    exact ih fun e he => h e (List.mem_cons_of_mem _ he)

/-- Who can follow a view over every step that meets a condition can follow it over every execution
whose steps meet it. -/
theorem System.run_follows
    (hstep : ∀ {s t a}, I s → ok s a → S.step s a = some t →
      I t ∧ Follows heard view follow s t)
    {s t : σ} {as : List α} (hI : I s) (hok : S.RunMeets ok s as) (hrun : S.run s as = some t) :
    I t ∧ Follows heard view follow s t := by
  induction as generalizing s with
  | nil =>
    cases hrun
    exact ⟨hI, .refl⟩
  | cons a as ih =>
    obtain ⟨u, hst, hrun⟩ := Option.bind_eq_some_iff.1 hrun
    obtain ⟨hI, hfollows⟩ := hstep hI hok.1 hst
    obtain ⟨hI, hrest⟩ := ih hI (hok.2 u hst) hrun
    exact ⟨hI, hfollows.trans hrest⟩

end

end Lts
