import Mathlib.Data.List.Nodup

/-!
# Registries of observers

A registry keeps the observers that joined, in their order and with no key twice, and hands every
published event to those that want it. What one observer receives is a matter of its own key alone:
`received_run` relates what a registry hands out to `heardFrom`, which follows a single key through
the events and knows nothing of the other observers. Between joining and leaving that is every
wanted event once and in order (`heardFrom_of_staying`), and outside nothing
(`heardFrom_of_absent`).
-/

namespace Registry

universe u v w

/-- What happens at a registry: an observer joins, and is greeted if it was not there; who has a
key leaves; an event is published. -/
inductive Event (α : Type u) (κ : Type v) (ε : Type w) where
  | join (entry : α) (greeting : List ε)
  | leave (k : κ)
  | publish (event : ε)

/-- The observers in the order they joined, no two of which have one key. -/
structure Bus {α : Type u} {κ : Type v} (key : α → κ) where
  entries : List α
  distinct : (entries.map key).Nodup

variable {α : Type u} {κ : Type v} {ε : Type w} [DecidableEq κ] {key : α → κ}

namespace Bus

/-- Nobody has joined. -/
def empty : Bus key := ⟨[], List.nodup_nil⟩

/-- Who has a key. -/
def member? (b : Bus key) (k : κ) : Option α :=
  b.entries.find? fun entry => key entry = k

/-- An observer with a new key joins. -/
def join (b : Bus key) (entry : α) (h : key entry ∉ b.entries.map key) : Bus key where
  entries := b.entries ++ [entry]
  distinct := by
    rw [List.map_append, List.nodup_append]
    refine ⟨b.distinct, List.nodup_singleton _, ?_⟩
    rintro k hk _ hentry rfl
    exact h (List.mem_singleton.1 hentry ▸ hk)

/-- Who has a key leaves. -/
def leave (b : Bus key) (k : κ) : Bus key where
  entries := b.entries.filter fun entry => key entry ≠ k
  distinct := b.distinct.sublist (List.filter_sublist.map key)

/-- An event changes who has joined, and is handed out. -/
def handle (wants : α → ε → Bool) (b : Bus key) : Event α κ ε → Bus key × List (α × ε)
  | .join entry greeting =>
    if h : key entry ∈ b.entries.map key then (b, [])
    else (b.join entry h, greeting.map fun event => (entry, event))
  | .leave k => (b.leave k, [])
  | .publish event =>
    (b, (b.entries.filter (wants · event)).map fun entry => (entry, event))

/-- Some events, and all that is handed out. -/
def run (wants : α → ε → Bool) (b : Bus key) : List (Event α κ ε) → Bus key × List (α × ε)
  | [] => (b, [])
  | event :: events =>
    let (b, handed) := b.handle wants event
    let (b, rest) := run wants b events
    (b, handed ++ rest)

end Bus

/-- What is handed to who has a key. -/
def received (key : α → κ) (k : κ) (handed : List (α × ε)) : List ε :=
  handed.filterMap fun (entry, event) => if key entry = k then some event else none

/-! ## One key -/

/-- Who has a key after an event. -/
def memberAfter (key : α → κ) (k : κ) (member : Option α) : Event α κ ε → Option α
  | .join entry _ => if key entry = k then member.or (some entry) else member
  | .leave k' => if k' = k then none else member
  | .publish _ => member

/-- What an event brings who has a key. -/
def due (wants : α → ε → Bool) (key : α → κ) (k : κ) (member : Option α) :
    Event α κ ε → List ε
  | .join entry greeting => if key entry = k ∧ member = none then greeting else []
  | .leave _ => []
  | .publish event => if member.any (wants · event) then [event] else []

/-- What some events bring who has a key. -/
def heardFrom (wants : α → ε → Bool) (key : α → κ) (k : κ) :
    Option α → List (Event α κ ε) → List ε
  | _, [] => []
  | member, event :: events =>
    due wants key k member event ++ heardFrom wants key k (memberAfter key k member event) events

/-- The events that are published. -/
def published (events : List (Event α κ ε)) : List ε :=
  events.filterMap fun
    | .publish event => some event
    | .join .. | .leave _ => none

section
variable {wants : α → ε → Bool} {k : κ} {b : Bus key} {a entry : α} {member : Option α}
  {event : Event α κ ε} {events events' : List (Event α κ ε)} {handed handed' : List (α × ε)}

/-- What a key receives is received in order. -/
theorem received_append :
    received key k (handed ++ handed') = received key k handed ++ received key k handed' :=
  List.filterMap_append

/-- What one observer is handed is received under its key only. -/
theorem received_map_pair {es : List ε} :
    received key k (es.map fun event => (entry, event)) = if key entry = k then es else [] := by
  unfold received
  rw [List.filterMap_map]
  split_ifs with hkey <;> simp [hkey]

/-- Who stays hears every event that it wants, once and in order. -/
theorem heardFrom_of_staying (h : .leave k ∉ events) :
    heardFrom wants key k (some a) events = (published events).filter (wants a) ∧
      events.foldl (memberAfter key k) (some a) = some a := by
  induction events with
  | nil => exact ⟨rfl, rfl⟩
  | cons event events ih =>
    obtain ⟨hne, hrest⟩ := not_or.1 (mt List.mem_cons.2 h)
    have hstays : memberAfter key k (some a) event = some a := by
      cases event with
      | join entry greeting => simp [memberAfter]
      | leave k' => exact if_neg fun heq => hne (by rw [heq])
      | publish event => rfl
    rw [heardFrom, List.foldl_cons, hstays, (ih hrest).1, (ih hrest).2]
    refine ⟨?_, rfl⟩
    cases event with
    | join entry greeting => simp [due, published]
    | leave k' => rfl
    | publish event =>
      have hhead : published (.publish event :: events : List (Event α κ ε)) =
          event :: published events := rfl
      rw [hhead, List.filter_cons, due, Option.any_some]
      split_ifs <;> rfl

/-- Who has not joined hears nothing. -/
theorem heardFrom_of_absent (h : ∀ entry greeting, .join entry greeting ∈ events → key entry ≠ k) :
    heardFrom wants key k none events = [] := by
  induction events with
  | nil => rfl
  | cons event events ih =>
    have hnone : due wants key k none event = [] ∧ memberAfter key k none event = none := by
      cases event with
      | join entry greeting =>
        have hne := h entry greeting List.mem_cons_self
        simp [due, memberAfter, hne]
      | leave k' => simp [due, memberAfter]
      | publish event => simp [due, memberAfter]
    rw [heardFrom, hnone.1, hnone.2, List.nil_append]
    exact ih fun entry greeting hmem => h entry greeting (List.mem_cons_of_mem _ hmem)

/-! ## A registry and one key -/

namespace Bus

/-- A member is an entry with its key. -/
theorem mem_entries_of_member? (h : b.member? k = some a) : a ∈ b.entries ∧ key a = k :=
  ⟨List.mem_of_find?_eq_some h, by simpa using List.find?_some h⟩

/-- A key without a member has no entry. -/
theorem member?_eq_none_iff : b.member? k = none ↔ k ∉ b.entries.map key := by
  simp [member?, List.find?_eq_none]

/-- Who has a key is the only one that has it. -/
theorem member?_eq_some_iff : b.member? k = some a ↔ a ∈ b.entries ∧ key a = k := by
  refine ⟨mem_entries_of_member?, fun ⟨hmem, hkey⟩ => ?_⟩
  cases hfind : b.member? k with
  | none =>
    exact absurd (List.mem_map.2 ⟨a, hmem, hkey⟩) (member?_eq_none_iff.1 hfind)
  | some a' =>
    obtain ⟨hmem', hkey'⟩ := mem_entries_of_member? hfind
    rw [List.inj_on_of_nodup_map b.distinct hmem' hmem (hkey'.trans hkey.symm)]

/-- An event changes who has a key as one that follows the key alone says. -/
theorem member?_handle : (b.handle wants event).1.member? k =
    memberAfter key k (b.member? k) event := by
  cases event with
  | join entry greeting =>
    dsimp only [handle, memberAfter]
    split_ifs with hmem hkey hkey
    · subst hkey
      cases hfind : b.member? (key entry) with
      | none => exact absurd hmem (member?_eq_none_iff.1 hfind)
      | some a => rfl
    · rfl
    · simp [join, member?, hkey, List.find?_append]
    · simp [join, member?, hkey, List.find?_append]
  | leave k' =>
    dsimp only [handle, memberAfter]
    split_ifs with hkey
    · subst hkey
      rw [member?_eq_none_iff]
      simp [leave]
    · ext a
      simp only [member?_eq_some_iff, leave, List.mem_filter, decide_eq_true_eq]
      constructor
      · rintro ⟨⟨hmem, -⟩, ha⟩
        exact ⟨hmem, ha⟩
      · rintro ⟨hmem, rfl⟩
        exact ⟨⟨hmem, fun h => hkey h.symm⟩, rfl⟩
  | publish event => rfl

/-- Who is not there need not leave. -/
theorem leave_of_notMem (h : k ∉ b.entries.map key) : (b.leave k).entries = b.entries :=
  List.filter_eq_self.2 fun entry hentry =>
    decide_eq_true fun hkey => h (List.mem_map.2 ⟨entry, hentry, hkey⟩)

/-- Taking out the first observer with a key takes out the only one. -/
theorem eraseP_entries : b.entries.eraseP (fun entry => key entry = k) = (b.leave k).entries := by
  obtain ⟨entries, distinct⟩ := b
  unfold leave
  dsimp only
  induction entries with
  | nil => rfl
  | cons entry entries ih =>
    obtain ⟨hnew, distinct⟩ := List.nodup_cons.1 distinct
    by_cases hkey : key entry = k
    · subst hkey
      have hothers : ∀ other ∈ entries, key other ≠ key entry := fun other hother heq =>
        hnew (List.mem_map.2 ⟨other, hother, heq⟩)
      rw [List.eraseP_cons_of_pos (by simp), List.filter_cons_of_neg (by simp)]
      exact (List.filter_eq_self.2 fun other hother => by simpa using hothers other hother).symm
    · rw [List.eraseP_cons_of_neg (by simpa using hkey),
        List.filter_cons_of_pos (by simpa using hkey), ih distinct]

/-- The only observer with a key is handed a published event at most once. -/
theorem received_publish {event : ε} :
    received key k ((b.entries.filter (wants · event)).map fun entry => (entry, event)) =
      if (b.member? k).any (wants · event) then [event] else [] := by
  obtain ⟨entries, distinct⟩ := b
  unfold received member?
  rw [List.filterMap_map]
  induction entries with
  | nil => rfl
  | cons entry entries ih =>
    obtain ⟨hnew, distinct⟩ := List.nodup_cons.1 distinct
    specialize ih distinct
    by_cases hkey : key entry = k
    · subst hkey
      -- the others have other keys
      have hothers : ∀ other ∈ entries, wants other event = true → key other ≠ key entry :=
        fun other hother _ heq => hnew (List.mem_map.2 ⟨other, hother, heq⟩)
      cases hwants : wants entry event <;> simpa [hwants] using hothers
    · cases hwants : wants entry event <;> simpa [hwants, hkey] using ih

/-- What is handed out under a key at an event is due under it. -/
theorem received_handle : received key k (b.handle wants event).2 =
    due wants key k (b.member? k) event := by
  cases event with
  | join entry greeting =>
    dsimp only [handle, due]
    split_ifs with hmem hdue hdue
    · obtain ⟨rfl, hnone⟩ := hdue
      exact absurd hmem (member?_eq_none_iff.1 hnone)
    · rfl
    · rw [received_map_pair, if_pos hdue.1]
    · rw [received_map_pair, if_neg fun hkey => hdue ⟨hkey, member?_eq_none_iff.2 (hkey ▸ hmem)⟩]
  | leave k' => rfl
  | publish event => exact received_publish

/-- What is handed out under a key over some events is what one hears who follows it alone. -/
theorem received_run : received key k (b.run wants events).2 =
    heardFrom wants key k (b.member? k) events := by
  induction events generalizing b with
  | nil => rfl
  | cons event events ih =>
    rw [run]
    dsimp only
    rw [received_append, received_handle, ih, member?_handle, heardFrom]

/-- An event is handed to the entries that want it. -/
@[simp]
theorem handle_publish {event : ε} : b.handle wants (.publish event) =
    (b, (b.entries.filter (wants · event)).map fun entry => (entry, event)) := rfl

/-- Leaving hands out nothing. -/
@[simp]
theorem handle_leave : b.handle wants (.leave k) = (b.leave k, []) := rfl

/-- Who is there already does not join again. -/
theorem handle_join_of_mem {greeting : List ε} (h : key entry ∈ b.entries.map key) :
    b.handle wants (.join entry greeting) = (b, []) :=
  dif_pos h

/-- Who joins is greeted, unless it is there already. -/
theorem handle_join_of_notMem {greeting : List ε} (h : key entry ∉ b.entries.map key) :
    b.handle wants (.join entry greeting) =
      (b.join entry h, greeting.map fun event => (entry, event)) :=
  dif_neg h

/-- One event. -/
@[simp]
theorem run_singleton : b.run wants [event] = b.handle wants event := by
  simp [run]

/-- Some events and then others. -/
theorem run_append : b.run wants (events ++ events') =
    (((b.run wants events).1.run wants events').1,
      (b.run wants events).2 ++ ((b.run wants events).1.run wants events').2) := by
  induction events generalizing b with
  | nil => rfl
  | cons event events ih =>
    rw [List.cons_append, run, run]
    dsimp only
    rw [ih, List.append_assoc]

/-- Who has a key after some events. -/
theorem member?_run : (b.run wants events).1.member? k =
    events.foldl (memberAfter key k) (b.member? k) := by
  induction events generalizing b with
  | nil => rfl
  | cons event events ih =>
    rw [run]
    dsimp only
    rw [ih, member?_handle, List.foldl_cons]

end Bus

end

end Registry
