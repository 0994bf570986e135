import Mathlib.Data.List.Infix
import Mathlib.Logic.Function.Basic

/-!
# Values in a buffer

A codec says how a value is appended to a buffer, which may fail, and how one is taken from its
front. A lawful codec reads what it has written, whatever follows, and what follows does not change
what it reads; so it reads nothing from a part of what it has written (`Lawful.read_of_prefix`).
Both laws pass to sequences of fields, and to records of them.
-/

/-- How the values of a type are written to a buffer and read from one. -/
structure Codec (β α : Type) where
  write : α → List β → Option (List β)
  read : List β → Option (α × List β)

namespace Codec

variable {β α γ δ : Type}

/-- What is appended for a value: it is read as the value, and it is all that is read. -/
def Represents (c : Codec β α) (w : List β) (a : α) : Prop :=
  ∀ rest, c.read (w ++ rest) = some (a, rest)

/-- The laws, for the values that the buffer can hold. -/
structure Lawful (c : Codec β α) (valid : α → Prop) : Prop where
  write : ∀ {a buffer buffer'}, valid a → c.write a buffer = some buffer' →
    ∃ w, buffer' = buffer ++ w ∧ c.Represents w a
  read_append : ∀ {buffer a rest} more, c.read buffer = some (a, rest) →
    c.read (buffer ++ more) = some (a, rest ++ more)

/-- Two fields, one after the other. -/
def pair (c : Codec β α) (d : Codec β γ) : Codec β (α × γ) where
  write a buffer := (c.write a.1 buffer).bind (d.write a.2)
  read buffer := (c.read buffer).bind fun first =>
    (d.read first.2).map fun second => ((first.1, second.1), second.2)

/-- The fields of a record. -/
def record (c : Codec β α) (make : α → γ) (fields : γ → α) : Codec β γ where
  write a := c.write (fields a)
  read buffer := (c.read buffer).map fun result => (make result.1, result.2)

/-- A value that takes one place of the buffer. -/
def single (put : α → β) (get : β → Option α) : Codec β α where
  write a buffer := some (buffer ++ [put a])
  read
    | [] => none
    | b :: rest => (get b).map fun a => (a, rest)

section
variable {c : Codec β α} {d : Codec β γ} {valid : α → Prop} {valid' : γ → Prop} {a : α}
  {w w' : List β}

/-- Two fields are read one after the other. -/
theorem bind_pair_read {buffer : List β} {f : (α × γ) × List β → Option δ} :
    ((c.pair d).read buffer).bind f = (c.read buffer).bind fun first =>
      (d.read first.2).bind fun second => f ((first.1, second.1), second.2) := by
  dsimp only [Codec.pair]
  rw [Option.bind_assoc]
  exact congrArg _ (funext fun first => Option.bind_map ..)

/-- A record is read as its fields. -/
theorem bind_record_read {buffer : List β} {make : α → γ} {fields : γ → α}
    {f : γ × List β → Option δ} : ((c.record make fields).read buffer).bind f =
      (c.read buffer).bind fun result => f (make result.1, result.2) :=
  Option.bind_map ..

/-- What represents a value is read, also when nothing follows. -/
theorem Represents.read (h : c.Represents w a) : c.read w = some (a, []) := by
  have hread := h []
  rwa [List.append_nil] at hread

/-- Nothing is read from a part of what represents a value. -/
theorem Lawful.read_of_prefix (hc : c.Lawful valid) (h : c.Represents w a) (hw : w' <+: w)
    (hne : w' ≠ w) : c.read w' = none := by
  obtain ⟨more, rfl⟩ := hw
  cases hread : c.read w' with
  | none => rfl
  | some result =>
    obtain ⟨b, rest⟩ := result
    have hmore := hc.read_append more hread
    rw [h.read, Option.some.injEq, Prod.mk.injEq] at hmore
    obtain ⟨-, rfl⟩ := List.append_eq_nil_iff.1 hmore.2.symm
    exact absurd (List.append_nil w').symm hne

/-- A representation determines its value. -/
theorem Represents.unique {b : α} (h : c.Represents w a) (h' : c.Represents w b) : a = b := by
  have heq := h.read.symm.trans h'.read
  rw [Option.some.injEq, Prod.mk.injEq] at heq
  exact heq.1

/-- Two lawful codecs one after the other are lawful. -/
theorem Lawful.pair (hc : c.Lawful valid) (hd : d.Lawful valid') :
    (c.pair d).Lawful fun a => valid a.1 ∧ valid' a.2 where
  write {a buffer buffer'} hvalid hwrite := by
    obtain ⟨middle, hfirst, hsecond⟩ := Option.bind_eq_some_iff.1 hwrite
    obtain ⟨w, rfl, hw⟩ := hc.write hvalid.1 hfirst
    obtain ⟨w', rfl, hw'⟩ := hd.write hvalid.2 hsecond
    refine ⟨w ++ w', List.append_assoc .., fun rest => ?_⟩
    dsimp only [Codec.pair]
    rw [List.append_assoc, hw, Option.bind_some, hw', Option.map_some]
  read_append {buffer a rest} more hread := by
    obtain ⟨⟨b, middle⟩, hfirst, hrest⟩ := Option.bind_eq_some_iff.1 hread
    obtain ⟨⟨b', rest'⟩, hsecond, heq⟩ := Option.map_eq_some_iff.1 hrest
    cases heq
    dsimp only [Codec.pair]
    rw [hc.read_append more hfirst, Option.bind_some, hd.read_append more hsecond, Option.map_some]

/-- A record of lawful fields is lawful, where it is made of its fields again. -/
theorem Lawful.record (hc : c.Lawful valid) {make : α → γ} {fields : γ → α}
    (hfields : ∀ b, valid' b → valid (fields b) ∧ make (fields b) = b) :
    (c.record make fields).Lawful valid' where
  write {b buffer buffer'} hvalid hwrite := by
    obtain ⟨w, rfl, hw⟩ := hc.write (hfields b hvalid).1 hwrite
    refine ⟨w, rfl, fun rest => ?_⟩
    dsimp only [Codec.record]
    rw [hw, Option.map_some, (hfields b hvalid).2]
  read_append {buffer b rest} more hread := by
    obtain ⟨⟨a, rest'⟩, hfields', heq⟩ := Option.map_eq_some_iff.1 hread
    cases heq
    dsimp only [Codec.record]
    rw [hc.read_append more hfields', Option.map_some]

/-- A value in one cell is lawful when the cell gives it back. -/
theorem lawful_single {put : α → β} {get : β → Option α} (h : ∀ a, get (put a) = some a) :
    (single put get).Lawful fun _ => True where
  write {a buffer buffer'} _ hwrite := by
    refine ⟨[put a], (Option.some.inj hwrite).symm, fun rest => ?_⟩
    show (get (put a)).map _ = _
    rw [h, Option.map_some]
    rfl
  read_append {buffer a rest} more hread := by
    cases buffer with
    | nil => cases hread
    | cons b buffer =>
      obtain ⟨a', hget, heq⟩ := Option.map_eq_some_iff.1 hread
      cases heq
      show (get b).map _ = _
      rw [hget, Option.map_some, List.append_eq]

end

end Codec
