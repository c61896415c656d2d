import Mathlib.Tactic.Common

/-!
# Function bodies with state and exceptions

`Stateful ε σ α` is the meaning of a C++ function body that reads and writes a `σ`, returns an
`α` and may throw an `ε`. What was written before an exception stays written. A body that acts on
one component of a larger state is lifted by `zoom`.
-/

/-- A computation that returns a value gets past its first part. -/
theorem Except.exists_of_bind_eq_ok {ε α β : Type} {x : Except ε α} {f : α → Except ε β} {b : β}
    (h : x >>= f = .ok b) : ∃ a, x = .ok a ∧ f a = .ok b := by
  cases x with
  | error e => cases h
  | ok a => exact ⟨a, rfl, h⟩

/-- A computation on the state `σ` that returns an `α` or throws an `ε`. -/
def Stateful (ε σ α : Type) : Type := σ → Except ε α × σ

namespace Stateful

variable {ε σ τ α β : Type}

/-- Sequencing; an exception skips the continuation. -/
def bind (m : Stateful ε σ α) (f : α → Stateful ε σ β) : Stateful ε σ β := fun s =>
  match m s with
  | (.ok a, s') => f a s'
  | (.error x, s') => (.error x, s')

instance : Monad (Stateful ε σ) where
  pure a := fun s => (.ok a, s)
  bind := bind

/-- Run the body from a state. -/
def run (m : Stateful ε σ α) (s : σ) : Except ε α × σ := m s

/-- Throw an exception. -/
def throw (x : ε) : Stateful ε σ α := fun s => (.error x, s)

/-- A computation that neither reads nor writes the state. -/
def ofExcept (r : Except ε α) : Stateful ε σ α := fun s => (r, s)

/-- A computation that reads the state and may throw. -/
def read (f : σ → Except ε α) : Stateful ε σ α := fun s => (f s, s)

/-- `try { m } catch { h }`. -/
def tryCatch (m : Stateful ε σ α) (h : ε → Stateful ε σ α) : Stateful ε σ α := fun s =>
  match m s with
  | (.ok a, s') => (.ok a, s')
  | (.error x, s') => h x s'

/-- Act on the component `get s`, storing it back with `set`. -/
def zoom (get : σ → τ) (set : τ → σ → σ) (m : Stateful ε τ α) : Stateful ε σ α := fun s =>
  ((m (get s)).1, set (m (get s)).2 s)

@[simp]
theorem run_pure (a : α) (s : σ) : (pure a : Stateful ε σ α).run s = (.ok a, s) := rfl

@[simp]
theorem run_throw (x : ε) (s : σ) : (throw x : Stateful ε σ α).run s = (.error x, s) := rfl

@[simp]
theorem run_ofExcept (r : Except ε α) (s : σ) :
    (ofExcept r : Stateful ε σ α).run s = (r, s) := rfl

@[simp]
theorem run_read (f : σ → Except ε α) (s : σ) :
    (read f : Stateful ε σ α).run s = (f s, s) := rfl

@[simp]
theorem run_zoom (get : σ → τ) (set : τ → σ → σ) (m : Stateful ε τ α) (s : σ) :
    (zoom get set m).run s = ((m.run (get s)).1, set (m.run (get s)).2 s) := rfl

/-- Running a sequence runs the continuation from where the first body returned. -/
theorem run_bind (m : Stateful ε σ α) (f : α → Stateful ε σ β) (s : σ) :
    (m >>= f).run s =
      match m.run s with
      | (.ok a, s') => (f a).run s'
      | (.error x, s') => (.error x, s') := rfl

/-- A sequence whose first body returns. -/
theorem run_bind_of_ok {m : Stateful ε σ α} {f : α → Stateful ε σ β} {s s' : σ} {a : α}
    (hm : m.run s = (.ok a, s')) : (m >>= f).run s = (f a).run s' := by
  rw [run_bind, hm]

/-- A sequence whose first body throws. -/
theorem run_bind_of_error {m : Stateful ε σ α} {f : α → Stateful ε σ β} {s s' : σ} {x : ε}
    (hm : m.run s = (.error x, s')) : (m >>= f).run s = (.error x, s') := by
  rw [run_bind, hm]

/-- A handler for exceptions starts in the state in which the exception was thrown. -/
theorem run_tryCatch (m : Stateful ε σ α) (h : ε → Stateful ε σ α) (s : σ) :
    (m.tryCatch h).run s =
      match m.run s with
      | (.ok a, s') => (.ok a, s')
      | (.error x, s') => (h x).run s' := rfl

/-- A sequence that returns gets past a computation that neither reads nor writes the state. -/
theorem exists_of_ofExcept_bind {r : Except ε α} {f : α → Stateful ε σ β} {s : σ} {b : β}
    (h : ((ofExcept r >>= f).run s).1 = .ok b) : ∃ a, r = .ok a ∧ ((f a).run s).1 = .ok b := by
  cases r with
  | error x => cases h
  | ok a => exact ⟨a, rfl, h⟩

/-- A sequence that returns gets past a read of the state. -/
theorem exists_of_read_bind {g : σ → Except ε α} {f : α → Stateful ε σ β} {s : σ} {b : β}
    (h : ((read g >>= f).run s).1 = .ok b) : ∃ a, g s = .ok a ∧ ((f a).run s).1 = .ok b :=
  exists_of_ofExcept_bind h

/-! ## Bodies that return -/

/-- The body returns from the state, and throws no exception. -/
def Returns (m : Stateful ε σ α) (s : σ) : Prop := ∃ a, (m.run s).1 = .ok a

section Returns

variable {f : α → Stateful ε σ β} {s : σ}

/-- A sequence returns if its first body does and the second one goes on from there. -/
theorem returns_bind_iff {m : Stateful ε σ α} :
    Returns (m >>= f) s ↔ ∃ a s', m.run s = (.ok a, s') ∧ Returns (f a) s' := by
  rw [Returns, run_bind]
  rcases m.run s with ⟨_ | a, s'⟩
  · refine iff_of_false (fun ⟨b, hb⟩ => ?_) fun ⟨a, s', heq, _⟩ => ?_
    · cases hb
    · cases heq
  · refine ⟨fun h => ⟨a, s', rfl, h⟩, ?_⟩
    rintro ⟨a', s'', heq, h⟩
    cases heq
    exact h

/-- Code after what may be an exception returns if there is a value and the rest returns. -/
theorem returns_ofExcept_bind_iff {r : Except ε α} :
    Returns (ofExcept r >>= f) s ↔ ∃ a, r = .ok a ∧ Returns (f a) s := by
  rw [returns_bind_iff]
  refine exists_congr fun a => ⟨?_, fun ⟨hr, h⟩ => ⟨s, congrArg (·, s) hr, h⟩⟩
  rintro ⟨s', heq, h⟩
  obtain ⟨hr, rfl⟩ := Prod.mk.inj heq
  exact ⟨hr, h⟩

/-- Code after a reading of the state returns if that succeeds and the rest returns. -/
theorem returns_read_bind_iff {g : σ → Except ε α} :
    Returns (read g >>= f) s ↔ ∃ a, g s = .ok a ∧ Returns (f a) s :=
  returns_ofExcept_bind_iff

end Returns

/-! ## What a body preserves -/

/-- Whatever the body does, the state it leaves is related to the one it started from. -/
def Respects (rel : σ → σ → Prop) (m : Stateful ε σ α) : Prop := ∀ s, rel s (m.run s).2

section Respects

variable {rel : σ → σ → Prop}

/-- A value respects every reflexive relation. -/
theorem respects_pure (hrefl : ∀ s, rel s s) (a : α) :
    Respects rel (pure a : Stateful ε σ α) := fun s => hrefl s

/-- So does an exception. -/
theorem respects_ofExcept (hrefl : ∀ s, rel s s) (r : Except ε α) :
    Respects rel (ofExcept r : Stateful ε σ α) := fun s => hrefl s

/-- So does a reading of the state. -/
theorem respects_read (hrefl : ∀ s, rel s s) (f : σ → Except ε α) :
    Respects rel (read f : Stateful ε σ α) := fun s => hrefl s

/-- A sequence respects a transitive relation when both parts do. -/
theorem respects_bind (htrans : ∀ a b c, rel a b → rel b c → rel a c) {m : Stateful ε σ α}
    {f : α → Stateful ε σ β} (hm : Respects rel m) (hf : ∀ a, Respects rel (f a)) :
    Respects rel (m >>= f) := by
  intro s
  have hfirst := hm s
  rw [run_bind]
  split
  · next heq =>
    rw [heq] at hfirst
    exact htrans _ _ _ hfirst (hf _ _)
  · next heq =>
    rw [heq] at hfirst
    exact hfirst

/-- A sequence whose parts respect two relations respects what they compose to. -/
theorem respects_bind_of_comp {rel' rel'' : σ → σ → Prop} (hleft : ∀ a b, rel a b → rel'' a b)
    (hcomp : ∀ a b c, rel a b → rel' b c → rel'' a c) {m : Stateful ε σ α}
    {f : α → Stateful ε σ β} (hm : Respects rel m) (hf : ∀ a, Respects rel' (f a)) :
    Respects rel'' (m >>= f) := by
  intro s
  have hfirst := hm s
  rw [run_bind]
  split
  · next heq =>
    rw [heq] at hfirst
    exact hcomp _ _ _ hfirst (hf _ _)
  · next heq =>
    rw [heq] at hfirst
    exact hleft _ _ hfirst

end Respects

/-! ## What a body returns -/

/-- Whatever state the body starts from, what it returns has the property. -/
def Ensures (P : α → Prop) (m : Stateful ε σ α) : Prop := ∀ s a, (m.run s).1 = .ok a → P a

section Ensures

variable {P : α → Prop}

/-- A value ensures what holds of it. -/
theorem ensures_pure {a : α} (h : P a) : Ensures P (pure a : Stateful ε σ α) := by
  intro s a' heq
  cases heq
  exact h

/-- What a sequence returns is what its second part returns. -/
theorem ensures_bind {m : Stateful ε σ β} {f : β → Stateful ε σ α}
    (hf : ∀ b, Ensures P (f b)) : Ensures P (m >>= f) := by
  intro s a heq
  rcases hm : m.run s with ⟨x | b, s'⟩
  · rw [run_bind_of_error hm] at heq
    cases heq
  · rw [run_bind_of_ok hm] at heq
    exact hf b s' a heq

/-- What a computation returns that succeeds is known of its outcome. -/
theorem ensures_ofExcept_bind {r : Except ε β} {f : β → Stateful ε σ α}
    (hf : ∀ b, r = .ok b → Ensures P (f b)) : Ensures P (ofExcept r >>= f) := by
  intro s a heq
  rw [run_bind, run_ofExcept] at heq
  cases r with
  | error x => cases heq
  | ok b => exact hf b rfl s a heq

end Ensures

end Stateful
