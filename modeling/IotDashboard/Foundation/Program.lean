import IotDashboard.Foundation.Stateful

/-!
# Programs over an interface

Code that reaches its environment only through the calls of an interface: `E` lists the calls,
`R e` is what the call `e` returns, and `ε` are the exceptions. A handler gives the calls a
meaning on a state, possibly by throwing; `Program.run` executes a program under a handler. As in
C++, an exception abandons the rest of the program and keeps the state reached so far.

The calls are the atomic steps of the program, so one program text serves both for sequential
runs and for interleavings at the granularity of its calls.
-/

/-- Programs that return an `α`, call the interface `(E, R)` and may throw an `ε`. -/
inductive Program (ε : Type) {E : Type} (R : E → Type) (α : Type) : Type
  | ret (a : α)
  | throw (x : ε)
  | call (e : E) (k : R e → Program ε R α)

namespace Program

variable {ε E : Type} {R : E → Type} {α β σ : Type}

/-- Sequencing: the continuation takes over where the first program returns. -/
def bind : Program ε R α → (α → Program ε R β) → Program ε R β
  | ret a, f => f a
  | throw x, _ => throw x
  | call e k, f => call e fun r => (k r).bind f

instance : Monad (Program ε R) where
  pure := ret
  bind := bind

/-- `try { p } catch { h }`. -/
def tryCatch : Program ε R α → (ε → Program ε R α) → Program ε R α
  | ret a, _ => ret a
  | throw x, h => h x
  | call e k, h => call e fun r => (k r).tryCatch h

/-- The program made of one call. -/
def perform (e : E) : Program ε R (R e) := call e ret

/-- A program that makes no call. -/
def ofExcept : Except ε α → Program ε R α
  | .ok a => ret a
  | .error x => throw x

/-- A meaning of the calls on a state. -/
abbrev Handler (ε : Type) {E : Type} (R : E → Type) (σ : Type) : Type :=
  (e : E) → Stateful ε σ (R e)

/-- Execute a program under a handler. -/
def run (h : Handler ε R σ) : Program ε R α → Stateful ε σ α
  | ret a => pure a
  | throw x => .throw x
  | call e k => h e >>= fun r => run h (k r)

@[simp]
theorem run_pure (h : Handler ε R σ) (a : α) :
    (pure a : Program ε R α).run h = pure a := rfl

@[simp]
theorem run_throw (h : Handler ε R σ) (x : ε) :
    (throw x : Program ε R α).run h = .throw x := rfl

@[simp]
theorem run_ofExcept (h : Handler ε R σ) (r : Except ε α) :
    (ofExcept r : Program ε R α).run h = .ofExcept r := by
  cases r <;> rfl

@[simp]
theorem run_perform (h : Handler ε R σ) (e : E) :
    (perform e : Program ε R (R e)).run h = h e := by
  funext s
  show ((h e >>= fun r => pure r).run s) = (h e).run s
  rw [Stateful.run_bind]
  split <;> simp_all

/-- Running a sequence runs its parts in sequence. -/
@[simp]
theorem run_bind (h : Handler ε R σ) (p : Program ε R α) (f : α → Program ε R β) :
    (p >>= f).run h = p.run h >>= fun a => (f a).run h := by
  induction p with
  | ret a => rfl
  | throw x => rfl
  | call e k ih =>
    funext s
    show ((h e >>= fun r => ((k r >>= f : Program ε R β)).run h).run s) =
      ((h e >>= fun r => (k r).run h) >>= fun a => (f a).run h).run s
    simp only [ih, Stateful.run_bind]
    rcases (h e).run s with ⟨_ | _, _⟩ <;> rfl

/-- The calls that a run makes, in order. -/
def calls (h : Handler ε R σ) : Program ε R α → σ → List E
  | ret _, _ => []
  | throw _, _ => []
  | call e k, s =>
    e :: match (h e).run s with
      | (.ok r, s') => (k r).calls h s'
      | (.error _, _) => []

/-- A sequence makes the calls of its first part, and if that returns those of the second. -/
theorem calls_bind (h : Handler ε R σ) (p : Program ε R α) (f : α → Program ε R β) (s : σ) :
    (p >>= f).calls h s = p.calls h s ++
      match (p.run h).run s with
      | (.ok a, s') => (f a).calls h s'
      | (.error _, _) => [] := by
  induction p generalizing s with
  | ret a => rfl
  | throw x => rfl
  | call e k ih =>
    have hbind : (call e k >>= f : Program ε R β) = call e fun r => k r >>= f := rfl
    rw [hbind, calls, calls, run, Stateful.run_bind, List.cons_append]
    congr 1
    rcases (h e).run s with ⟨_ | r, s'⟩
    · rfl
    · exact ih r s'

@[simp]
theorem calls_perform (h : Handler ε R σ) (e : E) (s : σ) :
    (perform e : Program ε R (R e)).calls h s = [e] := by
  rw [perform, calls]
  rcases (h e).run s with ⟨_ | _, _⟩ <;> rfl

/-- A log that each call extends by its own entries is extended by those of all calls. -/
theorem log_run {h : Handler ε R σ} {log : σ → List β} {entries : E → List β}
    (hcall : ∀ e s, log ((h e).run s).2 = log s ++ entries e) (p : Program ε R α) (s : σ) :
    log ((p.run h).run s).2 = log s ++ (p.calls h s).flatMap entries := by
  induction p generalizing s with
  | ret a => exact (List.append_nil _).symm
  | throw x => exact (List.append_nil _).symm
  | call e k ih =>
    have hfirst := hcall e s
    rw [calls, List.flatMap_cons, ← List.append_assoc, ← hfirst]
    show log ((h e >>= fun r => (k r).run h).run s).2 = _
    rw [Stateful.run_bind]
    rcases (h e).run s with ⟨_ | r, s'⟩
    · exact (List.append_nil _).symm
    · exact ih r s'

/-! ## Programs that stay within some calls -/

section Within

variable {Q : E → Prop} {A : (e : E) → R e → Prop}

/-- As long as its calls are answered as `A` says, the program makes calls of `Q` only. -/
def Within (Q : E → Prop) (A : (e : E) → R e → Prop) : Program ε R α → Prop
  | ret _ => True
  | throw _ => True
  | call e k => Q e ∧ ∀ r, A e r → (k r).Within Q A

theorem within_pure (a : α) : (pure a : Program ε R α).Within Q A := trivial

/-- Code that makes no call keeps to any set of calls. -/
theorem within_ofExcept (r : Except ε α) : (ofExcept r : Program ε R α).Within Q A := by
  cases r <;> trivial

/-- A call, and what follows its answer. -/
theorem within_perform_bind {e : E} {f : R e → Program ε R α} (he : Q e)
    (hf : ∀ r, A e r → (f r).Within Q A) : (perform e >>= f).Within Q A :=
  ⟨he, hf⟩

/-- One call keeps to the calls that it is one of. -/
theorem within_perform {e : E} (he : Q e) : (perform e : Program ε R (R e)).Within Q A :=
  ⟨he, fun _ _ => trivial⟩

/-- A composition keeps to the calls that its parts keep to. -/
theorem within_bind {p : Program ε R α} {f : α → Program ε R β} (hp : p.Within Q A)
    (hf : ∀ a, (f a).Within Q A) : (p >>= f).Within Q A := by
  induction p with
  | ret a => exact hf a
  | throw x => trivial
  | call e k ih => exact ⟨hp.1, fun r hr => ih r (hp.2 r hr)⟩

/-- A handler for exceptions may make the same calls. -/
theorem within_tryCatch {p : Program ε R α} {h : ε → Program ε R α} (hp : p.Within Q A)
    (hh : ∀ x, (h x).Within Q A) : (p.tryCatch h).Within Q A := by
  induction p with
  | ret a => trivial
  | throw x => exact hh x
  | call e k ih => exact ⟨hp.1, fun r hr => ih r (hp.2 r hr)⟩

/-- The calls that a program within `Q` makes are of `Q`. -/
theorem of_mem_calls {h : Handler ε R σ}
    (hreply : ∀ e s r s', (h e).run s = (.ok r, s') → A e r) {p : Program ε R α}
    (hp : p.Within Q A) {s : σ} {e : E} (he : e ∈ p.calls h s) : Q e := by
  induction p generalizing s with
  | ret a => cases he
  | throw x => cases he
  | call e' k ih =>
    rw [calls, List.mem_cons] at he
    rcases he with rfl | he
    · exact hp.1
    · split at he
      · next r s' heq => exact ih r (hp.2 r (hreply e' s r s' heq)) he
      · cases he

/-- What every call of `Q` respects, a program within `Q` respects. -/
theorem respects_run {rel : σ → σ → Prop} (hrefl : ∀ s, rel s s)
    (htrans : ∀ a b c, rel a b → rel b c → rel a c) {h : Handler ε R σ}
    (hcall : ∀ e, Q e → (h e).Respects rel)
    (hreply : ∀ e s r s', (h e).run s = (.ok r, s') → A e r) {p : Program ε R α}
    (hp : p.Within Q A) : (p.run h).Respects rel := by
  induction p with
  | ret a => exact Stateful.respects_pure hrefl a
  | throw x => exact fun s => hrefl s
  | call e k ih =>
    intro s
    have hfirst := hcall e hp.1 s
    show rel s ((h e >>= fun r => (k r).run h).run s).2
    rw [Stateful.run_bind]
    -- The rest runs only if the call was answered.
    split
    · next r s' heq =>
      rw [heq] at hfirst
      exact htrans _ _ _ hfirst (ih r (hp.2 r (hreply e s r s' heq)) s')
    · next heq =>
      rw [heq] at hfirst
      exact hfirst

/-- What every call respects, every program respects. -/
theorem respects_run_of_forall {rel : σ → σ → Prop} (hrefl : ∀ s, rel s s)
    (htrans : ∀ a b c, rel a b → rel b c → rel a c) {h : Handler ε R σ}
    (hcall : ∀ e, (h e).Respects rel) (p : Program ε R α) : (p.run h).Respects rel := by
  have hp : p.Within (fun _ => True) fun _ _ => True := by
    induction p with
    | ret a => trivial
    | throw x => trivial
    | call e k ih => exact ⟨trivial, fun r _ => ih r⟩
  exact respects_run hrefl htrans (fun e _ => hcall e) (fun _ _ _ _ _ => trivial) hp

end Within

/-! ## Programs that return -/

/-- From every state in `P` the program returns `a`, and the state it leaves is in `Q`. -/
def Yields (h : Handler ε R σ) (P : σ → Prop) (p : Program ε R α) (a : α) (Q : σ → Prop) : Prop :=
  ∀ s, P s → ∃ s', (p.run h).run s = (.ok a, s') ∧ Q s'

section Yields

variable {h : Handler ε R σ} {P Q T : σ → Prop} {a : α} {b : β}

/-- A value is yielded in the state as it is. -/
theorem yields_pure : (pure a : Program ε R α).Yields h P a P := fun s hs => ⟨s, rfl, hs⟩

/-- What two parts yield their composition yields. -/
theorem Yields.bind {p : Program ε R α} {f : α → Program ε R β} (hp : p.Yields h P a Q)
    (hf : (f a).Yields h Q b T) : (p >>= f).Yields h P b T := by
  intro s hs
  obtain ⟨s₁, hrun, hs₁⟩ := hp s hs
  obtain ⟨s₂, hrest, hs₂⟩ := hf s₁ hs₁
  exact ⟨s₂, by rw [run_bind, Stateful.run_bind_of_ok hrun, hrest], hs₂⟩

end Yields

end Program
