import IotDashboard.Foundation.Program

/-!
# Interleavings of two programs

Two threads run a program each on one shared state. A schedule lists whose turn it is; a turn
executes one call of that thread, and does nothing once the thread has returned or thrown. The
calls of the interface are the atomic steps, so a schedule is an interleaving at their
granularity.

* `Program.advance`: the next call of a program;
* `Program.All`: what the calls of a program satisfy, as long as the replies do;
* `Threads.exec`: what a schedule does to two threads;
* `Threads.leftFirst`, `Threads.rightFirst`: the two sequential orders;
* `Threads.Obeys`: every turn of a schedule meets a condition;
* `Threads.run_of_exec_right_returned` and its mirror image: a thread whose partner is done runs
  as if it were alone;
* `Program.run_simulate`, `Threads.exec_simulate`: handlers that answer alike on related states.
-/

namespace Program

variable {ε E : Type} {R : E → Type} {α σ : Type}

/-- What a program that makes no further call returned or threw. -/
def outcome? : Program ε R α → Option (Except ε α)
  | ret a => some (.ok a)
  | throw x => some (.error x)
  | call _ _ => none

/-- The next call of a program. -/
def next? : Program ε R α → Option E
  | ret _ => none
  | throw _ => none
  | call e _ => some e

/-- Execute the next call of a program. -/
def advance (h : Handler ε R σ) : Program ε R α → σ → Program ε R α × σ
  | ret a, s => (ret a, s)
  | throw x, s => (throw x, s)
  | call e k, s =>
    match (h e).run s with
    | (.ok r, s') => (k r, s')
    | (.error x, s') => (throw x, s')

@[simp]
theorem outcome?_ret (a : α) : (ret a : Program ε R α).outcome? = some (.ok a) := rfl

@[simp]
theorem outcome?_throw (x : ε) : (throw x : Program ε R α).outcome? = some (.error x) := rfl

@[simp]
theorem outcome?_call (e : E) (k : R e → Program ε R α) : (call e k).outcome? = none := rfl

/-- A program that has an outcome runs without a step. -/
theorem run_of_outcome? (h : Handler ε R σ) {p : Program ε R α} {r : Except ε α}
    (hp : p.outcome? = some r) (s : σ) : (p.run h).run s = (r, s) := by
  cases p with
  | ret a => obtain rfl := Option.some.inj hp; rfl
  | throw x => obtain rfl := Option.some.inj hp; rfl
  | call e k => simp at hp

/-- A program that has an outcome does not move. -/
theorem advance_of_outcome? (h : Handler ε R σ) {p : Program ε R α} {r : Except ε α}
    (hp : p.outcome? = some r) (s : σ) : p.advance h s = (p, s) := by
  cases p with
  | ret a => rfl
  | throw x => rfl
  | call e k => simp at hp

/-- The next call returns. -/
theorem advance_call_of_ok {h : Handler ε R σ} {e : E} {k : R e → Program ε R α} {s s' : σ}
    {r : R e} (he : (h e).run s = (.ok r, s')) : (call e k).advance h s = (k r, s') := by
  rw [advance, he]

/-- The next call throws. -/
theorem advance_call_of_error {h : Handler ε R σ} {e : E} {k : R e → Program ε R α} {s s' : σ}
    {x : ε} (he : (h e).run s = (.error x, s')) : (call e k).advance h s = (throw x, s') := by
  rw [advance, he]

/-- A step does not change what the program as a whole does. -/
theorem run_advance (h : Handler ε R σ) (p : Program ε R α) (s : σ) :
    ((p.advance h s).1.run h).run (p.advance h s).2 = (p.run h).run s := by
  cases p with
  | ret a => rfl
  | throw x => rfl
  | call e k =>
    show _ = (h e >>= fun r => (k r).run h).run s
    rw [advance, Stateful.run_bind]
    rcases (h e).run s with ⟨_ | _, _⟩ <;> rfl

section Simulation

variable {τ : Type} {pre : E → Prop} {post : (e : E) → R e → Prop}

/-- Every call of the program satisfies `pre`, as long as every reply satisfies `post`. -/
def All (pre : E → Prop) (post : (e : E) → R e → Prop) : Program ε R α → Prop
  | ret _ => True
  | throw _ => True
  | call e k => pre e ∧ ∀ r, post e r → (k r).All pre post

/-- What holds of the calls of two parts holds of their composition. -/
theorem All.bind {β : Type} {p : Program ε R α} (hp : p.All pre post) {f : α → Program ε R β}
    (hf : ∀ a, (f a).All pre post) : (p >>= f).All pre post := by
  induction p with
  | ret a => exact hf a
  | throw x => trivial
  | call e k ih => exact ⟨hp.1, fun r hr => ih r (hp.2 r hr)⟩

/-- On related states, two handlers answer the calls in `pre` alike, with replies in `post`, and
keep the states related. -/
structure Simulates (pre : E → Prop) (post : (e : E) → R e → Prop) (Rel : σ → τ → Prop)
    (h : Handler ε R σ) (h' : Handler ε R τ) : Prop where
  reply : ∀ e s t, pre e → Rel s t → ((h e).run s).1 = ((h' e).run t).1
  post_of_reply : ∀ e s t r, pre e → Rel s t → ((h' e).run t).1 = .ok r → post e r
  rel : ∀ e s t, pre e → Rel s t → Rel ((h e).run s).2 ((h' e).run t).2

/-- A step under handlers that simulate each other. -/
theorem Simulates.advance {Rel : σ → τ → Prop} {h : Handler ε R σ} {h' : Handler ε R τ}
    (hsim : Simulates pre post Rel h h') {p : Program ε R α} (hp : p.All pre post) {s : σ} {t : τ}
    (hst : Rel s t) :
    (p.advance h s).1 = (p.advance h' t).1 ∧ (p.advance h s).1.All pre post ∧
      Rel (p.advance h s).2 (p.advance h' t).2 := by
  cases p with
  | ret a => exact ⟨rfl, hp, hst⟩
  | throw x => exact ⟨rfl, hp, hst⟩
  | call e k =>
    have hreply := hsim.reply e s t hp.1 hst
    have hnext := hsim.rel e s t hp.1 hst
    -- Equal replies leave two of the four cases: both throw, or both return.
    rcases hcall' : (h' e).run t with ⟨_ | r, t'⟩ <;>
      rcases hcall : (h e).run s with ⟨_ | r', s'⟩ <;>
      rw [hcall, hcall'] at hreply hnext <;> cases hreply
    · rw [advance_call_of_error hcall, advance_call_of_error hcall']
      exact ⟨rfl, trivial, hnext⟩
    · rw [advance_call_of_ok hcall, advance_call_of_ok hcall']
      have hpost := hsim.post_of_reply e s t r hp.1 hst (by rw [hcall'])
      exact ⟨rfl, hp.2 r hpost, hnext⟩

/-- A run under handlers that simulate each other. -/
theorem run_simulate {Rel : σ → τ → Prop} {h : Handler ε R σ} {h' : Handler ε R τ}
    (hsim : Simulates pre post Rel h h') {p : Program ε R α} (hp : p.All pre post) {s : σ} {t : τ}
    (hst : Rel s t) :
    ((p.run h).run s).1 = ((p.run h').run t).1 ∧ Rel ((p.run h).run s).2 ((p.run h').run t).2 := by
  induction p generalizing s t with
  | ret a => exact ⟨rfl, hst⟩
  | throw x => exact ⟨rfl, hst⟩
  | call e k ih =>
    have hreply := hsim.reply e s t hp.1 hst
    have hpost := hsim.post_of_reply e s t
    have hnext := hsim.rel e s t hp.1 hst
    show ((h e >>= fun r => (k r).run h).run s).1 = ((h' e >>= fun r => (k r).run h').run t).1 ∧
      Rel ((h e >>= fun r => (k r).run h).run s).2 ((h' e >>= fun r => (k r).run h').run t).2
    rw [Stateful.run_bind, Stateful.run_bind]
    rcases hcall' : (h' e).run t with ⟨_ | r, t'⟩ <;>
      rcases hcall : (h e).run s with ⟨_ | r', s'⟩ <;>
      rw [hcall, hcall'] at hreply hnext <;> cases hreply
    · exact ⟨rfl, hnext⟩
    · exact ih r (hp.2 r (hpost r hp.1 hst (by rw [hcall']))) hnext

/-- What every call keeps, a run keeps. -/
theorem run_invariant {I : σ → Prop} {h : Handler ε R σ} {p : Program ε R α}
    (hI : ∀ e s, pre e → I s → I ((h e).run s).2) (hp : p.All pre fun _ _ => True) {s : σ}
    (hs : I s) : I ((p.run h).run s).2 := by
  have hsim : Simulates pre (fun _ _ => True) (fun a b => a = b ∧ I a) h h := by
    refine ⟨?_, fun _ _ _ _ _ _ _ => trivial, ?_⟩
    · rintro e a _ - ⟨rfl, -⟩
      rfl
    · rintro e a _ he ⟨rfl, ha⟩
      exact ⟨rfl, hI e a he ha⟩
  exact (run_simulate hsim hp ⟨rfl, hs⟩).2.2

/-- What every call keeps, a step keeps. -/
theorem advance_invariant {I : σ → Prop} {h : Handler ε R σ} {p : Program ε R α}
    (hI : ∀ e s, pre e → I s → I ((h e).run s).2) (hp : p.All pre fun _ _ => True) {s : σ}
    (hs : I s) : I (p.advance h s).2 := by
  cases p with
  | ret a => exact hs
  | throw x => exact hs
  | call e k =>
    have hnext := hI e s hp.1 hs
    rw [advance]
    split <;> simp_all

/-- Calls without any condition. -/
theorem all_true (p : Program ε R α) : p.All (fun _ => True) fun _ _ => True := by
  induction p with
  | ret a => trivial
  | throw x => trivial
  | call e k ih => exact ⟨trivial, fun r _ => ih r⟩

end Simulation

end Program

/-- Whose turn it is. -/
inductive Turn where
  | left
  | right
deriving DecidableEq, Repr

/-- The other thread. -/
def Turn.other : Turn → Turn
  | left => right
  | right => left

/-- The other thread is not the same. -/
theorem Turn.other_ne (t : Turn) : t.other ≠ t := by
  cases t <;> decide

@[simp]
theorem Turn.other_other (t : Turn) : t.other.other = t := by
  cases t <;> rfl

/-- Two threads in the middle of their programs, and the state they share. -/
structure Threads (ε : Type) {E : Type} (R : E → Type) (α β σ : Type) where
  left : Program ε R α
  right : Program ε R β
  shared : σ

namespace Threads

open Program

variable {ε E : Type} {R : E → Type} {α β σ : Type} (hl hr : Handler ε R σ)

/-- One turn. Each thread has its own handler, so that what a call does may depend on the thread
that makes it. -/
def step (c : Threads ε R α β σ) : Turn → Threads ε R α β σ
  | .left => { c with left := (c.left.advance hl c.shared).1,
                      shared := (c.left.advance hl c.shared).2 }
  | .right => { c with right := (c.right.advance hr c.shared).1,
                       shared := (c.right.advance hr c.shared).2 }

/-- The turns of a schedule, in order. -/
def exec (c : Threads ε R α β σ) (schedule : List Turn) : Threads ε R α β σ :=
  schedule.foldl (step hl hr) c

/-- What both threads returned or threw, and the state, once both are done. -/
def result? (c : Threads ε R α β σ) : Option (Except ε α × Except ε β × σ) :=
  match c.left.outcome?, c.right.outcome? with
  | some a, some b => some (a, b, c.shared)
  | _, _ => none

/-- The rest of the left program, then the rest of the right one. -/
def leftFirst (c : Threads ε R α β σ) : Except ε α × Except ε β × σ :=
  let l := (c.left.run hl).run c.shared
  let r := (c.right.run hr).run l.2
  (l.1, r.1, r.2)

/-- The rest of the right program, then the rest of the left one. -/
def rightFirst (c : Threads ε R α β σ) : Except ε α × Except ε β × σ :=
  let r := (c.right.run hr).run c.shared
  let l := (c.left.run hl).run r.2
  (l.1, r.1, l.2)

/-- Every turn of the schedule meets the condition when it is taken. -/
def Obeys (P : Threads ε R α β σ → Turn → Prop) :
    Threads ε R α β σ → List Turn → Prop
  | _, [] => True
  | c, t :: schedule => P c t ∧ Obeys P (c.step hl hr t) schedule

/-- The threads with their places exchanged. -/
def swap (c : Threads ε R α β σ) : Threads ε R β α σ := ⟨c.right, c.left, c.shared⟩

variable {hl hr}

@[simp]
theorem exec_nil (c : Threads ε R α β σ) : c.exec hl hr [] = c := rfl

@[simp]
theorem exec_cons (c : Threads ε R α β σ) (t : Turn) (schedule : List Turn) :
    c.exec hl hr (t :: schedule) = (c.step hl hr t).exec hl hr schedule := rfl

/-- An interleaving has a result once both threads have. -/
theorem result?_eq_some_iff {c : Threads ε R α β σ} {a : Except ε α} {b : Except ε β} {s : σ} :
    c.result? = some (a, b, s) ↔
      c.left.outcome? = some a ∧ c.right.outcome? = some b ∧ c.shared = s := by
  rw [result?]
  cases c.left.outcome? <;> cases c.right.outcome? <;> simp

/-- The outcome with the places of the threads exchanged. -/
def swapResult (f : Except ε α × Except ε β × σ) : Except ε β × Except ε α × σ :=
  (f.2.1, f.1, f.2.2)

/-- With the threads exchanged, the results are exchanged. -/
theorem result?_swap {c : Threads ε R α β σ} {f : Except ε α × Except ε β × σ}
    (h : c.result? = some f) : c.swap.result? = some (swapResult f) := by
  obtain ⟨ha, hb, hs⟩ := result?_eq_some_iff.mp h
  exact result?_eq_some_iff.mpr ⟨hb, ha, hs⟩

/-- A turn of the left thread does not change what comes of letting it finish first. -/
theorem leftFirst_step_left (c : Threads ε R α β σ) :
    (c.step hl hr .left).leftFirst hl hr = c.leftFirst hl hr := by
  simp only [leftFirst, step, run_advance]

/-- A step of the right thread does not change what it does when it goes first. -/
theorem rightFirst_step_right (c : Threads ε R α β σ) :
    (c.step hl hr .right).rightFirst hl hr = c.rightFirst hl hr := by
  simp only [rightFirst, step, run_advance]

/-- A step of the exchanged threads is one of the other thread. -/
theorem step_swap (c : Threads ε R α β σ) (t : Turn) :
    c.swap.step hr hl t.other = (c.step hl hr t).swap := by
  cases t <;> rfl

/-- A schedule of the exchanged threads is the exchanged schedule. -/
theorem exec_swap (c : Threads ε R α β σ) (schedule : List Turn) :
    c.swap.exec hr hl (schedule.map Turn.other) = (c.exec hl hr schedule).swap := by
  induction schedule generalizing c with
  | nil => rfl
  | cons t schedule ih => rw [List.map_cons, exec_cons, step_swap, ih, exec_cons]

/-- Whoever obeys a rule obeys what follows from it. -/
theorem Obeys.imp {P Q : Threads ε R α β σ → Turn → Prop} (hPQ : ∀ c t, P c t → Q c t)
    {c : Threads ε R α β σ} {schedule : List Turn} (h : Obeys hl hr P c schedule) :
    Obeys hl hr Q c schedule := by
  induction schedule generalizing c with
  | nil => trivial
  | cons t schedule ih => exact ⟨hPQ c t h.1, ih h.2⟩

/-- A rule for the threads is one for the exchanged threads. -/
theorem obeys_swap {P : Threads ε R α β σ → Turn → Prop} {Q : Threads ε R β α σ → Turn → Prop}
    (hPQ : ∀ c t, P c t → Q c.swap t.other) {c : Threads ε R α β σ} {schedule : List Turn}
    (h : Obeys hl hr P c schedule) : Obeys hr hl Q c.swap (schedule.map Turn.other) := by
  induction schedule generalizing c with
  | nil => trivial
  | cons t schedule ih =>
    refine ⟨hPQ c t h.1, ?_⟩
    rw [step_swap]
    exact ih h.2

/-- A thread that is done stays done, and its partner runs as if it were alone. -/
theorem run_of_exec_right_returned {c : Threads ε R α β σ} {schedule : List Turn}
    {a : Except ε α} {b : Except ε β} (hc : c.right.outcome? = some b)
    (ha : (c.exec hl hr schedule).left.outcome? = some a) :
    (c.left.run hl).run c.shared = (a, (c.exec hl hr schedule).shared) ∧
      (c.exec hl hr schedule).right.outcome? = some b := by
  induction schedule generalizing c with
  | nil => exact ⟨run_of_outcome? hl ha _, hc⟩
  | cons t schedule ih =>
    cases t with
    | left =>
      obtain ⟨hrun, hright⟩ := ih (c := c.step hl hr .left) hc ha
      exact ⟨(run_advance hl c.left c.shared).symm.trans hrun, hright⟩
    | right =>
      -- A turn of the thread that is done changes nothing.
      have hstay : c.step hl hr .right = c := by
        rw [step, advance_of_outcome? hr hc]
      rw [exec_cons, hstay] at ha ⊢
      exact ih hc ha

/-- Once the left thread has returned, the right one runs alone. -/
theorem run_of_exec_left_returned {c : Threads ε R α β σ} {schedule : List Turn}
    {a : Except ε α} {b : Except ε β} (hc : c.left.outcome? = some a)
    (hb : (c.exec hl hr schedule).right.outcome? = some b) :
    (c.right.run hr).run c.shared = (b, (c.exec hl hr schedule).shared) ∧
      (c.exec hl hr schedule).left.outcome? = some a := by
  induction schedule generalizing c with
  | nil => exact ⟨run_of_outcome? hr hb _, hc⟩
  | cons t schedule ih =>
    cases t with
    | left =>
      have hstay : c.step hl hr .left = c := by
        rw [step, advance_of_outcome? hl hc]
      rw [exec_cons, hstay] at hb ⊢
      exact ih hc hb
    | right =>
      obtain ⟨hrun, hleft⟩ := ih (c := c.step hl hr .right) hc hb
      exact ⟨(run_advance hr c.right c.shared).symm.trans hrun, hleft⟩

/-- With the left thread done, both sequential orders are to let the right one finish. -/
theorem result_of_left_returned {c : Threads ε R α β σ} {schedule : List Turn}
    {a : Except ε α} {f : Except ε α × Except ε β × σ} (hc : c.left.outcome? = some a)
    (hf : (c.exec hl hr schedule).result? = some f) :
    f = c.leftFirst hl hr ∧ f = c.rightFirst hl hr := by
  obtain ⟨a', b, s⟩ := f
  obtain ⟨ha, hb, hs⟩ := result?_eq_some_iff.mp hf
  obtain ⟨hrun, ha'⟩ := run_of_exec_left_returned hc hb
  obtain rfl : a' = a := Option.some.inj (ha.symm.trans ha')
  rw [hs] at hrun
  constructor
  · simp only [leftFirst, run_of_outcome? hl hc, hrun]
  · simp only [rightFirst, run_of_outcome? hl hc, hrun]

/-- If the right thread has returned, the result is that of either order. -/
theorem result_of_right_returned {c : Threads ε R α β σ} {schedule : List Turn}
    {b : Except ε β} {f : Except ε α × Except ε β × σ} (hc : c.right.outcome? = some b)
    (hf : (c.exec hl hr schedule).result? = some f) :
    f = c.leftFirst hl hr ∧ f = c.rightFirst hl hr := by
  obtain ⟨a, b', s⟩ := f
  obtain ⟨ha, hb, hs⟩ := result?_eq_some_iff.mp hf
  obtain ⟨hrun, hb'⟩ := run_of_exec_right_returned hc ha
  obtain rfl : b' = b := Option.some.inj (hb.symm.trans hb')
  rw [hs] at hrun
  constructor
  · simp only [leftFirst, run_of_outcome? hr hc, hrun]
  · simp only [rightFirst, run_of_outcome? hr hc, hrun]

/-- Threads that agree on their programs and start from related states stay so, under handlers
that simulate each other. -/
theorem exec_simulate {τ : Type} {pre : E → Prop} {post : (e : E) → R e → Prop}
    {Rel : σ → τ → Prop} {hl' hr' : Handler ε R τ} (hleft : Simulates pre post Rel hl hl')
    (hright : Simulates pre post Rel hr hr') {c : Threads ε R α β σ} {c' : Threads ε R α β τ}
    (hcl : c.left.All pre post) (hcr : c.right.All pre post) (hl_eq : c.left = c'.left)
    (hr_eq : c.right = c'.right) (hrel : Rel c.shared c'.shared) (schedule : List Turn) :
    (c.exec hl hr schedule).left = (c'.exec hl' hr' schedule).left ∧
      (c.exec hl hr schedule).right = (c'.exec hl' hr' schedule).right ∧
      Rel (c.exec hl hr schedule).shared (c'.exec hl' hr' schedule).shared := by
  induction schedule generalizing c c' with
  | nil => exact ⟨hl_eq, hr_eq, hrel⟩
  | cons t schedule ih =>
    cases t with
    | left =>
      obtain ⟨hprog, hall, hnext⟩ := hleft.advance hcl hrel
      rw [hl_eq] at hprog hnext hall
      rw [exec_cons, exec_cons]
      refine ih ?_ hcr ?_ hr_eq ?_
      · simpa only [step, hl_eq] using hall
      · simpa only [step, hl_eq] using hprog
      · simpa only [step, hl_eq] using hnext
    | right =>
      obtain ⟨hprog, hall, hnext⟩ := hright.advance hcr hrel
      rw [hr_eq] at hprog hnext hall
      rw [exec_cons, exec_cons]
      refine ih hcl ?_ hl_eq ?_ ?_
      · simpa only [step, hr_eq] using hall
      · simpa only [step, hr_eq] using hprog
      · simpa only [step, hr_eq] using hnext

end Threads
