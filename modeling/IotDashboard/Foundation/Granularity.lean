import IotDashboard.Foundation.Interleaving

/-!
# Coarser turns

Of the calls of an interface only some count as steps of an interleaving. A turn is then the next
call that counts, with the calls around it that do not; an interleaving of such turns is one of
single calls in which some schedules do not occur.

## Main results

* `Program.turn_bind_of_single`: a part of a program that makes one call that counts is one turn;
* `Threads.exists_exec_eq_execAt`: an interleaving of coarse turns is one of single calls.
-/

namespace Program

variable {ε E : Type} {R : E → Type} {α β σ : Type} (counts : E → Prop) [DecidablePred counts]
  (h : Handler ε R σ)

/-- Make the calls before the next one that counts. -/
def settle : Program ε R α → σ → Program ε R α × σ
  | ret a, s => (ret a, s)
  | throw x, s => (throw x, s)
  | call e k, s =>
    if counts e then (call e k, s)
    else match (h e).run s with
      | (.ok r, s') => (k r).settle s'
      | (.error x, s') => (throw x, s')

/-- Make the next call that counts, and the calls before and after it that do not. -/
def turn (p : Program ε R α) (s : σ) : Program ε R α × σ :=
  let before := p.settle counts h s
  let next := before.1.advance h before.2
  next.1.settle counts h next.2

/-- No call of the program counts. -/
def Silent (p : Program ε R α) : Prop := p.Within (fun e => ¬ counts e) fun _ _ => True

/-- One call of the program counts, unless it throws before. -/
def Single : Program ε R α → Prop
  | ret _ => False
  | throw _ => True
  | call e k => if counts e then ∀ r, (k r).Silent counts else ∀ r, (k r).Single

variable {counts} {h}

/-- A program whose result is returned as it is. -/
theorem bind_ret (p : Program ε R α) : p >>= ret = p := by
  induction p with
  | ret a => rfl
  | throw x => rfl
  | call e k ih => exact congrArg (call e) (funext ih)

/-- A program does not settle past a call that counts. -/
theorem settle_call {e : E} (he : counts e) (k : R e → Program ε R α) (s : σ) :
    (call e k).settle counts h s = (call e k, s) := by
  rw [settle, if_pos he]

/-- A call that does not count is made while settling. -/
theorem settle_call_of_ok {e : E} (he : ¬ counts e) {k : R e → Program ε R α} {s s' : σ} {r : R e}
    (hcall : (h e).run s = (.ok r, s')) :
    (call e k).settle counts h s = (k r).settle counts h s' := by
  rw [settle, if_neg he, hcall]

/-- A silent part that returns is passed over. -/
theorem settle_bind_of_silent {p : Program ε R α} (hp : p.Silent counts) {f : α → Program ε R β}
    {s s' : σ} {a : α} (hrun : (p.run h).run s = (.ok a, s')) :
    (p >>= f).settle counts h s = (f a).settle counts h s' := by
  induction p generalizing s with
  | ret b =>
    obtain ⟨hb, rfl⟩ := Prod.mk.inj hrun
    obtain rfl := Except.ok.inj hb
    rfl
  | throw x => cases hrun
  | call e k ih =>
    rw [run, Stateful.run_bind] at hrun
    rcases hcall : (h e).run s with ⟨x | r, s₁⟩
    · rw [hcall] at hrun
      cases hrun
    · rw [hcall] at hrun
      exact (settle_call_of_ok hp.1 hcall).trans (ih r (hp.2 r trivial) hrun)

/-- A silent program that returns is done before its first turn. -/
theorem settle_of_silent {p : Program ε R α} (hp : p.Silent counts) {s s' : σ} {a : α}
    (hrun : (p.run h).run s = (.ok a, s')) : p.settle counts h s = (ret a, s') := by
  have hsettle := settle_bind_of_silent hp (f := ret) hrun
  rwa [bind_ret] at hsettle

/-- A part that makes one call that counts, and returns, is one turn. -/
theorem turn_bind_of_single {p : Program ε R α} (hp : p.Single counts) {f : α → Program ε R β}
    {s s' : σ} {a : α} (hrun : (p.run h).run s = (.ok a, s')) :
    (p >>= f).turn counts h s = (f a).settle counts h s' := by
  induction p generalizing s with
  | ret b => exact hp.elim
  | throw x => cases hrun
  | call e k ih =>
    have hbind : (call e k >>= f : Program ε R β) = call e fun r => k r >>= f := rfl
    rw [run, Stateful.run_bind] at hrun
    rcases hcall : (h e).run s with ⟨x | r, s₁⟩
    · rw [hcall] at hrun
      cases hrun
    · rw [hcall] at hrun
      rw [Single] at hp
      split at hp
      · next he =>
        -- This is the call; the rest of the part is silent.
        rw [turn, hbind, settle_call he, advance_call_of_ok hcall]
        exact settle_bind_of_silent (hp r) hrun
      · next he =>
        rw [turn, hbind, settle_call_of_ok he hcall]
        exact ih r (hp r) hrun

/-- Silent code before a single call leaves it single. -/
theorem single_bind {p : Program ε R α} (hp : p.Silent counts) {f : α → Program ε R β}
    (hf : ∀ a, (f a).Single counts) : (p >>= f).Single counts := by
  induction p with
  | ret a => exact hf a
  | throw x => trivial
  | call e k ih =>
    show Single counts (call e fun r => k r >>= f)
    rw [Single, if_neg hp.1]
    exact fun r => ih r (hp.2 r trivial)

/-- Silent code after a single call leaves it single. -/
theorem single_bind_silent {p : Program ε R α} (hp : p.Single counts) {f : α → Program ε R β}
    (hf : ∀ a, (f a).Silent counts) : (p >>= f).Single counts := by
  induction p with
  | ret a => exact hp.elim
  | throw x => trivial
  | call e k ih =>
    show Single counts (call e fun r => k r >>= f)
    rw [Single] at hp ⊢
    split at hp
    · next he =>
      rw [if_pos he]
      exact fun r => within_bind (hp r) hf
    · next he =>
      rw [if_neg he]
      exact fun r => ih r (hp r)

/-- A call that counts is a single one. -/
theorem single_perform {e : E} (he : counts e) :
    (perform e : Program ε R (R e)).Single counts := by
  rw [perform, Single, if_pos he]
  exact fun _ => trivial

end Program

namespace Threads

open Program

variable {ε E : Type} {R : E → Type} {α β σ : Type} (counts : E → Prop) [DecidablePred counts]
  (hl hr : Handler ε R σ)

/-- One coarse turn. -/
def stepAt (c : Threads ε R α β σ) : Turn → Threads ε R α β σ
  | .left => { c with left := (c.left.turn counts hl c.shared).1,
                      shared := (c.left.turn counts hl c.shared).2 }
  | .right => { c with right := (c.right.turn counts hr c.shared).1,
                       shared := (c.right.turn counts hr c.shared).2 }

/-- The coarse turns of a schedule, in order. -/
def execAt (c : Threads ε R α β σ) (schedule : List Turn) : Threads ε R α β σ :=
  schedule.foldl (stepAt counts hl hr) c

@[simp]
theorem execAt_cons (c : Threads ε R α β σ) (t : Turn) (schedule : List Turn) :
    c.execAt counts hl hr (t :: schedule) =
      (c.stepAt counts hl hr t).execAt counts hl hr schedule :=
  rfl

/-- A schedule can be cut anywhere. -/
theorem exec_append (c : Threads ε R α β σ) (schedule rest : List Turn) :
    c.exec hl hr (schedule ++ rest) = (c.exec hl hr schedule).exec hl hr rest :=
  List.foldl_append

/-- The calls that do not count are turns of the fine interleaving. -/
theorem exists_exec_settle_left (p : Program ε R α) (q : Program ε R β) (s : σ) :
    ∃ schedule, exec hl hr ⟨p, q, s⟩ schedule =
      ⟨(p.settle counts hl s).1, q, (p.settle counts hl s).2⟩ := by
  induction p generalizing s with
  | ret a => exact ⟨[], rfl⟩
  | throw x => exact ⟨[], rfl⟩
  | call e k ih =>
    by_cases he : counts e
    · exact ⟨[], by rw [settle_call he, exec_nil]⟩
    rcases hcall : (hl e).run s with ⟨x | r, s'⟩
    · refine ⟨[.left], ?_⟩
      rw [exec_cons, exec_nil, step, advance_call_of_error hcall, settle, if_neg he, hcall]
    · obtain ⟨schedule, hschedule⟩ := ih r s'
      refine ⟨.left :: schedule, ?_⟩
      rw [exec_cons, step, advance_call_of_ok hcall, settle_call_of_ok he hcall]
      exact hschedule

/-- A coarse turn of the left thread is some single calls of it. -/
theorem exists_exec_stepAt_left (c : Threads ε R α β σ) :
    ∃ schedule, c.exec hl hr schedule = c.stepAt counts hl hr .left := by
  -- The calls before the one that counts, that call, and the calls after it.
  let before := c.left.settle counts hl c.shared
  let next := before.1.advance hl before.2
  obtain ⟨first, hfirst⟩ := exists_exec_settle_left counts hl hr c.left c.right c.shared
  obtain ⟨last, hlast⟩ := exists_exec_settle_left counts hl hr next.1 c.right next.2
  refine ⟨first ++ .left :: last, ?_⟩
  rw [exec_append, hfirst, exec_cons]
  exact hlast

/-- An interleaving of coarse turns is one of single calls. -/
theorem exists_exec_eq_execAt (c : Threads ε R α β σ) (schedule : List Turn) :
    ∃ fine, c.exec hl hr fine = c.execAt counts hl hr schedule := by
  induction schedule generalizing c with
  | nil => exact ⟨[], rfl⟩
  | cons t schedule ih =>
    have hstep : ∃ fine, c.exec hl hr fine = c.stepAt counts hl hr t := by
      cases t with
      | left => exact exists_exec_stepAt_left counts hl hr c
      -- The mirror image, with the places of the threads exchanged.
      | right =>
        obtain ⟨fine, hfine⟩ := exists_exec_stepAt_left counts hr hl c.swap
        refine ⟨fine.map Turn.other, ?_⟩
        show c.swap.swap.exec hl hr (fine.map Turn.other) = _
        rw [exec_swap, hfine]
        rfl
    obtain ⟨first, hfirst⟩ := hstep
    obtain ⟨rest, hrest⟩ := ih (c.stepAt counts hl hr t)
    exact ⟨first ++ rest, by rw [exec_append, hfirst, hrest, execAt_cons]⟩

variable {counts} {hl} {hr}

/-- A thread that is done stays done, and its partner runs as if it were alone. -/
theorem run_of_execAt_right_returned {c : Threads ε R α β σ} {schedule : List Turn}
    {a : Except ε α} {b : Except ε β} (hc : c.right.outcome? = some b)
    (ha : (c.execAt counts hl hr schedule).left.outcome? = some a) :
    (c.left.run hl).run c.shared = (a, (c.execAt counts hl hr schedule).shared) ∧
      (c.execAt counts hl hr schedule).right.outcome? = some b := by
  obtain ⟨fine, hfine⟩ := exists_exec_eq_execAt counts hl hr c schedule
  rw [← hfine] at ha ⊢
  exact run_of_exec_right_returned hc ha

/-- Once the left thread has returned, the right one runs alone. -/
theorem run_of_execAt_left_returned {c : Threads ε R α β σ} {schedule : List Turn}
    {a : Except ε α} {b : Except ε β} (hc : c.left.outcome? = some a)
    (hb : (c.execAt counts hl hr schedule).right.outcome? = some b) :
    (c.right.run hr).run c.shared = (b, (c.execAt counts hl hr schedule).shared) ∧
      (c.execAt counts hl hr schedule).left.outcome? = some a := by
  obtain ⟨fine, hfine⟩ := exists_exec_eq_execAt counts hl hr c schedule
  rw [← hfine] at hb ⊢
  exact run_of_exec_left_returned hc hb

end Threads
