import IotDashboard.Foundation.Program
import Mathlib.Data.Finite.Defs
import Mathlib.Data.Set.Finite.Lattice
import Mathlib.Logic.Function.Basic
import Mathlib.Logic.Relation
import Mathlib.Order.Preorder.Finite

/-!
# Scoped locks taken in order

Threads that take and release locks by scopes. What a thread does is a command; whatever else it
computes is left out, so its branches and loops are open. A lock that is not recursive is not to be
taken again by the thread that holds it, and threads that take locks in different orders may wait
for each other for good. Both are excluded when the locks are ordered and every scope is opened
under smaller locks only.

* `LockCmd`: commands, by the locks they take;
* `LockCmd.OrderedAbove`: the condition on the text of a command;
* `LockThreads.Step`: one step of one of the threads;
* `LockThreads.inv_of_reachable`: no lock is held twice;
* `LockThreads.Inv.not_deadlocked`: no deadlock;
* `Program.locking`: the command of a program, by the commands of its calls.
-/

/-- What code does with locks. -/
inductive LockCmd (L : Type) : Type 1
  /-- Work that takes no lock; it may throw. -/
  | skip
  /-- A scope that holds a lock. -/
  | locked (l : L) (body : LockCmd L)
  | seq (first second : LockCmd L)
  /-- A branch, on anything. -/
  | choose {R : Type} [Nonempty R] (next : R → LockCmd L)
  | loop (body : LockCmd L)

namespace LockCmd

variable {L : Type}

/-- One command or the other. -/
def either (first second : LockCmd L) : LockCmd L := choose fun b : Bool => cond b first second

/-- A command or nothing. -/
def perhaps (c : LockCmd L) : LockCmd L := either c skip

/-- Commands one after the other. -/
def block : List (LockCmd L) → LockCmd L
  | [] => skip
  | c :: cs => seq c (block cs)

/-- Every scope in the command is opened under smaller locks, if the locks in the list are
held around it. -/
def OrderedAbove [Preorder L] : List L → LockCmd L → Prop
  | _, skip => True
  | held, locked l body => (∀ h ∈ held, h < l) ∧ OrderedAbove (l :: held) body
  | held, seq first second => OrderedAbove held first ∧ OrderedAbove held second
  | held, choose next => ∀ r, OrderedAbove held (next r)
  | held, loop body => OrderedAbove held body

section Ordered

variable [Preorder L] {held : List L} {c first second : LockCmd L}

@[simp]
theorem orderedAbove_skip : OrderedAbove held (skip : LockCmd L) := trivial

@[simp]
theorem orderedAbove_locked {l : L} :
    OrderedAbove held (locked l c) ↔ (∀ h ∈ held, h < l) ∧ OrderedAbove (l :: held) c := Iff.rfl

@[simp]
theorem orderedAbove_seq :
    OrderedAbove held (seq first second) ↔ OrderedAbove held first ∧ OrderedAbove held second :=
  Iff.rfl

@[simp]
theorem orderedAbove_choose {R : Type} [Nonempty R] {next : R → LockCmd L} :
    OrderedAbove held (choose next) ↔ ∀ r, OrderedAbove held (next r) := Iff.rfl

@[simp]
theorem orderedAbove_loop : OrderedAbove held (loop c) ↔ OrderedAbove held c := Iff.rfl

@[simp]
theorem orderedAbove_either :
    OrderedAbove held (either first second) ↔ OrderedAbove held first ∧ OrderedAbove held second :=
  ⟨fun h => ⟨h true, h false⟩, fun h b => by cases b; exacts [h.2, h.1]⟩

/-- Code that may be left out must be ordered all the same. -/
@[simp]
theorem orderedAbove_perhaps : OrderedAbove held (perhaps c) ↔ OrderedAbove held c := by
  simp [perhaps]

/-- A block is ordered if each of its parts is. -/
@[simp]
theorem orderedAbove_block {cs : List (LockCmd L)} :
    OrderedAbove held (block cs) ↔ ∀ c ∈ cs, OrderedAbove held c := by
  induction cs with
  | nil => simp [block]
  | cons c cs ih => simp [block, ih]

end Ordered

end LockCmd

/-- What is left of a thread at one place: a command, or the end of a scope. -/
inductive LockFrame (L : Type) : Type 1
  | run (c : LockCmd L)
  | unlock (l : L)

/-- What a thread has still to do, next things first. -/
abbrev LockThread (L : Type) : Type 1 := List (LockFrame L)

namespace LockThread

variable {L : Type}

/-- The locks of the scopes that the thread is in. -/
def held : LockThread L → List L
  | [] => []
  | .run _ :: k => held k
  | .unlock l :: k => l :: held k

/-- One step of a thread; `free` says which locks nobody holds. An exception passes over what is
still to do, as far as it gets, and ends the scopes on its way. -/
inductive Step (free : L → Prop) : LockThread L → LockThread L → Prop
  | skip (k) : Step free (.run .skip :: k) k
  | throws (c) (k) : Step free (.run .skip :: .run c :: k) (.run .skip :: k)
  | unwinds (l : L) (k) : Step free (.run .skip :: .unlock l :: k) (.run .skip :: k)
  | locked {l : L} (body) (k) :
      free l → Step free (.run (.locked l body) :: k) (.run body :: .unlock l :: k)
  | seq (first second) (k) :
      Step free (.run (.seq first second) :: k) (.run first :: .run second :: k)
  | choose {R : Type} [Nonempty R] (next : R → LockCmd L) (r : R) (k) :
      Step free (.run (.choose next) :: k) (.run (next r) :: k)
  | again (body) (k) : Step free (.run (.loop body) :: k) (.run body :: .run (.loop body) :: k)
  | done (body) (k) : Step free (.run (.loop body) :: k) k
  | unlock (l : L) (k) : Step free (.unlock l :: k) k

/-- The lock that a thread is about to take. -/
def wants : LockThread L → Option L
  | .run (.locked l _) :: _ => some l
  | _ => none

/-- The scopes of the thread are nested in order, and so is what it has still to do. -/
def Ordered [Preorder L] : LockThread L → Prop
  | [] => True
  | .run c :: k => c.OrderedAbove (held k) ∧ Ordered k
  | .unlock l :: k => (∀ h ∈ held k, h < l) ∧ Ordered k

variable [Preorder L] {t t' : LockThread L} {free : L → Prop} {l : L}

/-- A step keeps a thread ordered. -/
theorem Ordered.step (h : t.Ordered) (hstep : Step free t t') : t'.Ordered := by
  cases hstep with
  | skip k => exact h.2
  | throws c k => exact ⟨h.1, h.2.2⟩
  | unwinds l k => exact ⟨trivial, h.2.2⟩
  | locked body k _ => exact ⟨h.1.2, h.1.1, h.2⟩
  | seq first second k => exact ⟨h.1.1, h.1.2, h.2⟩
  | choose next r k => exact ⟨h.1 r, h.2⟩
  | again body k => exact ⟨h.1, h.1, h.2⟩
  | done body k => exact h.2
  | unlock l k => exact h.2

/-- What an ordered thread waits for is above all that it holds. -/
theorem Ordered.lt_of_wants (h : t.Ordered) (hwants : t.wants = some l) :
    ∀ l' ∈ t.held, l' < l := by
  match t, h, hwants with
  | .run (.locked _ _) :: _, h, hwants =>
    obtain rfl := Option.some.inj hwants
    exact h.1.1

/-- An ordered thread holds no lock twice. -/
theorem Ordered.nodup_held (h : t.Ordered) : t.held.Nodup := by
  induction t with
  | nil => exact .nil
  | cons frame k ih =>
    cases frame with
    | run c => exact ih h.2
    | unlock l => exact List.nodup_cons.mpr ⟨fun hmem => lt_irrefl l (h.1 l hmem), ih h.2⟩

omit [Preorder L] in
/-- A step takes no lock but a free one that the thread wanted. -/
theorem Step.mem_held (hstep : Step free t t') (hl : l ∈ t'.held) : l ∈ t.held ∨ free l := by
  cases hstep with
  | locked body k hfree =>
    rcases List.mem_cons.mp hl with rfl | hl
    · exact .inr hfree
    · exact .inl hl
  | unlock l k => exact .inl (List.mem_cons_of_mem _ hl)
  | unwinds l k => exact .inl (List.mem_cons_of_mem _ hl)
  | _ => exact .inl hl

omit [Preorder L] in
/-- A thread that has not finished can take a step, unless it waits for a lock. -/
theorem exists_step (hne : t ≠ []) (hwants : ∀ l, t.wants = some l → free l) :
    ∃ t', Step free t t' := by
  cases t with
  | nil => exact absurd rfl hne
  | cons frame k =>
    cases frame with
    | unlock l => exact ⟨_, .unlock l k⟩
    | run c =>
      cases c with
      | skip => exact ⟨_, .skip k⟩
      | locked l body => exact ⟨_, .locked body k (hwants l rfl)⟩
      | seq first second => exact ⟨_, .seq first second k⟩
      | @choose R _ next => exact ⟨_, .choose next (Classical.arbitrary R) k⟩
      | loop body => exact ⟨_, .done body k⟩

end LockThread

/-- Threads that share their locks. -/
abbrev LockThreads (ι L : Type) : Type 1 := ι → LockThread L

namespace LockThreads

variable {ι L : Type}

/-- No thread holds the lock. -/
def Free (s : LockThreads ι L) (l : L) : Prop := ∀ i, l ∉ (s i).held

/-- One of the threads takes a step. -/
inductive Step [DecidableEq ι] (s : LockThreads ι L) : LockThreads ι L → Prop
  | turn (i : ι) {t : LockThread L} :
      LockThread.Step (Free s) (s i) t → Step s (Function.update s i t)

/-- Threads that all wait for locks held by one of them. -/
def Deadlocked (s : LockThreads ι L) (threads : Set ι) : Prop :=
  threads.Nonempty ∧ ∀ i ∈ threads, ∃ l, (s i).wants = some l ∧ ∃ j ∈ threads, l ∈ (s j).held

/-- What holds of the threads at all times. -/
structure Inv [Preorder L] (s : LockThreads ι L) : Prop where
  ordered : ∀ i, (s i).Ordered
  exclusive : ∀ i j l, l ∈ (s i).held → l ∈ (s j).held → i = j

variable [DecidableEq ι] [Preorder L] {s s₀ s' : LockThreads ι L}

/-- A step of any thread keeps the invariant. -/
theorem Inv.step (h : s.Inv) (hstep : Step s s') : s'.Inv := by
  obtain ⟨i, hstep⟩ := hstep
  rename_i t
  have hupdate (j : ι) : Function.update s i t j = if j = i then t else s j :=
    Function.update_apply s i t j
  -- A lock that the thread has just taken is held by no other.
  have hnew {j : ι} {l : L} (hj : j ≠ i) (ht : l ∈ t.held) (hl : l ∈ (s j).held) : False := by
    rcases hstep.mem_held ht with hold | hfree
    · exact hj (h.exclusive j i l hl hold)
    · exact hfree j hl
  constructor
  · intro j
    rw [hupdate]
    split
    · exact (h.ordered i).step hstep
    · exact h.ordered j
  · intro j k l hj hk
    rw [hupdate] at hj hk
    split at hj <;> split at hk
    · next hji hki => rw [hji, hki]
    · next hki => exact (hnew hki hj hk).elim
    · next hji _ => exact (hnew hji hk hj).elim
    · exact h.exclusive j k l hj hk

/-- Threads that are ordered when they start hold no lock twice and stay ordered. -/
theorem inv_of_reachable (hordered : ∀ i, (s₀ i).Ordered) (hstart : ∀ i, (s₀ i).held = [])
    (hreach : Relation.ReflTransGen Step s₀ s) : s.Inv := by
  induction hreach with
  | refl =>
    refine ⟨hordered, fun i j l hi _ => ?_⟩
    rw [hstart i] at hi
    exact absurd hi List.not_mem_nil
  | tail _ hstep ih => exact ih.step hstep

omit [DecidableEq ι] in
/-- Ordered threads are never deadlocked: in a set of threads that wait for each other, the one
that wants the greatest lock would wait for a thread that wants a greater one. -/
theorem Inv.not_deadlocked [Finite ι] (h : s.Inv) (threads : Set ι) : ¬ Deadlocked s threads := by
  rintro ⟨⟨i, hi⟩, hwaits⟩
  let wanted : Set L := {l | ∃ i ∈ threads, (s i).wants = some l}
  have hfinite : wanted.Finite := by
    have himage : wanted ⊆ Set.preimage Option.some (Set.range fun i => (s i).wants) :=
      fun _ ⟨i, _, hl⟩ => ⟨i, hl⟩
    exact ((Set.finite_range _).preimage (Option.some_injective L).injOn).subset himage
  obtain ⟨l, hl, -⟩ := hwaits i hi
  obtain ⟨m, ⟨j, hj, hm⟩, hmax⟩ := hfinite.exists_maximal ⟨l, i, hi, hl⟩
  obtain ⟨m', hm', k, hk, hheld⟩ := hwaits j hj
  obtain rfl := Option.some.inj (hm.symm.trans hm')
  -- The thread that holds the greatest lock wants one above it.
  obtain ⟨n, hn, -⟩ := hwaits k hk
  have hlt : m < n := (h.ordered k).lt_of_wants hn m hheld
  exact lt_irrefl m (hlt.trans_le (hmax ⟨k, hk, hn⟩ hlt.le))

/-- Until all have finished, some thread can go on. -/
theorem Inv.exists_step [Finite ι] (h : s.Inv) (hunfinished : ∃ i, s i ≠ []) :
    ∃ s', Step s s' := by
  by_contra! hstuck
  refine h.not_deadlocked {i | s i ≠ []} ⟨hunfinished, fun i hi => ?_⟩
  -- A thread that cannot go on waits for a lock, and who holds it has not finished.
  by_contra! hwaits
  have hfree : ∀ l, (s i).wants = some l → Free s l := by
    intro l hl j hheld
    refine hwaits l hl j (fun hnil => ?_) hheld
    rw [hnil] at hheld
    exact absurd hheld List.not_mem_nil
  obtain ⟨t, hstep⟩ := LockThread.exists_step hi hfree
  exact hstuck _ (.turn i hstep)

end LockThreads

namespace Program

variable {ε E L : Type} {R : E → Type} {α : Type}

/-- The command of a program whose calls do the given commands. -/
def locking [∀ e, Nonempty (R e)] (lockOf : E → LockCmd L) : Program ε R α → LockCmd L
  | ret _ => .skip
  | throw _ => .skip
  | call e k => .seq (lockOf e) (.choose fun r => (k r).locking lockOf)

/-- A program is ordered if the locking of each of its calls is. -/
theorem orderedAbove_locking [∀ e, Nonempty (R e)] [Preorder L] {lockOf : E → LockCmd L}
    {held : List L} (h : ∀ e, (lockOf e).OrderedAbove held) (p : Program ε R α) :
    (p.locking lockOf).OrderedAbove held := by
  induction p with
  | ret a => trivial
  | throw x => trivial
  | call e k ih => exact ⟨h e, ih⟩

end Program
