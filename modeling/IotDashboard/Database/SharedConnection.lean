import IotDashboard.Database.DeviceRepository
import IotDashboard.Database.SensorRepository
import IotDashboard.Foundation.Interleaving

/-!
# Two repositories on one connection

Each repository locks its own mutex only, so the calls of a device operation and of a sensor
operation mix on the connection. The connection keeps one change counter and one transaction for
both: a count may be read after the other thread's write, and a device write may fall into a
batch's transaction and be rolled back with it.

The calls of each thread fail as its own stream of faults says, in every order.

## Main results

* `SharedConnection.run_frame`: a thread neither sees nor touches the faults of the other;
* `SharedConnection.serial_of_singleWrites`: two operations of one statement each come out in the
  order of their statements, as long as neither count is overwritten before it is read.
-/

namespace IotDashboard

open Program

/-- A connection that two threads share: the left one runs a device operation, the right one a
sensor operation. -/
structure SharedConnection where
  tables : Tables := .empty
  changes : ℕ := 0
  transaction : Option Tables := none
  /-- Which of the coming calls of each thread fail. -/
  faults : Turn → ℕ → Bool := fun _ _ => false

/-- An operation of the device repository. -/
inductive DeviceOp where
  | add (device : DeviceInfo)
  | update (device : DeviceInfo)
  | remove (deviceId : StdString)

/-- An operation of the sensor repository. -/
inductive SensorOp where
  | add (reading : SensorReading)
  | addBatch (readings : List SensorReading)
  | purge (now : Timestamp) (retentionDays : UInt32)

/-- The calls of a device operation. -/
def DeviceOp.program : DeviceOp → Sql (Result Unit)
  | add device => SqliteDeviceRepository.add device
  | update device => SqliteDeviceRepository.update device
  | remove deviceId => SqliteDeviceRepository.remove deviceId

/-- What a sensor operation returns. -/
abbrev SensorOp.Reply : SensorOp → Type
  | .add _ | .addBatch _ => Result Unit
  | .purge .. => Result UInt32

/-- The calls of a sensor operation. -/
def SensorOp.program : (op : SensorOp) → Sql op.Reply
  | .add reading => SqliteSensorRepository.add reading
  | .addBatch readings => SqliteSensorRepository.addBatch readings
  | .purge now retentionDays => SqliteSensorRepository.purge now retentionDays

namespace SharedConnection

/-- The connection as one thread sees it. SQLite counts no rows for a statement that fails. -/
def view (t : Turn) (s : SharedConnection) : Database where
  tables := s.tables
  changes := s.changes
  transaction := s.transaction
  faults := s.faults t
  changesOnFailure _ := 0

/-- The connection after a thread has acted on it. -/
def put (t : Turn) (d : Database) (s : SharedConnection) : SharedConnection :=
  ⟨d.tables, d.changes, d.transaction, Function.update s.faults t d.faults⟩

/-- The meaning of the calls of a thread. -/
def handle (t : Turn) : Handler CxxException SqlCall.Reply SharedConnection := fun e =>
  .zoom (view t) (put t) (Database.handle e)

/-- Two threads on the connection. -/
abbrev SqlThreads (α β : Type) : Type :=
  Threads CxxException SqlCall.Reply α β SharedConnection

/-- Two threads after a turn. -/
abbrev turn {α β : Type} (c : SqlThreads α β) (t : Turn) : SqlThreads α β :=
  c.step (handle .left) (handle .right) t

/-- A transaction that the sensor operation has opened and not yet ended. -/
def BatchOpen {α β : Type} (start : SharedConnection) (c : SqlThreads α β) : Prop :=
  start.transaction = none ∧ c.shared.transaction.isSome ∧ c.right.outcome? = none

/-- The turn does not disturb the other thread: a thread that is about to read the change counter
finds it as its statement left it, and no device write changes the tables inside a transaction of
the sensor operation. -/
def Undisturbed {α β : Type} (start : SharedConnection) (c : SqlThreads α β) : Turn → Prop
  | .left =>
    (c.right.next? = some .changes → (turn c .left).shared.changes = c.shared.changes) ∧
      (BatchOpen start c → (turn c .left).shared.tables = c.shared.tables)
  | .right => c.left.next? = some .changes → (turn c .right).shared.changes = c.shared.changes

/-! ## One thread -/

section OneThread

variable {α β : Type} {t : Turn} {s s' : SharedConnection}

/-- The connection with other faults for a thread. -/
def withFaults (t : Turn) (faults : ℕ → Bool) (s : SharedConnection) : SharedConnection :=
  { s with faults := Function.update s.faults t faults }

@[simp]
theorem put_view (t : Turn) (s : SharedConnection) : put t (view t s) s = s := by
  cases s
  simp [put, view]

/-- A call of a thread is one on its view of the connection. -/
theorem run_handle (t : Turn) (e : SqlCall) (s : SharedConnection) :
    (handle t e).run s =
      (((Database.handle e).run (view t s)).1, put t ((Database.handle e).run (view t s)).2 s) :=
  rfl

/-- A thread neither sees nor touches the faults of the other. -/
theorem run_frame (p : Sql α) (t : Turn) (faults : ℕ → Bool) (s : SharedConnection) :
    (p.run (handle t)).run (s.withFaults t.other faults) =
        (((p.run (handle t)).run s).1, ((p.run (handle t)).run s).2.withFaults t.other faults) ∧
      ((p.run (handle t)).run s).2.faults t.other = s.faults t.other := by
  have hview : ∀ a : SharedConnection, view t (a.withFaults t.other faults) = view t a := by
    intro a
    simp [view, withFaults, Function.update_of_ne (Turn.other_ne t).symm]
  have hput : ∀ d (a : SharedConnection),
      put t d (a.withFaults t.other faults) = (put t d a).withFaults t.other faults := by
    intro d a
    simp [put, withFaults, Function.update_comm (Turn.other_ne t)]
  have hsim : Simulates (fun _ => True) (fun _ _ => True)
      (fun a b => a.faults t.other = s.faults t.other ∧ b = a.withFaults t.other faults)
      (handle t) (handle t) := by
    refine ⟨?_, fun _ _ _ _ _ _ _ => trivial, ?_⟩
    · rintro e a _ - ⟨-, rfl⟩
      rw [run_handle, run_handle, hview]
    · rintro e a _ - ⟨ha, rfl⟩
      rw [run_handle, run_handle, hview, hput]
      refine ⟨?_, rfl⟩
      simpa [put, Function.update_of_ne (Turn.other_ne t)] using ha
  obtain ⟨hresult, hfaults, hstate⟩ := run_simulate hsim p.all_true (s := s) ⟨rfl, rfl⟩
  exact ⟨Prod.ext hresult.symm hstate, hfaults⟩

/-- Reading the counter is all the program still does. -/
def Reading (p : Sql α) : Prop := p.All (fun e => e = .changes) fun _ _ => True

/-- A program that has returned only reads. -/
theorem reading_ret (a : α) : Reading (.ret a) := trivial

/-- So does one that asks for the change counter and returns. -/
theorem reading_changes (report : ℕ → α) : Reading (.call .changes fun n => .ret (report n)) :=
  ⟨rfl, fun _ _ => trivial⟩

/-- A program that only reads the counter leaves the connection alone, and depends on the counter
only. -/
theorem run_of_reading {p : Sql α} (hp : Reading p) (hchanges : s.changes = s'.changes) :
    ((p.run (handle t)).run s).2 = s ∧
      ((p.run (handle t)).run s).1 = ((p.run (handle t)).run s').1 := by
  have hsim : Simulates (fun e => e = .changes) (fun _ _ => True)
      (fun a b => a = s ∧ b = s') (handle t) (handle t) := by
    refine ⟨?_, fun _ _ _ _ _ _ _ => trivial, ?_⟩
    · rintro _ _ _ rfl ⟨rfl, rfl⟩
      exact congrArg Except.ok hchanges
    · rintro _ _ _ rfl ⟨rfl, rfl⟩
      exact ⟨put_view t _, put_view t _⟩
  obtain ⟨hresult, hstate, -⟩ := run_simulate hsim hp (s := s) ⟨rfl, rfl⟩
  exact ⟨hstate, hresult⟩

/-- The next call of a program that only reads the counter. -/
theorem advance_of_reading {e : SqlCall} {k : e.Reply → Sql α} (hp : Reading (.call e k))
    (s : SharedConnection) :
    e = .changes ∧ Reading ((Program.call e k).advance (handle t) s).1 ∧
      ((Program.call e k).advance (handle t) s).2 = s := by
  obtain ⟨rfl, hk⟩ := hp
  have hcall : (handle t .changes).run s = (.ok s.changes, s) :=
    congrArg (Prod.mk _) (put_view t s)
  rw [advance_call_of_ok hcall]
  exact ⟨rfl, hk s.changes trivial, rfl⟩

/-- Prepare a statement and execute it, then finish. -/
def singleWrite (w : Write) (finish : Sql α) : Sql α :=
  .call .prepare fun ok => if ok then .call (.step w) fun _ => finish else .throw .runtimeError

/-- The statement of the program has not been executed yet. -/
def Pending (w : Write) (finish p : Sql α) : Prop :=
  p = singleWrite w finish ∨ p = .call (.step w) fun _ => finish

/-- The first call of a single statement prepares it. -/
theorem advance_singleWrite (w : Write) (finish : Sql α) (s : SharedConnection) :
    (singleWrite w finish).advance (handle t) s =
      (if s.faults t 0 then .throw .runtimeError else .call (.step w) fun _ => finish,
        s.withFaults t fun i => s.faults t (i + 1)) := by
  have hcall : (handle t .prepare).run s =
      (.ok (!s.faults t 0), s.withFaults t fun i => s.faults t (i + 1)) := rfl
  rw [singleWrite, advance_call_of_ok hcall]
  cases s.faults t 0 <;> rfl

end OneThread

/-! ## Two single writes -/

section TwoWrites

variable {α β : Type} {t : Turn} {c : SqlThreads α β} {schedule : List Turn}
  {f : Except CxxException α × Except CxxException β × SharedConnection}

/-- A turn of one thread leaves the counter alone while the other is about to read it. -/
def KeepsCounter (t : Turn) (c : SqlThreads α β) : Turn → Prop
  | .left => c.right.next? = some .changes →
      (c.step (handle t) (handle t.other) .left).shared.changes = c.shared.changes
  | .right => c.left.next? = some .changes →
      (c.step (handle t) (handle t.other) .right).shared.changes = c.shared.changes

/-- Whoever is undisturbed keeps the change counter. -/
theorem undisturbed_keepsCounter {start : SharedConnection} (c : SqlThreads α β) (turn : Turn)
    (h : Undisturbed start c turn) : KeepsCounter .left c turn := by
  cases turn with
  | left => exact h.1
  | right => exact h

/-- A thread that only reads the counter finds what it would find at once. -/
theorem result_of_reading (hc : Reading c.left)
    (hobeys : Threads.Obeys (handle t) (handle t.other) (KeepsCounter t) c schedule)
    (hf : (c.exec (handle t) (handle t.other) schedule).result? = some f) :
    f = c.leftFirst (handle t) (handle t.other) := by
  induction schedule generalizing c with
  | nil =>
    obtain ⟨hl, -, -⟩ := Threads.result?_eq_some_iff.mp hf
    exact (Threads.result_of_left_returned hl hf).1
  | cons turn schedule ih =>
    cases hleft : c.left with
    | ret a =>
      exact (Threads.result_of_left_returned (congrArg outcome? hleft) hf).1
    | throw x =>
      exact (Threads.result_of_left_returned (congrArg outcome? hleft) hf).1
    | call e k =>
      rw [hleft] at hc
      cases turn with
      | left =>
        rw [← Threads.leftFirst_step_left]
        refine ih ?_ hobeys.2 hf
        rw [Threads.step, hleft]
        exact (advance_of_reading hc c.shared).2.1
      | right =>
        have hkept := hobeys.1 (by rw [hleft, next?, (advance_of_reading (t := t) hc c.shared).1])
        rw [← hleft] at hc
        rw [ih (c := c.step (handle t) (handle t.other) .right) hc hobeys.2 hf]
        -- The counter is as it was, so reading it first gives the same.
        obtain ⟨hstay, hread⟩ := run_of_reading (t := t) hc hkept.symm
        obtain ⟨hstay', -⟩ := run_of_reading (t := t) hc hkept
        have hrun' : (c.left.run (handle t)).run (c.right.advance (handle t.other) c.shared).2 =
            (((c.left.run (handle t)).run c.shared).1,
              (c.right.advance (handle t.other) c.shared).2) := Prod.ext hread.symm hstay'
        simp only [Threads.leftFirst, Threads.step, hrun', hstay, run_advance]

/-- Preparing a statement earlier makes no difference to the other thread. -/
theorem rightFirst_step_singleWrite {w : Write} {finish : Sql α}
    (hleft : c.left = singleWrite w finish) :
    (c.step (handle t) (handle t.other) .left).rightFirst (handle t) (handle t.other) =
      c.rightFirst (handle t) (handle t.other) := by
  have hadvance := fun s => advance_singleWrite (t := t) w finish s
  rw [← hleft] at hadvance
  have hframe := run_frame c.right t.other (fun i => c.shared.faults t (i + 1)) c.shared
  rw [Turn.other_other] at hframe
  have hsame := run_advance (handle t) c.left ((c.right.run (handle t.other)).run c.shared).2
  rw [hadvance, hframe.2] at hsame
  simp only [Threads.rightFirst, Threads.step, hadvance, hframe.1, hsame]

/-- A turn of a thread whose statement is still to come: either order that comes of what follows
is one of what there was before. -/
theorem serial_of_step_left {w : Write} {finish : Sql α} (hfinish : Reading finish)
    (hleft : Pending w finish c.left)
    (hreading : Reading (c.step (handle t) (handle t.other) .left).left →
      f = (c.step (handle t) (handle t.other) .left).leftFirst (handle t) (handle t.other))
    (hpending : Pending w finish (c.step (handle t) (handle t.other) .left).left →
      f = (c.step (handle t) (handle t.other) .left).leftFirst (handle t) (handle t.other) ∨
        f = (c.step (handle t) (handle t.other) .left).rightFirst (handle t) (handle t.other)) :
    f = c.leftFirst (handle t) (handle t.other) ∨ f = c.rightFirst (handle t) (handle t.other) := by
  rw [Threads.leftFirst_step_left] at hreading hpending
  rcases hleft with hleft | hleft
  · by_cases hfault : c.shared.faults t 0 = true
    · -- The statement cannot be prepared, and the thread is done.
      refine .inl (hreading ?_)
      rw [Threads.step, hleft, advance_singleWrite, if_pos hfault]
      trivial
    · rw [rightFirst_step_singleWrite hleft] at hpending
      refine hpending ?_
      rw [Threads.step, hleft, advance_singleWrite, if_neg hfault]
      exact .inr rfl
  · -- The statement is executed, and only the counter is left to read.
    refine .inl (hreading ?_)
    have hcall : ∃ code s', (handle t (.step w)).run c.shared = (.ok code, s') := ⟨_, _, rfl⟩
    obtain ⟨code, s', hcall⟩ := hcall
    rw [Threads.step, hleft, advance_call_of_ok hcall]
    exact hfinish

private theorem keepsCounter_swap (c : SqlThreads α β) (turn : Turn) (h : KeepsCounter t c turn) :
    KeepsCounter t.other c.swap turn.other := by
  cases turn with
  | left =>
    rw [KeepsCounter] at h
    show c.right.next? = some .changes → _
    rwa [Turn.other_other]
  | right =>
    rw [KeepsCounter] at h
    show c.left.next? = some .changes → _
    rwa [Turn.other_other]

private theorem swap_inj {f g : Except CxxException α × Except CxxException β × SharedConnection}
    (h : Threads.swapResult f = Threads.swapResult g) : f = g :=
  congrArg Threads.swapResult h

/-- The mirror image of `result_of_reading`. -/
theorem result_of_reading_right (hc : Reading c.right)
    (hobeys : Threads.Obeys (handle t) (handle t.other) (KeepsCounter t) c schedule)
    (hf : (c.exec (handle t) (handle t.other) schedule).result? = some f) :
    f = c.rightFirst (handle t) (handle t.other) := by
  have hobeys' := Threads.obeys_swap (keepsCounter_swap (t := t)) hobeys
  have hf' := Threads.result?_swap hf
  rw [← Threads.exec_swap] at hf'
  have hback : handle t = handle t.other.other := by rw [Turn.other_other]
  rw [hback] at hobeys' hf'
  have hresult := result_of_reading (t := t.other) (c := c.swap) hc hobeys' hf'
  rw [Turn.other_other] at hresult
  exact swap_inj hresult

/-- The mirror image of `serial_of_step_left`. -/
theorem serial_of_step_right {w : Write} {finish : Sql β} (hfinish : Reading finish)
    (hright : Pending w finish c.right)
    (hreading : Reading (c.step (handle t) (handle t.other) .right).right →
      f = (c.step (handle t) (handle t.other) .right).rightFirst (handle t) (handle t.other))
    (hpending : Pending w finish (c.step (handle t) (handle t.other) .right).right →
      f = (c.step (handle t) (handle t.other) .right).leftFirst (handle t) (handle t.other) ∨
        f = (c.step (handle t) (handle t.other) .right).rightFirst (handle t) (handle t.other)) :
    f = c.leftFirst (handle t) (handle t.other) ∨ f = c.rightFirst (handle t) (handle t.other) := by
  have hserial := serial_of_step_left (t := t.other) (c := c.swap) (f := Threads.swapResult f)
    hfinish hright
  rw [Turn.other_other] at hserial
  refine (hserial (fun h => ?_) fun h => ?_).symm.imp swap_inj swap_inj
  · exact congrArg Threads.swapResult (hreading h)
  · exact (hpending h).symm.imp (congrArg Threads.swapResult) (congrArg Threads.swapResult)

/-- Two single writes come out in the order of their statements, as long as neither count is
overwritten before it is read. -/
theorem serial_of_singleWrites {w w' : Write} {finish : Sql α} {finish' : Sql β}
    (hfinish : Reading finish) (hfinish' : Reading finish')
    (hl : Pending w finish c.left ∨ Reading c.left)
    (hr : Pending w' finish' c.right ∨ Reading c.right)
    (hobeys : Threads.Obeys (handle t) (handle t.other) (KeepsCounter t) c schedule)
    (hf : (c.exec (handle t) (handle t.other) schedule).result? = some f) :
    f = c.leftFirst (handle t) (handle t.other) ∨ f = c.rightFirst (handle t) (handle t.other) := by
  induction schedule generalizing c with
  | nil =>
    obtain ⟨hl, -, -⟩ := Threads.result?_eq_some_iff.mp hf
    exact .inl (Threads.result_of_left_returned hl hf).1
  | cons turn schedule ih =>
    rcases hl with hl | hl
    · rcases hr with hr | hr
      · cases turn with
        | left =>
          refine serial_of_step_left hfinish hl
            (fun hreading => result_of_reading hreading hobeys.2 hf) fun hpending => ?_
          exact ih (.inl hpending) (.inl hr) hobeys.2 hf
        | right =>
          refine serial_of_step_right hfinish' hr
            (fun hreading => result_of_reading_right hreading hobeys.2 hf) fun hpending => ?_
          exact ih (.inl hl) (.inl hpending) hobeys.2 hf
      · exact .inr (result_of_reading_right hr hobeys hf)
    · exact .inl (result_of_reading hl hobeys hf)

end TwoWrites

end SharedConnection

end IotDashboard
