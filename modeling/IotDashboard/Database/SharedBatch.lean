import IotDashboard.Database.SharedConnection

/-!
# A device operation beside a batch

`AddBatch` inserts inside a transaction, which is also the transaction of whatever the device
repository does meanwhile. A device operation whose statement is executed inside it, and changes
nothing, might as well come after the batch: what its statement counts, if only that it fails, is
what it would count there.

## Main results

* `SharedConnection.serial_of_batch`: beside a batch in which no device statement changes anything,
  a device operation comes out before it or after it.
-/

namespace IotDashboard

open Program

namespace SharedConnection

/-! ## The calls of a batch -/

/-- `commitBatch` as its calls. -/
theorem commitBatch_eq : SqliteSensorRepository.commitBatch =
    .call (.execute .commit) fun ok =>
      if ok then .ret (.ok ())
      else .call (.execute .rollback) fun _ => .ret (.error .databaseError) := by
  refine congrArg (Program.call _) ?_
  funext ok
  cases ok
  · refine congrArg (Program.call _) ?_
    funext ok'
    cases ok' <;> rfl
  · rfl

/-- `AddBatch` after its `BEGIN`. -/
def batchBody (readings : List SensorReading) : Sql (Result Unit) :=
  .call .prepare fun ok =>
    if ok then
      SqliteSensorRepository.insertAll readings >>= fun _ => SqliteSensorRepository.commitBatch
    else .throw .runtimeError

/-- `AddBatch` as its calls. -/
theorem addBatch_eq {readings : List SensorReading} (hne : readings ≠ []) :
    SqliteSensorRepository.addBatch readings =
      .call (.execute .begin) fun ok =>
        if ok then batchBody readings else .ret (.error .databaseError) := by
  rw [SqliteSensorRepository.addBatch, if_neg (by simpa using hne)]
  refine congrArg (Program.call _) ?_
  funext ok
  cases ok
  · rfl
  · refine congrArg (Program.call _) ?_
    funext ok'
    cases ok' <;> rfl

/-- The calls of a batch after its `BEGIN`. -/
inductive BatchCall : SqlCall → Prop where
  | prepare : BatchCall .prepare
  | insert (row : ReadingRow) : BatchCall (.step (.insertReading row))
  | commit : BatchCall (.execute .commit)
  | rollback : BatchCall (.execute .rollback)

/-- What is left of a batch inside its transaction. -/
inductive InBatch : Sql (Result Unit) → Prop where
  | body (readings : List SensorReading) : InBatch (batchBody readings)
  | inserts (readings : List SensorReading) :
    InBatch (SqliteSensorRepository.insertAll readings >>= fun _ =>
      SqliteSensorRepository.commitBatch)
  | rollback : InBatch (.call (.execute .rollback) fun _ => .ret (.error .databaseError))

private theorem all_commitBatch :
    SqliteSensorRepository.commitBatch.All BatchCall fun _ _ => True := by
  rw [commitBatch_eq]
  refine ⟨.commit, fun ok _ => ?_⟩
  cases ok
  · exact ⟨.rollback, fun _ _ => trivial⟩
  · trivial

private theorem all_insertAll (readings : List SensorReading) :
    (SqliteSensorRepository.insertAll readings).All BatchCall fun _ _ => True := by
  induction readings with
  | nil => trivial
  | cons reading readings ih => exact ⟨.insert _, fun _ _ => ih⟩

/-- A batch makes the calls of a batch only. -/
theorem InBatch.all {p : Sql (Result Unit)} (hp : InBatch p) :
    p.All BatchCall fun _ _ => True := by
  cases hp with
  | body readings =>
    refine ⟨.prepare, fun ok _ => ?_⟩
    cases ok
    · trivial
    · exact (all_insertAll readings).bind fun _ => all_commitBatch
  | inserts readings => exact (all_insertAll readings).bind fun _ => all_commitBatch
  | rollback => exact ⟨.rollback, fun _ _ => trivial⟩

section Batch

variable {t : Turn} {s : SharedConnection}

/-- A statement does not touch the transaction. -/
theorem transaction_step (d : Database) (w : Write) : (d.step w).2.transaction = d.transaction := by
  cases h : d.outcome w with
  | none => rw [Database.step_of_failure d h]; rfl
  | some result => rw [Database.step_of_outcome d h]; rfl

/-- A step of a batch ends the batch, or leaves its transaction open. -/
theorem InBatch.advance {p : Sql (Result Unit)} (hp : InBatch p) (t : Turn)
    (hopen : s.transaction.isSome) :
    (p.advance (handle t) s).1.outcome?.isSome ∨
      InBatch (p.advance (handle t) s).1 ∧ (p.advance (handle t) s).2.transaction.isSome := by
  -- One case for each place in the batch.
  cases hp with
  | body readings =>
    have hcall : (handle t .prepare).run s =
        (.ok (!s.faults t 0), s.withFaults t fun i => s.faults t (i + 1)) := rfl
    rw [batchBody, advance_call_of_ok hcall]
    cases s.faults t 0
    · exact .inr ⟨.inserts readings, hopen⟩
    · exact .inl rfl
  | inserts readings =>
    cases readings with
    | nil =>
      show (SqliteSensorRepository.commitBatch.advance (handle t) s).1.outcome?.isSome ∨
        InBatch (SqliteSensorRepository.commitBatch.advance (handle t) s).1 ∧
          (SqliteSensorRepository.commitBatch.advance (handle t) s).2.transaction.isSome
      have hcall : (handle t (.execute .commit)).run s =
          (.ok ((view t s).execute .commit).1, put t ((view t s).execute .commit).2 s) := rfl
      rw [commitBatch_eq, advance_call_of_ok hcall]
      -- A `COMMIT` that fails is followed by a `ROLLBACK`.
      by_cases hfails : (view t s).faults 0 ∨ (view t s).transaction.isNone
      · have hcommit : (view t s).execute .commit = (false, (view t s).tick 1) := if_pos hfails
        rw [hcommit]
        exact .inr ⟨.rollback, hopen⟩
      · have hcommit : (view t s).execute .commit =
            (true, { (view t s).tick 1 with transaction := none }) := if_neg hfails
        rw [hcommit]
        exact .inl rfl
    | cons reading readings =>
      refine .inr ⟨.inserts readings, ?_⟩
      show (put t ((view t s).step _).2 s).transaction.isSome
      rwa [put, transaction_step]
  | rollback => exact .inl rfl

/-- An insert that succeeds leaves the devices alone. -/
theorem outcome_insertReading {d : Database} {row : ReadingRow} {tables : Tables} {n : ℕ}
    (h : d.outcome (.insertReading row) = some (tables, n)) :
    tables.devices = d.tables.devices := by
  rw [Database.outcome] at h
  split at h
  · cases h
  · rw [Write.apply] at h
    split at h
    · obtain ⟨rfl, -⟩ := Prod.mk.inj (Option.some.inj h)
      rfl
    · cases h

/-- What a batch keeps: the devices, also those to which it would be rolled back. -/
structure BatchInvariant (devices : List DeviceRow) (s : SharedConnection) : Prop where
  stored : s.tables.devices = devices
  undone : ∀ tables ∈ s.transaction, tables.devices = devices

/-- Every call of a batch keeps its invariant. -/
theorem batchInvariant_handle {devices : List DeviceRow} (e : SqlCall) (s : SharedConnection)
    (he : BatchCall e) (h : BatchInvariant devices s) :
    BatchInvariant devices ((handle t e).run s).2 := by
  cases he with
  | prepare => exact ⟨h.stored, h.undone⟩
  | insert row =>
    show BatchInvariant devices (put t ((view t s).step (.insertReading row)).2 s)
    cases houtcome : (view t s).outcome (.insertReading row) with
    | none =>
      rw [Database.step_of_failure _ houtcome]
      exact ⟨h.stored, h.undone⟩
    | some result =>
      rw [Database.step_of_outcome _ houtcome]
      exact ⟨(outcome_insertReading houtcome).trans h.stored, h.undone⟩
  | commit =>
    show BatchInvariant devices (put t ((view t s).execute .commit).2 s)
    rw [Database.execute]
    split
    · exact ⟨h.stored, h.undone⟩
    · exact ⟨h.stored, by simp [put]⟩
  | rollback =>
    show BatchInvariant devices (put t ((view t s).execute .rollback).2 s)
    rw [Database.execute]
    split
    · exact ⟨h.stored, h.undone⟩
    · next tables htables => exact ⟨h.undone tables htables, by simp [put]⟩

/-- Two connections that a batch cannot tell apart: it does not read the counter. -/
structure SameForBatch (t : Turn) (s s' : SharedConnection) : Prop where
  tables : s.tables = s'.tables
  transaction : s.transaction = s'.transaction
  faults : s.faults t = s'.faults t

private theorem step_withChanges (d : Database) (n : ℕ) (w : Write) :
    ({ d with changes := n }.step w).1 = (d.step w).1 ∧
      ∃ m, ({ d with changes := n }.step w).2 = { (d.step w).2 with changes := m } := by
  have hsame : Database.outcome { d with changes := n } w = d.outcome w := rfl
  cases houtcome : d.outcome w with
  | none =>
    rw [Database.step_of_failure d houtcome, Database.step_of_failure _ (hsame.trans houtcome)]
    exact ⟨rfl, d.changesOnFailure n, rfl⟩
  | some result =>
    rw [Database.step_of_outcome d houtcome, Database.step_of_outcome _ (hsame.trans houtcome)]
    exact ⟨rfl, result.2, rfl⟩

private theorem execute_withChanges (d : Database) (n : ℕ) (command : SqlCommand) :
    ({ d with changes := n }.execute command).1 = (d.execute command).1 ∧
      ({ d with changes := n }.execute command).2 =
        { (d.execute command).2 with changes := n } := by
  cases command with
  | begin => rw [Database.execute, Database.execute]; split <;> exact ⟨rfl, rfl⟩
  | commit => rw [Database.execute, Database.execute]; split <;> exact ⟨rfl, rfl⟩
  | rollback => cases htransaction : d.transaction <;> simp [Database.execute, htransaction]

/-- The calls of a batch do not depend on the counter. -/
theorem handle_withChanges {e : SqlCall} (he : BatchCall e) (d : Database) (n : ℕ) :
    ((Database.handle e).run { d with changes := n }).1 = ((Database.handle e).run d).1 ∧
      ∃ m, ((Database.handle e).run { d with changes := n }).2 =
        { ((Database.handle e).run d).2 with changes := m } := by
  cases he with
  | prepare => exact ⟨rfl, n, rfl⟩
  | insert row =>
    have hstep := step_withChanges d n (.insertReading row)
    exact ⟨congrArg Except.ok hstep.1, hstep.2⟩
  | commit =>
    have hexecute := execute_withChanges d n .commit
    exact ⟨congrArg Except.ok hexecute.1, n, hexecute.2⟩
  | rollback =>
    have hexecute := execute_withChanges d n .rollback
    exact ⟨congrArg Except.ok hexecute.1, n, hexecute.2⟩

private theorem simulates_sameForBatch (t : Turn) :
    Simulates BatchCall (fun _ _ => True) (SameForBatch t) (handle t) (handle t) := by
  have hview : ∀ {a b : SharedConnection}, SameForBatch t a b →
      view t a = { view t b with changes := a.changes } := by
    rintro ⟨⟩ ⟨⟩ ⟨htables, htransaction, hfaults⟩
    simp_all [view]
  refine ⟨fun e a b he hab => ?_, fun _ _ _ _ _ _ _ => trivial, fun e a b he hab => ?_⟩
  · rw [run_handle, run_handle, hview hab]
    exact (handle_withChanges he (view t b) a.changes).1
  · rw [run_handle, run_handle, hview hab]
    obtain ⟨m, hm⟩ := (handle_withChanges he (view t b) a.changes).2
    rw [hm]
    exact ⟨rfl, rfl, by simp [put]⟩

/-- The rest of a batch does the same to both. -/
theorem SameForBatch.run {p : Sql (Result Unit)} (hp : InBatch p) {s s' : SharedConnection}
    (h : SameForBatch t s s') :
    ((p.run (handle t)).run s).1 = ((p.run (handle t)).run s').1 ∧
      SameForBatch t ((p.run (handle t)).run s).2 ((p.run (handle t)).run s').2 :=
  run_simulate (simulates_sameForBatch t) hp.all h

/-! ## A device statement beside a batch -/

/-- A statement on the devices. -/
inductive OnDevices : Write → Prop where
  | insert (row : DeviceRow) : OnDevices (.insertDevice row)
  | update (row : DeviceRow) : OnDevices (.updateDevice row)
  | delete (id : StdString) : OnDevices (.deleteDevice id)

/-- Whether a statement on the devices succeeds, what it counts and whether it changes anything
depends on the stored devices only. -/
theorem OnDevices.apply_congr {w : Write} (hw : OnDevices w) {tables tables' : Tables}
    (h : tables.devices = tables'.devices) :
    (w.apply tables = none ∧ w.apply tables' = none) ∨
      ∃ u u' n, w.apply tables = some (u, n) ∧ w.apply tables' = some (u', n) ∧
        (u = tables ↔ u' = tables') := by
  have hids : tables.ids = tables'.ids := congrArg (List.map DeviceRow.id) h
  cases hw with
  | insert row =>
    by_cases hstored : row.id ∈ tables.ids
    · exact .inl ⟨dif_pos hstored, dif_pos (hids ▸ hstored)⟩
    · refine .inr ⟨_, _, 1, dif_neg hstored, dif_neg (hids ▸ hstored), ?_⟩
      refine iff_of_false (fun heq => ?_) fun heq => ?_
      · simpa [Tables.insertDevice] using congrArg (fun u : Tables => u.devices.length) heq
      · simpa [Tables.insertDevice] using congrArg (fun u : Tables => u.devices.length) heq
  | update row =>
    refine .inr ⟨_, _, _, rfl, by rw [Write.apply, h], ?_⟩
    rw [Tables.ext_iff, Tables.ext_iff]
    simp [Tables.updateDevice, h]
  | delete id =>
    refine .inr ⟨_, _, _, rfl, by rw [Write.apply, h], ?_⟩
    have hunchanged : ∀ u : Tables, u.deleteDevice id = u ↔ id ∉ u.ids := by
      refine fun u => ⟨fun heq hmem => ?_, Tables.deleteDevice_of_notMem⟩
      rw [← heq, Tables.mem_ids_deleteDevice] at hmem
      exact hmem.2 rfl
    rw [hunchanged, hunchanged, hids]

/-- What a statement on the devices makes of them depends on them only. -/
theorem OnDevices.devices_congr {w : Write} (hw : OnDevices w) {tables tables' : Tables}
    (h : tables.devices = tables'.devices) :
    (w.apply tables).map (fun result => result.1.devices) =
      (w.apply tables').map fun result => result.1.devices := by
  have hids : tables.ids = tables'.ids := congrArg (List.map DeviceRow.id) h
  cases hw with
  | insert row =>
    by_cases hstored : row.id ∈ tables.ids
    · rw [Write.apply, Write.apply, dif_pos hstored, dif_pos (hids ▸ hstored)]
    · rw [Write.apply, Write.apply, dif_neg hstored, dif_neg (hids ▸ hstored)]
      exact congrArg (fun devices => some (devices ++ [row])) h
  | update row => exact congrArg (fun devices => some (row.setIn devices)) h
  | delete id => exact congrArg (fun devices => some (devices.filter (·.id ≠ id))) h

/-- The connection after the statement of a thread. -/
abbrev stepped (t : Turn) (w : Write) (s : SharedConnection) : SharedConnection :=
  put t ((view t s).step w).2 s

/-- On the same devices and with the same faults, a statement on the devices counts the same on both
connections, a failure as nothing, and changes both or neither. -/
theorem OnDevices.stepped_congr {w : Write} (hw : OnDevices w) {s s' : SharedConnection}
    (hdevices : s.tables.devices = s'.tables.devices) (hfaults : s.faults t = s'.faults t) :
    ((stepped t w s).tables = s.tables ↔ (stepped t w s').tables = s'.tables) ∧
      (stepped t w s).changes = (stepped t w s').changes := by
  have hoff : ∀ a : SharedConnection, (view t a).outcome w = none →
      (stepped t w a).tables = a.tables ∧ (stepped t w a).changes = 0 := by
    intro a ha
    rw [stepped, Database.step_of_failure _ ha]
    exact ⟨rfl, rfl⟩
  have hon : ∀ (a : SharedConnection) u n, (view t a).outcome w = some (u, n) →
      (stepped t w a).tables = u ∧ (stepped t w a).changes = n := by
    intro a u n ha
    rw [stepped, Database.step_of_outcome _ ha]
    exact ⟨rfl, rfl⟩
  have hfail : (view t s).outcome w = none → (view t s').outcome w = none →
      ((stepped t w s).tables = s.tables ↔ (stepped t w s').tables = s'.tables) ∧
        (stepped t w s).changes = (stepped t w s').changes := by
    intro h h'
    obtain ⟨htables, hchanges⟩ := hoff s h
    obtain ⟨htables', hchanges'⟩ := hoff s' h'
    exact ⟨iff_of_true htables htables', hchanges.trans hchanges'.symm⟩
  have hsame : (view t s).faults 0 = (view t s').faults 0 := congrFun hfaults 0
  by_cases hfault : (view t s).faults 0 = true
  · exact hfail (if_pos hfault) (if_pos (hsame ▸ hfault))
  · have houtcome : (view t s).outcome w = w.apply s.tables := if_neg hfault
    have houtcome' : (view t s').outcome w = w.apply s'.tables := if_neg (hsame ▸ hfault)
    rcases hw.apply_congr hdevices with ⟨hnone, hnone'⟩ | ⟨u, u', n, hsome, hsome', hiff⟩
    · exact hfail (houtcome.trans hnone) (houtcome'.trans hnone')
    · obtain ⟨htables, hchanges⟩ := hon s u n (houtcome.trans hsome)
      obtain ⟨htables', hchanges'⟩ := hon s' u' n (houtcome'.trans hsome')
      rw [htables, htables']
      exact ⟨hiff, hchanges.trans hchanges'.symm⟩

/-- The run of a thread whose statement is prepared. -/
theorem run_prepared {α : Type} {w : Write} {finish : Sql α} (hfinish : Reading finish)
    (s : SharedConnection) :
    ((Program.call (SqlCall.step w) fun _ => finish).run (handle t)).run s =
      (((finish.run (handle t)).run (stepped t w s)).1, stepped t w s) := by
  have hcall : (handle t (.step w)).run s = (.ok ((view t s).step w).1, stepped t w s) := rfl
  show (handle t (.step w) >>= fun _ => finish.run (handle t)).run s = _
  rw [Stateful.run_bind_of_ok hcall]
  exact Prod.ext rfl (run_of_reading hfinish rfl).1

/-! ## Inside the transaction -/

/-- The results and the tables. -/
def outcome {α β : Type} (f : Except CxxException α × Except CxxException β × SharedConnection) :
    Except CxxException α × Except CxxException β × Tables :=
  (f.1, f.2.1, f.2.2.tables)

private theorem Pending.outcome?_eq {α : Type} {w : Write} {finish p : Sql α}
    (hp : Pending w finish p) :
    p.outcome? = none := by
  rcases hp with rfl | rfl <;> rfl

private theorem InBatch.outcome?_eq {p : Sql (Result Unit)} (hp : InBatch p) :
    p.outcome? = none := by
  cases hp with
  | body readings => rfl
  | inserts readings =>
    cases readings with
    | nil =>
      show SqliteSensorRepository.commitBatch.outcome? = none
      rw [commitBatch_eq]
      rfl
    | cons reading readings => rfl
  | rollback => rfl

section InTransaction

variable {α : Type} {w : Write} {finish : Sql α} {start : SharedConnection}
  {c : SqlThreads α (Result Unit)} {schedule : List Turn} {devices : List DeviceRow}
  {f : Except CxxException α × Except CxxException (Result Unit) × SharedConnection}

/-- The turn in which the device operation prepares its statement. -/
theorem turn_left_of_singleWrite (hleft : c.left = singleWrite w finish) :
    turn c .left =
      ⟨if c.shared.faults .left 0 then .throw .runtimeError else .call (.step w) fun _ => finish,
        c.right, c.shared.withFaults .left fun i => c.shared.faults .left (i + 1)⟩ := by
  rw [turn, Threads.step, hleft, advance_singleWrite]

/-- The turn in which the statement is executed. -/
theorem turn_left_of_step (hleft : c.left = .call (.step w) fun _ => finish) :
    turn c .left = ⟨finish, c.right, stepped .left w c.shared⟩ := by
  have hcall : (handle .left (.step w)).run c.shared =
      (.ok ((view .left c.shared).step w).1, stepped .left w c.shared) := rfl
  rw [turn, Threads.step, hleft, advance_call_of_ok hcall]

/-- The turn in which the batch begins, or fails to. -/
theorem turn_right_of_begin {readings : List SensorReading}
    (hright : c.right = .call (.execute .begin) fun ok =>
      if ok then batchBody readings else .ret (.error .databaseError)) :
    turn c .right =
      ⟨c.left, if ((view .right c.shared).execute .begin).1 then batchBody readings
          else .ret (.error .databaseError),
        put .right ((view .right c.shared).execute .begin).2 c.shared⟩ := by
  have hcall : (handle .right (.execute .begin)).run c.shared =
      (.ok ((view .right c.shared).execute .begin).1,
        put .right ((view .right c.shared).execute .begin).2 c.shared) := rfl
  rw [turn, Threads.step, hright, advance_call_of_ok hcall]

/-- The device statement is executed inside the batch, and changes nothing. -/
theorem result_of_step_in_batch (hw : OnDevices w) (hfinish : Reading finish)
    (hleft : c.left = .call (.step w) fun _ => finish) (hright : InBatch c.right)
    (hinv : BatchInvariant devices c.shared)
    (htables : (stepped .left w c.shared).tables = c.shared.tables)
    (hf : f = (turn c .left).leftFirst (handle .left) (handle .right)) :
    outcome f = outcome (c.rightFirst (handle .left) (handle .right)) := by
  let s₁ := stepped .left w c.shared
  let r := (c.right.run (handle .right)).run c.shared
  rw [Threads.leftFirst_step_left] at hf
  -- The batch does the same as without the statement.
  have hsame : SameForBatch .right s₁ c.shared :=
    ⟨htables, transaction_step _ w, by simp [s₁, put]⟩
  obtain ⟨hresult, hend⟩ := hsame.run hright
  have hrun := run_prepared (t := .left) (w := w) hfinish
  have houtcome : outcome f = (((finish.run (handle .left)).run s₁).1, r.1, r.2.tables) := by
    rw [hf, Threads.leftFirst, hleft, hrun]
    simp only [outcome, Prod.mk.injEq]
    exact ⟨rfl, hresult, hend.tables⟩
  -- After the batch the statement would find the same devices.
  have hinv' : BatchInvariant devices r.2 := run_invariant batchInvariant_handle hright.all hinv
  have hfaults : r.2.faults .left = c.shared.faults .left :=
    (run_frame c.right .right (fun _ => false) c.shared).2
  obtain ⟨hiff, hcount⟩ := hw.stepped_congr (hinv.stored.trans hinv'.stored.symm) hfaults.symm
  have hlast : outcome (c.rightFirst (handle .left) (handle .right)) =
      (((finish.run (handle .left)).run (stepped .left w r.2)).1, r.1, r.2.tables) := by
    rw [Threads.rightFirst, hleft, hrun]
    simp only [outcome, Prod.mk.injEq]
    exact ⟨rfl, rfl, hiff.mp htables⟩
  rw [houtcome, hlast, (run_of_reading hfinish hcount).2]

/-- A device operation that starts inside a batch comes after it. -/
theorem result_in_batch (hw : OnDevices w) (hfinish : Reading finish)
    (hstart : start.transaction = none) (hleft : Pending w finish c.left)
    (hright : InBatch c.right) (hopen : c.shared.transaction.isSome)
    (hinv : BatchInvariant devices c.shared)
    (hobeys : Threads.Obeys (handle .left) (handle .right) (Undisturbed start) c schedule)
    (hf : (c.exec (handle .left) (handle .right) schedule).result? = some f) :
    outcome f = outcome (c.rightFirst (handle .left) (handle .right)) := by
  -- The batch goes on until it returns, or until the other thread writes.
  induction schedule generalizing c with
  | nil =>
    obtain ⟨hl, -, -⟩ := Threads.result?_eq_some_iff.mp hf
    rw [Threads.exec_nil, hleft.outcome?_eq] at hl
    cases hl
  | cons t schedule ih =>
    cases t with
    | right =>
      rw [← Threads.rightFirst_step_right]
      rcases hright.advance .right hopen with hdone | ⟨hright', hopen'⟩
      · obtain ⟨b, hb⟩ := Option.isSome_iff_exists.mp hdone
        exact congrArg outcome (Threads.result_of_right_returned (c := turn c .right) hb hf).2
      · have hinv' : BatchInvariant devices (turn c .right).shared :=
          advance_invariant batchInvariant_handle hright.all hinv
        exact ih (c := turn c .right) hleft hright' hopen' hinv' hobeys.2 hf
    | left =>
      rcases hleft with hleft | hleft
      · -- The other thread prepares its statement, which commutes with the batch.
        have hcommute : (turn c .left).rightFirst (handle .left) (handle .right) =
            c.rightFirst (handle .left) (handle .right) :=
          rightFirst_step_singleWrite (t := .left) hleft
        have hturn := turn_left_of_singleWrite hleft
        rw [← hcommute]
        by_cases hfault : c.shared.faults .left 0 = true
        · refine congrArg outcome (Threads.result_of_left_returned (c := turn c .left)
            (a := .error .runtimeError) ?_ hf).2
          rw [hturn, if_pos hfault]
          rfl
        · have hopen' : (turn c .left).shared.transaction.isSome := by rwa [hturn]
          have hinv' : BatchInvariant devices (turn c .left).shared := by
            rw [hturn]
            exact ⟨hinv.stored, hinv.undone⟩
          refine ih (c := turn c .left) ?_ hright hopen' hinv' hobeys.2 hf
          rw [hturn, if_neg hfault]
          exact .inr rfl
      · -- The other thread writes inside the transaction.
        have hturn := turn_left_of_step hleft
        have htables := hobeys.1.2 ⟨hstart, hopen, hright.outcome?_eq⟩
        rw [hturn] at htables
        refine result_of_step_in_batch hw hfinish hleft hright hinv htables ?_
        refine result_of_reading (t := .left) (by rwa [hturn]) ?_ hf
        exact hobeys.2.imp undisturbed_keepsCounter

/-- A device operation beside a batch that has not begun. -/
theorem serial_of_batch {readings : List SensorReading} (hw : OnDevices w)
    (hfinish : Reading finish) (hleft : Pending w finish c.left ∨ Reading c.left)
    (hright : c.right = .call (.execute .begin) fun ok =>
      if ok then batchBody readings else .ret (.error .databaseError))
    (hstart : start.transaction = c.shared.transaction)
    (hobeys : Threads.Obeys (handle .left) (handle .right) (Undisturbed start) c schedule)
    (hf : (c.exec (handle .left) (handle .right) schedule).result? = some f) :
    outcome f = outcome (c.leftFirst (handle .left) (handle .right)) ∨
      outcome f = outcome (c.rightFirst (handle .left) (handle .right)) := by
  -- Which of the threads is first is decided when the batch begins its transaction.
  induction schedule generalizing c with
  | nil =>
    obtain ⟨-, hr, -⟩ := Threads.result?_eq_some_iff.mp hf
    rw [Threads.exec_nil, hright] at hr
    cases hr
  | cons t schedule ih =>
    rcases hleft with hleft | hleft
    · cases t with
      | left =>
        rw [← Threads.leftFirst_step_left]
        rcases hleft with hleft | hleft
        · have hcommute : (turn c .left).rightFirst (handle .left) (handle .right) =
              c.rightFirst (handle .left) (handle .right) :=
            rightFirst_step_singleWrite (t := .left) hleft
          have hturn := turn_left_of_singleWrite hleft
          rw [← hcommute]
          refine ih (c := turn c .left) ?_ hright ?_ hobeys.2 hf
          · rw [hturn]
            cases c.shared.faults .left 0
            · exact .inl (.inr rfl)
            · exact .inr trivial
          · rw [hturn]
            exact hstart
        · -- The statement was executed before the batch began.
          refine .inl (congrArg outcome ?_)
          refine result_of_reading (t := .left) (c := turn c .left) ?_
            (hobeys.2.imp undisturbed_keepsCounter) hf
          rwa [turn_left_of_step hleft]
      | right =>
        have hturn := turn_right_of_begin hright
        -- `BEGIN` fails in an open transaction, and then the batch returns at once.
        by_cases hbegin : (view .right c.shared).faults 0 ∨
            (view .right c.shared).transaction.isSome
        · have hexecute : (view .right c.shared).execute .begin =
              (false, (view .right c.shared).tick 1) := if_pos hbegin
          rw [← Threads.rightFirst_step_right]
          refine .inr (congrArg outcome (Threads.result_of_right_returned (c := turn c .right)
            (b := .ok (.error .databaseError)) ?_ hf).2)
          rw [hturn, hexecute]
          rfl
        · have hexecute : (view .right c.shared).execute .begin = (true,
              { (view .right c.shared).tick 1 with transaction := some c.shared.tables }) :=
            if_neg hbegin
          -- The transaction is that of the batch, and holds the tables as they are now.
          have hclosed : start.transaction = none := by
            have hnone : (view .right c.shared).transaction = none := by
              simpa using (not_or.mp hbegin).2
            exact hstart.trans hnone
          rw [hexecute, if_pos rfl] at hturn
          have hinv : BatchInvariant c.shared.tables.devices (turn c .right).shared := by
            rw [hturn]
            refine ⟨rfl, ?_⟩
            rintro tables htables
            rw [← Option.some.inj htables]
          rw [← Threads.rightFirst_step_right]
          refine .inr (result_in_batch hw hfinish hclosed (c := turn c .right) hleft ?_ ?_ hinv
            hobeys.2 hf)
          · rw [hturn]
            exact .body readings
          · rw [hturn]
            rfl
    · exact .inl (congrArg outcome (result_of_reading (t := .left) hleft
        (hobeys.imp undisturbed_keepsCounter) hf))

end InTransaction

end Batch

end SharedConnection

end IotDashboard
