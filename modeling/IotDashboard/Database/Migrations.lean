import IotDashboard.Common.Types
import IotDashboard.Database.Connection

/-!
# Schema migrations

`MigrationManager` over the calls of the connection that it makes. The meaning of a migration's
SQL is left open: the schema records which scripts ran to their end, and which broke off after
some of their statements. As for the repositories, a failed statement has no effect of its own, a
failed `COMMIT` leaves the transaction open, `ROLLBACK` undoes an open transaction, and the stream
`faults` says which of the coming calls fail.

## Main definitions

* `Migration`, `Schema`, `SchemaDatabase`: the state;
* `MigrationManager.migrate`, `MigrationManager.currentVersion`: the two operations;
* `MigrationManager.run_applyMigration_of_committed` and its companions: one pass of the loop.
-/

namespace IotDashboard

open StdString

/-- `database::Migration`. -/
structure Migration where
  version : Int32
  description : StdString
  sql : StdString
deriving DecidableEq

/-- A row of `schema_version`. -/
structure VersionRow where
  version : Int64
  appliedAt : Int64
deriving DecidableEq

/-- What migrations have done to a database. -/
structure Schema where
  /-- The scripts that ran to their end, in order. -/
  applied : List Migration := []
  /-- The scripts that broke off. -/
  interrupted : List Migration := []
  /-- The table `schema_version`, if it exists. -/
  versions : Option (List VersionRow) := none
deriving DecidableEq

/-- The texts given to `Execute`. -/
inductive SchemaCommand where
  /-- `CREATE TABLE IF NOT EXISTS schema_version …` -/
  | createVersionTable
  | begin
  | script (m : Migration)
  | commit
  | rollback

/-- The calls of `MigrationManager`. -/
inductive SchemaCall where
  /-- `sqlite3_exec`: whether it returns `SQLITE_OK`. -/
  | execute (command : SchemaCommand)
  /-- `sqlite3_prepare_v2` of a statement on `schema_version`. -/
  | prepare
  /-- `sqlite3_step` of `SELECT MAX(version) FROM schema_version`: the column, if there is a row. -/
  | selectMaxVersion
  /-- `sqlite3_step` of `INSERT INTO schema_version`. -/
  | insertVersion (row : VersionRow)
  /-- `std::chrono::system_clock::now`. -/
  | now

/-- What a call returns. -/
abbrev SchemaCall.Reply : SchemaCall → Type
  | .execute _ | .prepare => Bool
  | .selectMaxVersion => Option (Option Int64)
  | .insertVersion _ => StepCode
  | .now => Timestamp

/-- Code that migrates the schema. -/
abbrev SchemaProgram (α : Type) : Type := Program CxxException SchemaCall.Reply α

namespace MigrationManager

/-- `SqliteConnection::Execute`. -/
def execute (command : SchemaCommand) : SchemaProgram (Result Unit) := do
  let ok : Bool ← Program.perform (SchemaCall.execute command)
  if ¬ ok then return .error .databaseError
  return .ok ()

/-- The constructor of `SqliteStatement`, which throws when the statement cannot be prepared. -/
def prepare : SchemaProgram Unit := do
  let ok : Bool ← Program.perform SchemaCall.prepare
  if ¬ ok then Program.throw .runtimeError

/-- `EnsureVersionTable`: the result is ignored. -/
def ensureVersionTable : SchemaProgram Unit := do
  let _ ← execute .createVersionTable

/-- `CurrentVersion`. -/
def currentVersion : SchemaProgram Int32 := do
  ensureVersionTable
  prepare
  let row : Option (Option Int64) ← Program.perform SchemaCall.selectMaxVersion
  match row with
  | some (some version) => return version.toInt32
  -- No row, or a null.
  | _ => return 0

/-- The body of the loop of `Migrate`, for a migration above the current version. -/
def applyMigration (m : Migration) : SchemaProgram (Result Unit) := do
  match ← execute .begin with
  | .error e => return .error e
  | .ok () =>
    match ← execute (.script m) with
    | .error e =>
      let _ ← execute .rollback
      return .error e
    | .ok () =>
      prepare
      let now : Timestamp ← Program.perform SchemaCall.now
      -- The outcome of the insert is not looked at.
      let _ ← Program.perform (SchemaCall.insertVersion ⟨m.version.toInt64, now.seconds⟩)
      match ← execute .commit with
      | .error e =>
        let _ ← execute .rollback
        return .error e
      | .ok () => return .ok ()

/-- The loop of `Migrate`. -/
def applyAll (current : Int32) : List Migration → SchemaProgram (Result Unit)
  | [] => return .ok ()
  | m :: ms => do
    if m.version ≤ current then applyAll current ms
    else
      match ← applyMigration m with
      | .error e => return .error e
      | .ok () => applyAll current ms

/-- `Migrate`, with the registered migrations. -/
def migrate (migrations : List Migration) : SchemaProgram (Result Unit) := do
  ensureVersionTable
  let current ← currentVersion
  applyAll current migrations

end MigrationManager

/-- A database as the migrations see it. -/
structure SchemaDatabase where
  schema : Schema := {}
  /-- What an open transaction would be rolled back to. -/
  transaction : Option Schema := none
  /-- Which of the coming calls fail. -/
  faults : ℕ → Bool := fun _ => false
  /-- The coming readings of the clock. -/
  clock : ℕ → Timestamp := fun _ => 0

namespace SchemaDatabase

variable (d : SchemaDatabase)

/-- The database after `n` calls that can fail. -/
def tick (n : ℕ) : SchemaDatabase := { d with faults := fun i => d.faults (i + n) }

/-- `sqlite3_exec`. -/
def execute : SchemaCommand → Bool × SchemaDatabase
  | .createVersionTable =>
    if d.faults 0 then (false, d.tick 1)
    else
      let versions := some (d.schema.versions.getD [])
      (true, { d.tick 1 with schema := { d.schema with versions } })
  | .begin =>
    if d.faults 0 ∨ d.transaction.isSome then (false, d.tick 1)
    else (true, { d.tick 1 with transaction := some d.schema })
  | .script m =>
    if d.faults 0 then
      let interrupted := d.schema.interrupted ++ [m]
      (false, { d.tick 1 with schema := { d.schema with interrupted } })
    else (true, { d.tick 1 with schema := { d.schema with applied := d.schema.applied ++ [m] } })
  | .commit =>
    if d.faults 0 ∨ d.transaction.isNone then (false, d.tick 1)
    else (true, { d.tick 1 with transaction := none })
  | .rollback =>
    match d.transaction with
    | none => (false, d)
    | some schema => (true, { d with schema, transaction := none })

/-- `MAX(version)`, null for no rows. -/
def maxVersion (rows : List VersionRow) : Option Int64 := (rows.map (·.version)).max?

/-- The meaning of the calls. -/
def handle : Program.Handler CxxException SchemaCall.Reply SchemaDatabase
  | .execute command => fun d => (.ok (d.execute command).1, (d.execute command).2)
  | .prepare => fun d => (.ok (!(d.faults 0 || d.schema.versions.isNone)), d.tick 1)
  | .selectMaxVersion => fun d =>
    (.ok (if d.faults 0 then none else d.schema.versions.map maxVersion), d.tick 1)
  | .insertVersion row => fun d =>
    match d.schema.versions with
    | some rows =>
      if d.faults 0 then (.ok .failed, d.tick 1)
      else
        let versions := some (rows ++ [row])
        (.ok .done, { d.tick 1 with schema := { d.schema with versions } })
    | none => (.ok .failed, d.tick 1)
  | .now => fun d => (.ok (d.clock 0), { d with clock := fun i => d.clock (i + 1) })

/-- The database as it is when no later call fails. -/
def withoutFaults : SchemaDatabase := { d with faults := fun _ => false }

/-- What `CurrentVersion` returns when none of its calls fails. -/
def version : Int32 :=
  match maxVersion (d.schema.versions.getD []) with
  | some n => n.toInt32
  | none => 0

end SchemaDatabase

/-! ## Runs -/

namespace MigrationManager

open SchemaDatabase

variable {d : SchemaDatabase}

/-- `Execute` fails exactly if the command does. -/
theorem run_execute (command : SchemaCommand) (d : SchemaDatabase) :
    ((execute command).run handle).run d =
      (.ok (if (d.execute command).1 then .ok () else .error .databaseError),
        (d.execute command).2) := by
  have hcall : ((Program.perform (SchemaCall.execute command)).run handle).run d =
      (.ok (d.execute command).1, (d.execute command).2) :=
    congrFun (Program.run_perform handle (SchemaCall.execute command)) d
  rw [execute, Program.run_bind, Stateful.run_bind_of_ok hcall]
  by_cases h : (d.execute command).1 = true <;> simp [h]

/-- A statement on `schema_version` can be prepared once the table exists. -/
theorem run_prepare (d : SchemaDatabase) :
    (prepare.run handle).run d =
      (if d.faults 0 || d.schema.versions.isNone then .error .runtimeError else .ok (),
        d.tick 1) := by
  have hcall : ((Program.perform SchemaCall.prepare).run handle).run d =
      (.ok (!(d.faults 0 || d.schema.versions.isNone)), d.tick 1) :=
    congrFun (Program.run_perform handle SchemaCall.prepare) d
  rw [prepare, Program.run_bind, Stateful.run_bind_of_ok hcall]
  by_cases h : (d.faults 0 || d.schema.versions.isNone) = true <;> simp [h]

/-- The schema once the table of versions exists. -/
def withVersionTable (d : SchemaDatabase) : SchemaDatabase :=
  { d with schema := { d.schema with versions := some (d.schema.versions.getD []) } }

/-- Without a failure, the version table exists afterwards. -/
theorem run_ensureVersionTable (h : d.faults 0 = false) :
    (ensureVersionTable.run handle).run d = (.ok (), withVersionTable (d.tick 1)) := by
  rw [ensureVersionTable, Program.run_bind, Stateful.run_bind_of_ok (run_execute _ d)]
  simp [SchemaDatabase.execute, h, withVersionTable, tick]

/-- `CurrentVersion` when none of its calls fails. -/
theorem run_currentVersion (h : ∀ i < 3, d.faults i = false) :
    (currentVersion.run handle).run d = (.ok d.version, withVersionTable (d.tick 3)) := by
  have hselect : ((Program.perform SchemaCall.selectMaxVersion).run handle).run
      ((withVersionTable (d.tick 1)).tick 1) =
        (.ok (some (maxVersion (d.schema.versions.getD []))), withVersionTable (d.tick 3)) := by
    rw [show ((Program.perform SchemaCall.selectMaxVersion).run handle).run _ = _ from
      congrFun (Program.run_perform handle SchemaCall.selectMaxVersion) _]
    simp [handle, withVersionTable, tick, h 2 (by decide), Nat.add_assoc]
  have hprepare : (prepare.run handle).run (withVersionTable (d.tick 1)) =
      (.ok (), (withVersionTable (d.tick 1)).tick 1) := by
    rw [run_prepare]
    simp [withVersionTable, tick, h 1 (by decide)]
  rw [currentVersion, Program.run_bind,
    Stateful.run_bind_of_ok (run_ensureVersionTable (h 0 (by decide))), Program.run_bind,
    Stateful.run_bind_of_ok hprepare, Program.run_bind, Stateful.run_bind_of_ok hselect, version]
  cases maxVersion (d.schema.versions.getD []) <;> rfl

/-! ### One pass of the loop -/

section ApplyMigration

variable {m : Migration}

/-- `BEGIN` fails: nothing has happened. -/
theorem run_applyMigration_of_noBegin (h : d.faults 0 = true ∨ d.transaction.isSome) :
    ((applyMigration m).run handle).run d = (.ok (.error .databaseError), d.tick 1) := by
  rw [applyMigration, Program.run_bind, Stateful.run_bind_of_ok (run_execute _ d)]
  simp [SchemaDatabase.execute, h]

/-- The database inside the transaction of a migration. -/
def begun (d : SchemaDatabase) : SchemaDatabase := { d.tick 1 with transaction := some d.schema }

private theorem run_begin (h : d.faults 0 = false) (ht : d.transaction = none) :
    ((execute .begin).run handle).run d = (.ok (.ok ()), begun d) := by
  rw [run_execute]
  simp [SchemaDatabase.execute, h, ht, begun]

/-- The script fails and its effects are rolled back. -/
theorem run_applyMigration_of_scriptFails (h : d.faults 0 = false) (ht : d.transaction = none)
    (hscript : d.faults 1 = true) :
    ((applyMigration m).run handle).run d = (.ok (.error .databaseError), d.tick 2) := by
  rw [applyMigration, Program.run_bind, Stateful.run_bind_of_ok (run_begin h ht)]
  simp only [Program.run_bind]
  rw [Stateful.run_bind_of_ok (run_execute _ _)]
  have hfails : (begun d).faults 0 = true := by simpa [begun, tick] using hscript
  simp only [SchemaDatabase.execute, hfails, if_true, Bool.false_eq_true, if_false,
    Program.run_bind]
  rw [Stateful.run_bind_of_ok (run_execute _ _)]
  simp [SchemaDatabase.execute, begun, tick, ht, Nat.add_assoc]

/-- The database after the script of a migration, inside its transaction. -/
def scripted (d : SchemaDatabase) (m : Migration) : SchemaDatabase :=
  { (begun d).tick 1 with
    schema := { d.schema with applied := d.schema.applied ++ [m] } }

private theorem run_script (hscript : d.faults 1 = false) :
    ((execute (.script m)).run handle).run (begun d) = (.ok (.ok ()), scripted d m) := by
  have hsucceeds : (begun d).faults 0 = false := by simpa [begun, tick] using hscript
  rw [run_execute]
  simp only [SchemaDatabase.execute, hsucceeds, Bool.false_eq_true, if_false, if_true]
  rfl

/-- The insert cannot be prepared: the exception leaves the transaction open. -/
theorem run_applyMigration_of_unprepared (h : d.faults 0 = false) (ht : d.transaction = none)
    (hscript : d.faults 1 = false) (hprepare : d.faults 2 = true) :
    ((applyMigration m).run handle).run d =
      (.error .runtimeError, (scripted d m).tick 1) := by
  rw [applyMigration, Program.run_bind, Stateful.run_bind_of_ok (run_begin h ht)]
  simp only [Program.run_bind]
  rw [Stateful.run_bind_of_ok (run_script hscript)]
  simp only [Program.run_bind]
  refine Stateful.run_bind_of_error ?_
  have hfails : (scripted d m).faults 0 = true := by
    simpa [scripted, begun, tick] using hprepare
  rw [run_prepare, hfails]
  rfl

/-- The rows after the insert of a version, which may have failed. -/
def recordVersion (failed : Bool) (m : Migration) (now : Timestamp) : List VersionRow :=
  if failed then [] else [⟨m.version.toInt64, now.seconds⟩]

/-- The database after a migration whose insert has been tried, before `COMMIT`. -/
def recorded (d : SchemaDatabase) (m : Migration) (rows : List VersionRow) : SchemaDatabase :=
  { d.tick 4 with
    schema := { d.schema with
      applied := d.schema.applied ++ [m]
      versions := some (rows ++ recordVersion (d.faults 3) m (d.clock 0)) }
    transaction := some d.schema
    clock := fun i => d.clock (i + 1) }

/-- Up to `COMMIT`, a migration has run its script and tried to record its version. -/
theorem run_applyMigration_of_prepared {rows : List VersionRow} (h : d.faults 0 = false)
    (ht : d.transaction = none) (hscript : d.faults 1 = false) (hprepare : d.faults 2 = false)
    (hrows : d.schema.versions = some rows) :
    ((applyMigration m).run handle).run d =
      ((execute .commit >>= fun
        | .error e => execute .rollback >>= fun _ => pure (.error e)
        | .ok () => pure (.ok ()) : SchemaProgram (Result Unit)).run handle).run
          (recorded d m rows) := by
  have hsucceeds : (prepare.run handle).run (scripted d m) = (.ok (), (scripted d m).tick 1) := by
    rw [run_prepare]
    simp [scripted, begun, tick, hprepare, hrows]
  have hnow : ((Program.perform SchemaCall.now).run handle).run ((scripted d m).tick 1) =
      (.ok (d.clock 0), { (scripted d m).tick 1 with clock := fun i => d.clock (i + 1) }) :=
    congrFun (Program.run_perform handle SchemaCall.now) _
  have hinsert : ∃ code, ((Program.perform (SchemaCall.insertVersion
      ⟨m.version.toInt64, (d.clock 0).seconds⟩)).run handle).run
        { (scripted d m).tick 1 with clock := fun i => d.clock (i + 1) } =
      (.ok code, recorded d m rows) := by
    rw [show ((Program.perform (SchemaCall.insertVersion _)).run handle).run _ = _ from
      congrFun (Program.run_perform handle (SchemaCall.insertVersion _)) _]
    simp only [handle, scripted, begun, tick, hrows]
    cases hfails : d.faults 3 with
    | false => exact ⟨.done, by simp [recorded, recordVersion, tick, hfails, Nat.add_assoc]⟩
    | true =>
      refine ⟨.failed, ?_⟩
      simp [recorded, recordVersion, tick, hfails, Nat.add_assoc]
  obtain ⟨code, hinsert⟩ := hinsert
  rw [applyMigration, Program.run_bind, Stateful.run_bind_of_ok (run_begin h ht)]
  simp only [Program.run_bind]
  rw [Stateful.run_bind_of_ok (run_script hscript)]
  simp only [Program.run_bind]
  rw [Stateful.run_bind_of_ok hsucceeds, Stateful.run_bind_of_ok hnow,
    Stateful.run_bind_of_ok hinsert]

/-- `COMMIT` fails and the transaction is rolled back. -/
theorem run_applyMigration_of_uncommitted {rows : List VersionRow} (h : d.faults 0 = false)
    (ht : d.transaction = none) (hscript : d.faults 1 = false) (hprepare : d.faults 2 = false)
    (hrows : d.schema.versions = some rows) (hcommit : d.faults 4 = true) :
    ((applyMigration m).run handle).run d =
      (.ok (.error .databaseError), { d.tick 5 with clock := fun i => d.clock (i + 1) }) := by
  have hfails : (recorded d m rows).faults 0 = true := by simpa [recorded, tick] using hcommit
  rw [run_applyMigration_of_prepared h ht hscript hprepare hrows, Program.run_bind,
    Stateful.run_bind_of_ok (run_execute _ _)]
  simp only [SchemaDatabase.execute, hfails, true_or, if_true, Bool.false_eq_true, if_false,
    Program.run_bind]
  rw [Stateful.run_bind_of_ok (run_execute _ _)]
  simp [SchemaDatabase.execute, recorded, tick, ht, Nat.add_assoc]

/-- The database after a committed migration. -/
def committed (d : SchemaDatabase) (m : Migration) (rows : List VersionRow) : SchemaDatabase :=
  { (recorded d m rows).tick 1 with transaction := none }

/-- The migration is committed, whether or not its version has been recorded. -/
theorem run_applyMigration_of_committed {rows : List VersionRow} (h : d.faults 0 = false)
    (ht : d.transaction = none) (hscript : d.faults 1 = false) (hprepare : d.faults 2 = false)
    (hrows : d.schema.versions = some rows) (hcommit : d.faults 4 = false) :
    ((applyMigration m).run handle).run d = (.ok (.ok ()), committed d m rows) := by
  have hsucceeds : (recorded d m rows).faults 0 = false := by simpa [recorded, tick] using hcommit
  have hopen : (recorded d m rows).transaction.isNone = false := rfl
  rw [run_applyMigration_of_prepared h ht hscript hprepare hrows, Program.run_bind,
    Stateful.run_bind_of_ok (run_execute _ _)]
  simp [SchemaDatabase.execute, hsucceeds, hopen, committed]

end ApplyMigration

end MigrationManager

end IotDashboard
