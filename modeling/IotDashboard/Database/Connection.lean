import IotDashboard.Common.Error
import IotDashboard.Database.Tables
import IotDashboard.Foundation.Program
import Mathlib.Data.List.Sort

/-!
# The database connection

`SqliteConnection` as the interface that the repositories program against: each call of the SQLite
library is one `SqlCall`. A statement that fails, for whatever reason, leaves the tables as they
were, and its count on the connection is `changesOnFailure` of the one before: SQLite sets the
counter to zero. A failed `COMMIT` leaves the transaction open, and `ROLLBACK` always undoes it. The
failures that no constraint explains (a busy database, an input or output error) come from the
stream `faults`, which every call that can fail reads from.

The transaction and the change counter belong to the connection, so the repositories share them.

## Main results

* `Database.step_of_outcome` and `Database.step_of_failure`: what a data-modifying statement does;
* `Database.mem_ids_step_insertDevice` and `Database.mem_ids_step_deleteDevice`: the stored ids
  after an insert and a removal.
-/

namespace IotDashboard

/-- A bound parameter: `SqlParam`. -/
inductive SqlParam where
  | null
  | integer (n : Int64)
  | real (x : Double)
  | text (s : StdString)

/-- A clause of the `SELECT` on `sensor_readings`, each with one placeholder. -/
inductive ReadingClause where
  /-- ` WHERE device_id = ?` -/
  | deviceId
  /-- ` AND sensor_type = ?` -/
  | sensorType
  /-- ` AND timestamp_ms >= ?` -/
  | timestampFrom
  /-- ` AND timestamp_ms <= ?` -/
  | timestampTo
  /-- ` ORDER BY timestamp_ms DESC LIMIT ?` -/
  | limit
deriving DecidableEq

/-- A statement without parameters. -/
inductive SqlCommand where
  | begin
  | commit
  | rollback
deriving DecidableEq

/-- The result of `sqlite3_step`; `failed` stands for every error code. -/
inductive StepCode where
  | row
  | done
  | failed
deriving DecidableEq

/-- The calls of the SQLite library. A `SELECT` is one call, which returns the rows that its steps
yield before the first one that is not `SQLITE_ROW`. -/
inductive SqlCall where
  /-- `sqlite3_prepare_v2`: whether it returns `SQLITE_OK`. -/
  | prepare
  /-- `sqlite3_step` of a data-modifying statement. -/
  | step (w : Write)
  /-- `sqlite3_step` of `SELECT … FROM devices WHERE id = ? LIMIT 1`. -/
  | selectDevice (id : StdString)
  /-- The steps of `SELECT … FROM devices ORDER BY name`. -/
  | selectDevices
  /-- The steps of `SELECT … FROM sensor_readings` with the clauses and the bound parameters. -/
  | selectReadings (clauses : List ReadingClause) (params : List (ℕ × SqlParam))
  /-- `sqlite3_exec`: whether it returns `SQLITE_OK`. -/
  | execute (command : SqlCommand)
  /-- `sqlite3_changes`. -/
  | changes

/-- What a call returns. -/
abbrev SqlCall.Reply : SqlCall → Type
  | .prepare | .execute _ => Bool
  | .step _ => StepCode
  | .selectDevice _ => Option DeviceRow
  | .selectDevices => List DeviceRow
  | .selectReadings _ _ => List ReadingRow
  | .changes => ℕ

/-- Code that uses the connection. -/
abbrev Sql (α : Type) : Type := Program CxxException SqlCall.Reply α

namespace SqliteConnection

/-- `sqlite3_prepare_v2`. -/
def prepare : Sql Bool := Program.perform SqlCall.prepare

/-- `sqlite3_step` of a data-modifying statement. -/
def step (w : Write) : Sql StepCode := Program.perform (SqlCall.step w)

/-- `sqlite3_step` of the `SELECT` by id. -/
def selectDevice (id : StdString) : Sql (Option DeviceRow) :=
  Program.perform (SqlCall.selectDevice id)

/-- The steps of the `SELECT` of all devices. -/
def selectDevices : Sql (List DeviceRow) := Program.perform SqlCall.selectDevices

/-- The steps of the `SELECT` on `sensor_readings`. -/
def selectReadings (clauses : List ReadingClause) (params : List (ℕ × SqlParam)) :
    Sql (List ReadingRow) :=
  Program.perform (SqlCall.selectReadings clauses params)

/-- `sqlite3_changes`. -/
def changes : Sql ℕ := Program.perform SqlCall.changes

/-- `Execute`. -/
def execute (command : SqlCommand) : Sql (Result Unit) := do
  let ok : Bool ← Program.perform (SqlCall.execute command)
  if ¬ ok then return .error .databaseError
  return .ok ()

end SqliteConnection

namespace SqliteStatement

/-- The constructor, which throws when the statement cannot be prepared. -/
def new : Sql Unit := do
  let ok ← SqliteConnection.prepare
  if ¬ ok then Program.throw .runtimeError

/-- `Step` of a data-modifying statement. -/
def step (w : Write) : Sql Bool := do
  let rc ← SqliteConnection.step w
  -- `SQLITE_DONE` and the error codes come out alike.
  return rc == .row

end SqliteStatement

/-- The value bound to the placeholder `index`, counted from one. -/
def boundParam (params : List (ℕ × SqlParam)) (index : ℕ) : SqlParam :=
  -- The last binding counts, and a placeholder without one is null.
  ((params.reverse.find? (·.1 = index)).map Prod.snd).getD .null

/-- Whether a row meets a clause under its bound value. -/
def ReadingClause.matches (row : ReadingRow) : ReadingClause → SqlParam → Bool
  | .deviceId, .text s => row.deviceId = s
  | .sensorType, .text s => row.sensorType = s
  | .timestampFrom, .integer n => n ≤ row.timestampMs
  | .timestampTo, .integer n => row.timestampMs ≤ n
  | .limit, _ => true
  | _, _ => false

/-- `LIMIT`: a negative number is no limit. -/
def limitRows (rows : List ReadingRow) : ReadingClause × SqlParam → List ReadingRow
  | (.limit, .integer n) => if n < 0 then rows else rows.take n.toInt.toNat
  | _ => rows

/-- The rows of the `SELECT` on `sensor_readings`, newest first. -/
def selectReadings (t : Tables) (clauses : List ReadingClause) (params : List (ℕ × SqlParam)) :
    List ReadingRow :=
  -- Each clause takes the placeholder at its own position in the text.
  let bound := clauses.mapIdx fun i clause => (clause, boundParam params (i + 1))
  let rows := t.sensorReadings.filter fun row => bound.all fun b => b.1.matches row b.2
  bound.foldl limitRows (rows.mergeSort fun a b => b.timestampMs ≤ a.timestampMs)

/-- Without readings the `SELECT` yields nothing. -/
theorem selectReadings_of_empty {t : Tables} (h : t.sensorReadings = [])
    (clauses : List ReadingClause) (params : List (ℕ × SqlParam)) :
    selectReadings t clauses params = [] := by
  have hlimit : ∀ bound : List (ReadingClause × SqlParam), bound.foldl limitRows [] = [] := by
    intro bound
    induction bound with
    | nil => rfl
    | cons clause bound ih =>
      have hhead : limitRows [] clause = [] := by
        unfold limitRows
        split
        · simp
        · rfl
      rw [List.foldl_cons, hhead, ih]
  simp only [selectReadings, h, List.filter_nil, List.mergeSort_nil, hlimit]

/-- The rows of the `SELECT` on `devices`, by name. -/
def selectDevices (t : Tables) : List DeviceRow :=
  t.devices.mergeSort fun a b => a.name ≤ b.name

/-- A connection: what it stores, its change counter, the contents to which an open transaction
would be rolled back, and which of the coming calls fail. -/
structure Database where
  tables : Tables := .empty
  changes : ℕ := 0
  transaction : Option Tables := none
  faults : ℕ → Bool := fun _ => false
  /-- What a failed statement makes of the change counter. -/
  changesOnFailure : ℕ → ℕ := fun _ => 0

namespace Database

variable (d : Database)

/-- The connection after `n` calls that can fail. -/
def tick (n : ℕ) : Database := { d with faults := fun i => d.faults (i + n) }

/-- The rows that the steps of a `SELECT` yield before the first failure. -/
def fetch {α : Type} (faults : ℕ → Bool) : List α → List α
  | [] => []
  | row :: rows => if faults 0 then [] else row :: fetch (fun i => faults (i + 1)) rows

/-- The tables and the number of changed rows if the statement succeeds in the next call. -/
def outcome (w : Write) : Option (Tables × ℕ) := if d.faults 0 then none else w.apply d.tables

/-- `sqlite3_exec`. -/
def execute : SqlCommand → Bool × Database
  -- Transactions do not nest.
  | .begin =>
    if d.faults 0 ∨ d.transaction.isSome then (false, d.tick 1)
    else (true, { d.tick 1 with transaction := some d.tables })
  | .commit =>
    if d.faults 0 ∨ d.transaction.isNone then (false, d.tick 1)
    else (true, { d.tick 1 with transaction := none })
  | .rollback =>
    match d.transaction with
    | none => (false, d)
    | some tables => (true, { d with tables, transaction := none })

/-- `sqlite3_step` of a data-modifying statement. -/
def step (w : Write) : StepCode × Database :=
  match d.outcome w with
  | some (tables, changes) => (.done, { d.tick 1 with tables, changes })
  -- A failed statement does not touch the tables.
  | none => (.failed, { d.tick 1 with changes := d.changesOnFailure d.changes })

/-- The meaning of the calls. -/
def handle : Program.Handler CxxException SqlCall.Reply Database
  | .prepare => fun d => (.ok (!d.faults 0), d.tick 1)
  | .step w => fun d => (.ok (d.step w).1, (d.step w).2)
  | .selectDevice id => fun d =>
    (.ok (if d.faults 0 then none else d.tables.devices.find? (·.id = id)), d.tick 1)
  | .selectDevices => fun d =>
    let rows := fetch d.faults (selectDevices d.tables)
    (.ok rows, d.tick (rows.length + 1))
  | .selectReadings clauses params => fun d =>
    let rows := fetch d.faults (selectReadings d.tables clauses params)
    (.ok rows, d.tick (rows.length + 1))
  | .execute command => fun d => (.ok (d.execute command).1, (d.execute command).2)
  | .changes => fun d => (.ok d.changes, d)

/-- No coming call fails for a reason outside the constraints. -/
def Reliable : Prop := ∀ i, d.faults i = false

/-- Calls that have been made cannot fail later. -/
theorem reliable_tick {d : Database} (h : d.Reliable) (n : ℕ) : (d.tick n).Reliable :=
  fun i => h (i + n)

/-- Without failures a `SELECT` yields all its rows. -/
theorem fetch_of_reliable {α : Type} {faults : ℕ → Bool} (h : ∀ i, faults i = false)
    (rows : List α) : fetch faults rows = rows := by
  induction rows generalizing faults with
  | nil => rfl
  | cons row rows ih => rw [fetch, h 0, if_neg Bool.false_ne_true, ih fun i => h (i + 1)]

@[simp]
theorem run_prepare : (SqliteConnection.prepare.run handle).run d = (.ok (!d.faults 0), d.tick 1) :=
  congrFun (Program.run_perform handle SqlCall.prepare) d

@[simp]
theorem run_changes : (SqliteConnection.changes.run handle).run d = (.ok d.changes, d) :=
  congrFun (Program.run_perform handle SqlCall.changes) d

@[simp]
theorem run_step (w : Write) :
    ((SqliteConnection.step w).run handle).run d = (.ok (d.step w).1, (d.step w).2) :=
  congrFun (Program.run_perform handle (SqlCall.step w)) d

/-- A statement that succeeds. -/
theorem step_of_outcome {w : Write} {tables : Tables} {changes : ℕ}
    (h : d.outcome w = some (tables, changes)) :
    d.step w = (.done, { d.tick 1 with tables, changes }) := by
  rw [step, h]

/-- A statement that fails. -/
theorem step_of_failure {w : Write} (h : d.outcome w = none) :
    d.step w = (.failed, { d.tick 1 with changes := d.changesOnFailure d.changes }) := by
  rw [step, h]

/-- Without failures, a statement that the constraints let through succeeds. -/
theorem step_of_apply {d : Database} (h : d.Reliable) {w : Write} {tables : Tables} {changes : ℕ}
    (happly : w.apply d.tables = some (tables, changes)) :
    d.step w = (.done, { d.tick 1 with tables, changes }) := by
  apply step_of_outcome
  rw [outcome, h 0, if_neg Bool.false_ne_true, happly]

/-- A statement leaves the coming calls as reliable as they were. -/
theorem reliable_step {d : Database} (h : d.Reliable) (w : Write) : (d.step w).2.Reliable := by
  cases houtcome : d.outcome w with
  | none => rw [step_of_failure d houtcome]; exact reliable_tick h 1
  | some result => rw [step_of_outcome d houtcome]; exact reliable_tick h 1

/-- Without failures, an insert adds its id or finds it stored. -/
theorem mem_ids_step_insertDevice {d : Database} (h : d.Reliable) {row : DeviceRow}
    {id : StdString} :
    id ∈ (d.step (.insertDevice row)).2.tables.ids ↔ id ∈ d.tables.ids ∨ id = row.id := by
  have houtcome : d.outcome (.insertDevice row) = Write.apply d.tables (.insertDevice row) :=
    if_neg (by simp [h 0])
  by_cases hstored : row.id ∈ d.tables.ids
  · -- The primary key refuses the row, whose id is there already.
    rw [Write.apply, dif_pos hstored] at houtcome
    rw [step_of_failure d houtcome]
    refine ⟨.inl, ?_⟩
    rintro (hid | rfl)
    · exact hid
    · exact hstored
  · rw [Write.apply, dif_neg hstored] at houtcome
    rw [step_of_outcome d houtcome]
    simp

/-- Without failures, a removal takes its id away. -/
theorem mem_ids_step_deleteDevice {d : Database} (h : d.Reliable) {deviceId id : StdString} :
    id ∈ (d.step (.deleteDevice deviceId)).2.tables.ids ↔ id ∈ d.tables.ids ∧ id ≠ deviceId := by
  rw [step_of_apply h rfl]
  exact Tables.mem_ids_deleteDevice

@[simp]
theorem run_selectDevice (id : StdString) :
    ((SqliteConnection.selectDevice id).run handle).run d =
      (.ok (if d.faults 0 then none else d.tables.devices.find? (·.id = id)), d.tick 1) :=
  congrFun (Program.run_perform handle (SqlCall.selectDevice id)) d

@[simp]
theorem run_selectDevices :
    (SqliteConnection.selectDevices.run handle).run d =
      (.ok (fetch d.faults (selectDevices d.tables)),
        d.tick ((fetch d.faults (selectDevices d.tables)).length + 1)) :=
  congrFun (Program.run_perform handle SqlCall.selectDevices) d

@[simp]
theorem run_selectReadings (clauses : List ReadingClause) (params : List (ℕ × SqlParam)) :
    ((SqliteConnection.selectReadings clauses params).run handle).run d =
      (.ok (fetch d.faults (selectReadings d.tables clauses params)),
        d.tick ((fetch d.faults (selectReadings d.tables clauses params)).length + 1)) :=
  congrFun (Program.run_perform handle (SqlCall.selectReadings clauses params)) d

/-- The constructor of a statement throws exactly when the statement cannot be prepared. -/
@[simp]
theorem run_new :
    (SqliteStatement.new.run handle).run d =
      (if d.faults 0 then .error .runtimeError else .ok (), d.tick 1) := by
  rw [SqliteStatement.new, Program.run_bind, Stateful.run_bind, run_prepare]
  by_cases h : d.faults 0 <;> simp [h]

/-- `Step` never reports a row for a data-modifying statement. -/
@[simp]
theorem run_statement_step (w : Write) :
    ((SqliteStatement.step w).run handle).run d = (.ok false, (d.step w).2) := by
  rw [SqliteStatement.step, Program.run_bind, Stateful.run_bind, run_step]
  cases h : d.outcome w with
  | none => rw [step_of_failure d h]; rfl
  | some result => rw [step_of_outcome d h]; rfl

/-- `Execute` reports an error for every command that fails. -/
@[simp]
theorem run_execute (command : SqlCommand) :
    ((SqliteConnection.execute command).run handle).run d =
      (.ok (if (d.execute command).1 then .ok () else .error .databaseError),
        (d.execute command).2) := by
  have hcall : ((Program.perform (SqlCall.execute command)).run handle).run d =
      (.ok (d.execute command).1, (d.execute command).2) :=
    congrFun (Program.run_perform handle (SqlCall.execute command)) d
  rw [SqliteConnection.execute, Program.run_bind, Stateful.run_bind_of_ok hcall]
  by_cases h : (d.execute command).1 = true <;> simp [h]

end Database

end IotDashboard
