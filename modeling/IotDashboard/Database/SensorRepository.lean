import IotDashboard.Common.Types
import IotDashboard.Database.Connection

/-!
# Sensor repository

`SqliteSensorRepository`. `Add` and the loop of `AddBatch` drop the result of every step, so a
reading that is refused is skipped in silence; and a statement that cannot be prepared throws out
of `AddBatch` after its `BEGIN`.

## Main results

* `SqliteSensorRepository.run_insertAll` and `afterInserts_spec`: the loop runs to its end and
  stores the readings that are not refused;
* `SqliteSensorRepository.run_addBatch_of_noBegin`, `run_addBatch_of_unprepared` and
  `run_addBatch_of_prepared`: the three ways through `AddBatch`.
-/

namespace IotDashboard

open StdString

/-- `SensorQueryOptions`. -/
structure SensorQueryOptions where
  deviceId : StdString := []
  sensorType : StdString := []
  fromTime : Timestamp := 0
  toTime : Timestamp := 0
  limit : UInt64 := 1000

namespace SqliteSensorRepository

/-- `RowToReading`. -/
def rowToReading (row : ReadingRow) : SensorReading where
  deviceId := row.deviceId.cStr
  sensor := row.sensorType.cStr
  value := row.value
  unit := row.unit.cStr
  timestamp := .fromUnixMs row.timestampMs
  quality := row.quality.map StdString.cStr

/-- The values that `Add` and `AddBatch` bind. -/
def bindReading (reading : SensorReading) : ReadingRow where
  deviceId := reading.deviceId
  sensorType := reading.sensor
  value := reading.value
  unit := reading.unit
  timestampMs := reading.timestamp.toUnixMs
  quality := reading.quality

/-- `Add`. -/
def add (reading : SensorReading) : Sql (Result Unit) := do
  SqliteStatement.new
  let _ ← SqliteStatement.step (.insertReading (bindReading reading))
  return .ok ()

/-- The loop of `AddBatch`. -/
def insertAll : List SensorReading → Sql Unit
  | [] => return ()
  | reading :: readings => do
    -- The statement is bound and stepped again for each reading; nothing looks at the result.
    let _ ← SqliteStatement.step (.insertReading (bindReading reading))
    insertAll readings

/-- The end of `AddBatch`: commit, or undo everything. -/
def commitBatch : Sql (Result Unit) := do
  match ← SqliteConnection.execute .commit with
  | .error e =>
    let _ ← SqliteConnection.execute .rollback
    return .error e
  | .ok () => return .ok ()

/-- `AddBatch`. -/
def addBatch (readings : List SensorReading) : Sql (Result Unit) := do
  if readings.isEmpty then return .ok ()
  match ← SqliteConnection.execute .begin with
  | .error e => return .error e
  | .ok () =>
    -- If this throws, neither `COMMIT` nor `ROLLBACK` follows.
    SqliteStatement.new
    insertAll readings
    commitBatch

/-- The clauses of the text that `Query` builds. -/
def queryClauses (opts : SensorQueryOptions) : List ReadingClause :=
  [.deviceId] ++ (if opts.sensorType.isEmpty then [] else [.sensorType]) ++
    (if 0 < opts.fromTime.toUnixMs then [.timestampFrom] else []) ++
    (if 0 < opts.toTime.toUnixMs then [.timestampTo] else []) ++ [.limit]

/-- The values that `Query` binds, in the order in which it counts up `paramIdx`. -/
def queryValues (opts : SensorQueryOptions) : List SqlParam :=
  [.text opts.deviceId] ++
    (if opts.sensorType.isEmpty then [] else [.text opts.sensorType]) ++
    (if 0 < opts.fromTime.toUnixMs then [.integer opts.fromTime.toUnixMs] else []) ++
    (if 0 < opts.toTime.toUnixMs then [.integer opts.toTime.toUnixMs] else []) ++
    [.integer opts.limit.toInt64]

/-- `Query`. -/
def query (opts : SensorQueryOptions) : Sql (Result (List SensorReading)) := do
  SqliteStatement.new
  let params := (queryValues opts).mapIdx fun i value => (i + 1, value)
  let rows ← SqliteConnection.selectReadings (queryClauses opts) params
  return .ok (rows.map rowToReading)

/-- The time stamp before which `Purge` deletes: `24 * retentionDays` is a 32-bit product. -/
def purgeCutoffMs (now : Timestamp) (retentionDays : UInt32) : Int64 :=
  Timestamp.toUnixMs (now - Int64.ofNat (24 * retentionDays).toNat * 3600000000000)

/-- `Purge`. -/
def purge (now : Timestamp) (retentionDays : UInt32) : Sql (Result UInt32) := do
  SqliteStatement.new
  let _ ← SqliteStatement.step (.deleteReadings (purgeCutoffMs now retentionDays))
  return .ok (UInt32.ofNat (← SqliteConnection.changes))

/-! ## What the operations do -/

variable {d : Database} {reading : SensorReading} {readings : List SensorReading}

/-- `Add` reports success whatever the statement did. -/
theorem run_add (hprepare : d.faults 0 = false) :
    ((add reading).run Database.handle).run d =
      (.ok (.ok ()), ((d.tick 1).step (.insertReading (bindReading reading))).2) := by
  simp [add, Stateful.run_bind, hprepare]

/-- `Query` on a connection without failures gives every row that the clauses select. -/
theorem run_query (opts : SensorQueryOptions) (hreliable : d.Reliable) :
    (((query opts).run Database.handle).run d).1 =
      .ok (.ok ((selectReadings d.tables (queryClauses opts)
        ((queryValues opts).mapIdx fun i value => (i + 1, value))).map rowToReading)) := by
  have hrows := Database.fetch_of_reliable (Database.reliable_tick hreliable 1)
    (selectReadings (d.tick 1).tables (queryClauses opts)
      ((queryValues opts).mapIdx fun i value => (i + 1, value)))
  simp only [query, Program.run_bind, Stateful.run_bind, Database.run_new, hreliable 0,
    Bool.false_eq_true, if_false, Database.run_selectReadings, hrows]
  rfl

/-- `Add` throws when its statement cannot be prepared. -/
theorem run_add_of_unprepared (hprepare : d.faults 0 = true) :
    ((add reading).run Database.handle).run d = (.error .runtimeError, d.tick 1) := by
  simp [add, Stateful.run_bind, hprepare]

/-- The rows that the loop adds when the calls fail as `faults` says. -/
def accepted (t : Tables) (faults : ℕ → Bool) : List SensorReading → List ReadingRow
  | [] => []
  | reading :: readings =>
    (if faults 0 = false ∧ t.Admits (bindReading reading) then [bindReading reading] else []) ++
      accepted t (fun i => faults (i + 1)) readings

/-- An insert adds its row or nothing, and touches nothing else. -/
theorem step_insertReading (d : Database) (reading : SensorReading) :
    let d' := (d.step (.insertReading (bindReading reading))).2
    d'.tables.devices = d.tables.devices ∧ d'.transaction = d.transaction ∧
      d'.faults = (fun i => d.faults (i + 1)) ∧
      d'.tables.sensorReadings =
        d.tables.sensorReadings ++ accepted d.tables d.faults [reading] := by
  intro d'
  -- The call fails, or the constraints decide.
  by_cases hfault : d.faults 0 = true
  · have hnone : d.outcome (.insertReading (bindReading reading)) = none := if_pos hfault
    have hstep : d' = _ := congrArg Prod.snd (d.step_of_failure hnone)
    rw [hstep]
    simp [Database.tick, accepted, hfault]
  · by_cases hadmits : d.tables.Admits (bindReading reading)
    · have hsome : d.outcome (.insertReading (bindReading reading)) =
          some (d.tables.insertReading (bindReading reading) hadmits, 1) := by
        rw [Database.outcome, if_neg hfault, Write.apply, dif_pos hadmits]
      have hstep := congrArg Prod.snd (d.step_of_outcome hsome)
      have hd' : d' = _ := hstep
      rw [hd']
      simp [Database.tick, accepted, hfault, hadmits, Tables.insertReading]
    · have hnone : d.outcome (.insertReading (bindReading reading)) = none := by
        rw [Database.outcome, if_neg hfault, Write.apply, dif_neg hadmits]
      have hstep : d' = _ := congrArg Prod.snd (d.step_of_failure hnone)
      rw [hstep]
      simp [Database.tick, accepted, hadmits]

/-- The connection after the loop. -/
def afterInserts (d : Database) : List SensorReading → Database
  | [] => d
  | reading :: readings => afterInserts (d.step (.insertReading (bindReading reading))).2 readings

/-- The loop never stops early. -/
theorem run_insertAll :
    ((insertAll readings).run Database.handle).run d = (.ok (), afterInserts d readings) := by
  induction readings generalizing d with
  | nil => rfl
  | cons reading readings ih =>
    simp only [insertAll, Program.run_bind, Stateful.run_bind, Database.run_statement_step, ih]
    rfl

/-- Which readings are accepted depends on the stored devices only. -/
theorem accepted_congr {t t' : Tables} (h : t'.devices = t.devices) (faults : ℕ → Bool) :
    accepted t' faults readings = accepted t faults readings := by
  -- The constraints on a reading mention the stored ids only.
  have hadmits : ∀ row, t'.Admits row ↔ t.Admits row := by
    intro row
    rw [Tables.Admits, Tables.Admits, Tables.ids, Tables.ids, h]
  induction readings generalizing faults with
  | nil => rfl
  | cons reading readings ih => simp only [accepted, ih, hadmits]

/-- What the loop leaves: the accepted rows are added at the end, in order. -/
theorem afterInserts_spec (d : Database) (readings : List SensorReading) :
    (afterInserts d readings).transaction = d.transaction ∧
      (afterInserts d readings).faults = (fun i => d.faults (i + readings.length)) ∧
      (afterInserts d readings).tables.sensorReadings =
        d.tables.sensorReadings ++ accepted d.tables d.faults readings := by
  induction readings generalizing d with
  | nil => simp [afterInserts, accepted]
  | cons reading readings ih =>
    obtain ⟨hdevices, htransaction, hfaults, hrows⟩ :=
      step_insertReading d reading
    obtain ⟨ihtransaction, ihfaults, ihrows⟩ :=
      ih (d.step (.insertReading (bindReading reading))).2
    -- The first insert leaves the stored devices alone, so the rest is accepted as before.
    refine ⟨ihtransaction.trans htransaction, ?_, ?_⟩
    · rw [afterInserts, ihfaults, hfaults]
      funext i
      rw [List.length_cons]
      congr 1
    · rw [afterInserts, ihrows, hrows, accepted_congr hdevices, hfaults, List.append_assoc]
      simp [accepted]

/-- No more rows are accepted than there are readings. -/
theorem length_accepted_le (t : Tables) (faults : ℕ → Bool) (readings : List SensorReading) :
    (accepted t faults readings).length ≤ readings.length := by
  induction readings generalizing faults with
  | nil => simp [accepted]
  | cons reading readings ih =>
    have hrest := ih fun i => faults (i + 1)
    rw [accepted, List.length_append, List.length_cons]
    split <;> simp <;> omega

/-- Every reading is accepted exactly when no call fails and the constraints admit each. -/
theorem accepted_eq_map_iff (t : Tables) (faults : ℕ → Bool) :
    accepted t faults readings = readings.map bindReading ↔
      (∀ i < readings.length, faults i = false) ∧
        ∀ reading ∈ readings, t.Admits (bindReading reading) := by
  induction readings generalizing faults with
  | nil => simp [accepted]
  | cons reading readings ih =>
    rw [accepted]
    by_cases hfirst : faults 0 = false ∧ t.Admits (bindReading reading)
    · rw [if_pos hfirst, List.singleton_append, List.map_cons, List.cons_inj_right, ih]
      simp only [List.length_cons, List.forall_mem_cons, hfirst.2, true_and,
        Nat.forall_lt_succ_left, hfirst.1]
    · -- One row is missing, so the lists differ in length.
      rw [if_neg hfirst, List.nil_append]
      constructor
      · intro heq
        have hle := length_accepted_le t (fun i => faults (i + 1)) readings
        rw [heq] at hle
        simp at hle
      · rintro ⟨hfaults, hadmits⟩
        exact absurd ⟨hfaults 0 (by simp), hadmits reading (by simp)⟩ hfirst

/-! ## The ways through a batch -/

/-- Nothing happens if the transaction cannot be opened. -/
theorem run_addBatch_of_noBegin (hne : readings ≠ [])
    (hbegin : d.faults 0 = true ∨ d.transaction.isSome) :
    ((addBatch readings).run Database.handle).run d =
      (.ok (.error .databaseError), d.tick 1) := by
  have hexecute : d.execute .begin = (false, d.tick 1) := if_pos hbegin
  simp [addBatch, Stateful.run_bind, hne, hexecute]

/-- A statement that cannot be prepared throws, and the transaction stays open. -/
theorem run_addBatch_of_unprepared (hne : readings ≠ [])
    (hbegin : ¬ (d.faults 0 = true ∨ d.transaction.isSome)) (hprepare : d.faults 1 = true) :
    ((addBatch readings).run Database.handle).run d =
      (.error .runtimeError, { d.tick 2 with transaction := some d.tables }) := by
  have hexecute : d.execute .begin = (true, { d.tick 1 with transaction := some d.tables }) :=
    if_neg hbegin
  simp [addBatch, Stateful.run_bind, hne, hexecute, Database.tick, hprepare]

/-- A commit that fails is followed by a rollback to the start of the transaction. -/
theorem run_commitBatch {tables : Tables} (htransaction : d.transaction = some tables) :
    (commitBatch.run Database.handle).run d =
      if d.faults 0 then
        (.ok (.error .databaseError), { d.tick 1 with tables, transaction := none })
      else (.ok (.ok ()), { d.tick 1 with transaction := none }) := by
  by_cases hfault : d.faults 0 = true
  · have hcommit : d.execute .commit = (false, d.tick 1) := if_pos (.inl hfault)
    have hrollback : (d.tick 1).execute .rollback =
        (true, { d.tick 1 with tables, transaction := none }) := by
      simp [Database.execute, Database.tick, htransaction]
    simp [commitBatch, Stateful.run_bind, hcommit, hrollback, hfault]
  · have hcommit : d.execute .commit = (true, { d.tick 1 with transaction := none }) :=
      if_neg (by simp [hfault, htransaction])
    simp [commitBatch, Stateful.run_bind, hcommit, hfault]

/-- With the statement prepared the loop runs, and `COMMIT` decides: it keeps the accepted rows,
or the rollback undoes them. -/
theorem run_addBatch_of_prepared (hne : readings ≠ [])
    (hbegin : ¬ (d.faults 0 = true ∨ d.transaction.isSome)) (hprepare : d.faults 1 = false) :
    ∃ d', ((addBatch readings).run Database.handle).run d =
        (.ok (if d.faults (readings.length + 2) then .error .databaseError else .ok ()), d') ∧
      d'.transaction = none ∧
      d'.tables.sensorReadings = d.tables.sensorReadings ++
        if d.faults (readings.length + 2) then []
        else accepted d.tables (fun i => d.faults (i + 2)) readings := by
  have hexecute : d.execute .begin = (true, { d.tick 1 with transaction := some d.tables }) :=
    if_neg hbegin
  -- The connection in which the loop starts.
  let started : Database := { d.tick 2 with transaction := some d.tables }
  obtain ⟨htransaction, hfaults, hrows⟩ := afterInserts_spec started readings
  have hcommit : (afterInserts started readings).faults 0 = d.faults (readings.length + 2) := by
    rw [hfaults]
    simp [started, Database.tick]
  have hbody : ((addBatch readings).run Database.handle).run d =
      (commitBatch.run Database.handle).run (afterInserts started readings) := by
    simp [addBatch, Stateful.run_bind, hne, hexecute, Database.tick, hprepare, run_insertAll,
      started]
  -- What the loop added stays, or goes with the rollback to the start.
  rw [hbody, run_commitBatch htransaction, hcommit]
  by_cases hfault : d.faults (readings.length + 2) = true
  · simp only [hfault, if_true, List.append_nil]
    exact ⟨_, rfl, rfl, rfl⟩
  · simp only [hfault]
    exact ⟨_, rfl, rfl, hrows⟩

/-- A device with readings taken at given times. -/
def readingsAt (times : List Int64) : Tables where
  devices := [⟨lit "t-1", lit "Thermometer", lit "temperature", lit "mqtt", [], 1, 0⟩]
  sensorReadings := times.map fun ms => ⟨lit "t-1", lit "temperature", .zero, lit "C", ms, none⟩
  primaryKey := List.nodup_singleton _
  foreignKey r hr := by
    obtain ⟨ms, -, rfl⟩ := List.mem_map.mp hr
    exact List.mem_singleton_self _
  notNull r hr := by
    obtain ⟨ms, -, rfl⟩ := List.mem_map.mp hr
    exact (by decide : Double.zero.isNaN = false)

end SqliteSensorRepository

end IotDashboard
