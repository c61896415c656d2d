import IotDashboard.Database.SensorRepository

/-!
# What the sensor repository reports

Writes are meant to be atomic and truthful: a batch is stored as a whole or not at all, with no
transaction left behind, and a single reading is reported stored exactly when it is. The two
operations drop the results of their inserts, so this holds exactly as long as no insert is
refused, or something else makes the whole write fail.

## Main results

* `SqliteSensorRepository.sensorWrites_truthful_iff`: the exact condition, for both operations;
* `SqliteSensorRepository.refused_reading_reported_stored`: a batch with a reading of an unknown
  device.
-/

namespace IotDashboard

namespace SqliteSensorRepository

variable {d : Database} {reading : SensorReading} {readings : List SensorReading}

/-- The run stored the whole batch at the end of the table and reported so, or it failed with the
table unchanged and no transaction open. -/
def BatchAtomic (d : Database) (readings : List SensorReading)
    (run : Except CxxException (Result Unit) × Database) : Prop :=
  if run.1 = .ok (.ok ()) then
    run.2.tables.sensorReadings = d.tables.sensorReadings ++ readings.map bindReading
  else run.2.tables.sensorReadings = d.tables.sensorReadings ∧ run.2.transaction = none

/-- The run reported success exactly if it stored the reading. -/
def AddTruthful (d : Database) (reading : SensorReading)
    (run : Except CxxException (Result Unit) × Database) : Prop :=
  run.1 = .ok (.ok ()) ↔
    run.2.tables.sensorReadings = d.tables.sensorReadings ++ [bindReading reading]

/-- Every insert of the loop succeeds: no call fails and the constraints admit every reading. -/
def EveryInsertSucceeds (t : Tables) (faults : ℕ → Bool) (readings : List SensorReading) : Prop :=
  (∀ i < readings.length, faults i = false) ∧
    ∀ reading ∈ readings, t.Admits (bindReading reading)

/-- When a batch is stored as a whole or not at all. The calls that can fail are in turn `BEGIN`,
the preparation, the inserts, and `COMMIT`. -/
theorem batchAtomic_iff :
    BatchAtomic d readings (((addBatch readings).run Database.handle).run d) ↔
      readings = [] ∨ d.transaction = none ∧ (d.faults 0 = true ∨ d.faults 1 = false ∧
        (d.faults (readings.length + 2) = true ∨
          EveryInsertSucceeds d.tables (fun i => d.faults (i + 2)) readings)) := by
  by_cases hne : readings = []
  · subst hne
    simp [BatchAtomic, addBatch]
  by_cases hbegin : d.faults 0 = true ∨ d.transaction.isSome
  · -- The batch fails at once; it is blamed only for a transaction that was open before.
    rw [run_addBatch_of_noBegin hne hbegin, BatchAtomic, if_neg (by simp)]
    simp only [Database.tick, hne, true_and, false_or]
    constructor
    · intro hclosed
      exact ⟨hclosed, .inl (hbegin.resolve_right (by simp [hclosed]))⟩
    · exact And.left
  have hclosed : d.transaction = none := by simpa using mt Or.inr hbegin
  have hnofault : d.faults 0 = false := by simpa using mt Or.inl hbegin
  by_cases hprepare : d.faults 1 = true
  · rw [run_addBatch_of_unprepared hne hbegin hprepare, BatchAtomic, if_neg (by simp)]
    simp [hne, hnofault, hprepare]
  obtain ⟨d', hrun, htransaction, hrows⟩ :=
    run_addBatch_of_prepared hne hbegin (Bool.eq_false_iff.mpr hprepare)
  rw [hrun, BatchAtomic]
  by_cases hcommit : d.faults (readings.length + 2) = true
  · simp [hcommit, hrows, htransaction, hclosed, hprepare]
  · simp only [hcommit, Bool.false_eq_true, if_false, if_true, false_or] at hrows ⊢
    rw [hrows, List.append_right_inj, accepted_eq_map_iff, EveryInsertSucceeds]
    simp [hne, hclosed, hnofault, hprepare]

/-- When a single reading is reported truthfully: its statement cannot be prepared, so that an
exception tells, or its insert succeeds. -/
theorem addTruthful_iff :
    AddTruthful d reading (((add reading).run Database.handle).run d) ↔
      d.faults 0 = true ∨ d.faults 1 = false ∧ d.tables.Admits (bindReading reading) := by
  by_cases hprepare : d.faults 0 = true
  · rw [run_add_of_unprepared hprepare]
    simp [AddTruthful, Database.tick, hprepare]
  · obtain ⟨-, -, -, hrows⟩ := step_insertReading (d.tick 1) reading
    rw [run_add (Bool.eq_false_iff.mpr hprepare), AddTruthful, hrows]
    simp only [Database.tick, accepted, List.append_nil, hprepare, Bool.false_eq_true, false_or,
      true_iff, List.append_right_inj, zero_add]
    by_cases hstored : d.faults 1 = false ∧ d.tables.Admits (bindReading reading)
    · simp [hstored]
    · simp [hstored]

/-- Sensor writes are atomic and truthful exactly when no insert is refused, or the write fails as
a whole with no transaction open before. -/
theorem sensorWrites_truthful_iff (d : Database) :
    (∀ readings, BatchAtomic d readings (((addBatch readings).run Database.handle).run d) ↔
      readings = [] ∨ d.transaction = none ∧ (d.faults 0 = true ∨ d.faults 1 = false ∧
        (d.faults (readings.length + 2) = true ∨
          EveryInsertSucceeds d.tables (fun i => d.faults (i + 2)) readings))) ∧
    ∀ reading, AddTruthful d reading (((add reading).run Database.handle).run d) ↔
      d.faults 0 = true ∨ d.faults 1 = false ∧ d.tables.Admits (bindReading reading) :=
  ⟨fun _ => batchAtomic_iff, fun _ => addTruthful_iff⟩

/-- In an empty database without any failure, a reading is reported stored although no device has
its id, alone and in a batch. -/
theorem refused_reading_reported_stored :
    ¬ ∀ (d : Database) (reading : SensorReading),
      BatchAtomic d [reading] (((addBatch [reading]).run Database.handle).run d) ∧
        AddTruthful d reading (((add reading).run Database.handle).run d) := by
  intro htruthful
  let reading : SensorReading := ⟨StdString.lit "d-1", StdString.lit "temperature", .zero,
    StdString.lit "C", 0, none⟩
  have hadd := (htruthful {} reading).2
  have hrun : ((add reading).run Database.handle).run {} = (.ok (.ok ()), ({} : Database).tick 2) :=
    rfl
  rw [hrun, AddTruthful] at hadd
  have hstored := hadd.mp rfl
  cases hstored

end SqliteSensorRepository

end IotDashboard
