import IotDashboard.Foundation.Double
import IotDashboard.Foundation.StdString
import Mathlib.Data.List.Nodup

/-!
# The tables and their constraints

The two tables that the repositories use, with what the schema promises of them: device ids are a
primary key, every reading belongs to a stored device, and a reading's value is not null. SQLite
stores a NaN as null, so a stored value is never NaN. Rows are kept in the order of insertion.

`Write.apply` is the effect of a data-modifying statement, or `none` if a constraint refuses it.

## Main results

* `Tables.deleteDevice_of_notMem` and `Tables.updateDevice_of_notMem`: a statement that matches no
  row changes nothing;
* `Tables.find?_insertDevice`: an inserted row is the one its id selects;
* `Tables.updateDevice_reinsert_self` and `Tables.updateDevice_reinsert_of_ne`: an update of a row
  that has replaced another one.
-/

namespace IotDashboard

/-- A row of `devices`. -/
structure DeviceRow where
  id : StdString
  name : StdString
  type : StdString
  protocol : StdString
  address : StdString
  isConnected : Int64
  lastSeenMs : Int64
deriving DecidableEq

/-- A row of `sensor_readings`. -/
structure ReadingRow where
  deviceId : StdString
  sensorType : StdString
  value : Double
  unit : StdString
  timestampMs : Int64
  quality : Option StdString
deriving DecidableEq

/-- `UPDATE devices SET … WHERE id = ?` on the rows: every column but the id takes the new value. -/
def DeviceRow.setIn (row : DeviceRow) (devices : List DeviceRow) : List DeviceRow :=
  devices.map fun d => if d.id = row.id then row else d

@[simp]
theorem DeviceRow.map_id_setIn (row : DeviceRow) (devices : List DeviceRow) :
    (row.setIn devices).map DeviceRow.id = devices.map DeviceRow.id := by
  rw [setIn, List.map_map]
  refine List.map_congr_left fun d _ => ?_
  by_cases h : d.id = row.id <;> simp [h]

/-- The contents of the tables, under the constraints of the schema. -/
@[ext]
structure Tables where
  devices : List DeviceRow
  sensorReadings : List ReadingRow
  /-- `id TEXT PRIMARY KEY` -/
  primaryKey : (devices.map DeviceRow.id).Nodup
  /-- `FOREIGN KEY (device_id) REFERENCES devices(id)` -/
  foreignKey : ∀ r ∈ sensorReadings, r.deviceId ∈ devices.map DeviceRow.id
  /-- `value REAL NOT NULL` -/
  notNull : ∀ r ∈ sensorReadings, r.value.isNaN = false

namespace Tables

/-- The tables after the initial migration. -/
def empty : Tables := ⟨[], [], by simp, by simp, by simp⟩

variable (t : Tables)

/-- The stored device ids. -/
def ids : List StdString := t.devices.map DeviceRow.id

/-- Add a device. -/
def insertDevice (row : DeviceRow) (hnew : row.id ∉ t.ids) : Tables where
  devices := t.devices ++ [row]
  sensorReadings := t.sensorReadings
  primaryKey := by
    rw [List.map_append, List.map_singleton, ← List.concat_eq_append]
    exact t.primaryKey.concat hnew
  foreignKey r hr := by
    rw [List.map_append]
    exact List.mem_append_left _ (t.foreignKey r hr)
  notNull := t.notNull

/-- Set the columns of the device with the row's id. -/
def updateDevice (row : DeviceRow) : Tables where
  devices := row.setIn t.devices
  sensorReadings := t.sensorReadings
  primaryKey := by simpa using t.primaryKey
  foreignKey := by simpa using t.foreignKey
  notNull := t.notNull

/-- Delete a device, and by `ON DELETE CASCADE` its readings. -/
def deleteDevice (id : StdString) : Tables where
  -- The readings that are left belong to devices that are left.
  devices := t.devices.filter (·.id ≠ id)
  sensorReadings := t.sensorReadings.filter (·.deviceId ≠ id)
  primaryKey := t.primaryKey.sublist (List.filter_sublist.map _)
  foreignKey r hr := by
    obtain ⟨hr, hne⟩ := List.mem_filter.mp hr
    obtain ⟨d, hd, hid⟩ := List.mem_map.mp (t.foreignKey r hr)
    refine List.mem_map.mpr ⟨d, List.mem_filter.mpr ⟨hd, ?_⟩, hid⟩
    simpa [hid] using hne
  notNull r hr := t.notNull r (List.mem_of_mem_filter hr)

/-- The constraints let the reading in: its device is stored and its value is not null. -/
def Admits (row : ReadingRow) : Prop := row.deviceId ∈ t.ids ∧ row.value.isNaN = false

instance (row : ReadingRow) : Decidable (t.Admits row) := inferInstanceAs (Decidable (_ ∧ _))

/-- Add a reading. -/
def insertReading (row : ReadingRow) (hrow : t.Admits row) : Tables where
  devices := t.devices
  sensorReadings := t.sensorReadings ++ [row]
  primaryKey := t.primaryKey
  foreignKey r hr := by
    rcases List.mem_append.mp hr with hr | hr
    · exact t.foreignKey r hr
    · rw [List.mem_singleton.mp hr]
      exact hrow.1
  notNull r hr := by
    rcases List.mem_append.mp hr with hr | hr
    · exact t.notNull r hr
    · rw [List.mem_singleton.mp hr]
      exact hrow.2

/-- Delete the readings older than a time stamp. -/
def deleteReadings (cutoffMs : Int64) : Tables where
  devices := t.devices
  sensorReadings := t.sensorReadings.filter (¬ ·.timestampMs < cutoffMs)
  primaryKey := t.primaryKey
  foreignKey r hr := t.foreignKey r (List.mem_of_mem_filter hr)
  notNull r hr := t.notNull r (List.mem_of_mem_filter hr)

end Tables

/-- A data-modifying statement with its bound values. -/
inductive Write where
  /-- `INSERT INTO devices …` -/
  | insertDevice (row : DeviceRow)
  /-- `UPDATE devices SET … WHERE id = ?` -/
  | updateDevice (row : DeviceRow)
  /-- `DELETE FROM devices WHERE id = ?` -/
  | deleteDevice (id : StdString)
  /-- `INSERT INTO sensor_readings …` -/
  | insertReading (row : ReadingRow)
  /-- `DELETE FROM sensor_readings WHERE timestamp_ms < ?` -/
  | deleteReadings (cutoffMs : Int64)

/-- The tables after the statement and the number of rows it changed; rows deleted by a cascade do
not count. -/
def Write.apply (t : Tables) : Write → Option (Tables × ℕ)
  | .insertDevice row =>
    if h : row.id ∈ t.ids then none else some (t.insertDevice row h, 1)
  | .updateDevice row => some (t.updateDevice row, t.devices.countP (·.id = row.id))
  | .deleteDevice id => some (t.deleteDevice id, t.devices.countP (·.id = id))
  | .insertReading row =>
    if h : t.Admits row then some (t.insertReading row h, 1) else none
  | .deleteReadings cutoffMs =>
    some (t.deleteReadings cutoffMs, t.sensorReadings.countP (·.timestampMs < cutoffMs))

namespace Tables

variable {t : Tables}

/-- Some row has the id exactly when the statement that selects it counts a row. -/
theorem countP_pos_iff {id : StdString} : 0 < t.devices.countP (·.id = id) ↔ id ∈ t.ids := by
  simp [List.countP_pos_iff, ids]

/-- A device that is not stored is not counted. -/
theorem countP_eq_zero_iff {id : StdString} : t.devices.countP (·.id = id) = 0 ↔ id ∉ t.ids := by
  rw [← countP_pos_iff, Nat.pos_iff_ne_zero, not_not]

@[simp]
theorem ids_insertDevice {row : DeviceRow} {h : row.id ∉ t.ids} :
    (t.insertDevice row h).ids = t.ids ++ [row.id] := by
  simp [ids, insertDevice]

/-- An update neither adds nor removes an id. -/
@[simp]
theorem ids_updateDevice {row : DeviceRow} : (t.updateDevice row).ids = t.ids :=
  row.map_id_setIn t.devices

/-- A removal removes one id. -/
@[simp]
theorem mem_ids_deleteDevice {id other : StdString} :
    other ∈ (t.deleteDevice id).ids ↔ other ∈ t.ids ∧ other ≠ id := by
  simp only [ids, deleteDevice, List.mem_map, List.mem_filter]
  constructor
  · rintro ⟨d, ⟨hd, hne⟩, rfl⟩
    exact ⟨⟨d, hd, rfl⟩, by simpa using hne⟩
  · rintro ⟨⟨d, hd, rfl⟩, hne⟩
    exact ⟨d, ⟨hd, by simpa using hne⟩, rfl⟩

/-- The id is a primary key, so a search by it finds the row with the id. -/
theorem find?_eq_some_iff {id : StdString} {row : DeviceRow} :
    t.devices.find? (·.id = id) = some row ↔ row ∈ t.devices ∧ row.id = id := by
  constructor
  · intro h
    exact ⟨List.mem_of_find?_eq_some h, by simpa using List.find?_some h⟩
  · rintro ⟨hrow, rfl⟩
    cases hfind : t.devices.find? (·.id = row.id) with
    | none => exact absurd (by simp) (List.find?_eq_none.mp hfind row hrow)
    | some row' =>
      have hid : row'.id = row.id := by simpa using List.find?_some hfind
      rw [List.inj_on_of_nodup_map t.primaryKey (List.mem_of_find?_eq_some hfind) hrow hid]

/-- A deleted device is not found. -/
@[simp]
theorem find?_deleteDevice (id : StdString) :
    (t.deleteDevice id).devices.find? (·.id = id) = none := by
  simp [deleteDevice]

/-- Deleting a device that is not stored changes nothing. -/
theorem deleteDevice_of_notMem {id : StdString} (h : id ∉ t.ids) : t.deleteDevice id = t := by
  have hdevices : ∀ d ∈ t.devices, d.id ≠ id := by
    rintro d hd rfl
    exact h (List.mem_map_of_mem hd)
  ext1
  · exact List.filter_eq_self.mpr fun d hd => by simpa using hdevices d hd
  · refine List.filter_eq_self.mpr fun r hr => ?_
    have hdevice := t.foreignKey r hr
    simp only [ne_eq, decide_not, Bool.not_eq_eq_eq_not, Bool.not_true, decide_eq_false_iff_not]
    rintro rfl
    exact h hdevice

/-- Updating a device that is not stored changes nothing. -/
theorem updateDevice_of_notMem {row : DeviceRow} (h : row.id ∉ t.ids) : t.updateDevice row = t := by
  have hsame : ∀ d ∈ t.devices, (if d.id = row.id then row else d) = d := by
    intro d hd
    apply if_neg
    rintro hid
    exact h (hid ▸ List.mem_map_of_mem hd)
  ext1
  · exact (List.map_congr_left hsame).trans (List.map_id' _)
  · rfl

/-- The row with an id, if there is one, is found by searching for the id. -/
theorem find?_insertDevice (row : DeviceRow) (h : row.id ∉ t.ids) :
    (t.insertDevice row h).devices.find? (·.id = row.id) = some row := by
  have hnone : t.devices.find? (·.id = row.id) = none := by
    rw [List.find?_eq_none]
    intro d hd hid
    exact h (List.mem_map.mpr ⟨d, hd, by simpa using hid⟩)
  rw [insertDevice, List.find?_append, hnone]
  simp

/-! ## Rows that replace each other -/

/-- Delete the device with the row's id, and add the row. -/
def reinsert (t : Tables) (row : DeviceRow) : Tables :=
  (t.deleteDevice row.id).insertDevice row (by simp)

variable {row w : DeviceRow}

@[simp]
theorem find?_reinsert : (t.reinsert row).devices.find? (·.id = row.id) = some row :=
  find?_insertDevice row _

/-- The row is the only one with its id. -/
theorem mem_devices_reinsert {d : DeviceRow} :
    d ∈ (t.reinsert row).devices ∧ d.id = row.id ↔ d = row := by
  constructor
  · rintro ⟨hd, hid⟩
    rcases List.mem_append.mp hd with hd | hd
    · simp [deleteDevice, hid] at hd
    · exact List.mem_singleton.mp hd
  · rintro rfl
    exact ⟨List.mem_append_right _ (List.mem_singleton_self d), rfl⟩

/-- Different rows give different tables. -/
theorem reinsert_inj : t.reinsert row = t.reinsert w ↔ row = w := by
  constructor
  · intro h
    have hlast := congrArg (fun t => t.devices.getLast?) h
    simpa [reinsert, insertDevice] using hlast
  · rintro rfl
    rfl

/-- An update reaches the rows that a removal leaves, and no others. -/
theorem updateDevice_deleteDevice (id : StdString) :
    (t.deleteDevice id).updateDevice w = (t.updateDevice w).deleteDevice id := by
  have hid : ((fun d : DeviceRow => decide (d.id ≠ id)) ∘ fun d => if d.id = w.id then w else d) =
      fun d => decide (d.id ≠ id) := by
    funext d
    by_cases hd : d.id = w.id <;> simp [hd]
  ext1
  · show (t.devices.filter _).map _ = (t.devices.map _).filter _
    rw [List.filter_map, hid]
  · rfl

/-- A row that is replaced need not be updated before. -/
theorem reinsert_updateDevice_self (h : w.id = row.id) :
    (t.updateDevice w).reinsert row = t.reinsert row := by
  have hdelete : (t.updateDevice w).deleteDevice row.id = t.deleteDevice row.id := by
    rw [← updateDevice_deleteDevice, updateDevice_of_notMem (by simp [h])]
  ext1
  · exact congrArg (fun t => t.devices ++ [row]) hdelete
  · exact (congrArg Tables.sensorReadings hdelete :)

private theorem updateDevice_insertDevice (hrow : row.id ∉ t.ids) :
    ((t.insertDevice row hrow).updateDevice w).devices =
      w.setIn t.devices ++ [if row.id = w.id then w else row] := by
  simp [updateDevice, insertDevice, DeviceRow.setIn]

/-- Updating the new row replaces the old one by the update. -/
theorem updateDevice_reinsert_self (h : w.id = row.id) :
    (t.reinsert row).updateDevice w = t.reinsert w := by
  have hdelete : (t.deleteDevice row.id).updateDevice w = t.deleteDevice w.id := by
    rw [updateDevice_of_notMem (by simp [h]), h]
  ext1
  · refine (updateDevice_insertDevice _).trans ?_
    rw [if_pos h.symm]
    exact congrArg (fun t => t.devices ++ [w]) hdelete
  · exact (congrArg Tables.sensorReadings hdelete :)

/-- Updates of other rows may come before or after. -/
theorem updateDevice_reinsert_of_ne (h : w.id ≠ row.id) :
    (t.reinsert row).updateDevice w = (t.updateDevice w).reinsert row := by
  have hdelete := updateDevice_deleteDevice (t := t) (w := w) row.id
  ext1
  · refine (updateDevice_insertDevice _).trans ?_
    rw [if_neg (Ne.symm h)]
    exact congrArg (fun t => t.devices ++ [row]) hdelete
  · rfl

end Tables

end IotDashboard
