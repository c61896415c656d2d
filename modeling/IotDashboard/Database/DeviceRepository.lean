import IotDashboard.Common.Types
import IotDashboard.Database.Connection

/-!
# Device repository

`SqliteDeviceRepository`. The result of a write is inferred: `Step` answers the same for success
and for every error, so `Add` always reports success, and `Update` and `Remove` go by the change
counter.

## Main results

* `SqliteDeviceRepository.run_add`, `run_update`, `run_remove`: what the writes report and do;
* `SqliteDeviceRepository.rowToDevice_bindDevice`: what a stored device reads back as.
-/

namespace IotDashboard

open StdString

/-- A device as the database gives it back: the time stamp loses what is finer than a
millisecond. -/
def DeviceInfo.truncated (device : DeviceInfo) : DeviceInfo :=
  { device with lastSeen := .fromUnixMs device.lastSeen.toUnixMs }

/-- No text of the device holds a NUL byte. -/
def DeviceInfo.NulFree (device : DeviceInfo) : Prop :=
  device.id.NulFree ∧ device.name.NulFree ∧ device.type.NulFree ∧ device.protocol.NulFree ∧
    device.address.NulFree

namespace SqliteDeviceRepository

/-- `RowToDevice`. -/
def rowToDevice (row : DeviceRow) : DeviceInfo where
  id := row.id.cStr
  name := row.name.cStr
  type := row.type.cStr
  protocol := row.protocol.cStr
  address := row.address.cStr
  isConnected := row.isConnected != 0
  lastSeen := .fromUnixMs row.lastSeenMs

/-- The values that `Add` and `Update` bind. -/
def bindDevice (device : DeviceInfo) : DeviceRow where
  id := device.id
  name := device.name
  type := device.type
  protocol := device.protocol
  address := device.address
  isConnected := if device.isConnected then 1 else 0
  lastSeenMs := device.lastSeen.toUnixMs

/-- `GetById`. -/
def getById (deviceId : StdString) : Sql (Result DeviceInfo) := do
  SqliteStatement.new
  match ← SqliteConnection.selectDevice deviceId with
  | none => return .error .deviceNotFound
  | some row => return .ok (rowToDevice row)

/-- `GetAll`. -/
def getAll : Sql (Result (List DeviceInfo)) := do
  SqliteStatement.new
  let rows ← SqliteConnection.selectDevices
  return .ok (rows.map rowToDevice)

/-- `Add`. -/
def add (device : DeviceInfo) : Sql (Result Unit) := do
  SqliteStatement.new
  if ← SqliteStatement.step (.insertDevice (bindDevice device)) then return .ok ()
  -- `Step` returns false on `SQLITE_DONE`, but also on every error.
  return .ok ()

/-- `Update`. -/
def update (device : DeviceInfo) : Sql (Result Unit) := do
  SqliteStatement.new
  let _ ← SqliteStatement.step (.updateDevice (bindDevice device))
  if (← SqliteConnection.changes) = 0 then return .error .deviceNotFound
  return .ok ()

/-- `Remove`. -/
def remove (deviceId : StdString) : Sql (Result Unit) := do
  SqliteStatement.new
  let _ ← SqliteStatement.step (.deleteDevice deviceId)
  if (← SqliteConnection.changes) = 0 then return .error .deviceNotFound
  return .ok ()

/-! ## What the operations do -/

variable {d : Database} {device : DeviceInfo} {deviceId : StdString}

/-- `Add` reports success whatever the statement did. -/
theorem run_add (hprepare : d.faults 0 = false) :
    ((add device).run Database.handle).run d =
      (.ok (.ok ()), ((d.tick 1).step (.insertDevice (bindDevice device))).2) := by
  simp [add, Stateful.run_bind, hprepare]

/-- `Add` throws when its statement cannot be prepared. -/
theorem run_add_of_unprepared (hprepare : d.faults 0 = true) :
    ((add device).run Database.handle).run d = (.error .runtimeError, d.tick 1) := by
  simp [add, Stateful.run_bind, hprepare]

/-- What `Update` and `Remove` report for a change count. -/
def reportChanges (changes : ℕ) : Result Unit :=
  if changes = 0 then .error .deviceNotFound else .ok ()

/-- `Update` goes by the change counter. -/
theorem run_update (hprepare : d.faults 0 = false) :
    ((update device).run Database.handle).run d =
      (.ok (reportChanges ((d.tick 1).step (.updateDevice (bindDevice device))).2.changes),
        ((d.tick 1).step (.updateDevice (bindDevice device))).2) := by
  simp only [update, Program.run_bind, Stateful.run_bind, Database.run_new, hprepare,
    Database.run_statement_step, Database.run_changes, Bool.false_eq_true, if_false]
  unfold reportChanges
  split <;> rfl

/-- `Remove` goes by the change counter. -/
theorem run_remove (hprepare : d.faults 0 = false) :
    ((remove deviceId).run Database.handle).run d =
      (.ok (reportChanges ((d.tick 1).step (.deleteDevice deviceId)).2.changes),
        ((d.tick 1).step (.deleteDevice deviceId)).2) := by
  simp only [remove, Program.run_bind, Stateful.run_bind, Database.run_new, hprepare,
    Database.run_statement_step, Database.run_changes, Bool.false_eq_true, if_false]
  unfold reportChanges
  split <;> rfl

/-- `GetById` throws when its statement cannot be prepared. -/
theorem run_getById_of_unprepared (hprepare : d.faults 0 = true) :
    ((getById deviceId).run Database.handle).run d = (.error .runtimeError, d.tick 1) := by
  simp [getById, Stateful.run_bind, hprepare]

/-- `GetById` takes a failed step for a missing row. -/
theorem run_getById_of_prepared (hprepare : d.faults 0 = false) :
    ((getById deviceId).run Database.handle).run d =
      (.ok (match if d.faults 1 then none else d.tables.devices.find? (·.id = deviceId) with
        | none => .error .deviceNotFound
        | some row => .ok (rowToDevice row)), (d.tick 1).tick 1) := by
  simp only [getById, Program.run_bind, Stateful.run_bind, Database.run_new, hprepare,
    Database.run_selectDevice, Bool.false_eq_true, if_false]
  show (Program.run _ (match if d.faults 1 then none
      else d.tables.devices.find? (·.id = deviceId) with
    | none => _
    | some row => _)).run _ = _
  cases if d.faults 1 then none else d.tables.devices.find? (·.id = deviceId) <;> rfl

/-- `GetById` on a connection without failures finds the row of the id, if there is one. -/
theorem run_getById (hprepare : d.faults 0 = false) (hstep : d.faults 1 = false) :
    ((getById deviceId).run Database.handle).run d =
      (.ok (match d.tables.devices.find? (·.id = deviceId) with
        | none => .error .deviceNotFound
        | some row => .ok (rowToDevice row)), (d.tick 1).tick 1) := by
  rw [run_getById_of_prepared hprepare, hstep, if_neg Bool.false_ne_true]

/-- A device that is read by its id carries the id, up to a NUL byte. -/
theorem id_of_run_getById {d' : Database}
    (h : ((getById deviceId).run Database.handle).run d = (.ok (.ok device), d')) :
    device.id = deviceId.cStr := by
  by_cases hprepare : d.faults 0 = true
  · rw [getById, Program.run_bind, Stateful.run_bind, Database.run_new, if_pos hprepare] at h
    cases h
  rw [Bool.not_eq_true] at hprepare
  rw [run_getById_of_prepared hprepare] at h
  have hdevice := Except.ok.inj (Prod.mk.inj h).1
  split at hdevice
  · cases hdevice
  · next row hrow =>
    -- The search went by the id of the row.
    cases hdevice
    split at hrow
    · cases hrow
    · have hid : row.id = deviceId := by simpa using List.find?_some hrow
      exact congrArg cStr hid

/-- `GetAll` on a connection without failures gives every row. -/
theorem run_getAll (hreliable : d.Reliable) :
    (getAll.run Database.handle).run d =
      (.ok (.ok ((selectDevices d.tables).map rowToDevice)),
        (d.tick 1).tick ((selectDevices d.tables).length + 1)) := by
  have hrows : Database.fetch (d.tick 1).faults (selectDevices (d.tick 1).tables) =
      selectDevices d.tables :=
    Database.fetch_of_reliable (Database.reliable_tick hreliable 1) _
  simp [getAll, Stateful.run_bind, hreliable 0, hrows]

/-- What is read from a row are C strings, which hold no NUL byte. -/
theorem nulFree_rowToDevice (row : DeviceRow) : (rowToDevice row).NulFree :=
  ⟨nulFree_cStr _, nulFree_cStr _, nulFree_cStr _, nulFree_cStr _, nulFree_cStr _⟩

/-- Reading back what was bound for a device gives the device up to the precision of its time
stamp, exactly when no text is cut at a NUL byte. -/
theorem rowToDevice_bindDevice : rowToDevice (bindDevice device) = device.truncated ↔
    device.NulFree := by
  have hconnected : ((if device.isConnected then 1 else 0 : Int64) != 0) = device.isConnected := by
    cases device.isConnected <;> rfl
  rw [rowToDevice, DeviceInfo.truncated, DeviceInfo.mk.injEq]
  constructor
  · -- A C string holds no NUL byte, so a text that is read back unchanged held none.
    rintro ⟨hid, hname, htype, hprotocol, haddress, -, -⟩
    exact ⟨hid ▸ nulFree_cStr _, hname ▸ nulFree_cStr _, htype ▸ nulFree_cStr _,
      hprotocol ▸ nulFree_cStr _, haddress ▸ nulFree_cStr _⟩
  · rintro ⟨hid, hname, htype, hprotocol, haddress⟩
    exact ⟨cStr_eq_self hid, cStr_eq_self hname, cStr_eq_self htype, cStr_eq_self hprotocol,
      cStr_eq_self haddress, hconnected, rfl⟩

/-- The device itself is read back exactly when moreover its time stamp is a whole number of
milliseconds. -/
theorem rowToDevice_bindDevice_eq_self : rowToDevice (bindDevice device) = device ↔
    device.NulFree ∧ device.truncated = device := by
  constructor
  · intro h
    have hnulFree := nulFree_rowToDevice (bindDevice device)
    rw [h] at hnulFree
    exact ⟨hnulFree, (rowToDevice_bindDevice.mpr hnulFree).symm.trans h⟩
  · rintro ⟨hnulFree, htruncated⟩
    exact (rowToDevice_bindDevice.mpr hnulFree).trans htruncated

end SqliteDeviceRepository

end IotDashboard
