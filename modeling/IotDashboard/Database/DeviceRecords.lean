import IotDashboard.Database.DeviceRepository

/-!
# Device records in the database

A device goes to the database as seven numbered parameters and comes back as seven numbered
columns. Texts are bound with their length but read as C strings, so a record survives if no text
holds a NUL byte. The same cut lets a row with another id be read as the same record.

## Main definitions

* `DeviceColumn`: the columns, in the orders in which the statements list them;
* `SqliteDeviceRepository.Survives`: a record is written, and read back up to its milliseconds.

## Main results

* `column_bindDevice_add`, `column_bindDevice_update` and `rowToDevice_eq`: the numbers in the
  three statements are those of the columns;
* `SqliteDeviceRepository.survives_iff`: the records that survive `Add` and `Update`.
-/

namespace IotDashboard

open StdString

/-- The columns of `devices`. -/
inductive DeviceColumn where
  | id
  | name
  | type
  | protocol
  | address
  | isConnected
  | lastSeenMs
deriving DecidableEq

namespace DeviceColumn

/-- The columns after `SELECT` and after `INSERT INTO devices`. -/
def listed : List DeviceColumn := [id, name, type, protocol, address, isConnected, lastSeenMs]

/-- The columns that `UPDATE` has a placeholder for: six after `SET`, and the one after `WHERE`. -/
def updated : List DeviceColumn := [name, type, protocol, address, isConnected, lastSeenMs, id]

end DeviceColumn

namespace DeviceRow

/-- The value in a column. -/
def column (row : DeviceRow) : DeviceColumn → SqlParam
  | .id => .text row.id
  | .name => .text row.name
  | .type => .text row.type
  | .protocol => .text row.protocol
  | .address => .text row.address
  | .isConnected => .integer row.isConnected
  | .lastSeenMs => .integer row.lastSeenMs

/-- `GetText`, on the columns that are listed: the C string at the address of the text. -/
def getText (row : DeviceRow) (col : ℕ) : StdString :=
  match DeviceColumn.listed[col]?.map row.column with
  | some (.text s) => s.cStr
  | _ => []

/-- `GetInt`, on the columns that are listed. -/
def getInt (row : DeviceRow) (col : ℕ) : Int64 :=
  match DeviceColumn.listed[col]?.map row.column with
  | some (.integer n) => n
  | _ => 0

/-- The columns determine the row. -/
theorem ext_column {row row' : DeviceRow} (h : ∀ c, row.column c = row'.column c) : row = row' := by
  rw [DeviceRow.mk.injEq]
  exact ⟨SqlParam.text.inj (h .id), SqlParam.text.inj (h .name), SqlParam.text.inj (h .type),
    SqlParam.text.inj (h .protocol), SqlParam.text.inj (h .address),
    SqlParam.integer.inj (h .isConnected), SqlParam.integer.inj (h .lastSeenMs)⟩

/-- An update leaves the rows with other ids, and has one row with its own. -/
theorem perm_setIn {row : DeviceRow} {devices : List DeviceRow}
    (hkeys : (devices.map DeviceRow.id).Nodup) (hrow : row.id ∈ devices.map DeviceRow.id) :
    (row.setIn devices).Perm (row :: devices.filter (·.id ≠ row.id)) := by
  induction devices with
  | nil => cases hrow
  | cons d devices ih =>
    obtain ⟨hd, hkeys⟩ := List.nodup_cons.mp hkeys
    have hcons : row.setIn (d :: devices) =
        (if d.id = row.id then row else d) :: row.setIn devices := rfl
    rw [hcons]
    by_cases hid : d.id = row.id
    · -- The other rows have other ids.
      rw [hid] at hd
      have hother : ∀ d' ∈ devices, d'.id ≠ row.id := fun d' hd' heq =>
        hd (heq ▸ List.mem_map_of_mem hd')
      have hset : row.setIn devices = devices := by
        refine (List.map_congr_left fun d' hd' => ?_).trans (List.map_id' _)
        exact if_neg (hother d' hd')
      have hfilter : (d :: devices).filter (·.id ≠ row.id) = devices := by
        rw [List.filter_cons_of_neg (by simpa using hid)]
        exact List.filter_eq_self.mpr fun d' hd' => by simpa using hother d' hd'
      rw [if_pos hid, hset, hfilter]
    · have hrow : row.id ∈ devices.map DeviceRow.id :=
        (List.mem_cons.mp hrow).resolve_left (Ne.symm hid)
      rw [if_neg hid, List.filter_cons_of_pos (by simpa using hid)]
      exact ((ih hkeys hrow).cons d).trans (.swap _ _ _)

end DeviceRow

namespace SqliteDeviceRepository

variable {d : Database} {device : DeviceInfo}

/-! ## The numbers in the statements -/

/-- The parameters that `Add` binds. -/
def addParams (device : DeviceInfo) : List (ℕ × SqlParam) :=
  [(1, .text device.id), (2, .text device.name), (3, .text device.type),
    (4, .text device.protocol), (5, .text device.address),
    (6, .integer (if device.isConnected then 1 else 0)), (7, .integer device.lastSeen.toUnixMs)]

/-- The parameters that `Update` binds. -/
def updateParams (device : DeviceInfo) : List (ℕ × SqlParam) :=
  [(1, .text device.name), (2, .text device.type), (3, .text device.protocol),
    (4, .text device.address), (5, .integer (if device.isConnected then 1 else 0)),
    (6, .integer device.lastSeen.toUnixMs), (7, .text device.id)]

/-- The row that `Add` writes has in each column the value bound to the placeholder there. -/
theorem column_bindDevice_add (c : DeviceColumn) :
    (bindDevice device).column c =
      boundParam (addParams device) (DeviceColumn.listed.idxOf c + 1) := by
  cases c <;> rfl

/-- The same for `Update`. -/
theorem column_bindDevice_update (c : DeviceColumn) :
    (bindDevice device).column c =
      boundParam (updateParams device) (DeviceColumn.updated.idxOf c + 1) := by
  cases c <;> rfl

/-- The bound values determine the row. -/
theorem eq_bindDevice_iff {row : DeviceRow} :
    (∀ c, row.column c = boundParam (addParams device) (DeviceColumn.listed.idxOf c + 1)) ↔
      row = bindDevice device := by
  constructor
  · exact fun h => DeviceRow.ext_column fun c => (h c).trans (column_bindDevice_add c).symm
  · rintro rfl
    exact column_bindDevice_add

/-- `RowToDevice`, by the numbers of the columns. -/
theorem rowToDevice_eq (row : DeviceRow) :
    rowToDevice row = ⟨row.getText 0, row.getText 1, row.getText 2, row.getText 3, row.getText 4,
      row.getInt 5 != 0, .fromUnixMs (row.getInt 6)⟩ := rfl

/-! ## What survives -/

/-- The device up to the milliseconds of its time stamp. -/
def toMilliseconds (device : DeviceInfo) : DeviceInfo :=
  { device with
    lastSeen := Int64.ofInt (device.lastSeen.toInt - device.lastSeen.toInt % 1000000) }

/-- What is read of the rows with another id than the device. -/
def otherRecords (d : Database) (device : DeviceInfo) : List DeviceInfo :=
  ((selectDevices d.tables).filter (·.id ≠ device.id)).map rowToDevice

/-- The write succeeds. Afterwards the device is read by its id, and it is once among all devices,
whose other records are what they were. -/
structure Survives (d : Database) (write : Sql (Result Unit)) (device : DeviceInfo) : Prop where
  written : ((write.run Database.handle).run d).1 = .ok (.ok ())
  byId : (((getById device.id).run Database.handle).run
    ((write.run Database.handle).run d).2).1 = .ok (.ok (toMilliseconds device))
  once : ∃ all, ((getAll.run Database.handle).run ((write.run Database.handle).run d).2).1 =
      .ok (.ok all) ∧
    all.count (toMilliseconds device) = 1 ∧
    all.Perm (toMilliseconds device :: otherRecords d device)

/-- No row with another id is read as the record of the device. -/
def Unmistakable (d : Database) (device : DeviceInfo) : Prop :=
  ∀ row ∈ d.tables.devices, row.id ≠ device.id → rowToDevice row ≠ toMilliseconds device

/-- After the epoch, the cast to milliseconds and back rounds down. -/
theorem truncated_eq (h : 0 ≤ device.lastSeen.toInt) :
    device.truncated = toMilliseconds device := by
  have hlast : Timestamp.fromUnixMs device.lastSeen.toUnixMs =
      Int64.ofInt (device.lastSeen.toInt - device.lastSeen.toInt % 1000000) := by
    apply Int64.toInt_inj.mp
    have hmax := device.lastSeen.toInt_lt
    have hms : device.lastSeen.toUnixMs.toInt = device.lastSeen.toInt / 1000000 := by
      rw [Timestamp.toUnixMs, Int64.toInt_div_of_ne_right _ _ (by decide)]
      exact Int.tdiv_eq_ediv_of_nonneg h
    rw [Timestamp.fromUnixMs, Int64.toInt_mul, hms, Int64.toInt_ofInt]
    congr 1
    have hdiv := Int.mul_ediv_add_emod device.lastSeen.toInt 1000000
    have hfactor : (1000000 : Int64).toInt = 1000000 := by decide
    rw [hfactor]
    omega
  rw [DeviceInfo.truncated, toMilliseconds, hlast]

private theorem perm_otherRecords : (otherRecords d device).Perm
    ((d.tables.devices.filter (·.id ≠ device.id)).map rowToDevice) :=
  ((List.mergeSort_perm _ _).filter _).map _

private theorem unmistakable_iff : Unmistakable d device ↔
    toMilliseconds device ∉ otherRecords d device := by
  rw [perm_otherRecords.mem_iff, List.mem_map]
  constructor
  · rintro h ⟨row, hrow, hread⟩
    obtain ⟨hrow, hid⟩ := List.mem_filter.mp hrow
    exact h row hrow (by simpa using hid) hread
  · intro h row hrow hid hread
    exact h ⟨row, List.mem_filter.mpr ⟨hrow, by simpa using hid⟩, hread⟩

/-- A write that files the device's row beside the rows with other ids. -/
theorem survives_iff_of_perm {write : Sql (Result Unit)} {d' : Database}
    (hepoch : 0 ≤ device.lastSeen.toInt)
    (hwrite : (write.run Database.handle).run d = (.ok (.ok ()), d')) (hreliable : d'.Reliable)
    (hrows : d'.tables.devices.Perm
      (bindDevice device :: d.tables.devices.filter (·.id ≠ device.id))) :
    Survives d write device ↔ device.NulFree ∧ Unmistakable d device := by
  -- What both reads make of the row.
  have hread : rowToDevice (bindDevice device) = toMilliseconds device ↔ device.NulFree := by
    rw [← truncated_eq hepoch, rowToDevice_bindDevice]
  have hfind : d'.tables.devices.find? (·.id = device.id) = some (bindDevice device) :=
    Tables.find?_eq_some_iff.mpr ⟨hrows.mem_iff.mpr List.mem_cons_self, rfl⟩
  have hbyId : (((getById device.id).run Database.handle).run d').1 =
      .ok (.ok (rowToDevice (bindDevice device))) := by
    rw [run_getById (hreliable 0) (hreliable 1), hfind]
  have hall : ((selectDevices d'.tables).map rowToDevice).Perm
      (rowToDevice (bindDevice device) :: otherRecords d device) := by
    refine ((List.mergeSort_perm _ _).trans hrows).map rowToDevice |>.trans ?_
    exact perm_otherRecords.symm.cons _
  rw [unmistakable_iff]
  constructor
  · rintro ⟨-, hid, all, hgetAll, hcount, hperm⟩
    rw [hwrite] at hid
    refine ⟨hread.mp (Except.ok.inj (Except.ok.inj (hbyId.symm.trans hid))), ?_⟩
    rw [hperm.count_eq, List.count_cons_self] at hcount
    exact List.count_eq_zero.mp (by omega)
  · rintro ⟨hnulFree, hother⟩
    rw [hread.mpr hnulFree] at hbyId hall
    refine ⟨by rw [hwrite], by rw [hwrite, hbyId], _, by rw [hwrite, run_getAll hreliable], ?_,
      hall⟩
    rw [hall.count_eq, List.count_cons_self, List.count_eq_zero.mpr hother]

/-- All rows have other ids than a device that is not stored. -/
theorem filter_of_notMem (h : device.id ∉ d.tables.ids) {rows : List DeviceRow}
    (hrows : ∀ row ∈ rows, row ∈ d.tables.devices) : rows.filter (·.id ≠ device.id) = rows := by
  refine List.filter_eq_self.mpr fun row hrow => ?_
  have hid : row.id ≠ device.id := fun heq => h (heq ▸ List.mem_map_of_mem (hrows row hrow))
  simpa using hid

/-- Without the device, `GetAll` gives the other records. -/
theorem getAll_of_notMem (hreliable : d.Reliable) (h : device.id ∉ d.tables.ids) :
    ((getAll.run Database.handle).run d).1 = .ok (.ok (otherRecords d device)) := by
  have hfilter : (selectDevices d.tables).filter (·.id ≠ device.id) = selectDevices d.tables :=
    filter_of_notMem h fun row hrow => (List.mergeSort_perm _ _).mem_iff.mp hrow
  rw [run_getAll hreliable, otherRecords, hfilter]

private theorem survives_add_iff (hreliable : d.Reliable) (hepoch : 0 ≤ device.lastSeen.toInt)
    (hid : device.id ∉ d.tables.ids) :
    Survives d (add device) device ↔ device.NulFree ∧ Unmistakable d device := by
  refine survives_iff_of_perm hepoch (run_add (hreliable 0))
    (Database.reliable_step (Database.reliable_tick hreliable 1) _) ?_
  have happly : Write.apply (d.tick 1).tables (.insertDevice (bindDevice device)) =
      some ((d.tick 1).tables.insertDevice (bindDevice device) hid, 1) := dif_neg hid
  have hfilter : d.tables.devices.filter (·.id ≠ device.id) = d.tables.devices :=
    filter_of_notMem hid fun row hrow => hrow
  rw [Database.step_of_apply (Database.reliable_tick hreliable 1) happly, hfilter]
  exact List.perm_append_singleton _ _

private theorem survives_update_iff (hreliable : d.Reliable) (hepoch : 0 ≤ device.lastSeen.toInt)
    (hid : device.id ∈ d.tables.ids) :
    Survives d (update device) device ↔ device.NulFree ∧ Unmistakable d device := by
  have hstep := Database.step_of_apply (Database.reliable_tick hreliable 1)
    (w := .updateDevice (bindDevice device)) rfl
  have hreported : reportChanges
      ((d.tick 1).step (.updateDevice (bindDevice device))).2.changes = .ok () := by
    rw [hstep]
    exact if_neg fun hzero => Tables.countP_eq_zero_iff.mp hzero hid
  have hwrite : ((update device).run Database.handle).run d = _ := run_update (hreliable 0)
  rw [hreported] at hwrite
  refine survives_iff_of_perm hepoch hwrite
    (Database.reliable_step (Database.reliable_tick hreliable 1) _) ?_
  rw [hstep]
  exact DeviceRow.perm_setIn d.tables.primaryKey hid

/-- For every table and every device with a time stamp after the epoch: a device that is not
stored survives `Add`, beside what `GetAll` gave before, and a stored one survives `Update`, exactly
when no text holds a NUL byte and no other row is read as the record. -/
theorem survives_iff (hreliable : d.Reliable) (hepoch : 0 ≤ device.lastSeen.toInt) :
    (device.id ∉ d.tables.ids →
      ((getAll.run Database.handle).run d).1 = .ok (.ok (otherRecords d device)) ∧
      (Survives d (add device) device ↔ device.NulFree ∧ Unmistakable d device)) ∧
    (device.id ∈ d.tables.ids →
      (Survives d (update device) device ↔ device.NulFree ∧ Unmistakable d device)) :=
  ⟨fun hid => ⟨getAll_of_notMem hreliable hid, survives_add_iff hreliable hepoch hid⟩,
    survives_update_iff hreliable hepoch⟩

instance : Decidable device.NulFree := inferInstanceAs (Decidable (_ ∧ _))

instance : Decidable (Unmistakable d device) :=
  inferInstanceAs (Decidable (∀ row ∈ d.tables.devices, _))

/-- A lamp of which the name is given. -/
def lamp (name : StdString) : DeviceInfo :=
  ⟨lit "d-1", name, lit "light", lit "mqtt", [], true, 1700000000123456789⟩

/-- A pump at the given address. -/
def pump (address : StdString) : DeviceInfo :=
  ⟨lit "d-2", lit "Pump", lit "pump", lit "http", address, false, 1600000000987654321⟩

/-- A database in which the pump and a sensor are stored. -/
def pumpAndSensor : Database where
  tables := (Tables.empty.insertDevice (bindDevice (pump [])) List.not_mem_nil).insertDevice
    ⟨lit "d-3", lit "Sensor", lit "humidity", lit "mqtt", [], 1, 1500000000000⟩ (by decide)

/-- Beside the pump and the sensor the lamp survives `Add`, and the pump `Update`. -/
theorem survives_iff_lamp :
    Survives pumpAndSensor (add (lamp (lit "Lamp"))) (lamp (lit "Lamp")) ∧
      Survives pumpAndSensor (update (pump (lit "10.0.0.7"))) (pump (lit "10.0.0.7")) := by
  have hreliable : pumpAndSensor.Reliable := fun _ => rfl
  have hlamp : Unmistakable pumpAndSensor (lamp (lit "Lamp")) := by decide
  have hpump : Unmistakable pumpAndSensor (pump (lit "10.0.0.7")) := by decide
  exact ⟨((survives_iff hreliable (by decide)).1 (by decide)).2.mpr ⟨by decide, hlamp⟩,
    ((survives_iff hreliable (by decide)).2 (by decide)).mpr ⟨by decide, hpump⟩⟩

/-- A name with a NUL byte, which JSON text can carry, is cut. -/
theorem not_survives_nul :
    ¬ Survives {} (add (lamp (lit "La\x00mp"))) (lamp (lit "La\x00mp")) := by
  have hreliable : ({} : Database).Reliable := fun _ => rfl
  rw [survives_add_iff hreliable (by decide) (by decide)]
  exact fun h => absurd h.1 (by decide)

end SqliteDeviceRepository

end IotDashboard
