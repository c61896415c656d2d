import IotDashboard.Database.DeviceRepository
import IotDashboard.Devices.DeviceManager

/-!
# The fleet

What the device table is for: which devices are known, what they were registered as, and whether
they are online. A fleet changes by three kinds of events. The first registration of an id counts
until its removal, and what a device reports counts while it is known.

A text of the table is read up to a NUL byte, so a fleet keeps no more of it.

## Main definitions

* `Fleet`, `FleetEvent`, `Fleet.apply`: the abstract state and its changes;
* `Tables.fleet`: the fleet that a table stands for.

## Main results

* `Fleet.online_iff`: who is online after some events;
* `Tables.fleet_insertDevice`, `Tables.fleet_deleteDevice`, `Tables.fleet_updateDevice`: the
  statements as events.
-/

namespace IotDashboard

open StdString

/-- What is known of a device. -/
structure FleetEntry where
  name : StdString
  type : StdString
  protocol : StdString
  address : StdString
  online : Bool
deriving DecidableEq

/-- The known devices by their ids. -/
abbrev Fleet := StdString → Option FleetEntry

/-- What changes a fleet. -/
inductive FleetEvent where
  | registered (req : RegisterDeviceRequest)
  | unregistered (deviceId : StdString)
  | reported (deviceId : StdString) (online : Bool)

/-- A device that has not reported yet. -/
def RegisterDeviceRequest.fleetEntry (req : RegisterDeviceRequest) : FleetEntry where
  name := req.name.cStr
  type := req.type.cStr
  protocol := req.protocol.cStr
  address := req.address.cStr
  online := false

namespace FleetEvent

/-- The id that an event is about. -/
def deviceId : FleetEvent → StdString
  | registered req => req.id
  | unregistered deviceId => deviceId
  | reported deviceId _ => deviceId

/-- What the event makes of what was known of its device. -/
def entry (known : Option FleetEntry) : FleetEvent → Option FleetEntry
  -- A device that is known stays as it is.
  | registered req => some (known.getD req.fleetEntry)
  | unregistered _ => none
  | reported _ online => known.map fun entry => { entry with online }

/-- The device is removed, or reports that it is not online. -/
def Silences (deviceId : StdString) (event : FleetEvent) : Prop :=
  event = unregistered deviceId ∨ event = reported deviceId false

end FleetEvent

namespace Fleet

variable (fleet : Fleet)

/-- The fleet after an event. -/
def apply (event : FleetEvent) : Fleet :=
  Function.update fleet event.deviceId (event.entry (fleet event.deviceId))

/-- The fleet after some events. -/
def after (events : List FleetEvent) : Fleet := events.foldl apply fleet

/-- The device is known and online. -/
def Online (deviceId : StdString) : Prop := ∃ entry ∈ fleet deviceId, entry.online = true

variable {fleet} {event : FleetEvent} {deviceId : StdString}

@[simp]
theorem after_nil : fleet.after [] = fleet := rfl

@[simp]
theorem after_snoc (events : List FleetEvent) (event : FleetEvent) :
    fleet.after (events ++ [event]) = (fleet.after events).apply event := by
  rw [after, List.foldl_append, List.foldl_cons, List.foldl_nil, after]

/-- An event is about one device. -/
theorem apply_of_ne (h : deviceId ≠ event.deviceId) :
    fleet.apply event deviceId = fleet deviceId :=
  Function.update_of_ne h _ _

/-- What an event makes of its own device. -/
@[simp]
theorem apply_self : fleet.apply event event.deviceId = event.entry (fleet event.deviceId) :=
  Function.update_self _ _ _

/-- An event makes a device online if the device, being known, reports it, and keeps it online
unless it silences the device. -/
theorem online_apply_iff : (fleet.apply event).Online deviceId ↔
    (event = .reported deviceId true ∧ (fleet deviceId).isSome) ∨
      (fleet.Online deviceId ∧ ¬ event.Silences deviceId) := by
  by_cases hid : deviceId = event.deviceId
  · subst hid
    rw [Online, apply_self, Online]
    cases event with
    | registered req => cases h : fleet req.id <;> simp [FleetEvent.entry, FleetEvent.deviceId,
        FleetEvent.Silences, RegisterDeviceRequest.fleetEntry, h]
    | unregistered id => simp [FleetEvent.entry, FleetEvent.deviceId, FleetEvent.Silences]
    | reported id online =>
      cases online <;> cases h : fleet id <;>
        simp [FleetEvent.entry, FleetEvent.deviceId, FleetEvent.Silences, h]
  · -- The event is about another device.
    have hother : event ≠ .reported deviceId true := by
      rintro rfl
      exact hid rfl
    have hsilent : ¬ event.Silences deviceId := by
      rintro (rfl | rfl) <;> exact hid rfl
    simp [Online, apply_of_ne hid, hother, hsilent]

/-- A device is online exactly if its last report since its registration says so: it reported this
while it was known, or was online from the start, and nothing has silenced it since. -/
theorem online_after_iff (events : List FleetEvent) : (fleet.after events).Online deviceId ↔
    (fleet.Online deviceId ∧ ∀ e ∈ events, ¬ e.Silences deviceId) ∨
      ∃ past future, events = past ++ .reported deviceId true :: future ∧
        (fleet.after past deviceId).isSome ∧ ∀ e ∈ future, ¬ e.Silences deviceId := by
  induction events using List.reverseRecOn with
  | nil => simp
  | append_singleton events event ih =>
    rw [after_snoc, online_apply_iff, ih]
    constructor
    · rintro (⟨rfl, hknown⟩ | ⟨⟨honline, hsilent⟩ | ⟨past, future, rfl, hknown, hsilent⟩, hlast⟩)
      · exact .inr ⟨events, [], rfl, hknown, by simp⟩
      · exact .inl ⟨honline, by simpa [or_imp, forall_and] using ⟨hsilent, hlast⟩⟩
      · exact .inr ⟨past, future ++ [event], by simp, hknown,
          by simpa [or_imp, forall_and] using ⟨hsilent, hlast⟩⟩
    · rintro (⟨honline, hsilent⟩ | ⟨past, future, hevents, hknown, hsilent⟩)
      · exact .inr ⟨.inl ⟨honline, fun e he => hsilent e (by simp [he])⟩, hsilent event (by simp)⟩
      · -- The report is the last event, or comes before it.
        rcases List.eq_nil_or_concat future with rfl | ⟨future, last, rfl⟩
        · obtain ⟨rfl, hevent⟩ := List.append_inj' hevents rfl
          exact .inl ⟨List.singleton_inj.mp hevent, hknown⟩
        · have hsplit :
              events ++ [event] = (past ++ .reported deviceId true :: future) ++ [last] := by
            simpa using hevents
          obtain ⟨rfl, hlast⟩ := List.append_inj' hsplit rfl
          obtain rfl := List.singleton_inj.mp hlast
          exact .inr ⟨.inr ⟨past, future, rfl, hknown, fun e he => hsilent e (by simp [he])⟩,
            hsilent event (by simp)⟩

end Fleet

/-! ## The table as a fleet -/

/-- What a row tells of its device. -/
def DeviceRow.fleetEntry (row : DeviceRow) : FleetEntry where
  name := row.name.cStr
  type := row.type.cStr
  protocol := row.protocol.cStr
  address := row.address.cStr
  online := row.isConnected != 0

/-- A record that is read, given another status and written back. -/
theorem DeviceRow.fleetEntry_writeBack (row : DeviceRow) (online : Bool) (seen : Timestamp) :
    (SqliteDeviceRepository.bindDevice { SqliteDeviceRepository.rowToDevice row with
      isConnected := online, lastSeen := seen }).fleetEntry = { row.fleetEntry with online } := by
  have hflag : ((if online then 1 else 0 : Int64) != 0) = online := by cases online <;> rfl
  simp [fleetEntry, SqliteDeviceRepository.bindDevice, SqliteDeviceRepository.rowToDevice, hflag,
    cStr_eq_self (nulFree_cStr _)]

namespace Tables

variable {t : Tables}

/-- The fleet that the table stands for. -/
def fleet (t : Tables) : Fleet := fun deviceId =>
  (t.devices.find? (·.id = deviceId)).map DeviceRow.fleetEntry

/-- The fleet of the table has an entry for each row. -/
theorem fleet_eq_some_iff {deviceId : StdString} {entry : FleetEntry} :
    t.fleet deviceId = some entry ↔
      ∃ row ∈ t.devices, row.id = deviceId ∧ row.fleetEntry = entry := by
  simp only [fleet, Option.map_eq_some_iff, find?_eq_some_iff, and_assoc]

/-- The device is online in the table exactly if it is in the fleet. -/
theorem online_fleet_iff {deviceId : StdString} :
    t.fleet.Online deviceId ↔ ∃ row ∈ t.devices, row.id = deviceId ∧ row.isConnected ≠ 0 := by
  simp only [Fleet.Online, Option.mem_def, fleet_eq_some_iff]
  constructor
  · rintro ⟨entry, ⟨row, hrow, hid, rfl⟩, honline⟩
    exact ⟨row, hrow, hid, by simpa [DeviceRow.fleetEntry] using honline⟩
  · rintro ⟨row, hrow, hid, honline⟩
    exact ⟨_, ⟨row, hrow, hid, rfl⟩, by simpa [DeviceRow.fleetEntry] using honline⟩

/-- The fleet has the devices whose ids are stored. -/
theorem isSome_fleet_iff {deviceId : StdString} :
    (t.fleet deviceId).isSome ↔ deviceId ∈ t.ids := by
  simp [fleet, ids]

/-- The fleet has no other device. -/
theorem fleet_eq_none_iff {deviceId : StdString} : t.fleet deviceId = none ↔ deviceId ∉ t.ids := by
  rw [← Option.not_isSome_iff_eq_none, isSome_fleet_iff]

/-- An inserted row is a registration. -/
theorem fleet_insertDevice {req : RegisterDeviceRequest} {now : Timestamp}
    (hnew : (SqliteDeviceRepository.bindDevice (req.device now)).id ∉ t.ids) :
    (t.insertDevice (SqliteDeviceRepository.bindDevice (req.device now)) hnew).fleet =
      t.fleet.apply (.registered req) := by
  funext deviceId
  by_cases hid : deviceId = req.id
  · subst hid
    have hunknown : t.fleet req.id = none := fleet_eq_none_iff.mpr hnew
    have hfind := find?_insertDevice _ hnew
    have hentry : t.fleet.apply (.registered req) req.id = some req.fleetEntry := by
      rw [Fleet.apply, FleetEvent.deviceId, Function.update_self, hunknown]
      rfl
    rw [hentry]
    exact congrArg (Option.map DeviceRow.fleetEntry) hfind
  · have hother : ¬ req.id = deviceId := Ne.symm hid
    rw [Fleet.apply_of_ne hid, fleet, fleet, insertDevice, List.find?_append]
    simp [SqliteDeviceRepository.bindDevice, RegisterDeviceRequest.device, hother]

/-- A registration of a known device changes nothing. -/
theorem fleet_apply_registered {req : RegisterDeviceRequest} (hstored : req.id ∈ t.ids) :
    t.fleet.apply (.registered req) = t.fleet := by
  obtain ⟨entry, hentry⟩ := Option.isSome_iff_exists.mp (isSome_fleet_iff.mpr hstored)
  rw [Fleet.apply, Function.update_eq_self_iff]
  show some ((t.fleet req.id).getD req.fleetEntry) = t.fleet req.id
  rw [hentry]
  rfl

/-- A deleted row is a removal. -/
theorem fleet_deleteDevice (deviceId : StdString) :
    (t.deleteDevice deviceId).fleet = t.fleet.apply (.unregistered deviceId) := by
  funext other
  by_cases hid : other = deviceId
  · subst hid
    rw [fleet, find?_deleteDevice, Fleet.apply, FleetEvent.deviceId, Function.update_self]
    rfl
  · rw [Fleet.apply_of_ne hid, fleet, fleet, deleteDevice, List.find?_filter]
    congr 2
    funext row
    by_cases hrow : row.id = other <;> simp [hrow, hid]

/-- An update of a row concerns the device of the row. -/
theorem fleet_updateDevice {row : DeviceRow} (hstored : row.id ∈ t.ids) :
    (t.updateDevice row).fleet = Function.update t.fleet row.id (some row.fleetEntry) := by
  -- The ids stay, so the search finds the same place.
  have hsearch (other : StdString) : (t.updateDevice row).devices.find? (·.id = other) =
      (t.devices.find? (·.id = other)).map fun d => if d.id = row.id then row else d := by
    have hsame : ((fun d : DeviceRow => decide (d.id = other)) ∘
        fun d => if d.id = row.id then row else d) = fun d => decide (d.id = other) := by
      funext d
      by_cases hd : d.id = row.id <;> simp [hd]
    show (t.devices.map _).find? _ = _
    rw [List.find?_map, hsame]
  funext other
  rw [fleet, hsearch, Option.map_map]
  by_cases hid : other = row.id
  · subst hid
    obtain ⟨d, hd⟩ := Option.isSome_iff_exists.mp
      (Option.isSome_map.symm.trans (isSome_fleet_iff.mpr hstored))
    have hdid := (find?_eq_some_iff.mp hd).2
    simp [hd, hdid]
  · rw [Function.update_of_ne hid, fleet]
    cases hd : t.devices.find? (·.id = other) with
    | none => rfl
    | some d =>
      have hdid := (find?_eq_some_iff.mp hd).2
      simp [hdid, hid]

end Tables

/-! ## Lists of devices -/

/-- The entry passes the filter. -/
def FleetEntry.Passes (entry : FleetEntry) (filter : DeviceFilter) : Prop :=
  (filter.type = [] ∨ entry.type = filter.type) ∧ (filter.onlineOnly = true → entry.online = true)

/-- The list holds the devices of the fleet that pass the filter, each once. -/
def Fleet.Lists (fleet : Fleet) (filter : DeviceFilter) (devices : List (StdString × FleetEntry)) :
    Prop :=
  (devices.map Prod.fst).Nodup ∧ ∀ deviceId entry,
    (deviceId, entry) ∈ devices ↔ fleet deviceId = some entry ∧ entry.Passes filter

/-- The record that `List` gives of an entry, but for the time at which the device was seen. -/
def FleetEntry.device (entry : FleetEntry) (deviceId : StdString) : DeviceInfo where
  id := deviceId.cStr
  name := entry.name
  type := entry.type
  protocol := entry.protocol
  address := entry.address
  isConnected := entry.online
  lastSeen := 0

instance (entry : FleetEntry) (filter : DeviceFilter) : Decidable (entry.Passes filter) :=
  inferInstanceAs (Decidable (_ ∧ _))

/-- `List` keeps the rows whose entries pass. -/
theorem DeviceManager.applyFilter_map (filter : DeviceFilter) (rows : List DeviceRow) :
    applyFilter filter (rows.map SqliteDeviceRepository.rowToDevice) =
      (rows.filter fun row => row.fleetEntry.Passes filter).map
        SqliteDeviceRepository.rowToDevice := by
  obtain ⟨type, onlineOnly⟩ := filter
  have htype : (fun device : DeviceInfo => decide (device.type = type)) ∘
      SqliteDeviceRepository.rowToDevice = fun row => decide (row.fleetEntry.type = type) := rfl
  have honline : (fun device : DeviceInfo => device.isConnected) ∘
      SqliteDeviceRepository.rowToDevice = fun row => row.fleetEntry.online := rfl
  cases type with
  | nil =>
    cases onlineOnly
    · simp [applyFilter, FleetEntry.Passes]
    · simp [applyFilter, FleetEntry.Passes, List.filter_map, honline]
  | cons c type =>
    cases onlineOnly
    · simp [applyFilter, FleetEntry.Passes, List.filter_map, htype]
    · simp [applyFilter, FleetEntry.Passes, List.filter_map, List.filter_filter, htype, honline,
        Bool.and_comm]

/-- So the answer is a list of the fleet. -/
theorem Tables.fleet_lists (t : Tables) (filter : DeviceFilter) :
    t.fleet.Lists filter (((selectDevices t).filter fun row =>
      row.fleetEntry.Passes filter).map fun row => (row.id, row.fleetEntry)) := by
  have hperm : (selectDevices t).Perm t.devices := List.mergeSort_perm _ _
  constructor
  · have hids : ((selectDevices t).map DeviceRow.id).Nodup :=
      ((hperm.map DeviceRow.id).nodup_iff).mpr t.primaryKey
    rw [List.map_map]
    exact hids.sublist (List.filter_sublist.map _)
  · intro deviceId entry
    simp only [List.mem_map, List.mem_filter, hperm.mem_iff, decide_eq_true_eq, Prod.mk.injEq,
      fleet_eq_some_iff]
    constructor
    · rintro ⟨row, ⟨hrow, hpasses⟩, hid, rfl⟩
      exact ⟨⟨row, hrow, hid, rfl⟩, hpasses⟩
    · rintro ⟨⟨row, hrow, hid, rfl⟩, hpasses⟩
      exact ⟨row, ⟨hrow, hpasses⟩, hid, rfl⟩

end IotDashboard
