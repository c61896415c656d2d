import IotDashboard.Common.Types
import IotDashboard.Foundation.Containers

/-!
# Heartbeat monitor

`HeartbeatMonitor` keeps a record of each registered device and looks at all of them in every
round of its poll loop. A device that has been silent for its timeout is reported once, until it
is heard from again.
-/

namespace IotDashboard

/-- `HeartbeatMonitor::DeviceRecord`. -/
structure DeviceRecord where
  timeoutSeconds : Int64
  lastSeen : Timestamp
  timedOut : Bool := false

/-- `HeartbeatMonitor`. -/
structure HeartbeatMonitor where
  devices : AList (fun _ : StdString => DeviceRecord) := ∅

/-- The record is to be reported: the device was silent too long, and that is not known yet. -/
def DeviceRecord.due (now : Timestamp) (record : DeviceRecord) : Bool :=
  record.timeoutSeconds ≤ Timestamp.seconds (now - record.lastSeen) && !record.timedOut

namespace HeartbeatMonitor

variable (m : HeartbeatMonitor)

/-- `Register`. -/
def register (now : Timestamp) (deviceId : StdString) (timeoutSeconds : Int64) :
    HeartbeatMonitor :=
  { m with devices := m.devices.insert deviceId { timeoutSeconds, lastSeen := now } }

/-- `Unregister`. -/
def unregister (deviceId : StdString) : HeartbeatMonitor :=
  { m with devices := m.devices.erase deviceId }

/-- `RecordHeartbeat`. -/
def recordHeartbeat (now : Timestamp) (deviceId : StdString) : HeartbeatMonitor :=
  match m.devices.lookup deviceId with
  | none => m
  | some record => { m with
      devices := m.devices.replace deviceId { record with lastSeen := now, timedOut := false } }

/-- `TimeSinceLastSeen`. -/
def timeSinceLastSeen (now : Timestamp) (deviceId : StdString) : Option Int64 :=
  (m.devices.lookup deviceId).map fun record => Timestamp.seconds (now - record.lastSeen)

/-- The loop of a poll over the records: the ids to report, and the records with a mark on these. -/
def collect (now : Timestamp) : List (Sigma fun _ : StdString => DeviceRecord) →
    List StdString → HeartbeatMonitor → List StdString × HeartbeatMonitor
  | [], timedOut, m => (timedOut, m)
  | entry :: entries, timedOut, m =>
    if entry.2.due now then
      collect now entries (timedOut ++ [entry.1])
        { m with devices := m.devices.replace entry.1 { entry.2 with timedOut := true } }
    else collect now entries timedOut m

/-- The locked part of one round of `PollLoop`: the ids for which the callback is called next. -/
def poll (now : Timestamp) : List StdString × HeartbeatMonitor :=
  collect now m.devices.entries [] m

/-! ## Effects on a record -/

variable {m}

/-- Registering makes a new record of the device, and of no other one. -/
theorem lookup_register (now : Timestamp) (deviceId : StdString) (timeoutSeconds : Int64)
    (other : StdString) :
    (m.register now deviceId timeoutSeconds).devices.lookup other =
      if other = deviceId then some { timeoutSeconds, lastSeen := now }
      else m.devices.lookup other := by
  rw [register]
  split
  · next heq => rw [heq, AList.lookup_insert]
  · next hne => exact AList.lookup_insert_ne hne

/-- Unregistering removes the record of the device, and of no other one. -/
theorem lookup_unregister (deviceId other : StdString) :
    (m.unregister deviceId).devices.lookup other =
      if other = deviceId then none else m.devices.lookup other := by
  rw [unregister]
  split
  · next heq => rw [heq, AList.lookup_erase]
  · next hne => exact AList.lookup_erase_ne hne

/-- A heartbeat sets the time stamp of a record and takes its mark away. -/
theorem lookup_recordHeartbeat (now : Timestamp) (deviceId other : StdString) :
    (m.recordHeartbeat now deviceId).devices.lookup other =
      if other = deviceId then
        (m.devices.lookup deviceId).map fun r => { r with lastSeen := now, timedOut := false }
      else m.devices.lookup other := by
  rw [recordHeartbeat]
  cases hlookup : m.devices.lookup deviceId with
  | none =>
    dsimp only
    split
    · next heq => rw [heq, hlookup, Option.map_none]
    · rfl
  | some r =>
    dsimp only
    rw [AList.lookup_replace, hlookup]
    rfl

/-- A heartbeat of a device that is not registered changes nothing. -/
theorem recordHeartbeat_of_lookup_eq_none {deviceId : StdString}
    (h : m.devices.lookup deviceId = none) (now : Timestamp) :
    m.recordHeartbeat now deviceId = m := by
  rw [recordHeartbeat, h]

/-- What a poll makes of a record. -/
def polled (now : Timestamp) (record : DeviceRecord) : DeviceRecord :=
  { record with timedOut := record.timedOut || record.due now }

private theorem fst_collect (now : Timestamp)
    (entries : List (Sigma fun _ : StdString => DeviceRecord))
    (timedOut : List StdString) (m : HeartbeatMonitor) :
    (collect now entries timedOut m).1 =
      timedOut ++ (entries.filter fun e => e.2.due now).map Sigma.fst := by
  induction entries generalizing timedOut m with
  | nil => simp [collect]
  | cons entry entries ih =>
    rw [collect]
    split
    · next hdue => simp [ih, hdue]
    · next hdue => simp [ih, hdue]

/-- The loop over the records changes those that it visits. -/
theorem lookup_collect {now : Timestamp} {entries : List (Sigma fun _ : StdString => DeviceRecord)}
    (hkeys : entries.NodupKeys) (timedOut : List StdString) (m : HeartbeatMonitor)
    (hentries : ∀ e ∈ entries, m.devices.lookup e.1 = some e.2) (deviceId : StdString) :
    (collect now entries timedOut m).2.devices.lookup deviceId =
      if deviceId ∈ entries.keys then (m.devices.lookup deviceId).map (polled now)
      else m.devices.lookup deviceId := by
  induction entries generalizing timedOut m with
  | nil => rfl
  | cons entry entries ih =>
    obtain ⟨hnew, hkeys⟩ := List.nodupKeys_cons.mp hkeys
    have hentry := hentries entry List.mem_cons_self
    rw [collect]
    split
    · next hdue =>
      rw [ih hkeys]
      · rw [AList.lookup_replace, hentry]
        by_cases hid : deviceId = entry.1
        · subst hid
          simp [hnew, hentry, polled, hdue]
        · simp [hid]
      · -- The records that are still to come are not the one that was marked.
        intro e he
        have hne : e.1 ≠ entry.1 := by
          rintro heq
          exact hnew (heq ▸ List.mem_keys_of_mem he)
        rw [AList.lookup_replace, if_neg hne]
        exact hentries e (List.mem_cons_of_mem _ he)
    · next hdue =>
      rw [ih hkeys _ _ fun e he => hentries e (List.mem_cons_of_mem _ he)]
      by_cases hid : deviceId = entry.1
      · subst hid
        simp [hnew, hentry, polled, hdue]
      · simp [hid]

/-- A poll marks the records that are due. -/
theorem lookup_poll (now : Timestamp) (deviceId : StdString) :
    (m.poll now).2.devices.lookup deviceId = (m.devices.lookup deviceId).map (polled now) := by
  have hentries : ∀ e ∈ m.devices.entries, m.devices.lookup e.1 = some e.2 := fun e he =>
    AList.mem_lookup_iff.mpr he
  rw [poll, lookup_collect m.devices.nodupKeys _ _ hentries]
  split
  · rfl
  · next hnew =>
    have hnone : m.devices.lookup deviceId = none := AList.lookup_eq_none.mpr hnew
    rw [hnone, Option.map_none]

/-- A poll reports every device once. -/
theorem nodup_poll (now : Timestamp) : (m.poll now).1.Nodup := by
  rw [poll, fst_collect, List.nil_append]
  exact (List.filter_sublist.map Sigma.fst).nodup m.devices.keys_nodup

/-- A poll reports the devices whose record is due. -/
theorem mem_poll_iff (now : Timestamp) (deviceId : StdString) :
    deviceId ∈ (m.poll now).1 ↔
      ∃ record, m.devices.lookup deviceId = some record ∧ record.due now = true := by
  rw [poll, fst_collect, List.nil_append, List.mem_map]
  constructor
  · rintro ⟨⟨id, record⟩, hentry, rfl⟩
    obtain ⟨hentry, hdue⟩ := List.mem_filter.mp hentry
    exact ⟨record, AList.mem_lookup_iff.mpr hentry, hdue⟩
  · rintro ⟨record, hlookup, hdue⟩
    exact ⟨⟨deviceId, record⟩,
      List.mem_filter.mpr ⟨AList.mem_lookup_iff.mp hlookup, hdue⟩, rfl⟩

/-- Without a registered device there is nothing to report. -/
theorem poll_of_empty {m : HeartbeatMonitor} (h : m.devices = ∅) (now : Timestamp) :
    m.poll now = ([], m) := by
  rw [poll, h]
  rfl

end HeartbeatMonitor

end IotDashboard
