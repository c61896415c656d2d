import IotDashboard.Devices.Messages
import IotDashboard.Foundation.Containers

/-!
# Device repositories that are exact maps

What `DeviceManager` expects of its repository: a map from ids to devices that gives back what was
written. A call may fail, by an error that it reports or by an exception; then nothing is written.

## Main definitions

* `DeviceStore`: the map, and which of the coming calls fail;
* `DeviceStore.modify`: read a device, change it and write it back.

## Main results

* `DeviceStore.lookup_modify`: the only record that changes;
* `DeviceStore.modify_eq_ok_iff`: when the two calls throw nothing.
-/

namespace IotDashboard

/-- How a call of a repository fails. -/
inductive RepositoryFault where
  | refused
  | thrown
deriving DecidableEq

/-- A repository that is an exact map, and which of the coming calls fail. -/
structure DeviceStore where
  devices : AList fun _ : StdString => DeviceInfo := ∅
  /-- A device is filed under its id. -/
  keyed : ∀ deviceId device, devices.lookup deviceId = some device → device.id = deviceId := by
    intro _ _ h; cases h
  faults : ℕ → Option RepositoryFault := fun _ => none

namespace DeviceStore

variable (s : DeviceStore)

/-- The store after a call. -/
def tick : DeviceStore := { s with faults := fun i => s.faults (i + 1) }

/-- A store of one device, of which no call fails. -/
def single (device : DeviceInfo) : DeviceStore where
  devices := AList.singleton device.id device
  keyed deviceId stored h := by
    by_cases hid : deviceId = device.id
    · subst hid
      rw [← AList.insert_empty, AList.lookup_insert] at h
      rw [← Option.some.inj h]
    · rw [← AList.insert_empty, AList.lookup_insert_ne hid] at h
      cases h

/-- What becomes of a call: its result if it succeeds. -/
def outcome {α : Type} (result : Result α) : Except CxxException (Result α) :=
  match s.faults 0 with
  | none => .ok result
  | some .refused => .ok (.error .databaseError)
  | some .thrown => .error .runtimeError

/-- File a device under its id, in the place of the one that is there. -/
def replace (device : DeviceInfo) : DeviceStore where
  devices := s.devices.replace device.id device
  keyed deviceId stored h := by
    rw [AList.lookup_replace] at h
    split at h
    · next heq =>
      obtain ⟨-, -, rfl⟩ := Option.map_eq_some_iff.mp h
      exact heq.symm
    · exact s.keyed deviceId stored h
  faults := s.faults

/-- `GetById`. -/
def getById (deviceId : StdString) : Except CxxException (Result DeviceInfo) × DeviceStore :=
  (s.outcome (match s.devices.lookup deviceId with
    | none => .error .deviceNotFound
    | some device => .ok device), s.tick)

/-- `Update`. -/
def update (device : DeviceInfo) : Except CxxException (Result Unit) × DeviceStore :=
  (s.outcome (if device.id ∈ s.devices then .ok () else .error .deviceNotFound),
    if s.faults 0 = none ∧ device.id ∈ s.devices then (s.replace device).tick else s.tick)

/-- Read a device, change it and write it back: the two calls, with the results dropped. -/
def modify (deviceId : StdString) (change : DeviceInfo → DeviceInfo) :
    Except CxxException Unit × DeviceStore :=
  match s.getById deviceId with
  | (.error x, s) => (.error x, s)
  | (.ok (.error _), s) => (.ok (), s)
  | (.ok (.ok device), s) => ((s.update (change device)).1.map fun _ => (),
      (s.update (change device)).2)

/-- The store may fail but throws nothing. -/
def Nothrow : Prop := ∀ i, s.faults i ≠ some .thrown

variable {s} {deviceId other : StdString} {change : DeviceInfo → DeviceInfo}

private theorem lookup_tick : s.tick.devices.lookup other = s.devices.lookup other := rfl

/-- A write that goes through replaces the device of its id. -/
theorem lookup_update {device : DeviceInfo} :
    (s.update device).2.devices.lookup other =
      if other = device.id ∧ s.faults 0 = none then (s.devices.lookup other).map fun _ => device
      else s.devices.lookup other := by
  rw [update]
  dsimp only
  split
  · next h =>
    show (s.devices.replace device.id device).lookup other = _
    rw [AList.lookup_replace]
    by_cases hid : other = device.id
    · rw [if_pos hid, if_pos ⟨hid, h.1⟩, hid]
    · rw [if_neg hid, if_neg fun hand => hid hand.1]
  · next h =>
    rw [lookup_tick]
    split
    · next hand =>
      -- There is no such device.
      have hnone : s.devices.lookup other = none := by
        rw [hand.1, AList.lookup_eq_none]
        exact fun hmem => h ⟨hand.2, hmem⟩
      rw [hnone, Option.map_none]
    · rfl

/-- Reading and writing back changes the record of the id, if both calls succeed. -/
theorem lookup_modify (hid : ∀ device, (change device).id = device.id) :
    (s.modify deviceId change).2.devices.lookup other =
      if other = deviceId ∧ s.faults 0 = none ∧ s.faults 1 = none then
        (s.devices.lookup other).map change
      else s.devices.lookup other := by
  rw [modify, getById, outcome]
  cases hfault : s.faults 0 with
  | some fault => cases fault <;> simp [lookup_tick]
  | none =>
    cases hlookup : s.devices.lookup deviceId with
    | none =>
      dsimp only
      split
      · next h => rw [h.1, lookup_tick, hlookup, Option.map_none]
      · rfl
    | some device =>
      dsimp only
      rw [lookup_update, hid, s.keyed deviceId device hlookup, lookup_tick]
      have hnext : s.tick.faults 0 = s.faults 1 := rfl
      rw [hnext]
      by_cases h : other = deviceId ∧ s.faults 1 = none
      · rw [if_pos h, if_pos ⟨h.1, rfl, h.2⟩, h.1, hlookup]
        rfl
      · rw [if_neg h, if_neg fun hand => h ⟨hand.1, hand.2.2⟩]

/-- No device comes or goes. -/
theorem mem_modify (hid : ∀ device, (change device).id = device.id) :
    other ∈ (s.modify deviceId change).2.devices ↔ other ∈ s.devices := by
  rw [← AList.lookup_isSome, lookup_modify hid, ← AList.lookup_isSome]
  split
  · rw [Option.isSome_map]
  · rfl

/-- A record is left alone, or it is the one that is changed. -/
theorem exists_lookup_modify (hid : ∀ device, (change device).id = device.id)
    {device : DeviceInfo} (h : s.devices.lookup other = some device) :
    ∃ device', (s.modify deviceId change).2.devices.lookup other = some device' ∧
      (device' = device ∨ other = deviceId ∧ device' = change device) := by
  rw [lookup_modify hid, h]
  split
  · next hand => exact ⟨_, rfl, .inr ⟨hand.1, rfl⟩⟩
  · exact ⟨_, rfl, .inl rfl⟩

/-- The two calls throw only if one of them does. -/
theorem modify_eq_ok_iff (change : DeviceInfo → DeviceInfo) :
    (s.modify deviceId change).1 = .ok () ↔ s.faults 0 ≠ some .thrown ∧
      (s.faults 0 = none → deviceId ∈ s.devices → s.faults 1 ≠ some .thrown) := by
  rw [modify, getById, outcome]
  cases hfault : s.faults 0 with
  | some fault => cases fault <;> simp
  | none =>
    rw [← AList.lookup_isSome]
    cases hlookup : s.devices.lookup deviceId with
    | none => simp
    | some device =>
      have hnext : s.tick.faults 0 = s.faults 1 := rfl
      simp only [update, outcome, hnext]
      cases s.faults 1 with
      | none => simp [Except.map]
      | some fault => cases fault <;> simp [Except.map]

/-- Without exceptions of the repository, a modification returns. -/
theorem Nothrow.modify (h : s.Nothrow) : (s.modify deviceId change).1 = .ok () :=
  (modify_eq_ok_iff change).mpr ⟨h 0, fun _ _ => h 1⟩

end DeviceStore

end IotDashboard
