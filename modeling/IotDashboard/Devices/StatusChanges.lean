import IotDashboard.Devices.Confinement
import IotDashboard.Foundation.Mealy

/-!
# Which status messages report a change

The status callback is meant to be called when the flag of a device changes. The handler compares
nothing: it calls the callback for each status message that it can read, also if the device was in
that state before, if there is no such device, or if the repository refused the update.

## Main definitions

* `ManagerState.changes`: the flags that differ between two stores;
* `ManagerState.step`: a message, with the flags that it changes;
* `ManagerState.ReportsChange`: when the callback is called for a change only.

## Main results

* `ManagerState.step_calls`: one message changes at most the flag that it calls the callback for;
* `ManagerState.statusCalls_eq_changes_iff`: the callback is called for the changes, in order,
  exactly when every message of the run reports a change.
-/

namespace IotDashboard

open StdString DeviceManager

/-- A message of the broker, and when it is handled. -/
structure IncomingMessage where
  now : Timestamp
  topic : StdString
  payload : StdString

namespace ManagerState

/-- The flag of a device after a step, if it is another than before. -/
def flagChange (before after : DeviceStore) (deviceId : StdString) : Option (StdString × Bool) :=
  match before.devices.lookup deviceId, after.devices.lookup deviceId with
  | some device, some device' =>
    if device'.isConnected = device.isConnected then none else some (deviceId, device'.isConnected)
  | _, _ => none

/-- The flags that differ between two stores. -/
def changes (before after : DeviceStore) : List (StdString × Bool) :=
  before.devices.keys.filterMap (flagChange before after)

/-- A message is handled. The output is the flags that it changes. -/
def step (callbacks : Callbacks) (V : Vendor) (s : ManagerState) (m : IncomingMessage) :
    List (StdString × Bool) × ManagerState :=
  let s' := (((handleMqttMessage V m.now m.topic m.payload).run (handle callbacks)).run s).2
  (changes s.store s'.store, s')

/-- A status message that can be read is for a stored device, with the flag that is not stored,
and no call of the repository is refused; or the repository throws, and nothing is done. -/
def ReportsChange (V : Vendor) (store : DeviceStore) (m : IncomingMessage) : Prop :=
  ∀ deviceId online, m.topic = Subtopic.status.topic deviceId →
    readStatus V m.payload = .ok online →
    store.faults 0 = some .thrown ∨ store.faults 0 = none ∧
      ∃ device, store.devices.lookup deviceId = some device ∧
        (store.faults 1 = some .thrown ∨ store.faults 1 = none ∧ device.isConnected ≠ online)

variable {callbacks : Callbacks} {V : Vendor} {now : Timestamp} {s : ManagerState}
  {store : DeviceStore} {m : IncomingMessage} {deviceId : StdString} {online : Bool}

/-! ## The flags that a message changes -/

private theorem flagChange_eq_none {after : DeviceStore} {other : StdString}
    (h : after.devices.lookup other = store.devices.lookup other) :
    flagChange store after other = none := by
  rw [flagChange, h]
  cases store.devices.lookup other with
  | none => rfl
  | some device => exact if_pos rfl

private theorem changes_self : changes store store = [] :=
  List.filterMap_eq_nil_iff.mpr fun _ _ => flagChange_eq_none rfl

/-- A write to one record changes at most its flag. -/
theorem changes_modify {change : DeviceInfo → DeviceInfo}
    (hid : ∀ device, (change device).id = device.id) :
    changes store (store.modify deviceId change).2 =
      (flagChange store (store.modify deviceId change).2 deviceId).toList := by
  refine List.filterMap_eq_toList store.devices.nodupKeys (fun other hne => ?_) fun hmem => ?_
  · exact flagChange_eq_none (by rw [DeviceStore.lookup_modify hid, if_neg fun h => hne h.1])
  · have hnone : store.devices.lookup deviceId = none := AList.lookup_eq_none.mpr hmem
    refine flagChange_eq_none ?_
    rw [DeviceStore.lookup_modify hid, hnone, Option.map_none, ite_self]

private theorem changes_setLastSeen :
    changes store (store.modify deviceId (setLastSeen now)).2 = [] := by
  rw [changes_modify (id_setLastSeen now), flagChange,
    DeviceStore.lookup_modify (id_setLastSeen now)]
  cases store.devices.lookup deviceId with
  | none => rfl
  | some device =>
    rw [Option.map_some]
    split_ifs <;> simp [setLastSeen]

/-- A status message changes the flag of a stored device that has another one. -/
theorem changes_setStatus :
    changes store (store.modify deviceId (setStatus now online)).2 =
      if store.faults 0 = none ∧ store.faults 1 = none ∧
        ∃ device, store.devices.lookup deviceId = some device ∧ device.isConnected ≠ online then
        [(deviceId, online)]
      else [] := by
  rw [changes_modify (id_setStatus now online), flagChange,
    DeviceStore.lookup_modify (id_setStatus now online)]
  cases store.devices.lookup deviceId with
  | none => simp
  | some device =>
    by_cases hfaults : store.faults 0 = none ∧ store.faults 1 = none
    · by_cases hflag : device.isConnected = online <;> simp [hfaults, hflag, setStatus, Ne.symm]
    · rw [if_neg fun h => hfaults h.2, if_neg fun h => hfaults ⟨h.1, h.2.1⟩]
      simp

/-- The two calls of the repository throw nothing. -/
theorem isOk_setStatus_iff : (store.modify deviceId (setStatus now online)).1.isOk = true ↔
    store.faults 0 ≠ some .thrown ∧
      (store.faults 0 = none → deviceId ∈ store.devices → store.faults 1 ≠ some .thrown) := by
  rw [← DeviceStore.modify_eq_ok_iff (setStatus now online)]
  cases (store.modify deviceId (setStatus now online)).1 with
  | error x => exact iff_of_false Bool.false_ne_true (by simp)
  | ok _ => exact iff_of_true rfl rfl

/-- What is called and what changes when a status message is handled. -/
theorem setStatus_calls {calls : List (StdString × Bool)}
    (hcalls : calls = if (store.modify deviceId (setStatus now online)).1.isOk then
      [(deviceId, online)] else []) :
    (changes store (store.modify deviceId (setStatus now online)).2).Sublist calls ∧
      (changes store (store.modify deviceId (setStatus now online)).2 = calls ↔
        (store.faults 0 = some .thrown ∨ store.faults 0 = none ∧
          ∃ device, store.devices.lookup deviceId = some device ∧
            (store.faults 1 = some .thrown ∨
              store.faults 1 = none ∧ device.isConnected ≠ online))) := by
  rw [hcalls, changes_setStatus]
  by_cases hok : (store.modify deviceId (setStatus now online)).1.isOk = true
  · rw [if_pos hok]
    obtain ⟨hget, hupdate⟩ := isOk_setStatus_iff.mp hok
    split
    · next hchange =>
      obtain ⟨hfault, hfault', device, hlookup, hflag⟩ := hchange
      exact ⟨.refl _, iff_of_true rfl (.inr ⟨hfault, device, hlookup, .inr ⟨hfault', hflag⟩⟩)⟩
    · next hsame =>
      refine ⟨List.nil_sublist _, iff_of_false (List.cons_ne_nil _ _).symm ?_⟩
      rintro (hthrown | ⟨hfault, device, hlookup, hthrown | ⟨hfault', hflag⟩⟩)
      · exact hget hthrown
      · refine hupdate hfault (AList.lookup_isSome.mp ?_) hthrown
        rw [hlookup]
        rfl
      · exact hsame ⟨hfault, hfault', device, hlookup, hflag⟩
  · -- A call of the repository throws, so nothing is changed or called.
    rw [if_neg hok, if_neg]
    · refine ⟨.refl _, iff_of_true rfl ?_⟩
      rw [isOk_setStatus_iff, not_and_or, not_not] at hok
      refine hok.imp_right fun hthrown => ?_
      push Not at hthrown
      obtain ⟨hfault, hmem, hthrown⟩ := hthrown
      obtain ⟨device, hlookup⟩ := Option.isSome_iff_exists.mp (AList.lookup_isSome.mpr hmem)
      exact ⟨hfault, device, hlookup, .inl hthrown⟩
    · rintro ⟨hfault, hfault', -⟩
      refine hok (isOk_setStatus_iff.mpr ⟨?_, fun _ _ => ?_⟩)
      · simp [hfault]
      · simp [hfault']

/-! ## Runs -/

private theorem step_of_handler {subtopic : Subtopic} {result : Except CxxException Unit}
    {s' : ManagerState} (htopic : m.topic = subtopic.topic deviceId)
    (hrun : ((subtopic.handler V m.now deviceId m.payload).run (handle callbacks)).run s =
      (result, s')) : step callbacks V s m = (changes s.store s'.store, s') := by
  rw [step, handleMqttMessage_eq, route_eq_some_iff.mpr htopic, handleRouted, hrun]

/-- A message without a status that can be read changes no flag and calls nothing. -/
theorem step_of_unread (h : ∀ deviceId online, m.topic = Subtopic.status.topic deviceId →
      readStatus V m.payload ≠ .ok online) :
    (step callbacks V s m).1 = [] ∧ (step callbacks V s m).2.statusCalls = s.statusCalls := by
  cases hroute : route m.topic with
  | none =>
    rw [step, handleMqttMessage_eq, hroute]
    exact ⟨changes_self, rfl⟩
  | some routed =>
    obtain ⟨subtopic, deviceId⟩ := routed
    have htopic := route_eq_some_iff.mp hroute
    cases subtopic with
    | status =>
      cases hread : readStatus V m.payload with
      | error e =>
        rw [step_of_handler htopic (run_status_of_error hread)]
        exact ⟨changes_self, rfl⟩
      | ok online => exact absurd hread (h deviceId online htopic)
    | sensors =>
      cases hread : readSensors V m.now deviceId m.payload with
      | error e =>
        rw [step_of_handler htopic (run_sensors_of_error hread)]
        exact ⟨changes_self, rfl⟩
      | ok reading =>
        rw [step_of_handler htopic (run_sensors hread)]
        exact ⟨changes_self, rfl⟩
    | heartbeat =>
      rw [step_of_handler htopic run_heartbeat]
      exact ⟨changes_setLastSeen, rfl⟩

/-- A status that can be read is written, and the callback is called unless the repository
throws. -/
theorem step_of_readStatus (htopic : m.topic = Subtopic.status.topic deviceId)
    (hread : readStatus V m.payload = .ok online) :
    (step callbacks V s m).1 =
        changes s.store (s.store.modify deviceId (setStatus m.now online)).2 ∧
      (step callbacks V s m).2.statusCalls = s.statusCalls ++
        if (s.store.modify deviceId (setStatus m.now online)).1.isOk then [(deviceId, online)]
        else [] := by
  rw [step_of_handler htopic (run_status hread)]
  exact ⟨rfl, rfl⟩

/-- A message changes at most the flags that it calls the callback for, and exactly these if it
reports a change. -/
theorem step_calls (callbacks : Callbacks) (V : Vendor) (s : ManagerState) (m : IncomingMessage) :
    ∃ calls, (step callbacks V s m).2.statusCalls = s.statusCalls ++ calls ∧
      (step callbacks V s m).1.Sublist calls ∧
      ((step callbacks V s m).1 = calls ↔ ReportsChange V s.store m) := by
  by_cases hstatus : ∃ deviceId online, m.topic = Subtopic.status.topic deviceId ∧
      readStatus V m.payload = .ok online
  · obtain ⟨deviceId, online, htopic, hread⟩ := hstatus
    obtain ⟨hchanges, hcalls⟩ :
        (step callbacks V s m).1 = _ ∧ (step callbacks V s m).2.statusCalls = _ :=
      step_of_readStatus htopic hread
    rw [hchanges]
    obtain ⟨hsublist, hiff⟩ := setStatus_calls rfl
    refine ⟨_, hcalls, hsublist, hiff.trans ⟨fun h deviceId' online' htopic' hread' => ?_, ?_⟩⟩
    · -- The topic is that of one device only.
      obtain ⟨-, rfl⟩ := topic_inj.mp (htopic.symm.trans htopic')
      rw [hread] at hread'
      cases hread'
      exact h
    · exact fun h => h deviceId online htopic hread
  · have hunread (deviceId : StdString) (online : Bool)
        (htopic : m.topic = Subtopic.status.topic deviceId) :
        readStatus V m.payload ≠ .ok online :=
      fun hread => hstatus ⟨deviceId, online, htopic, hread⟩
    obtain ⟨hchanges, hcalls⟩ :
        (step callbacks V s m).1 = [] ∧ (step callbacks V s m).2.statusCalls = s.statusCalls :=
      step_of_unread hunread
    rw [hchanges, hcalls]
    refine ⟨[], (List.append_nil _).symm, .refl _, iff_of_true rfl ?_⟩
    exact fun deviceId online htopic hread => absurd hread (hunread deviceId online htopic)

section Runs

variable {tr : List (IncomingMessage × List (StdString × Bool))}

/-- In a run, the changes of flags are among the calls, in this order. -/
theorem changes_sublist_statusCalls
    (hrun : Mealy.Run (step callbacks V) Mealy.anyInput ⟨store, [], []⟩ tr s) :
    (tr.flatMap Prod.snd).Sublist s.statusCalls := by
  refine hrun.historyInvariant (P := fun tr s => (tr.flatMap Prod.snd).Sublist s.statusCalls)
    (.refl _) fun tr s m ih _ => ?_
  obtain ⟨calls, hcalls, hsublist, -⟩ := step_calls callbacks V s m
  rw [hcalls, List.flatMap_append, List.flatMap_singleton]
  exact ih.append hsublist

/-- For every store and every run: the callback is called for the changes of flags, in order,
exactly when every status message of the run reports a change. -/
theorem statusCalls_eq_changes_iff
    (hrun : Mealy.Run (step callbacks V) Mealy.anyInput ⟨store, [], []⟩ tr s) :
    s.statusCalls = tr.flatMap Prod.snd ↔ tr.EachAfter fun past entry =>
      ∀ s', Mealy.Run (step callbacks V) Mealy.anyInput ⟨store, [], []⟩ past s' →
        ReportsChange V s'.store entry.1 := by
  refine hrun.iff_eachAfter (P := fun tr s => s.statusCalls = tr.flatMap Prod.snd)
    (C := fun _ s => ReportsChange V s.store) rfl fun tr s m hrun _ => ?_
  obtain ⟨calls, hcalls, hsublist, hiff⟩ := step_calls callbacks V s m
  rw [hcalls, List.flatMap_append, List.flatMap_singleton, ← hiff, eq_comm,
    (changes_sublist_statusCalls hrun).append_eq_append_iff hsublist]
  exact and_congr_left fun _ => eq_comm

end Runs

/-- A status message of the lamp. -/
def lampStatus (now : Timestamp) (payload : String) : IncomingMessage :=
  ⟨now, Subtopic.status.topic (lit "d-1"), lit payload⟩

/-- The lamp goes online and offline again. -/
def lampSwitched : List IncomingMessage :=
  [lampStatus 1000000000 "\x7b\"status\":\"online\"\x7d", lampStatus 2000000000 "\x7b\x7d"]

def silent : Callbacks := ⟨fun _ _ => .ok (), fun _ => .ok ()⟩

/-- The callback is called for every change. -/
theorem statusCalls_eq_changes_iff_lampSwitched :
    let r := Mealy.exec (step silent .reference) oneLamp lampSwitched
    Mealy.Run (step silent .reference) Mealy.anyInput oneLamp r.1 r.2 ∧
      r.2.statusCalls = [(lit "d-1", true), (lit "d-1", false)] ∧
      r.1.EachAfter fun past entry =>
        ∀ s, Mealy.Run (step silent .reference) Mealy.anyInput oneLamp past s →
          ReportsChange .reference s.store entry.1 := by
  have hrun : Mealy.Run (step silent .reference) Mealy.anyInput oneLamp _ _ :=
    Mealy.Run.exec (Mealy.allowed_anyInput lampSwitched)
  refine ⟨hrun, by decide +kernel, (statusCalls_eq_changes_iff hrun).mp ?_⟩
  decide +kernel

/-- The lamp says twice that it is online. -/
theorem not_statusCalls_eq_changes_repeated :
    let r := Mealy.exec (step silent .reference) oneLamp
      [lampStatus 1000000000 "\x7b\"status\":\"online\"\x7d",
        lampStatus 2000000000 "\x7b\"status\":\"online\"\x7d"]
    Mealy.Run (step silent .reference) Mealy.anyInput oneLamp r.1 r.2 ∧
      r.2.statusCalls = [(lit "d-1", true), (lit "d-1", true)] ∧
      r.1.flatMap Prod.snd = [(lit "d-1", true)] :=
  ⟨Mealy.Run.exec (Mealy.allowed_anyInput _), by decide +kernel, by decide +kernel⟩

end ManagerState

end IotDashboard
