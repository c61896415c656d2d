import IotDashboard.Devices.DeviceStore
import IotDashboard.Devices.TopicRouting

/-!
# What a message can do

The message handlers over a repository that is an exact map. A message reads its payload first,
then writes to the repository, and calls a callback last; so what cannot be read has no effect.

## Main definitions

* `ManagerState`: the repository, and what the callbacks were called with;
* `ManagerState.handle`: the meaning of the calls that the message handlers make.

## Main results

* `ManagerState.run_status`, `run_sensors` and `run_heartbeat`: what the three handlers do;
* `ManagerState.mqttInput_confined`: a message changes at most the record that its topic names,
  and nothing if its payload is malformed.
-/

namespace IotDashboard

open StdString DeviceManager

/-- The repository of the device manager, and what its callbacks were called with. -/
structure ManagerState where
  store : DeviceStore := {}
  statusCalls : List (StdString × Bool) := []
  sensorCalls : List SensorReading := []

/-- The installed callbacks, by what they return. -/
structure Callbacks where
  status : StdString → Bool → Except JsonException Unit
  sensor : SensorReading → Except JsonException Unit

namespace ManagerState

/-- A call of the repository. -/
def onStore {α : Type} (f : DeviceStore → Except CxxException α × DeviceStore) :
    Stateful CxxException ManagerState α :=
  .zoom ManagerState.store (fun store s => { s with store }) f

/-- The meaning of the calls that the message handlers make. -/
def handle (callbacks : Callbacks) : Program.Handler CxxException ManagerCall.Reply ManagerState
  | .port (.getById deviceId) => onStore fun store => store.getById deviceId
  | .port (.update device) => onStore fun store => store.update device
  -- The message handlers make no other call of a port.
  | .port _ => .throw .runtimeError
  | .statusCallback deviceId online => fun s => (.ok (callbacks.status deviceId online),
      { s with statusCalls := s.statusCalls ++ [(deviceId, online)] })
  | .sensorCallback reading => fun s => (.ok (callbacks.sensor reading),
      { s with sensorCalls := s.sensorCalls ++ [reading] })

variable {callbacks : Callbacks} {V : Vendor} {now : Timestamp} {s : ManagerState}
  {deviceId payload : StdString}

/-! ## The handlers -/

private theorem run_modify (change : DeviceInfo → DeviceInfo) :
    ((Manager.modify deviceId change).run (handle callbacks)).run s =
      ((s.store.modify deviceId change).1,
        { s with store := (s.store.modify deviceId change).2 }) := by
  have hget : ((Manager.getById deviceId).run (handle callbacks)).run s =
      ((s.store.getById deviceId).1, { s with store := (s.store.getById deviceId).2 }) :=
    congrFun (Program.run_perform (handle callbacks) (ManagerCall.port (.getById deviceId))) s
  rw [Manager.modify, Program.run_bind, Stateful.run_bind, hget, DeviceStore.modify]
  rcases s.store.getById deviceId with ⟨_ | _ | device, store⟩
  · rfl
  · rfl
  · have hupdate : ((Manager.update (change device)).run (handle callbacks)).run { s with store } =
        ((store.update (change device)).1, { s with store := (store.update (change device)).2 }) :=
      congrFun (Program.run_perform (handle callbacks) (ManagerCall.port (.update _))) _
    show ((Manager.update (change device) >>= fun _ => pure ()).run (handle callbacks)).run
      { s with store } = _
    rw [Program.run_bind, Stateful.run_bind, hupdate]
    dsimp only
    cases (store.update (change device)).1 <;> rfl

/-- Nothing that the handler of an exception of the JSON library could catch comes from the
repository. -/
theorem catchJson_modify_bind (change : DeviceInfo → DeviceInfo) (p : Manager Unit) :
    Manager.catchJson (Manager.modify deviceId change >>= fun _ => p) =
      Manager.modify deviceId change >>= fun _ => Manager.catchJson p := by
  show Program.call _ _ = Program.call _ _
  congr 1
  funext r
  cases r with
  | error e => rfl
  | ok device => rfl

private theorem run_statusCallback (online : Bool) :
    ((Manager.catchJson (Manager.statusCallback deviceId online)).run (handle callbacks)).run s =
      (.ok (), { s with statusCalls := s.statusCalls ++ [(deviceId, online)] }) := by
  show (handle callbacks (.statusCallback deviceId online) >>= fun r => _).run s = _
  rw [Stateful.run_bind, handle]
  dsimp only [Stateful.run]
  cases callbacks.status deviceId online <;> rfl

/-- What a status message writes. -/
def setStatus (now : Timestamp) (online : Bool) (device : DeviceInfo) : DeviceInfo :=
  { device with isConnected := online, lastSeen := now }

/-- What a heartbeat writes. -/
def setLastSeen (now : Timestamp) (device : DeviceInfo) : DeviceInfo :=
  { device with lastSeen := now }

/-- A status message does not change the id. -/
theorem id_setStatus (now : Timestamp) (online : Bool) (device : DeviceInfo) :
    (setStatus now online device).id = device.id := rfl

/-- A heartbeat does not change the id. -/
theorem id_setLastSeen (now : Timestamp) (device : DeviceInfo) :
    (setLastSeen now device).id = device.id := rfl

/-- A status message that can be read updates the device and calls the callback, whether the
device is stored or not. -/
theorem run_status {online : Bool} (h : readStatus V payload = .ok online) :
    ((handleStatusMessage V now deviceId payload).run (handle callbacks)).run s =
      ((s.store.modify deviceId (setStatus now online)).1, { s with
        store := (s.store.modify deviceId (setStatus now online)).2
        statusCalls := s.statusCalls ++
          if (s.store.modify deviceId (setStatus now online)).1.isOk then [(deviceId, online)]
          else [] }) := by
  have hprogram : handleStatusMessage V now deviceId payload =
      Manager.modify deviceId (setStatus now online) >>=
        fun _ => Manager.catchJson (Manager.statusCallback deviceId online) := by
    rw [handleStatusMessage, h]
    exact catchJson_modify_bind _ _
  rw [hprogram, Program.run_bind, Stateful.run_bind, run_modify]
  cases (s.store.modify deviceId (setStatus now online)).1 with
  | error x =>
    simp only [Except.isOk, Except.toBool, Bool.false_eq_true, if_false, List.append_nil]
  | ok _ => exact run_statusCallback online

/-- A status message that cannot be read does nothing. -/
theorem run_status_of_error {e : JsonException} (h : readStatus V payload = .error e) :
    ((handleStatusMessage V now deviceId payload).run (handle callbacks)).run s = (.ok (), s) := by
  rw [handleStatusMessage, h]
  rfl

/-- A sensors message that can be read calls the callback. -/
theorem run_sensors {reading : SensorReading}
    (h : readSensors V now deviceId payload = .ok reading) :
    ((handleSensorMessage V now deviceId payload).run (handle callbacks)).run s =
      (.ok (), { s with sensorCalls := s.sensorCalls ++ [reading] }) := by
  rw [handleSensorMessage, h]
  show (handle callbacks (.sensorCallback reading) >>= fun r => _).run s = _
  rw [Stateful.run_bind, handle]
  dsimp only [Stateful.run]
  cases callbacks.sensor reading <;> rfl

/-- A sensors message that cannot be read does nothing. -/
theorem run_sensors_of_error {e : JsonException}
    (h : readSensors V now deviceId payload = .error e) :
    ((handleSensorMessage V now deviceId payload).run (handle callbacks)).run s = (.ok (), s) := by
  rw [handleSensorMessage, h]
  rfl

/-- A heartbeat modifies the record of its device. -/
theorem run_heartbeat :
    ((handleHeartbeat now deviceId).run (handle callbacks)).run s =
      ((s.store.modify deviceId (setLastSeen now)).1,
        { s with store := (s.store.modify deviceId (setLastSeen now)).2 }) :=
  run_modify _

/-! ## Confinement -/

/-- The payload of a sensors message is an object, and its fields have their types unless they are
missing. -/
def SensorsTyped (j : Json) : Prop :=
  Json.FieldTyped Json.getString j (lit "sensor_type") ∧
    Json.FieldTyped Json.getDouble j (lit "value") ∧ Json.FieldTyped Json.getString j (lit "unit") ∧
    Json.FieldTyped Json.getString j (lit "quality")

/-- The only effects of a message: the record that a status or heartbeat topic names may change in
its flag and its time stamp, and what is malformed changes nothing and calls nothing. -/
structure Confined (V : Vendor) (now : Timestamp) (topic payload : StdString)
    (s s' : ManagerState) : Prop where
  ids : ∀ deviceId, deviceId ∈ s'.store.devices ↔ deviceId ∈ s.store.devices
  record : ∀ deviceId device, s.store.devices.lookup deviceId = some device →
    ∃ device', s'.store.devices.lookup deviceId = some device' ∧
      (device' = device ∨
        topic = Subtopic.status.topic deviceId ∧
          (∃ online, device' = { device with isConnected := online, lastSeen := now }) ∨
        topic = Subtopic.heartbeat.topic deviceId ∧ device' = { device with lastSeen := now })
  malformedStatus : ∀ deviceId, topic = Subtopic.status.topic deviceId →
    (∀ j, V.parse payload = .ok j → ¬ Json.FieldTyped Json.getString j (lit "status")) → s' = s
  malformedSensors : ∀ deviceId, topic = Subtopic.sensors.topic deviceId →
    (∀ j, V.parse payload = .ok j → ¬ SensorsTyped j) → s' = s
  sensors : ∀ deviceId, topic = Subtopic.sensors.topic deviceId → s'.store = s.store

/-- Changing nothing is confined. -/
theorem Confined.refl (V : Vendor) (now : Timestamp) (topic payload : StdString)
    (s : ManagerState) : Confined V now topic payload s s where
  ids _ := Iff.rfl
  record _ device h := ⟨device, h, .inl rfl⟩
  malformedStatus _ _ _ := rfl
  malformedSensors _ _ _ := rfl
  sensors _ _ := rfl

private theorem typed_of_readStatus {online : Bool} (h : readStatus V payload = .ok online) :
    ∃ j, V.parse payload = .ok j ∧ Json.FieldTyped Json.getString j (lit "status") := by
  obtain ⟨j, hparse, h⟩ := Except.exists_of_bind_eq_ok h
  obtain ⟨status, hstatus, -⟩ := Except.exists_of_bind_eq_ok h
  exact ⟨j, hparse, Json.exists_value_iff.mp ⟨status, hstatus⟩⟩

private theorem typed_of_readSensors {reading : SensorReading}
    (h : readSensors V now deviceId payload = .ok reading) :
    ∃ j, V.parse payload = .ok j ∧ SensorsTyped j := by
  -- The fields are read one after the other, and each may throw.
  obtain ⟨j, hparse, h⟩ := Except.exists_of_bind_eq_ok h
  obtain ⟨sensor, hsensor, h⟩ := Except.exists_of_bind_eq_ok h
  obtain ⟨value, hvalue, h⟩ := Except.exists_of_bind_eq_ok h
  obtain ⟨unit, hunit, h⟩ := Except.exists_of_bind_eq_ok h
  obtain ⟨quality, hquality, -⟩ := Except.exists_of_bind_eq_ok h
  have hsensor := Json.exists_value_iff.mp ⟨sensor, hsensor⟩
  obtain ⟨fields, rfl, -⟩ := id hsensor
  refine ⟨_, hparse, hsensor, Json.exists_value_iff.mp ⟨value, hvalue⟩,
    Json.exists_value_iff.mp ⟨unit, hunit⟩, fields, rfl, fun v hv => ?_⟩
  rw [readQuality, hv] at hquality
  obtain ⟨text, htext, -⟩ := Except.exists_of_bind_eq_ok (f := fun text => .ok (some text)) <| by
    simpa [Functor.map, Except.map, bind, Except.bind] using hquality
  exact ⟨text, htext⟩

/-- What a status message or a heartbeat writes is confined to the record that the topic names. -/
theorem confined_modify {s' : ManagerState} {subtopic : Subtopic}
    {change : DeviceInfo → DeviceInfo}
    (hstore : s'.store = (s.store.modify deviceId change).2)
    (hchange : subtopic = .status ∧ (∃ online, change = setStatus now online) ∨
      subtopic = .heartbeat ∧ change = setLastSeen now)
    (htyped : subtopic = .status →
      ∃ j, V.parse payload = .ok j ∧ Json.FieldTyped Json.getString j (lit "status")) :
    Confined V now (subtopic.topic deviceId) payload s s' := by
  have hid (device : DeviceInfo) : (change device).id = device.id := by
    rcases hchange with ⟨-, online, rfl⟩ | ⟨-, rfl⟩
    · exact id_setStatus now online device
    · exact id_setLastSeen now device
  have hsensors {other : StdString} (htopic : subtopic.topic deviceId =
      Subtopic.sensors.topic other) : False := by
    obtain ⟨rfl, -⟩ := topic_inj.mp htopic
    rcases hchange with ⟨h, -⟩ | ⟨h, -⟩ <;> cases h
  refine ⟨fun other => ?_, fun other device hlookup => ?_, fun other htopic hmalformed => ?_,
    fun other htopic => (hsensors htopic).elim, fun other htopic => (hsensors htopic).elim⟩
  · rw [hstore]
    exact DeviceStore.mem_modify hid
  · rw [hstore]
    refine (DeviceStore.exists_lookup_modify hid hlookup).imp fun device' h => ⟨h.1, ?_⟩
    rcases h.2 with hsame | ⟨rfl, hchanged⟩
    · exact .inl hsame
    · rcases hchange with ⟨rfl, online, rfl⟩ | ⟨rfl, rfl⟩
      · exact .inr (.inl ⟨rfl, online, hchanged⟩)
      · exact .inr (.inr ⟨rfl, hchanged⟩)
  · obtain ⟨j, hparse, hfield⟩ := htyped (topic_inj.mp htopic).1
    exact absurd hfield (hmalformed j hparse)

/-- For every store, topic and payload: a message is handled without an exception, as long as the
repository throws none, and its effects are confined. -/
theorem mqttInput_confined (callbacks : Callbacks) (V : Vendor) (now : Timestamp)
    (topic payload : StdString) (hnothrow : s.store.Nothrow) :
    ∃ s', ((handleMqttMessage V now topic payload).run (handle callbacks)).run s = (.ok (), s') ∧
      Confined V now topic payload s s' := by
  rw [handleMqttMessage_eq]
  cases hroute : route topic with
  | none => exact ⟨s, rfl, .refl V now topic payload s⟩
  | some routed =>
    obtain ⟨subtopic, deviceId⟩ := routed
    obtain rfl := route_eq_some_iff.mp hroute
    cases subtopic with
    | status =>
      cases hread : readStatus V payload with
      | error e => exact ⟨s, run_status_of_error hread, .refl ..⟩
      | ok online =>
        refine ⟨_, (run_status hread).trans (Prod.ext hnothrow.modify rfl), ?_⟩
        exact confined_modify rfl (.inl ⟨rfl, online, rfl⟩) fun _ => typed_of_readStatus hread
    | sensors =>
      cases hread : readSensors V now deviceId payload with
      | error e => exact ⟨s, run_sensors_of_error hread, .refl ..⟩
      | ok reading =>
        refine ⟨_, run_sensors hread, fun _ => Iff.rfl, fun _ device h => ⟨device, h, .inl rfl⟩,
          fun other htopic => ?_, fun other _ hmalformed => ?_, fun _ _ => rfl⟩
        · cases (topic_inj.mp htopic).1
        · obtain ⟨j, hparse, htyped⟩ := typed_of_readSensors hread
          exact absurd htyped (hmalformed j hparse)
    | heartbeat =>
      refine ⟨_, run_heartbeat.trans (Prod.ext hnothrow.modify rfl), ?_⟩
      exact confined_modify rfl (.inr ⟨rfl, rfl⟩) fun h => by cases h

/-- One stored lamp, which is offline. -/
def oneLamp : ManagerState where
  store := .single ⟨lit "d-1", lit "Lamp", lit "light", lit "mqtt", [], false, 0⟩

/-- The lamp goes online. -/
theorem mqttInput_confined_lamp :
    oneLamp.store.Nothrow ∧ ∃ s', ((handleMqttMessage .reference 1000000000
        (Subtopic.status.topic (lit "d-1")) (lit "\x7b\"status\":\"online\"\x7d")).run
          (handle ⟨fun _ _ => .ok (), fun _ => .ok ()⟩)).run oneLamp = (.ok (), s') ∧
      Confined .reference 1000000000 (Subtopic.status.topic (lit "d-1"))
        (lit "\x7b\"status\":\"online\"\x7d") oneLamp s' := by
  have hnothrow : oneLamp.store.Nothrow := fun _ h => by cases h
  exact ⟨hnothrow, mqttInput_confined _ _ _ _ _ hnothrow⟩

end ManagerState

end IotDashboard
