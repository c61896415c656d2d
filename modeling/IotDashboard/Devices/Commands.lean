import IotDashboard.Devices.Backend

/-!
# Commands to devices

`SendCommand` publishes a command if the device is stored and online, and nothing otherwise. The
messages that a program publishes are read off its calls of the MQTT port, since the library cuts
a topic at a NUL byte.

## Main definitions

* `Backend.published`: the messages that a program hands to `Publish`;
* `Tables.Online`: the stored device with an id is online.

## Main results

* `Backend.sendCommand_of_online` and `Backend.sendCommand_of_not_online`.
-/

namespace IotDashboard

open StdString

/-- The stored device with the id is online. -/
def Tables.Online (t : Tables) (deviceId : StdString) : Prop :=
  ∃ row ∈ t.devices, row.id = deviceId ∧ row.isConnected ≠ 0

instance (t : Tables) (deviceId : StdString) : Decidable (t.Online deviceId) :=
  inferInstanceAs (Decidable (∃ row ∈ t.devices, row.id = deviceId ∧ row.isConnected ≠ 0))

/-- The message that a call publishes. -/
def PortCall.message : PortCall → Option MqttMessage
  | .publish topic payload qos retain => some ⟨topic, payload, qos, retain⟩
  | _ => none

/-- A message as the library sends it, with its topic read as a C string. -/
def MqttMessage.asSent (message : MqttMessage) : MqttMessage :=
  { message with topic := message.topic.cStr }

/-- The search by id finds the stored row, whether it is online or not. -/
theorem Tables.online_iff {t : Tables} {deviceId : StdString} :
    t.Online deviceId ↔
      ∃ row, t.devices.find? (·.id = deviceId) = some row ∧ row.isConnected ≠ 0 := by
  simp only [Online, Tables.find?_eq_some_iff, and_assoc]

namespace Backend

/-- No coming call of the two libraries fails, and the client is online. -/
structure Ready (b : Backend) : Prop where
  database : b.database.Reliable
  mqtt : b.mqtt.Reliable
  connected : b.mqtt.connected = true

/-- The messages that a program hands to `Publish`, in order. -/
def published {α : Type} (p : Ports α) (b : Backend) : List MqttMessage :=
  (p.calls handle b).filterMap PortCall.message

variable {b : Backend} {α β : Type}

private theorem published_bind (p : Ports α) (f : α → Ports β) (b : Backend) :
    published (p >>= f) b = published p b ++
      match (p.run handle).run b with
      | (.ok a, b') => published (f a) b'
      | (.error _, _) => [] := by
  rw [published, Program.calls_bind, List.filterMap_append, published]
  rcases (p.run handle).run b with ⟨_ | _, _⟩ <;> rfl

/-- A program whose first part returns publishes what both parts publish. -/
theorem published_bind_of_ok {p : Ports α} {f : α → Ports β} {b b' : Backend} {a : α}
    (h : (p.run handle).run b = (.ok a, b')) :
    published (p >>= f) b = published p b ++ published (f a) b' := by
  rw [published_bind, h]

private theorem published_perform (e : PortCall) :
    published (Program.perform e) b = e.message.toList := by
  rw [published, Program.calls_perform, List.filterMap_cons, List.filterMap_nil]
  cases e.message <;> rfl

private theorem published_getById (deviceId : StdString) :
    published (Ports.getById deviceId) b = [] :=
  published_perform _

/-- The look-up at the start of a command, on a database without failures. -/
theorem run_getById (deviceId : StdString) (hreliable : b.database.Reliable) :
    ((Ports.getById deviceId).run handle).run b =
      (.ok (match b.database.tables.devices.find? (·.id = deviceId) with
        | none => .error .deviceNotFound
        | some row => .ok (SqliteDeviceRepository.rowToDevice row)),
        { b with database := (b.database.tick 1).tick 1 }) := by
  have hcall : ((Ports.getById deviceId).run handle).run b = _ := run_perform (.getById deviceId)
  rw [hcall, handle, run_onDatabase]
  exact congrArg (fun r => (r.1, { b with database := r.2 }))
    (SqliteDeviceRepository.run_getById (hreliable 0) (hreliable 1))

/-- A command to a device that is online is published, and reports what `Publish` does. -/
theorem sendCommand_of_online {V : Vendor} {deviceId command params json : StdString}
    (hreliable : b.database.Reliable) (honline : b.database.tables.Online deviceId)
    (hjson : DeviceManager.buildCommandJson V command params = .ok json) :
    ((DeviceManager.sendCommand V deviceId command params).run handle).run b =
        (.ok (b.mqtt.publish (DeviceManager.buildCommandTopic deviceId) json .atLeastOnce
            false).1, {
          database := (b.database.tick 1).tick 1
          mqtt := (b.mqtt.publish (DeviceManager.buildCommandTopic deviceId) json .atLeastOnce
            false).2 }) ∧
      published (DeviceManager.sendCommand V deviceId command params) b =
        [⟨DeviceManager.buildCommandTopic deviceId, json, .atLeastOnce, false⟩] := by
  obtain ⟨row, hfind, hrow⟩ := Tables.online_iff.mp honline
  have hget := run_getById deviceId hreliable
  rw [hfind] at hget
  have hflag : (SqliteDeviceRepository.rowToDevice row).isConnected = true := by
    simpa [SqliteDeviceRepository.rowToDevice] using hrow
  constructor
  · rw [DeviceManager.sendCommand, Program.run_bind, Stateful.run_bind_of_ok hget]
    simp only [hflag, not_true_eq_false, if_false, hjson, Program.run_bind, Program.run_ofExcept]
    exact run_perform (.publish (DeviceManager.buildCommandTopic deviceId) json .atLeastOnce false)
  · rw [DeviceManager.sendCommand, published_bind_of_ok hget, published_getById]
    simp only [hflag, not_true_eq_false, if_false, hjson]
    exact published_perform
      (.publish (DeviceManager.buildCommandTopic deviceId) json .atLeastOnce false)

/-- A command to a device that is not stored or not online publishes nothing and changes
nothing. -/
theorem sendCommand_of_not_online {V : Vendor} {deviceId command params : StdString}
    (hreliable : b.database.Reliable) (honline : ¬ b.database.tables.Online deviceId) :
    ((DeviceManager.sendCommand V deviceId command params).run handle).run b =
        (.ok (.error (if deviceId ∈ b.database.tables.ids then .deviceOffline
          else .deviceNotFound)),
          { b with database := (b.database.tick 1).tick 1 }) ∧
      published (DeviceManager.sendCommand V deviceId command params) b = [] := by
  have hget := run_getById deviceId hreliable
  -- Either there is no row of the id, or its flag is not set.
  cases hfind : b.database.tables.devices.find? (·.id = deviceId) with
  | none =>
    rw [hfind] at hget
    have hids : deviceId ∉ b.database.tables.ids := by
      simpa [Tables.ids] using List.find?_eq_none.mp hfind
    rw [if_neg hids]
    constructor
    · rw [DeviceManager.sendCommand, Program.run_bind, Stateful.run_bind_of_ok hget]
      rfl
    · rw [DeviceManager.sendCommand, published_bind_of_ok hget, published_getById]
      rfl
  | some row =>
    rw [hfind] at hget
    have hids : deviceId ∈ b.database.tables.ids :=
      List.mem_map.mpr ⟨row, List.mem_of_find?_eq_some hfind, by simpa using List.find?_some hfind⟩
    have hflag : (SqliteDeviceRepository.rowToDevice row).isConnected = false := by
      by_contra hrow
      exact honline (Tables.online_iff.mpr
        ⟨row, hfind, by simpa [SqliteDeviceRepository.rowToDevice] using hrow⟩)
    rw [if_pos hids]
    constructor
    · rw [DeviceManager.sendCommand, Program.run_bind, Stateful.run_bind_of_ok hget]
      simp only [hflag, Bool.false_eq_true, not_false_eq_true, if_true]
      rfl
    · rw [DeviceManager.sendCommand, published_bind_of_ok hget, published_getById]
      simp only [hflag, Bool.false_eq_true, not_false_eq_true, if_true]
      rfl

/-- The message of a UTF-8 command can be built, whatever the parameters are. -/
theorem exists_buildCommandJson {V : Vendor} (hparses : V.ParsesUtf8) (hdumps : V.DumpsUtf8)
    {command : StdString} (hcommand : command.isUtf8 = true) (params : StdString) :
    ∃ json, DeviceManager.buildCommandJson V command params = .ok json := by
  obtain ⟨parameters, hparameters, hbuild⟩ : ∃ parameters : Json, parameters.Utf8 ∧
      DeviceManager.buildCommandJson V command params = liftJson (V.dump (.mkObject
        [(lit "command", .string command), (lit "parameters", parameters)])) := by
    rw [DeviceManager.buildCommandJson]
    cases hparse : V.parse params with
    | error x => exact ⟨.object [], .object (by simp) (by simp), rfl⟩
    | ok j => exact ⟨j, hparses _ _ hparse, rfl⟩
  obtain ⟨json, hjson⟩ := hdumps (.mkObject
      [(lit "command", .string command), (lit "parameters", parameters)])
    (Json.utf8_mkObject fun f hf => by
      simp only [List.mem_cons, List.not_mem_nil, or_false] at hf
      rcases hf with rfl | rfl
      · exact ⟨rfl, .string hcommand⟩
      · exact ⟨rfl, hparameters⟩)
  exact ⟨json, by rw [hbuild, hjson, liftJson_ok]⟩

/-- `SendCommand` returns unless the look-up of the device cannot be prepared. -/
theorem returns_sendCommand_iff {V : Vendor} (hparses : V.ParsesUtf8) (hdumps : V.DumpsUtf8)
    {deviceId command params : StdString} (hcommand : command.isUtf8 = true) :
    ((DeviceManager.sendCommand V deviceId command params).run handle).Returns b ↔
      b.database.faults 0 = false := by
  have hcall : ((Ports.getById deviceId).run handle).run b = _ := run_perform (.getById deviceId)
  cases hprepare : b.database.faults 0 with
  | false =>
    refine iff_of_true ?_ rfl
    rw [handle, run_onDatabase, SqliteDeviceRepository.run_getById_of_prepared hprepare] at hcall
    rw [DeviceManager.sendCommand, Program.run_bind, Stateful.returns_bind_iff]
    refine ⟨_, _, hcall, ?_⟩
    obtain ⟨json, hjson⟩ := exists_buildCommandJson hparses hdumps hcommand params
    split
    · exact ⟨_, rfl⟩
    · split
      · exact ⟨_, rfl⟩
      · rw [hjson]
        exact ⟨_, rfl⟩
  | true =>
    rw [handle, run_onDatabase, SqliteDeviceRepository.run_getById_of_unprepared hprepare] at hcall
    refine iff_of_false ?_ Bool.true_eq_false.mp
    rintro ⟨result, hresult⟩
    rw [DeviceManager.sendCommand, Program.run_bind, Stateful.run_bind_of_error hcall] at hresult
    cases hresult

end Backend

end IotDashboard
