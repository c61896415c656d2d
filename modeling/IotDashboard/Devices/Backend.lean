import IotDashboard.Database.DeviceRepository
import IotDashboard.Devices.DeviceManager

/-!
# The device manager over its two adapters

`Backend` is the state behind the device manager's ports: the database connection and the MQTT
client.

## Main results

* `Backend.run_register`, `run_unregister` and `run_subscribeAll`: what the operations of the
  device manager do to the two components.
-/

namespace IotDashboard

/-- The adapters behind the ports of the device manager. -/
structure Backend where
  database : Database := {}
  mqtt : MqttClient := {}

namespace Backend

/-- A piece of SQLite code, run on the connection. -/
def onDatabase {α : Type} (p : Sql α) : Stateful CxxException Backend α :=
  .zoom Backend.database (fun database b => { b with database }) (p.run Database.handle)

/-- An operation of the MQTT client. -/
def onMqtt {α : Type} (f : MqttClient → α × MqttClient) : Stateful CxxException Backend α :=
  fun b => (.ok (f b.mqtt).1, { b with mqtt := (f b.mqtt).2 })

/-- The meaning of the calls of the ports. -/
def handle : Program.Handler CxxException PortCall.Reply Backend
  | .getById deviceId => onDatabase (SqliteDeviceRepository.getById deviceId)
  | .getAll => onDatabase SqliteDeviceRepository.getAll
  | .add device => onDatabase (SqliteDeviceRepository.add device)
  | .update device => onDatabase (SqliteDeviceRepository.update device)
  | .remove deviceId => onDatabase (SqliteDeviceRepository.remove deviceId)
  | .isConnected => onMqtt fun c => (c.connected, c)
  | .subscribe topic qos => onMqtt fun c => c.subscribe topic qos
  | .unsubscribe topic => onMqtt fun c => c.unsubscribe topic
  | .publish topic payload qos retain => onMqtt fun c => c.publish topic payload qos retain

variable {b : Backend}

@[simp]
theorem run_onMqtt {α : Type} (f : MqttClient → α × MqttClient) :
    (onMqtt f).run b = (.ok (f b.mqtt).1, { b with mqtt := (f b.mqtt).2 }) := rfl

@[simp]
theorem run_onDatabase {α : Type} (p : Sql α) :
    (onDatabase p).run b = (((p.run Database.handle).run b.database).1,
      { b with database := ((p.run Database.handle).run b.database).2 }) := rfl

/-- The meaning of a port call inside a program. -/
theorem run_perform (e : PortCall) :
    ((Program.perform e : Ports (PortCall.Reply e)).run handle).run b = (handle e).run b :=
  congrFun (Program.run_perform handle e) b

@[simp]
theorem run_isConnected : ((Ports.isConnected).run handle).run b = (.ok b.mqtt.connected, b) :=
  run_perform .isConnected

@[simp]
theorem run_subscribeEach (topics : List (StdString × QoS)) :
    ((DeviceManager.subscribeEach topics).run handle).run b =
      (.ok (), { b with mqtt := b.mqtt.subscribeEach topics }) := by
  induction topics generalizing b with
  | nil => rfl
  | cons topic topics ih =>
    have hcall : ((Ports.subscribe topic.1 topic.2).run handle).run b = _ :=
      run_perform (.subscribe topic.1 topic.2)
    rw [DeviceManager.subscribeEach, Program.run_bind, Stateful.run_bind, hcall]
    exact ih

@[simp]
theorem run_unsubscribeEach (topics : List (StdString × QoS)) :
    ((DeviceManager.unsubscribeEach topics).run handle).run b =
      (.ok (), { b with mqtt := b.mqtt.unsubscribeEach topics }) := by
  induction topics generalizing b with
  | nil => rfl
  | cons topic topics ih =>
    have hcall : ((Ports.unsubscribe topic.1).run handle).run b = _ :=
      run_perform (.unsubscribe topic.1)
    rw [DeviceManager.unsubscribeEach, Program.run_bind, Stateful.run_bind, hcall]
    exact ih

/-- `Register` reports the device whatever the insert did, and subscribes to its topics if the
client is online. -/
theorem run_register (now : Timestamp) (req : RegisterDeviceRequest)
    (hprepare : b.database.faults 0 = false) :
    ((DeviceManager.register now req).run handle).run b =
      (.ok (.ok (req.device now)), {
        database := ((b.database.tick 1).step
          (.insertDevice (SqliteDeviceRepository.bindDevice (req.device now)))).2
        mqtt := if b.mqtt.connected then b.mqtt.subscribeEach (DeviceManager.deviceTopics req.id)
          else b.mqtt }) := by
  have hadd : ((Ports.add (req.device now)).run handle).run b = _ :=
    run_perform (.add (req.device now))
  simp only [handle, run_onDatabase, SqliteDeviceRepository.run_add hprepare] at hadd
  -- `Add` never reports an error, so the branch for it is dead.
  rw [DeviceManager.register, Program.run_bind, Stateful.run_bind_of_ok hadd]
  by_cases hconnected : b.mqtt.connected = true <;>
    simp [Stateful.run_bind, hconnected]

/-- `Register` returns unless its statement cannot be prepared. -/
theorem returns_register_iff (now : Timestamp) (req : RegisterDeviceRequest) :
    ((DeviceManager.register now req).run handle).Returns b ↔ b.database.faults 0 = false := by
  cases hprepare : b.database.faults 0 with
  | false => exact iff_of_true ⟨_, congrArg Prod.fst (run_register now req hprepare)⟩ rfl
  | true =>
    have hadd : ((Ports.add (req.device now)).run handle).run b =
        (.error .runtimeError, { b with database := b.database.tick 1 }) := by
      rw [Ports.add, run_perform, handle, run_onDatabase,
        SqliteDeviceRepository.run_add_of_unprepared hprepare]
    refine iff_of_false ?_ Bool.true_eq_false.mp
    rintro ⟨device, hdevice⟩
    rw [DeviceManager.register, Program.run_bind, Stateful.run_bind_of_error hadd] at hdevice
    cases hdevice

/-- `Unregister` ends the subscriptions if the client is online, and reports what the change
counter says. -/
theorem run_unregister (deviceId : StdString) (hprepare : b.database.faults 0 = false) :
    ((DeviceManager.unregister deviceId).run handle).run b =
      (.ok (SqliteDeviceRepository.reportChanges
        ((b.database.tick 1).step (.deleteDevice deviceId)).2.changes), {
        database := ((b.database.tick 1).step (.deleteDevice deviceId)).2
        mqtt :=
          if b.mqtt.connected then b.mqtt.unsubscribeEach (DeviceManager.deviceTopics deviceId)
          else b.mqtt }) := by
  have hremove : ∀ mqtt, ((Ports.remove deviceId).run handle).run { b with mqtt } = _ :=
    fun mqtt => run_perform (.remove deviceId)
  simp only [handle, run_onDatabase, SqliteDeviceRepository.run_remove hprepare] at hremove
  -- The removal runs on the same database, whatever the MQTT side has done.
  rw [DeviceManager.unregister, Program.run_bind, Stateful.run_bind_of_ok run_isConnected]
  by_cases hconnected : b.mqtt.connected = true
  · simp [Stateful.run_bind, hconnected, hremove]
  · simpa [Stateful.run_bind, hconnected] using hremove b.mqtt

/-- `SubscribeAll` on a connection without failures subscribes to the topics of every row. -/
theorem run_subscribeAll (hreliable : b.database.Reliable) :
    ((DeviceManager.subscribeAll).run handle).run b = (.ok (.ok ()), {
      database := (b.database.tick 1).tick ((selectDevices b.database.tables).length + 1)
      mqtt := b.mqtt.subscribeEach (((selectDevices b.database.tables).map
        SqliteDeviceRepository.rowToDevice).flatMap
          fun device => DeviceManager.deviceTopics device.id) }) := by
  have hgetAll : (Ports.getAll.run handle).run b = _ := run_perform .getAll
  simp only [handle, run_onDatabase, SqliteDeviceRepository.run_getAll hreliable] at hgetAll
  rw [DeviceManager.subscribeAll, Program.run_bind, Stateful.run_bind_of_ok hgetAll]
  simp [Stateful.run_bind]

end Backend

end IotDashboard
