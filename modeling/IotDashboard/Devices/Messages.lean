import IotDashboard.Devices.DeviceManager

/-!
# Messages from devices

`HandleMqttMessage` decodes the topic and passes the payload to the handler of its subtopic. The
handlers use the two ports of the device manager and the two callbacks that the application
installs. An exception of the JSON library ends a handler for status or sensor messages without a
trace, and that includes an exception that its callback throws.
-/

namespace IotDashboard

open StdString

/-- What the message handlers call: the ports, and the callbacks. -/
inductive ManagerCall where
  | port (e : PortCall)
  | statusCallback (deviceId : StdString) (online : Bool)
  | sensorCallback (reading : SensorReading)

/-- What a call returns; a callback may throw an exception of the JSON library. -/
abbrev ManagerCall.Reply : ManagerCall → Type
  | .port e => e.Reply
  | _ => Except JsonException Unit

/-- The code of the message handlers. -/
abbrev Manager (α : Type) : Type := Program CxxException ManagerCall.Reply α

namespace Manager

/-- Code that uses the two ports only. -/
def ofPorts {α : Type} : Ports α → Manager α
  | .ret a => .ret a
  | .throw x => .throw x
  | .call e k => .call (.port e) fun r => ofPorts (k r)

/-- `IDeviceRepository::GetById`. -/
def getById (deviceId : StdString) : Manager (Result DeviceInfo) :=
  Program.perform (ManagerCall.port (.getById deviceId))

/-- `IDeviceRepository::Update`. -/
def update (device : DeviceInfo) : Manager (Result Unit) :=
  Program.perform (ManagerCall.port (.update device))

/-- `m_statusCallback`. -/
def statusCallback (deviceId : StdString) (online : Bool) : Manager Unit := do
  let r ← Program.perform (ManagerCall.statusCallback deviceId online)
  Program.ofExcept (liftJson r)

/-- `m_sensorCallback`. -/
def sensorCallback (reading : SensorReading) : Manager Unit := do
  let r ← Program.perform (ManagerCall.sensorCallback reading)
  Program.ofExcept (liftJson r)

/-- `try { p } catch ( const nlohmann::json::exception& ) {}`. -/
def catchJson (p : Manager Unit) : Manager Unit :=
  p.tryCatch fun
    | .json _ => return ()
    | .runtimeError => Program.throw .runtimeError

/-- Read a device, change it and write it back. For a device that is not stored nothing happens,
and the result of the update is dropped. -/
def modify (deviceId : StdString) (change : DeviceInfo → DeviceInfo) : Manager Unit := do
  match ← getById deviceId with
  | .error _ => return ()
  | .ok device =>
    let _ ← update (change device)

end Manager

namespace DeviceManager

variable (V : Vendor) (now : Timestamp)

/-- Whether a status payload says that the device is online. -/
def readStatus (json : StdString) : Except JsonException Bool := do
  let j ← V.parse json
  let status ← j.value Json.getString (lit "status") (lit "offline")
  return status == lit "online"

/-- The quality of a reading, which may be missing but not of another type. -/
def readQuality : Json → Except JsonException (Option StdString)
  | .object fields =>
    match Json.lookup (lit "quality") fields with
    | none => .ok none
    | some quality => some <$> quality.getString
  | _ => .ok none

/-- The reading in a sensor payload. -/
def readSensors (deviceId json : StdString) : Except JsonException SensorReading := do
  let j ← V.parse json
  let sensor ← j.value Json.getString (lit "sensor_type") (lit "unknown")
  let value ← j.value Json.getDouble (lit "value") .zero
  let unit ← j.value Json.getString (lit "unit") []
  let quality ← readQuality j
  return ⟨deviceId, sensor, value, unit, now, quality⟩

/-- `HandleStatusMessage`. -/
def handleStatusMessage (deviceId json : StdString) : Manager Unit := Manager.catchJson do
  let online ← Program.ofExcept (liftJson (readStatus V json))
  Manager.modify deviceId fun d => { d with isConnected := online, lastSeen := now }
  -- The callback is called for devices that are not stored too.
  Manager.statusCallback deviceId online

/-- `HandleSensorMessage`. -/
def handleSensorMessage (deviceId json : StdString) : Manager Unit := Manager.catchJson do
  let reading ← Program.ofExcept (liftJson (readSensors V now deviceId json))
  Manager.sensorCallback reading

/-- The branch of `HandleMqttMessage` for heartbeats. -/
def handleHeartbeat (deviceId : StdString) : Manager Unit :=
  Manager.modify deviceId fun d => { d with lastSeen := now }

/-- `HandleMqttMessage`. -/
def handleMqttMessage (topic payload : StdString) : Manager Unit :=
  match decodeTopic topic with
  | none => return ()
  | some (deviceId, subtopic) =>
    if subtopic = lit "status" then handleStatusMessage V now deviceId payload
    else if subtopic = lit "sensors" then handleSensorMessage V now deviceId payload
    else if subtopic = lit "heartbeat" then handleHeartbeat now deviceId
    else return ()

end DeviceManager

end IotDashboard
