import IotDashboard.Api.Application
import IotDashboard.Automation.RuleEngine
import IotDashboard.Devices.HeartbeatMonitor
import IotDashboard.Devices.Messages

/-!
# The wired application

The components as `Application::Initialize` puts them together: the router, the device manager
with the callbacks of `WireDeviceCallbacks`, and the heartbeat monitor with its timeout callback.
Requests, messages, polls and the events of the MQTT connection reach it in any order. Of the
WebSocket server only the calls made on it are recorded.

## Main definitions

* `Wired.statusCallback`, `Wired.sensorCallback`, `Wired.timeoutCallback`: the installed callbacks;
* `Wired.dispatch`: the commands for the actions that a reading fires;
* `Wired.step`: one request, message, poll or event.
-/

namespace IotDashboard

open StdString

/-- A call on the WebSocket server. -/
inductive WsCall where
  | broadcast (message : StdString)
  | broadcastToTopic (topic message : StdString)
deriving DecidableEq

/-- The wired components. -/
structure Wired where
  app : AppState
  monitor : HeartbeatMonitor := {}
  webSocket : List WsCall := []

/-- What can happen to the wired application. -/
inductive WiredInput where
  | request (env : Env) (enableCors : Bool) (bReq : RawRequest)
  | message (now : Timestamp) (topic payload : StdString)
  | poll (now : Timestamp)
  | subscribeAll
  | connectionLost
  | reconnected

/-- What comes of it: the response, the readings handed to the sensor callback, each with whether
its device was stored at that time, or the ids handed to the timeout callback. -/
inductive WiredOutput where
  | response (res : HttpResponse)
  | delivered (readings : List (SensorReading × Bool))
  | timedOut (deviceIds : List StdString)
  | none

/-- A recorded history, oldest first. -/
abbrev WiredTrace := List (WiredInput × WiredOutput)

namespace Wired

variable (V : Vendor)

/-- Code of the wired application. -/
abbrev Code (α : Type) : Type := Stateful CxxException Wired α

/-- A call of the device manager. -/
def devices {α : Type} (p : Ports α) : Code α :=
  .zoom Wired.app (fun app w => { w with app }) (App.devices p)

/-- `Broadcast`. -/
def broadcast (message : StdString) : Code Unit := fun w =>
  (.ok (), { w with webSocket := w.webSocket ++ [.broadcast message] })

/-- `BroadcastToTopic`. -/
def broadcastToTopic (topic message : StdString) : Code Unit := fun w =>
  (.ok (), { w with webSocket := w.webSocket ++ [.broadcastToTopic topic message] })

/-- `j.dump()`. -/
def dump (j : Json) : Code StdString := .ofExcept (liftJson (V.dump j))

/-! ## Callbacks -/

/-- The message about a status change. -/
def deviceStatus (deviceId : StdString) (online : Bool) : Json :=
  .mkObject [(lit "type", .string (lit "device_status")),
    (lit "data", .mkObject [(lit "device_id", .string deviceId), (lit "online", .boolean online)])]

/-- The callback that `WireDeviceCallbacks` installs for status changes. -/
def statusCallback (deviceId : StdString) (online : Bool) : Code Unit := do
  broadcast (← dump V (deviceStatus deviceId online))
  broadcastToTopic (lit "devices") (← dump V (deviceStatus deviceId online))

/-- The message about a reading. -/
def sensorData (reading : SensorReading) : Json :=
  .mkObject [(lit "type", .string (lit "sensor_data")),
    (lit "data", .mkObject [(lit "device_id", .string reading.deviceId),
      (lit "sensor_type", .string reading.sensor), (lit "value", .real reading.value),
      (lit "unit", .string reading.unit)])]

/-- The loop of the sensor callback over the fired actions, which drops the results. -/
def dispatch : List Action → Ports Unit
  | [] => return ()
  | action :: actions => do
    let params ← Program.ofExcept (liftJson (V.dump action.parameters))
    let _ ← DeviceManager.sendCommand V action.deviceId action.command params
    dispatch actions

/-- The callback that `WireDeviceCallbacks` installs for readings. -/
def sensorCallback (reading : SensorReading) : Code Unit := do
  broadcastToTopic (lit "sensors") (← dump V (sensorData reading))
  broadcastToTopic (lit "sensors/" ++ reading.deviceId) (← dump V (sensorData reading))
  match ← Stateful.read fun w : Wired => .ok (RuleEngine.evaluate reading w.app.rules) with
  | .error _ => return ()
  | .ok actions => if ¬ actions.isEmpty then devices (dispatch V actions)

/-- The callback that `Initialize` installs for timeouts; the repository is not told. -/
def timeoutCallback (deviceId : StdString) : Code Unit := do
  broadcast (← dump V (.mkObject [(lit "type", .string (lit "device_status")),
    (lit "data", .mkObject [(lit "device_id", .string deviceId),
      (lit "status", .string (lit "offline"))])]))

/-- The loop of a poll that calls the callback. -/
def reportAll : List StdString → Code Unit
  | [] => return ()
  | deviceId :: deviceIds => do
    timeoutCallback V deviceId
    reportAll deviceIds

/-! ## The machine -/

/-- A callback inside a handler that catches exceptions of the JSON library. -/
def catching (callback : Code Unit) : Code (Except JsonException Unit) :=
  .tryCatch (callback >>= fun _ => pure (.ok ())) fun
    | .json e => pure (.error e)
    | .runtimeError => .throw .runtimeError

/-- The meaning of the calls that the message handlers make. -/
def handle : Program.Handler CxxException ManagerCall.Reply Wired
  | .port e => devices (Program.perform e)
  | .statusCallback deviceId online => catching (statusCallback V deviceId online)
  | .sensorCallback reading => catching (sensorCallback V reading)

/-- The stored device ids. -/
def ids (w : Wired) : List StdString := w.app.backend.database.tables.ids

/-- The readings among the calls of a handler, with whether their devices are stored. -/
def readings (w : Wired) (calls : List ManagerCall) : List (SensorReading × Bool) :=
  calls.filterMap fun
    | .sensorCallback reading => some (reading, w.ids.contains reading.deviceId)
    | _ => Option.none

/-- One step. A handler for sensor messages does not touch the store before the callback, so the
state before the message tells which devices are stored then. -/
def step (w : Wired) : WiredInput → WiredOutput × Wired
  | .request env enableCors bReq =>
    let r := HttpSession.onRead (registerHttpRoutes V env) enableCors bReq w.app
    (.response r.1, { w with app := r.2 })
  | .message now topic payload =>
    let handler := DeviceManager.handleMqttMessage V now topic payload
    (.delivered (w.readings (handler.calls (handle V) w)), ((handler.run (handle V)).run w).2)
  | .poll now =>
    let r := w.monitor.poll now
    (.timedOut r.1, ((reportAll V r.1).run { w with monitor := r.2 }).2)
  | .subscribeAll => (.none, ((devices DeviceManager.subscribeAll).run w).2)
  | .connectionLost => (.none, { w with app.backend.mqtt := w.app.backend.mqtt.onConnectionLost })
  | .reconnected => (.none, { w with app.backend.mqtt := w.app.backend.mqtt.reconnect })

/-- An application with one stored device, online or not, and with an open connection to the
broker. -/
def oneLamp (isConnected : Int64) : Wired where
  app.authService.config := {}
  app.backend.mqtt.connected := true
  app.backend.database.tables := Tables.empty.insertDevice
    ⟨lit "d-1", lit "lamp", lit "light", lit "mqtt", [], isConnected, 0⟩ List.not_mem_nil

end Wired

end IotDashboard
