import IotDashboard.Common.Types
import IotDashboard.Common.Vendor
import IotDashboard.Foundation.Program
import IotDashboard.Network.MqttClient

/-!
# Device manager

`DeviceManager` programs against two ports, `IDeviceRepository` and `IMqttClient`; each call of a
port is one `PortCall`. Registration and removal touch the repository first or last, and the MQTT
subscriptions only while the client is connected.
-/

namespace IotDashboard

open StdString

/-- `devices::RegisterDeviceRequest`. -/
structure RegisterDeviceRequest where
  id : StdString
  name : StdString
  type : StdString
  protocol : StdString
  address : StdString
deriving DecidableEq

/-- `devices::DeviceFilter`. -/
structure DeviceFilter where
  type : StdString := []
  onlineOnly : Bool := false

/-- The calls of `IDeviceRepository` and `IMqttClient`. -/
inductive PortCall where
  | getById (deviceId : StdString)
  | getAll
  | add (device : DeviceInfo)
  | update (device : DeviceInfo)
  | remove (deviceId : StdString)
  | isConnected
  | subscribe (topic : StdString) (qos : QoS)
  | unsubscribe (topic : StdString)
  | publish (topic payload : StdString) (qos : QoS) (retain : Bool)

/-- What a call returns. -/
abbrev PortCall.Reply : PortCall → Type
  | .getById _ => Result DeviceInfo
  | .getAll => Result (List DeviceInfo)
  | .isConnected => Bool
  | _ => Result Unit

/-- Code that uses the two ports. -/
abbrev Ports (α : Type) : Type := Program CxxException PortCall.Reply α

namespace Ports

/-- `IDeviceRepository::GetById`. -/
def getById (deviceId : StdString) : Ports (Result DeviceInfo) :=
  Program.perform (PortCall.getById deviceId)

/-- `IDeviceRepository::GetAll`. -/
def getAll : Ports (Result (List DeviceInfo)) := Program.perform PortCall.getAll

/-- `IDeviceRepository::Add`. -/
def add (device : DeviceInfo) : Ports (Result Unit) := Program.perform (PortCall.add device)

/-- `IDeviceRepository::Update`. -/
def update (device : DeviceInfo) : Ports (Result Unit) := Program.perform (PortCall.update device)

/-- `IDeviceRepository::Remove`. -/
def remove (deviceId : StdString) : Ports (Result Unit) :=
  Program.perform (PortCall.remove deviceId)

/-- `IMqttClient::IsConnected`. -/
def isConnected : Ports Bool := Program.perform PortCall.isConnected

/-- `IMqttClient::Subscribe`. -/
def subscribe (topic : StdString) (qos : QoS) : Ports (Result Unit) :=
  Program.perform (PortCall.subscribe topic qos)

/-- `IMqttClient::Unsubscribe`. -/
def unsubscribe (topic : StdString) : Ports (Result Unit) :=
  Program.perform (PortCall.unsubscribe topic)

/-- `IMqttClient::Publish`. -/
def publish (topic payload : StdString) (qos : QoS) (retain : Bool) : Ports (Result Unit) :=
  Program.perform (PortCall.publish topic payload qos retain)

end Ports

/-- The record that `Register` stores. -/
def RegisterDeviceRequest.device (req : RegisterDeviceRequest) (now : Timestamp) : DeviceInfo where
  id := req.id
  name := req.name
  type := req.type
  protocol := req.protocol
  address := req.address
  isConnected := false
  lastSeen := now

namespace DeviceManager

/-- The topic `devices/{id}/{subtopic}`. -/
def deviceTopic (deviceId : StdString) (subtopic : String) : StdString :=
  lit "devices/" ++ deviceId ++ lit "/" ++ lit subtopic

/-- The topics of a device with their qualities of service. -/
def deviceTopics (deviceId : StdString) : List (StdString × QoS) :=
  [(deviceTopic deviceId "status", .atLeastOnce), (deviceTopic deviceId "sensors", .atLeastOnce),
    (deviceTopic deviceId "heartbeat", .atMostOnce)]

/-- Subscribe to some topics in turn, dropping the results. -/
def subscribeEach : List (StdString × QoS) → Ports Unit
  | [] => return ()
  | topic :: topics => do
    let _ ← Ports.subscribe topic.1 topic.2
    subscribeEach topics

/-- Unsubscribe from some topics in turn, dropping the results. -/
def unsubscribeEach : List (StdString × QoS) → Ports Unit
  | [] => return ()
  | topic :: topics => do
    let _ ← Ports.unsubscribe topic.1
    unsubscribeEach topics

/-- `Register`. -/
def register (now : Timestamp) (req : RegisterDeviceRequest) : Ports (Result DeviceInfo) := do
  match ← Ports.add (req.device now) with
  | .error e => return .error e
  | .ok () =>
    -- Offline, the topics are passed over.
    if ← Ports.isConnected then subscribeEach (deviceTopics req.id)
    return .ok (req.device now)

/-- `Unregister`. -/
def unregister (deviceId : StdString) : Ports (Result Unit) := do
  -- The subscriptions end before it is known whether there is such a device.
  if ← Ports.isConnected then unsubscribeEach (deviceTopics deviceId)
  Ports.remove deviceId

/-- The two filters of `List`. -/
def applyFilter (filter : DeviceFilter) (devices : List DeviceInfo) : List DeviceInfo :=
  -- An empty type stands for every type.
  let ofType := if filter.type.isEmpty then devices else devices.filter (·.type = filter.type)
  if filter.onlineOnly then ofType.filter (·.isConnected) else ofType

/-- `List`. -/
def list (filter : DeviceFilter) : Ports (Result (List DeviceInfo)) := do
  match ← Ports.getAll with
  | .error e => return .error e
  | .ok devices => return .ok (applyFilter filter devices)

/-- `BuildCommandTopic`. -/
def buildCommandTopic (deviceId : StdString) : StdString := deviceTopic deviceId "commands"

/-- `BuildCommandJson`: parameters that do not parse become an empty object. -/
def buildCommandJson (V : Vendor) (command paramsJson : StdString) :
    Except CxxException StdString :=
  let parameters := match V.parse paramsJson with
    | .ok j => j
    | .error _ => .object []
  liftJson (V.dump (.mkObject [(lit "command", .string command), (lit "parameters", parameters)]))

/-- `SendCommand`. -/
def sendCommand (V : Vendor) (deviceId command parametersJson : StdString) :
    Ports (Result Unit) := do
  match ← Ports.getById deviceId with
  | .error e => return .error e
  | .ok device =>
    if ¬ device.isConnected then return .error .deviceOffline
    let json ← Program.ofExcept (buildCommandJson V command parametersJson)
    Ports.publish (buildCommandTopic deviceId) json .atLeastOnce false

/-- The device id and the subtopic that `HandleMqttMessage` takes from a topic. -/
def decodeTopic (topic : StdString) : Option (StdString × StdString) :=
  let kPrefix := lit "devices/"
  if ¬ topic.startsWith kPrefix then none
  else
    let rest := topic.substrFrom kPrefix.length
    match rest.rfind (byte '/') with
    | none => none
    | some slash => some (rest.substr 0 slash, rest.substrFrom (slash + 1))

/-- `SubscribeAll`. -/
def subscribeAll : Ports (Result Unit) := do
  match ← Ports.getAll with
  | .error e => return .error e
  | .ok devices =>
    subscribeEach (devices.flatMap fun device => deviceTopics device.id)
    return .ok ()

/-- What a topic decodes to, by its text: the subtopic starts after the last slash. -/
theorem decodeTopic_eq_some_iff {topic deviceId subtopic : StdString} :
    decodeTopic topic = some (deviceId, subtopic) ↔
      topic = lit "devices/" ++ deviceId ++ lit "/" ++ subtopic ∧ byte '/' ∉ subtopic := by
  constructor
  · intro h
    rw [decodeTopic] at h
    split at h
    · cases h
    · next hstarts =>
      obtain ⟨rest, rfl⟩ := startsWith_iff.mp (not_not.mp hstarts)
      simp only [substrFrom, List.drop_left] at h
      split at h
      · cases h
      · next slash hslash =>
        obtain ⟨a, b, rfl, hb, rfl⟩ := eq_append_of_rfind hslash
        obtain ⟨rfl, rfl⟩ := Prod.mk.inj (Option.some.inj h)
        simp [substr, lit, hb]
  · rintro ⟨rfl, hslash⟩
    have hrest : lit "devices/" ++ deviceId ++ lit "/" ++ subtopic =
        lit "devices/" ++ (deviceId ++ byte '/' :: subtopic) := by simp [lit]
    have hstarts := startsWith_iff.mpr ⟨_, hrest⟩
    rw [decodeTopic, hstarts, if_neg (not_not.mpr rfl), hrest]
    simp only [substrFrom, List.drop_left, rfind_append_cons hslash]
    simp [substr]

/-- A subtopic without a slash decodes back to its device. -/
theorem decodeTopic_deviceTopic (deviceId : StdString) {subtopic : String}
    (hslash : byte '/' ∉ lit subtopic) :
    decodeTopic (deviceTopic deviceId subtopic) = some (deviceId, lit subtopic) :=
  decodeTopic_eq_some_iff.mpr ⟨rfl, hslash⟩

end DeviceManager

end IotDashboard
