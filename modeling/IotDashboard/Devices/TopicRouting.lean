import IotDashboard.Devices.Messages

/-!
# Where a topic is routed to

`HandleMqttMessage` cuts a topic at its last slash, so an id may hold slashes and look like the end
of another topic. Three sub-topics have a handler; commands, which the backend sends itself, have
none.

## Main definitions

* `Subtopic`: the sub-topics with a handler, each with its topics and its handler;
* `DeviceManager.route`: the sub-topic and the id that a topic is routed to.

## Main results

* `DeviceManager.handleMqttMessage_eq`: a message goes to the handler that its topic is routed to;
* `DeviceManager.route_eq_some_iff`: the topics routed to a sub-topic and an id;
* `DeviceManager.topics_decode_uniquely`: the topics of devices, and no others, are routed.
-/

namespace IotDashboard

open StdString DeviceManager

/-- The sub-topics with a handler. -/
inductive Subtopic where
  | status
  | sensors
  | heartbeat
deriving DecidableEq

namespace Subtopic

def text : Subtopic → String
  | status => "status"
  | sensors => "sensors"
  | heartbeat => "heartbeat"

/-- The sub-topics in the order in which they are subscribed to. -/
def all : List Subtopic := [status, sensors, heartbeat]

/-- The sub-topic of a text. -/
def ofText (text : StdString) : Option Subtopic :=
  all.find? fun subtopic => text = lit subtopic.text

/-- The topic `devices/{id}/{subtopic}`. -/
def topic (deviceId : StdString) (subtopic : Subtopic) : StdString :=
  deviceTopic deviceId subtopic.text

/-- The handler of a sub-topic. -/
def handler (V : Vendor) (now : Timestamp) : Subtopic → StdString → StdString → Manager Unit
  | status => handleStatusMessage V now
  | sensors => handleSensorMessage V now
  | heartbeat => fun deviceId _ => handleHeartbeat now deviceId

private theorem ofText_eq_some_iff {text : StdString} {subtopic : Subtopic} :
    ofText text = some subtopic ↔ text = lit subtopic.text := by
  constructor
  · intro h
    simpa using List.find?_some h
  · rintro rfl
    cases subtopic <;> decide

end Subtopic

namespace DeviceManager

variable {topic deviceId : StdString} {subtopic : Subtopic}

/-- The sub-topic and the id that `HandleMqttMessage` takes from a topic. -/
def route (topic : StdString) : Option (Subtopic × StdString) :=
  match decodeTopic topic with
  | none => none
  | some (deviceId, text) => (Subtopic.ofText text).map (·, deviceId)

/-- What is done with a message, by where its topic is routed to. -/
def handleRouted (V : Vendor) (now : Timestamp) (payload : StdString) :
    Option (Subtopic × StdString) → Manager Unit
  | none => return ()
  | some (subtopic, deviceId) => subtopic.handler V now deviceId payload

/-- The topics that `Register` and `SubscribeAll` subscribe to. -/
theorem topics_deviceTopics (deviceId : StdString) :
    (deviceTopics deviceId).map Prod.fst = Subtopic.all.map (Subtopic.topic deviceId) := rfl

/-- A message goes to the handler that its topic is routed to, if there is one. -/
theorem handleMqttMessage_eq (V : Vendor) (now : Timestamp) (topic payload : StdString) :
    handleMqttMessage V now topic payload = handleRouted V now payload (route topic) := by
  rw [handleMqttMessage, route]
  cases decodeTopic topic with
  | none => rfl
  | some decoded =>
    obtain ⟨deviceId, text⟩ := decoded
    dsimp only
    cases hsubtopic : Subtopic.ofText text with
    | none =>
      -- The text is that of no sub-topic.
      have hne (subtopic : Subtopic) : text ≠ lit subtopic.text := by
        intro heq
        rw [Subtopic.ofText_eq_some_iff.mpr heq] at hsubtopic
        cases hsubtopic
      calc
        _ = _ := if_neg (hne .status)
        _ = _ := if_neg (hne .sensors)
        _ = _ := if_neg (hne .heartbeat)
    | some subtopic =>
      rw [Subtopic.ofText_eq_some_iff] at hsubtopic
      subst hsubtopic
      cases subtopic <;> rfl

/-- A topic is routed to a sub-topic and an id if it is the one that is built from them. -/
theorem route_eq_some_iff : route topic = some (subtopic, deviceId) ↔
    topic = subtopic.topic deviceId := by
  constructor
  · intro h
    rw [route] at h
    split at h
    · cases h
    · next deviceId' text hdecode =>
      obtain ⟨subtopic', hsubtopic, heq⟩ := Option.map_eq_some_iff.mp h
      cases heq
      rw [(decodeTopic_eq_some_iff.mp hdecode).1, Subtopic.ofText_eq_some_iff.mp hsubtopic]
      rfl
  · rintro rfl
    have hslash : byte '/' ∉ lit subtopic.text := by cases subtopic <;> decide
    rw [route, Subtopic.topic, decodeTopic_deviceTopic deviceId hslash]
    dsimp only
    rw [Subtopic.ofText_eq_some_iff.mpr rfl]
    rfl

/-- Different ids and sub-topics have different topics. -/
theorem topic_inj {subtopic' : Subtopic} {deviceId' : StdString} :
    subtopic.topic deviceId = subtopic'.topic deviceId' ↔
      subtopic = subtopic' ∧ deviceId = deviceId' := by
  rw [← route_eq_some_iff, route_eq_some_iff.mpr rfl, Option.some_inj, Prod.mk.injEq]

/-- Commands are routed to no handler. -/
theorem route_buildCommandTopic (deviceId : StdString) :
    route (buildCommandTopic deviceId) = none := by
  have hcommands : Subtopic.ofText (lit "commands") = none := by decide
  rw [route, buildCommandTopic, decodeTopic_deviceTopic deviceId (by decide)]
  dsimp only
  rw [hcommands]
  rfl

/-- For every id: the topics that are subscribed to for it are routed back to it, each to its own
handler. Different ids and sub-topics have different topics, no other topic is routed, and a
command topic is not. -/
theorem topics_decode_uniquely (V : Vendor) (now : Timestamp) :
    (∀ topic payload,
      handleMqttMessage V now topic payload = handleRouted V now payload (route topic)) ∧
    (∀ deviceId, (deviceTopics deviceId).map Prod.fst = Subtopic.all.map (Subtopic.topic deviceId) ∧
      ∀ subtopic : Subtopic, route (subtopic.topic deviceId) = some (subtopic, deviceId)) ∧
    (Function.Injective fun p : Subtopic × StdString => p.1.topic p.2) ∧
    (∀ topic deviceId, ∀ subtopic : Subtopic, route topic = some (subtopic, deviceId) →
      topic = subtopic.topic deviceId) ∧
    ∀ deviceId, route (buildCommandTopic deviceId) = none := by
  refine ⟨handleMqttMessage_eq V now, fun deviceId => ⟨topics_deviceTopics deviceId,
    fun _ => route_eq_some_iff.mpr rfl⟩, fun p q hpq => ?_, fun _ _ _ h => route_eq_some_iff.mp h,
    route_buildCommandTopic⟩
  obtain ⟨hsubtopic, hid⟩ := topic_inj.mp hpq
  exact Prod.ext hsubtopic hid

/-- An id that looks like a topic. -/
example : route (Subtopic.status.topic (lit "a/status")) = some (.status, lit "a/status") := by
  decide

end DeviceManager

end IotDashboard
