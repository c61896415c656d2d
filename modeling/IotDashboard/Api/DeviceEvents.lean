import IotDashboard.Api.PubSub
import IotDashboard.Api.Wiring

/-!
# Device events on the WebSocket

The callbacks of `WireDeviceCallbacks` publish each event twice: a status change to everybody and
under `devices`, a reading under `sensors` and under the topic of its device. The audiences
overlap, and a session in both gets two copies.

## Main definitions

* `DeviceEvent.publish`: what the callback does to the WebSocket server;
* `DeviceEvent.InBoth`: the sessions that both calls reach.

## Main results

* `DeviceEvent.atMostOnce_iff`: every session gets at most one copy exactly when none is reached
  by both calls.
-/

namespace IotDashboard

open StdString

/-- The call on the server. -/
def WsCall.toOperation : WsCall → WsOperation
  | broadcast message => .broadcast message
  | broadcastToTopic topic message => .broadcastToTopic topic message

/-- An event that the device manager reports. -/
inductive DeviceEvent where
  | statusChange (deviceId : StdString) (online : Bool)
  | sensorReading (reading : SensorReading)

namespace DeviceEvent

variable (V : Vendor)

/-- The callback that handles the event. -/
def callback : DeviceEvent → Wired.Code Unit
  | statusChange deviceId online => Wired.statusCallback V deviceId online
  | sensorReading reading => Wired.sensorCallback V reading

/-- The calls that the callback makes on the WebSocket server. -/
def calls (event : DeviceEvent) (w : Wired) : List WsCall :=
  ((event.callback V).run { w with webSocket := [] }).2.webSocket

/-- The server after the callback. -/
def publish (event : DeviceEvent) (w : Wired) (s : WsServer) : WsServer :=
  ((event.calls V w).map WsCall.toOperation).foldl WsServer.apply s

/-- The message about the event. -/
def message : DeviceEvent → Json
  | statusChange deviceId online => Wired.deviceStatus deviceId online
  | sensorReading reading => Wired.sensorData reading

/-- The session is subscribed to the topics of both calls; everybody gets the first one of a
status change. -/
def InBoth (s : WsServer) (c : ConnectionId) : DeviceEvent → Prop
  | statusChange _ _ => s.Subscribed c (lit "devices")
  | sensorReading reading =>
    s.Subscribed c (lit "sensors") ∧ s.Subscribed c (lit "sensors/" ++ reading.deviceId)

/-- The copies that a session gets of an event whose message is printed. -/
def copies (s : WsServer) (c : ConnectionId) (text : StdString) : DeviceEvent → List StdString
  | statusChange _ _ => text :: if s.Subscribed c (lit "devices") then [text] else []
  | sensorReading reading => (if s.Subscribed c (lit "sensors") then [text] else []) ++
      if s.Subscribed c (lit "sensors/" ++ reading.deviceId) then [text] else []

variable {V} {event : DeviceEvent} {w : Wired} {s : WsServer} {c : ConnectionId}
  {text : StdString}

/-- The message about a UTF-8 id is UTF-8. -/
theorem utf8_deviceStatus {deviceId : StdString} (hdevice : deviceId.isUtf8 = true)
    (online : Bool) : (Wired.deviceStatus deviceId online).Utf8 := by
  have hdata : ∀ f ∈ [(lit "device_id", Json.string deviceId), (lit "online", .boolean online)],
      f.1.isUtf8 = true ∧ Json.Utf8 f.2 := by
    intro f hf
    simp only [List.mem_cons, List.not_mem_nil, or_false] at hf
    rcases hf with rfl | rfl
    · exact ⟨rfl, .string hdevice⟩
    · exact ⟨rfl, .boolean _⟩
  refine Json.utf8_mkObject fun f hf => ?_
  simp only [List.mem_cons, List.not_mem_nil, or_false] at hf
  rcases hf with rfl | rfl
  · exact ⟨rfl, .string rfl⟩
  · exact ⟨rfl, Json.utf8_mkObject hdata⟩

/-- The two calls, with the text of the message. -/
def bothCalls (text : StdString) : DeviceEvent → List WsCall
  | statusChange _ _ => [.broadcast text, .broadcastToTopic (lit "devices") text]
  | sensorReading reading => [.broadcastToTopic (lit "sensors") text,
      .broadcastToTopic (lit "sensors/" ++ reading.deviceId) text]

private theorem dump_of_ok {j : Json} (htext : V.dump j = .ok text) :
    Wired.dump V j = pure text := by
  rw [Wired.dump, htext]
  rfl

/-- When the message can be printed, both calls are made; what follows them does not concern the
WebSocket server. -/
theorem calls_of_ok (htext : V.dump event.message = .ok text) :
    event.calls V w = event.bothCalls text := by
  cases event with
  | statusChange deviceId online =>
    have hdump := dump_of_ok htext
    simp only [message] at hdump
    simp only [calls, callback, Wired.statusCallback, hdump]
    rfl
  | sensorReading reading =>
    have hdump := dump_of_ok htext
    simp only [message] at hdump
    have hbroadcast : ∀ topic (w : Wired), (Wired.broadcastToTopic topic text).run w =
        (.ok (), { w with webSocket := w.webSocket ++ [.broadcastToTopic topic text] }) :=
      fun _ _ => rfl
    -- The rules are evaluated after both calls; they may throw, fire or not.
    rcases hfired : RuleEngine.evaluate reading w.app.rules with e | actions
    · simp only [calls, callback, Wired.sensorCallback, hdump, Stateful.run_bind,
        Stateful.run_pure, hbroadcast, Stateful.run_read, hfired]
      rfl
    · simp only [calls, callback, Wired.sensorCallback, hdump, Stateful.run_bind,
        Stateful.run_pure, hbroadcast, Stateful.run_read, hfired]
      split <;> rfl

private theorem calls_of_error {e : JsonException} (herror : V.dump event.message = .error e) :
    event.calls V w = [] := by
  cases event with
  | statusChange deviceId online =>
    have hdump : Wired.dump V (Wired.deviceStatus deviceId online) = .throw (.json e) := by
      rw [Wired.dump, show V.dump (Wired.deviceStatus deviceId online) = .error e from herror]
      rfl
    simp only [calls, callback, Wired.statusCallback, hdump]
    rfl
  | sensorReading reading =>
    have hdump : Wired.dump V (Wired.sensorData reading) = .throw (.json e) := by
      rw [Wired.dump, show V.dump (Wired.sensorData reading) = .error e from herror]
      rfl
    simp only [calls, callback, Wired.sensorCallback, hdump]
    rfl

/-- The copies that a session gets from the two calls. -/
theorem writeQueue_bothCalls (hc : c ∈ s.sessions) :
    ((((event.bothCalls text).map WsCall.toOperation).foldl WsServer.apply s).objects
        c).writeQueue =
      (s.objects c).writeQueue ++ event.copies s c text := by
  -- Neither call changes the subscriptions, so the second one sees those of the first.
  have htwo (op op' : WsOperation) (hop : op.change = none) (topic : StdString)
      (hop' : op' = .broadcastToTopic topic text) :
      (([op, op'].foldl WsServer.apply s).objects c).writeQueue =
        (s.objects c).writeQueue ++ s.delivered op c ++
          if s.Subscribed c topic then [text] else [] := by
    have hsubscribed : (s.apply op).Subscribed c topic ↔ s.Subscribed c topic := by
      rw [WsServer.Subscribed, WsServer.topics_apply_of_change hop, WsServer.Subscribed]
    rw [List.foldl_cons, List.foldl_cons, List.foldl_nil, WsServer.writeQueue_apply,
      WsServer.writeQueue_apply, hop', WsServer.delivered, WsServer.sessions_apply]
    simp only [hc, true_and, hsubscribed]
  cases event with
  | statusChange deviceId online =>
    rw [bothCalls, List.map_cons, List.map_cons, List.map_nil, WsCall.toOperation,
      WsCall.toOperation, htwo _ _ rfl (lit "devices") rfl, WsServer.delivered, if_pos hc, copies,
      List.append_assoc, List.singleton_append]
  | sensorReading reading =>
    rw [bothCalls, List.map_cons, List.map_cons, List.map_nil, WsCall.toOperation,
      WsCall.toOperation, htwo _ _ rfl (lit "sensors/" ++ reading.deviceId) rfl,
      WsServer.delivered, copies, List.append_assoc]
    simp only [hc, true_and]

/-- Two copies are one too many. -/
theorem length_copies_le_one_iff : (event.copies s c text).length ≤ 1 ↔ ¬ event.InBoth s c := by
  cases event with
  | statusChange deviceId online =>
    rw [copies, InBoth]
    split <;> simp [*]
  | sensorReading reading =>
    rw [copies, InBoth]
    split <;> split <;> simp [*]

/-- Every connected session gets at most one copy of the event exactly when the message cannot be
printed or no connected session is reached by both calls. -/
theorem atMostOnce_iff (V : Vendor) (event : DeviceEvent) (w : Wired) (s : WsServer) :
    (∀ c ∈ s.sessions, ∃ copies : List StdString,
        ((event.publish V w s).objects c).writeQueue = (s.objects c).writeQueue ++ copies ∧
          copies.length ≤ 1) ↔
      (∃ e, V.dump event.message = .error e) ∨ ∀ c ∈ s.sessions, ¬ event.InBoth s c := by
  rcases htext : V.dump event.message with e | text
  · refine iff_of_true (fun c _ => ⟨[], ?_, Nat.zero_le 1⟩) (.inl ⟨e, rfl⟩)
    rw [publish, calls_of_error htext, List.append_nil]
    rfl
  · have hnone : ¬ ∃ e, (Except.ok text : Except JsonException StdString) = .error e := by simp
    rw [or_iff_right hnone]
    refine forall₂_congr fun c hc => ?_
    rw [publish, calls_of_ok htext, writeQueue_bothCalls hc, ← length_copies_le_one_iff]
    constructor
    -- The queue determines the copies.
    · rintro ⟨copies, hqueue, hle⟩
      rwa [List.append_cancel_left hqueue]
    · exact fun hle => ⟨_, rfl, hle⟩

/-- A client connects and subscribes to `devices`. -/
def watchingClient : List WsInput :=
  [.socket, .completion 1 (.accept true), .call (.subscribe 1 (lit "devices"))]

/-- Every status change reaches it twice. -/
theorem twice_watchingClient :
    let step := WsServer.step (webSocketHandler Vendor.reference)
    let r := Mealy.exec step {} watchingClient
    let event : DeviceEvent := .statusChange (lit "d-1") true
    Mealy.Run step WsServer.Possible {} r.1 r.2 ∧ 1 ∈ r.2.sessions ∧
      (r.2.objects 1).writeQueue = [] ∧
      ∃ text, ((event.publish Vendor.reference (Wired.oneLamp 1) r.2).objects 1).writeQueue =
        [text, text] := by
  intro step r event
  have hsession : 1 ∈ r.2.sessions := by decide
  obtain ⟨text, htext⟩ := Vendor.dumpsUtf8_reference event.message (utf8_deviceStatus rfl true)
  refine ⟨Mealy.Run.exec (by decide), hsession, rfl, text, ?_⟩
  rw [publish, calls_of_ok htext, writeQueue_bothCalls hsession]
  have hdevices : r.2.Subscribed 1 (lit "devices") := by decide
  show [] ++ copies r.2 1 text event = _
  rw [copies, if_pos hdevices]
  rfl

end DeviceEvent

end IotDashboard
