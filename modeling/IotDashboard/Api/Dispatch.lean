import IotDashboard.Api.Wiring
import IotDashboard.Devices.Commands

/-!
# Commands for fired actions

For every reading the sensor callback evaluates the rules and sends one command for each action
that fires. A command that cannot be sent is passed over, so the commands published are those for
the actions whose devices are online, in the order in which the actions fired.

## Main definitions

* `Sendable`: what is assumed of an action's values;
* `Carries`: a message carries the command of an action.

## Main results

* `Wired.run_dispatch`: the loop over the fired actions;
* `Wired.sensorCallback_publishes`: what the callback publishes for a reading.
-/

namespace IotDashboard

open StdString Backend

/-- Parsing the text of the value gives the value back. -/
def Vendor.Undoes (V : Vendor) (j : Json) : Prop := ∀ t, V.dump j = .ok t → V.parse t = .ok j

/-- The object that a command's payload is the text of. -/
def commandObject (command : StdString) (parameters : Json) : Json :=
  .mkObject [(lit "command", .string command), (lit "parameters", parameters)]

/-- The strings of the action are well-formed, and parsing undoes printing for its parameters and
for its command. -/
structure Sendable (V : Vendor) (action : Action) : Prop where
  command : action.command.isUtf8 = true
  parameters : action.parameters.Utf8
  undoesParameters : V.Undoes action.parameters
  undoesCommand : V.Undoes (commandObject action.command action.parameters)

/-- The message goes to the device of the action, and its payload parses to an object with the
command and the parameters of the action. -/
structure Carries (V : Vendor) (action : Action) (message : MqttMessage) : Prop where
  topic : message.topic = lit "devices/" ++ action.deviceId ++ lit "/commands"
  qos : message.qos = .atLeastOnce
  retain : message.retain = false
  payload : ∃ j, V.parse message.payload = .ok j ∧
    j.atKey (lit "command") = .ok (.string action.command) ∧
    j.atKey (lit "parameters") = .ok action.parameters

variable {V : Vendor} {action : Action}

/-! ## One command -/

private theorem utf8_commandObject (h : Sendable V action) :
    (commandObject action.command action.parameters).Utf8 := by
  refine Json.utf8_mkObject fun f hf => ?_
  simp only [List.mem_cons, List.not_mem_nil, or_false] at hf
  rcases hf with rfl | rfl
  · exact ⟨rfl, .string h.command⟩
  · exact ⟨rfl, h.parameters⟩

/-- The printed parameters are parsed back, and the command is printed with them. -/
theorem exists_buildCommandJson (hdumps : V.DumpsUtf8) (h : Sendable V action) :
    ∃ params payload, V.dump action.parameters = .ok params ∧
      DeviceManager.buildCommandJson V action.command params = .ok payload ∧
      Carries V action ⟨DeviceManager.buildCommandTopic action.deviceId, payload, .atLeastOnce,
        false⟩ := by
  obtain ⟨params, hparams⟩ := hdumps _ h.parameters
  obtain ⟨payload, hpayload⟩ := hdumps _ (utf8_commandObject h)
  refine ⟨params, payload, hparams, ?_, ?_⟩
  · rw [DeviceManager.buildCommandJson, h.undoesParameters params hparams]
    exact congrArg liftJson hpayload
  · refine ⟨?_, rfl, rfl, _, h.undoesCommand payload hpayload, rfl, rfl⟩
    show lit "devices/" ++ action.deviceId ++ lit "/" ++ lit "commands" = _
    rw [List.append_assoc]
    rfl

/-- A publication on an open connection hands the message to the library. -/
theorem MqttClient.publish_of_online {c : MqttClient} (hreliable : c.Reliable)
    (hconnected : c.connected = true) (message : MqttMessage) :
    c.publish message.topic message.payload message.qos message.retain =
      (.ok (), { c with
        paho := { c.paho.tick with sent := c.paho.sent ++ [message.asSent] } }) := by
  simp [publish, Paho.sendMessage, hconnected, hreliable 0, MqttMessage.asSent]

namespace Wired

/-! ## The loop -/

/-- The part of the loop for one action returns; it publishes one message if the device of the
action is online, and nothing otherwise. -/
theorem run_dispatch_cons {b : Backend} (hdumps : V.DumpsUtf8) (hready : b.Ready)
    (h : Sendable V action) (actions : List Action) :
    ∃ (messages : List MqttMessage) (b' : Backend),
      ((dispatch V (action :: actions)).run Backend.handle).run b =
        ((dispatch V actions).run Backend.handle).run b' ∧
      published (dispatch V (action :: actions)) b =
        messages ++ published (dispatch V actions) b' ∧
      List.Forall₂ (Carries V)
        (if b.database.tables.Online action.deviceId then [action] else []) messages ∧
      b'.Ready ∧ b'.database.tables = b.database.tables ∧
      b'.mqtt.paho.sent = b.mqtt.paho.sent ++ messages.map MqttMessage.asSent := by
  obtain ⟨params, payload, hparams, hjson, hcarries⟩ := exists_buildCommandJson hdumps h
  have hdump : (Program.ofExcept (liftJson (V.dump action.parameters)) : Ports StdString) =
      pure params := by
    rw [hparams]
    rfl
  have hloop : dispatch V (action :: actions) =
      DeviceManager.sendCommand V action.deviceId action.command params >>= fun _ =>
        dispatch V actions := by
    rw [dispatch, hdump]
    rfl
  -- `SendCommand` reads the device, and publishes if it is online.
  by_cases honline : b.database.tables.Online action.deviceId
  · obtain ⟨hrun, hpublished⟩ := sendCommand_of_online hready.database honline hjson
    let message : MqttMessage :=
      ⟨DeviceManager.buildCommandTopic action.deviceId, payload, .atLeastOnce, false⟩
    have hpublish := MqttClient.publish_of_online hready.mqtt hready.connected message
    simp only [message] at hpublish
    rw [hpublish] at hrun
    let paho : Paho :=
      { b.mqtt.paho.tick with sent := b.mqtt.paho.sent ++ [message.asSent] }
    refine ⟨[message], ⟨(b.database.tick 1).tick 1, { b.mqtt with paho }⟩, ?_, ?_, ?_, ?_, rfl,
      rfl⟩
    · rw [hloop, Program.run_bind, Stateful.run_bind_of_ok hrun]
    · rw [hloop, published_bind_of_ok hrun, hpublished]
    · rw [if_pos honline]
      exact .cons hcarries .nil
    · exact ⟨Database.reliable_tick (Database.reliable_tick hready.database 1) 1,
        fun i => hready.mqtt (i + 1), hready.connected⟩
  · -- The result is dropped, so the loop goes on to the next action.
    obtain ⟨hrun, hpublished⟩ := @sendCommand_of_not_online b V action.deviceId
      action.command params hready.database honline
    refine ⟨[], { b with database := (b.database.tick 1).tick 1 }, ?_, ?_, ?_, ?_, rfl,
      (List.append_nil _).symm⟩
    · rw [hloop, Program.run_bind, Stateful.run_bind_of_ok hrun]
    · rw [hloop, published_bind_of_ok hrun, hpublished]
    · rw [if_neg honline]
      exact .nil
    · exact ⟨Database.reliable_tick (Database.reliable_tick hready.database 1) 1, hready.mqtt,
        hready.connected⟩

/-- The loop returns, and publishes one message for each action whose device is online, in
order. -/
theorem run_dispatch {b : Backend} (hdumps : V.DumpsUtf8) (hready : b.Ready)
    {actions : List Action} (hactions : ∀ action ∈ actions, Sendable V action) :
    ∃ (messages : List MqttMessage) (b' : Backend),
      ((dispatch V actions).run Backend.handle).run b = (.ok (), b') ∧
      published (dispatch V actions) b = messages ∧
      List.Forall₂ (Carries V) (actions.filter (b.database.tables.Online ·.deviceId)) messages ∧
      b'.mqtt.paho.sent = b.mqtt.paho.sent ++ messages.map MqttMessage.asSent := by
  -- The tables stay the same, so who is online does not change on the way.
  induction actions generalizing b with
  | nil => exact ⟨[], b, rfl, rfl, .nil, (List.append_nil _).symm⟩
  | cons action actions ih =>
    obtain ⟨first, b₁, hrun, hpublished, hcarries, hready₁, htables, hsent⟩ :=
      run_dispatch_cons hdumps hready (hactions action List.mem_cons_self) actions
    obtain ⟨rest, b', ihrun, ihpublished, ihcarries, ihsent⟩ :=
      ih hready₁ fun a ha => hactions a (List.mem_cons_of_mem action ha)
    refine ⟨first ++ rest, b', hrun.trans ihrun, by rw [hpublished, ihpublished], ?_, ?_⟩
    · rw [htables] at ihcarries
      rw [List.filter_cons]
      by_cases honline : b.database.tables.Online action.deviceId
      · rw [if_pos honline] at hcarries
        rw [if_pos (by simpa using honline)]
        exact List.rel_append hcarries ihcarries
      · rw [if_neg honline] at hcarries
        rw [if_neg (by simpa using honline)]
        exact List.rel_append hcarries ihcarries
    · rw [ihsent, hsent, List.map_append, List.append_assoc]

/-! ## The callback -/

private theorem utf8_sensorData {reading : SensorReading} (hdevice : reading.deviceId.isUtf8 = true)
    (hsensor : reading.sensor.isUtf8 = true) (hunit : reading.unit.isUtf8 = true) :
    (sensorData reading).Utf8 := by
  have hdata : ∀ f ∈ [(lit "device_id", Json.string reading.deviceId),
      (lit "sensor_type", .string reading.sensor), (lit "value", .real reading.value),
      (lit "unit", .string reading.unit)], f.1.isUtf8 = true ∧ Json.Utf8 f.2 := by
    intro f hf
    simp only [List.mem_cons, List.not_mem_nil, or_false] at hf
    rcases hf with rfl | rfl | rfl | rfl
    · exact ⟨rfl, .string hdevice⟩
    · exact ⟨rfl, .string hsensor⟩
    · exact ⟨rfl, .real _⟩
    · exact ⟨rfl, .string hunit⟩
  refine Json.utf8_mkObject fun f hf => ?_
  simp only [List.mem_cons, List.not_mem_nil, or_false] at hf
  rcases hf with rfl | rfl
  · exact ⟨rfl, .string rfl⟩
  · exact ⟨rfl, Json.utf8_mkObject hdata⟩

/-- The callback makes two broadcasts, which reach the WebSocket server only, and then runs the
loop. -/
theorem run_sensorCallback {w : Wired} {reading : SensorReading} {text : StdString}
    {actions : List Action} (htext : V.dump (sensorData reading) = .ok text)
    (hfired : RuleEngine.evaluate reading w.app.rules = .ok actions) :
    (sensorCallback V reading).run w = (devices (dispatch V actions)).run { w with
      webSocket := w.webSocket ++ [.broadcastToTopic (lit "sensors") text] ++
        [.broadcastToTopic (lit "sensors/" ++ reading.deviceId) text] } := by
  have hdump : dump V (sensorData reading) = pure text := by
    rw [dump, htext]
    rfl
  have hbroadcast : ∀ topic (w : Wired), (broadcastToTopic topic text).run w =
      (.ok (), { w with webSocket := w.webSocket ++ [.broadcastToTopic topic text] }) :=
    fun _ _ => rfl
  simp only [sensorCallback, hdump, Stateful.run_bind, Stateful.run_pure, hbroadcast,
    Stateful.run_read, hfired]
  -- Without an action the loop would do nothing.
  cases actions with
  | nil => rfl
  | cons action actions => rfl

/-- For every reading with well-formed strings: the callback returns, and the messages published
are one for each fired action whose device is stored and online, in the order in which the actions
fired, each with the command of its action. Besides the connection and the publishing, `Ready`
assumes that SQLite does not fail: a device that cannot be read is sent no command. -/
theorem sensorCallback_publishes {w : Wired} {reading : SensorReading} {actions : List Action}
    (hdumps : V.DumpsUtf8) (hready : w.app.backend.Ready)
    (hdevice : reading.deviceId.isUtf8 = true) (hsensor : reading.sensor.isUtf8 = true)
    (hunit : reading.unit.isUtf8 = true)
    (hfired : RuleEngine.evaluate reading w.app.rules = .ok actions)
    (hactions : ∀ action ∈ actions, Sendable V action) :
    ∃ (messages : List MqttMessage) (w' : Wired),
      (sensorCallback V reading).run w = (.ok (), w') ∧
      published (dispatch V actions) w.app.backend = messages ∧
      List.Forall₂ (Carries V)
        (actions.filter (w.app.backend.database.tables.Online ·.deviceId)) messages ∧
      w'.app.backend.mqtt.paho.sent =
        w.app.backend.mqtt.paho.sent ++ messages.map MqttMessage.asSent := by
  obtain ⟨text, htext⟩ := hdumps _ (utf8_sensorData hdevice hsensor hunit)
  obtain ⟨messages, b', hrun, hpublished, hcarries, hsent⟩ := run_dispatch hdumps hready hactions
  have hcallback := run_sensorCallback htext hfired
  rw [devices, App.devices, Stateful.run_zoom, Stateful.run_zoom, hrun] at hcallback
  exact ⟨messages, _, hcallback, hpublished, hcarries, hsent⟩

/-- With the reference library, actions with canonical parameters can be sent. -/
theorem sendable_reference {action : Action} (hcommand : action.command.isUtf8 = true)
    (hutf8 : action.parameters.Utf8) (hcanonical : action.parameters.Canonical) :
    Sendable Vendor.reference action where
  command := hcommand
  parameters := hutf8
  undoesParameters t ht := Vendor.parseUndoesDump_reference _ t hcanonical ht
  undoesCommand t ht := by
    refine Vendor.parseUndoesDump_reference _ t (Json.canonical_mkObject fun f hf => ?_) ht
    simp only [List.mem_cons, List.not_mem_nil, or_false] at hf
    rcases hf with rfl | rfl
    · exact .string action.command
    · exact hcanonical

/-- A rule that fires when it is dark, with an action for each of two devices. -/
def nightRule : AutomationRule where
  id := lit "r-1"
  name := lit "night"
  conditions := [⟨lit "light", .equal, .zero⟩]
  actions := [⟨lit "d-2", lit "on", .object []⟩, ⟨lit "d-1", lit "off", .object []⟩]

/-- The rule is stored, and of the two devices only the second, which is online. -/
def nightState : Wired :=
  { oneLamp 1 with app.rules.rules := AList.insert nightRule.id nightRule ∅ }

/-- Both actions fire; the device of the first is missing, and the second is sent. -/
theorem sensorCallback_publishes_night :
    ∃ (w' : Wired) (message : MqttMessage),
      (sensorCallback Vendor.reference ⟨lit "d-1", lit "light", .zero, [], 0, none⟩).run
        nightState = (.ok (), w') ∧
      Carries Vendor.reference ⟨lit "d-1", lit "off", .object []⟩ message ∧
      w'.app.backend.mqtt.paho.sent = [message.asSent] := by
  have hsendable : ∀ action ∈ nightRule.actions, Sendable Vendor.reference action := by
    have hparameters : Json.Utf8 (.object []) ∧ Json.Canonical (.object []) :=
      ⟨.object (by simp) (by simp), .object (by simp) (by simp)⟩
    intro action haction
    simp only [nightRule, List.mem_cons, List.not_mem_nil, or_false] at haction
    rcases haction with rfl | rfl
    · exact sendable_reference rfl hparameters.1 hparameters.2
    · exact sendable_reference rfl hparameters.1 hparameters.2
  obtain ⟨messages, w', hrun, -, hcarries, hsent⟩ := @sensorCallback_publishes Vendor.reference
    nightState ⟨lit "d-1", lit "light", .zero, [], 0, none⟩ nightRule.actions
    Vendor.dumpsUtf8_reference ⟨fun _ => rfl, fun _ => rfl, rfl⟩ rfl rfl rfl rfl hsendable
  have honline : nightRule.actions.filter
      (nightState.app.backend.database.tables.Online ·.deviceId) =
        [⟨lit "d-1", lit "off", .object []⟩] := by
    rfl
  rw [honline] at hcarries
  cases hcarries with
  | cons hmessage hrest =>
    cases hrest
    exact ⟨w', _, hrun, hmessage, hsent⟩

end Wired

end IotDashboard
