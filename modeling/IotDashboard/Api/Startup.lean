import IotDashboard.Devices.Backend
import IotDashboard.Network.BrokerConnection

/-!
# Connecting at the start

`Application::Start` calls `MqttClient::Connect` and, if that succeeds, `SubscribeAll`. Whether
anything is subscribed depends on the flag that `OnConnected` sets, and `Connect` does not wait
for it.

## Main definitions

* `BrokerConnection.Usable`: the client counts as connected, `Subscribe` is not refused for want
  of a connection, and `SubscribeAll` reaches every stored device.

## Main results

* `BrokerConnection.usable_iff`: a successful `Connect` leaves a usable client exactly when its
  wait never ends in success before `OnConnected` was invoked.
-/

namespace IotDashboard

open StdString

/-- The first lines of `Application::Start`, after `Connect` has returned. -/
def Application.startMqtt (mqttResult : Result Unit) : Ports Unit := do
  match mqttResult with
  | .ok () =>
    let _ ← DeviceManager.subscribeAll
  | .error _ => return ()

namespace Backend

/-- Every stored device has its topics in the client's table and on the broker's side. -/
def SubscribesStored (b : Backend) : Prop :=
  ∀ row ∈ b.database.tables.devices,
    ∀ topic ∈ DeviceManager.deviceTopics (SqliteDeviceRepository.rowToDevice row).id,
      topic.1 ∈ b.mqtt.table ∧ topic.1.cStr ∈ b.mqtt.held

/-- `Start` after a `Connect` that succeeded. -/
def started (b : Backend) : Backend := (((Application.startMqtt (.ok ())).run handle).run b).2

private theorem started_eq {b : Backend} (hdatabase : b.database.Reliable) :
    b.started.database.tables = b.database.tables ∧
      b.started.mqtt = b.mqtt.subscribeEach
        (((selectDevices b.database.tables).map SqliteDeviceRepository.rowToDevice).flatMap
          fun device => DeviceManager.deviceTopics device.id) := by
  rw [started, Application.startMqtt, Program.run_bind,
    Stateful.run_bind_of_ok (run_subscribeAll hdatabase)]
  exact ⟨rfl, rfl⟩

/-- With a connection, and without failures, every stored device is subscribed. -/
theorem subscribesStored_started {b : Backend} (hdatabase : b.database.Reliable)
    (hmqtt : b.mqtt.Reliable) (hconnected : b.mqtt.connected = true) :
    b.started.SubscribesStored := by
  obtain ⟨htables, hclient⟩ := started_eq hdatabase
  obtain ⟨-, -, htable, hheld⟩ := MqttClient.subscribeEach_of_online
    (((selectDevices b.database.tables).map SqliteDeviceRepository.rowToDevice).flatMap
      fun device => DeviceManager.deviceTopics device.id) hmqtt hconnected
  intro row hrow topic htopic
  rw [htables] at hrow
  -- The loop comes by this topic of this row.
  have hmem : topic ∈ ((selectDevices b.database.tables).map
      SqliteDeviceRepository.rowToDevice).flatMap
        fun device => DeviceManager.deviceTopics device.id :=
    List.mem_flatMap.mpr
      ⟨_, List.mem_map_of_mem (List.mem_mergeSort.mpr hrow), htopic⟩
  rw [hclient, htable, hheld]
  exact ⟨.inr (List.mem_map_of_mem hmem), .inr (List.mem_map.mpr ⟨topic, hmem, rfl⟩)⟩

end Backend

namespace BrokerConnection

/-- The connection can be used. -/
structure Usable (b : BrokerConnection) : Prop where
  isConnected : b.client.connected = true
  subscribe : ∀ topic qos, (b.client.subscribe topic qos).1 ≠ .error .connectionFailed
  startMqtt : ∀ database : Database, database.Reliable → b.client.Reliable →
    (Backend.started ⟨database, b.client⟩).SubscribesStored

/-- A successful `Connect` leaves a usable client for as long as the connection is up. -/
def MeansConnected (tr : Trace) (b : BrokerConnection) : Prop := Succeeded tr → b.Usable

/-- The step is not the end of a wait in success that came before `OnConnected`. -/
def AwaitsOnConnected (tr : Trace) (b : BrokerConnection) (i : BrokerInput) : Prop :=
  i = .wake → b.connectSuccess = true → Online tr

variable {cleanSession : Bool} {paho : Paho} {tr : Trace} {b : BrokerConnection}

private theorem usable_iff_connected : b.Usable ↔ b.client.connected = true := by
  refine ⟨Usable.isConnected, fun h => ⟨h, fun topic qos => ?_, fun database hdatabase hmqtt =>
    Backend.subscribesStored_started hdatabase hmqtt h⟩⟩
  rw [MqttClient.subscribe, if_neg (not_not.mpr h)]
  split <;> simp

/-- Only the end of a wait in success makes the promise. -/
theorem success_ne_of_step {i : BrokerInput} (h : ¬ (i = .wake ∧ b.connectSuccess = true)) :
    (b.step i).1.bind BrokerEvent.success ≠ some true := by
  cases i with
  | attempt taken => cases taken <;> simp [step, returns, BrokerEvent.success]
  | wake =>
    have hfailed : b.connectSuccess = false := by simpa using h
    simp [step, returns, hfailed, BrokerEvent.success]
  | callback =>
    rcases hcallbacks : b.callbacks with _ | ⟨cb, rest⟩
    · simp [step, hcallbacks]
    · cases cb <;> simp [step, hcallbacks, BrokerEvent.success]
  | _ => simp [step, returns, BrokerEvent.success]

/-- What unsets the flag ends the promise as well. -/
theorem success_of_online {event : BrokerEvent} (h : event.online = some false) :
    event.success = some false := by
  rcases event with (_ | _) | _ | _ | (_ | _ | _ | _) <;> first | rfl | cases h

/-- From a point that is as it should be, the next one is exactly if the wait does not end too
early. -/
theorem meansConnected_step_iff (hrun : Mealy.Run step Possible (start cleanSession paho) tr b)
    {i : BrokerInput} (hpossible : Possible tr b i) (h : MeansConnected tr b) :
    MeansConnected (tr ++ [(i, (b.step i).1)]) (b.step i).2 ↔ AwaitsOnConnected tr b i := by
  have hflag := connected_step hpossible
  rw [MeansConnected, usable_iff_connected] at h ⊢
  rw [Succeeded, decided_snoc, hflag]
  by_cases hend : i = .wake ∧ b.connectSuccess = true
  -- The promise is made by this very step, which leaves the flag as it is.
  · obtain ⟨rfl, hsuccess⟩ := hend
    have hevent : (b.step .wake).1 = some (.returned (.ok ())) := by simp [step, returns, hsuccess]
    simp [hevent, BrokerEvent.success, BrokerEvent.online, AwaitsOnConnected, hsuccess,
      connected_iff_online hrun]
  · refine iff_of_true ?_ fun hwake hsuccess => absurd ⟨hwake, hsuccess⟩ hend
    have hne := success_ne_of_step hend
    rcases hevent : (b.step i).1 with _ | event
    · exact h
    rw [hevent] at hne
    rw [Option.bind_some] at hne ⊢
    -- The event ends the promise, or leaves it and the flag alone, or sets the flag.
    rcases hsuccess : event.success with _ | _ | _
    · rcases honline : event.online with _ | _ | _
      · simpa [honline, Succeeded] using h
      · rw [success_of_online honline] at hsuccess
        cases hsuccess
      · simp [honline]
    · simp
    · exact absurd hsuccess hne

/-- At every point of a run a successful `Connect` has left a usable client exactly when no wait
of the run ended in success before `OnConnected` was invoked. -/
theorem usable_iff (hrun : Mealy.Run step Possible (start cleanSession paho) tr b) :
    Mealy.Throughout step Possible (start cleanSession paho) MeansConnected tr ↔
      tr.EachAfter fun past entry => ∀ b',
        Mealy.Run step Possible (start cleanSession paho) past b' →
          AwaitsOnConnected past b' entry.1 :=
  hrun.throughout_iff (fun hnone => absurd hnone (by decide)) fun _ _ _ hrun hpossible h =>
    meansConnected_step_iff hrun hpossible h

/-- `Connect` with `OnConnected` first, and a subscription. -/
def connectedFirst : List BrokerInput :=
  [.connect, .attempt true, .accepted false, .callback, .callback, .wake,
    .subscribe (lit "devices/d-1/status") .atLeastOnce]

theorem usable_iff_connectedFirst :
    let tr := (Mealy.exec step (start false {}) connectedFirst).1
    Mealy.Throughout step Possible (start false {}) MeansConnected tr ↔
      tr.EachAfter fun past entry => ∀ b',
        Mealy.Run step Possible (start false {}) past b' → AwaitsOnConnected past b' entry.1 :=
  usable_iff (Mealy.Run.exec (show Mealy.Allowed _ _ _ _ connectedFirst by decide))

/-- `Connect` with `OnConnectSuccess` first: the wait ends between the two callbacks. -/
def successFirst : List BrokerInput :=
  [.connect, .attempt true, .accepted true, .callback, .wake]

/-- A database with one device. -/
def oneDevice : Database where
  tables := { Tables.empty with
    devices := [⟨lit "d-1", lit "Pump", lit "actuator", lit "mqtt", lit "10.0.0.7", 0, 0⟩]
    primaryKey := List.nodup_singleton _
    foreignKey := fun _ h => absurd h List.not_mem_nil }

/-- `Connect` has returned success, `Subscribe` is refused, and `SubscribeAll` subscribes nothing
of the device that is stored. -/
theorem not_usable_successFirst :
    let r := Mealy.exec step (start false {}) successFirst
    Mealy.Run step Possible (start false {}) r.1 r.2 ∧ Succeeded r.1 ∧
      r.2.client.connected = false ∧
      (r.2.client.subscribe (lit "devices/d-1/status") .atLeastOnce).1 =
        .error .connectionFailed ∧
      (Backend.started ⟨oneDevice, r.2.client⟩).mqtt.subscriptions = ∅ ∧
      ¬ Mealy.Throughout step Possible (start false {}) MeansConnected r.1 := by
  intro r
  have hrun : Mealy.Run step Possible (start false {}) r.1 r.2 := Mealy.Run.exec (by decide)
  refine ⟨hrun, by decide, rfl, rfl, ?_, fun h => ?_⟩
  -- `SubscribeAll` is stopped by the flag at the first topic.
  · obtain ⟨-, hclient⟩ := Backend.started_eq (b := ⟨oneDevice, r.2.client⟩) fun _ => rfl
    rw [hclient, MqttClient.subscribeEach_of_offline _ Bool.false_ne_true]
    rfl
  · have husable : r.2.Usable := h.last hrun (by decide)
    exact Bool.false_ne_true husable.isConnected

end BrokerConnection

end IotDashboard
