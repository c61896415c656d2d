import IotDashboard.Devices.Commands
import IotDashboard.Devices.Footprint

/-!
# The commands behind the messages

The only call that hands a message to the library is `Publish`, and `SendCommand` is the only
operation that calls it. So what is handed over is read off the commands that are asked for:
whichever calls fail, nothing else is sent, nothing is sent twice, and nothing is sent to a device
that is not online.

## Main definitions

* `DeviceCommand` and `DeviceCommand.message`: a command and the message that carries it;
* `Backend.Silent` and `Backend.Issues`: nothing is sent, and some of the commands are sent;
* `Tables.OnlineNulFree`: the ids of online devices are read back as they were stored.

## Main results

* `Backend.issues_sendCommand`: a command is sent once, or not at all;
* `Tables.OnlineNulFree.cStr_buildCommandTopic`: the topic of a command names the device it is for.
-/

namespace IotDashboard

open StdString

/-- A command with its parameters as text. -/
structure DeviceCommand where
  deviceId : StdString
  command : StdString
  params : StdString
deriving DecidableEq

/-- The message that carries the command, with its topic as the library reads it; a command that
cannot be printed has none. -/
def DeviceCommand.message (V : Vendor) (c : DeviceCommand) : Option MqttMessage :=
  match DeviceManager.buildCommandJson V c.command c.params with
  | .error _ => none
  | .ok json => some ⟨(DeviceManager.buildCommandTopic c.deviceId).cStr, json, .atLeastOnce, false⟩

/-- The commands to devices that are online. -/
def Tables.toOnline (t : Tables) (commands : List DeviceCommand) : List DeviceCommand :=
  commands.filter fun c => t.Online c.deviceId

@[simp]
theorem Tables.toOnline_nil (t : Tables) : t.toOnline [] = [] := rfl

private theorem Tables.toOnline_append (t : Tables) (commands commands' : List DeviceCommand) :
    t.toOnline (commands ++ commands') = t.toOnline commands ++ t.toOnline commands' :=
  List.filter_append ..

/-! ## What the device manager sends -/

private theorem Paho.sent_subscribe (p : Paho) (topic : StdString) (qos : QoS) :
    (p.subscribe topic qos).2.sent = p.sent := by
  rw [subscribe]
  split <;> rfl

private theorem Paho.sent_unsubscribe (p : Paho) (online : Bool) (topic : StdString) :
    (p.unsubscribe online topic).sent = p.sent := by
  rw [unsubscribe]
  split <;> rfl

private theorem MqttClient.sent_subscribe (c : MqttClient) (topic : StdString) (qos : QoS) :
    (c.subscribe topic qos).2.paho.sent = c.paho.sent := by
  have hpaho := c.paho.sent_subscribe topic qos
  rw [subscribe]
  split
  · rfl
  · split <;> next heq => rwa [heq] at hpaho

/-- Subscribing again after a reconnect sends no message. -/
theorem MqttClient.sent_reconnect (c : MqttClient) : c.reconnect.paho.sent = c.paho.sent := by
  have hresubscribe (paho : Paho) (table : List (Sigma fun _ : StdString => QoS)) :
      (resubscribe paho table).sent = paho.sent := by
    induction table generalizing paho with
    | nil => rfl
    | cons entry table ih => exact (ih _).trans (paho.sent_subscribe entry.1 entry.2)
  refine (hresubscribe _ _).trans ?_
  split <;> rfl

namespace Backend

/-- Nothing was handed to the library. -/
def Silent (b b' : Backend) : Prop := b'.mqtt.paho.sent = b.mqtt.paho.sent

/-- Messages for some of the commands to online devices were handed to the library, in order, and
no table was changed. -/
def Issues (V : Vendor) (commands : List DeviceCommand) (b b' : Backend) : Prop :=
  b'.database.tables = b.database.tables ∧
    ∃ messages, messages.Sublist
        ((b.database.tables.toOnline commands).filterMap (DeviceCommand.message V)) ∧
      b'.mqtt.paho.sent = b.mqtt.paho.sent ++ messages

variable {V : Vendor} {b b' b'' : Backend} {commands commands' : List DeviceCommand}

@[simp]
theorem Silent.refl (b : Backend) : Silent b b := rfl

/-- What is silent twice is silent. -/
theorem Silent.trans (h : Silent b b') (h' : Silent b' b'') : Silent b b'' :=
  Eq.trans h' h

/-- What sends nothing and changes no table issues no command, whatever was asked for. -/
theorem Issues.of_silent (htables : b'.database.tables = b.database.tables)
    (hsilent : Silent b b') : Issues V commands b b' :=
  ⟨htables, [], List.nil_sublist _, by rw [hsilent, List.append_nil]⟩

/-- Nothing need be issued. -/
theorem Issues.refl (b : Backend) : Issues V commands b b := .of_silent rfl rfl

/-- One after the other, programs issue what each of them issues. -/
theorem Issues.append (h : Issues V commands b b') (h' : Issues V commands' b' b'') :
    Issues V (commands ++ commands') b b'' := by
  obtain ⟨htables, messages, hsublist, hsent⟩ := h
  obtain ⟨htables', messages', hsublist', hsent'⟩ := h'
  refine ⟨htables'.trans htables, messages ++ messages', ?_, ?_⟩
  · rw [Tables.toOnline_append, List.filterMap_append]
    rw [htables] at hsublist'
    exact hsublist.append hsublist'
  · rw [hsent', hsent, List.append_assoc]

/-- Issuing some of the commands is issuing some of more commands. -/
theorem Issues.mono (h : Issues V commands b b') (hsublist : commands.Sublist commands') :
    Issues V commands' b b' := by
  obtain ⟨htables, messages, hmessages, hsent⟩ := h
  exact ⟨htables, messages, hmessages.trans ((hsublist.filter _).filterMap _), hsent⟩

/-- Every call but `Publish` sends nothing. -/
theorem silent_handle {e : PortCall} (he : e.message = none) : (handle e).Respects Silent := by
  intro b
  cases e with
  | subscribe topic qos => exact b.mqtt.sent_subscribe topic qos
  | unsubscribe topic => exact b.mqtt.paho.sent_unsubscribe b.mqtt.connected topic
  | publish topic payload qos retain => cases he
  | _ => rfl

/-- A program without `Publish` sends nothing. -/
theorem silent_run {α : Type} {p : Ports α}
    (hp : p.Within (fun e => e.message = none) fun _ _ => True) :
    (p.run handle).Respects Silent :=
  Program.respects_run Silent.refl (fun _ _ _ h h' => h.trans h') (fun _ => silent_handle)
    (fun _ _ _ _ _ => trivial) hp

/-- What `Publish` hands to the library, if it does: the message, with its topic as a C string. -/
theorem sent_publish (c : MqttClient) (topic payload : StdString) (qos : QoS) (retain : Bool) :
    (c.publish topic payload qos retain).2.paho.sent = c.paho.sent ++
      if (c.publish topic payload qos retain).1 = .ok () then [⟨topic.cStr, payload, qos, retain⟩]
      else [] := by
  rw [MqttClient.publish]
  split
  · simp
  · rw [Paho.sendMessage]
    split <;> next heq =>
      split at heq <;> cases heq
      simp [Paho.tick]

/-- What a look-up may find of the device that a command is for. -/
theorem online_of_run_getById {deviceId : StdString} {device : DeviceInfo}
    (h : ((Ports.getById deviceId).run handle).run b = (.ok (.ok device), b'))
    (hconnected : device.isConnected = true) : b.database.tables.Online deviceId := by
  have hcall : ((Ports.getById deviceId).run handle).run b = _ := run_perform (.getById deviceId)
  rw [hcall, handle, run_onDatabase] at h
  have hread := (Prod.mk.inj h).1
  cases hprepare : b.database.faults 0 with
  | true =>
    rw [SqliteDeviceRepository.run_getById_of_unprepared hprepare] at hread
    cases hread
  | false =>
    rw [SqliteDeviceRepository.run_getById_of_prepared hprepare] at hread
    have hdevice := Except.ok.inj hread
    split at hdevice
    · cases hdevice
    · next row hrow =>
      cases hdevice
      split at hrow
      · cases hrow
      · exact Tables.online_iff.mpr
          ⟨row, hrow, by simpa [SqliteDeviceRepository.rowToDevice] using hconnected⟩

/-- The look-up itself neither writes nor sends. -/
theorem issues_getById (deviceId : StdString) :
    ((Ports.getById deviceId).run handle).Respects (Issues V []) := by
  intro b
  have hsame : Evolution (· = · : Tables → Tables → Prop) :=
    ⟨fun _ => rfl, fun _ _ _ => Eq.trans⟩
  refine .of_silent ?_ (silent_run (Program.within_perform rfl) b)
  exact (respects_run hsame (Program.within_perform (PortCall.keeps_of_write_eq_none rfl)) b).symm

/-- A command is sent once or not at all, and not at all if its device is not online; and it is
reported as sent exactly if it was. -/
theorem issues_sendCommand (V : Vendor) (deviceId command params : StdString) (b : Backend) :
    let r := ((DeviceManager.sendCommand V deviceId command params).run handle).run b
    Issues V [⟨deviceId, command, params⟩] b r.2 ∧
      (r.1 = .ok (.ok ()) ↔ ¬ Silent b r.2) := by
  intro r
  obtain ⟨found, b', hget⟩ :
      ∃ found b', ((Ports.getById deviceId).run handle).run b = (found, b') := ⟨_, _, rfl⟩
  have hlookup : Issues V [] b b' := by
    have h := issues_getById (V := V) deviceId b
    rwa [hget] at h
  have hsilent : Silent b b' := by
    have h := silent_run (p := Ports.getById deviceId) (Program.within_perform rfl) b
    rwa [hget] at h
  -- Unless a message is published, the state is that after the look-up.
  have hunsent {x : Except CxxException (Result Unit)} (hr : r = (x, b')) (hx : x ≠ .ok (.ok ())) :
      Issues V [⟨deviceId, command, params⟩] b r.2 ∧ (r.1 = .ok (.ok ()) ↔ ¬ Silent b r.2) := by
    rw [hr]
    exact ⟨hlookup.mono (List.nil_sublist _), iff_of_false hx (not_not.mpr hsilent)⟩
  have hr : r = ((DeviceManager.sendCommand V deviceId command params).run handle).run b := rfl
  rw [DeviceManager.sendCommand, Program.run_bind] at hr
  rcases found with x | e | device
  · rw [Stateful.run_bind_of_error hget] at hr
    exact hunsent hr (by simp)
  · rw [Stateful.run_bind_of_ok hget] at hr
    exact hunsent hr (by simp)
  · rw [Stateful.run_bind_of_ok hget] at hr
    cases hconnected : device.isConnected with
    | false =>
      simp only [hconnected, Bool.false_eq_true, not_false_eq_true, if_true] at hr
      exact hunsent hr (by simp)
    | true =>
      have honline := online_of_run_getById hget hconnected
      cases hjson : DeviceManager.buildCommandJson V command params with
      | error x =>
        simp only [hconnected, not_true_eq_false, if_false, hjson] at hr
        exact hunsent hr (by simp)
      | ok json =>
        simp only [hconnected, not_true_eq_false, if_false, hjson, Program.run_bind,
          Program.run_ofExcept] at hr
        replace hr := hr.trans (run_perform
          (.publish (DeviceManager.buildCommandTopic deviceId) json .atLeastOnce false))
        have hsent := sent_publish b'.mqtt (DeviceManager.buildCommandTopic deviceId) json
          .atLeastOnce false
        have hwanted : (b.database.tables.toOnline [⟨deviceId, command, params⟩]).filterMap
            (DeviceCommand.message V) =
              [⟨(DeviceManager.buildCommandTopic deviceId).cStr, json, .atLeastOnce, false⟩] := by
          simp [Tables.toOnline, honline, DeviceCommand.message, hjson]
        rw [hr]
        refine ⟨⟨hlookup.1, _, ?_, hsent.trans (congrArg (· ++ _) hsilent)⟩, ?_⟩
        · rw [hwanted]
          split
          · exact .refl _
          · exact List.nil_sublist _
        · show Except.ok (b'.mqtt.publish (DeviceManager.buildCommandTopic deviceId) json
              .atLeastOnce false).1 = _ ↔ ¬ (b'.mqtt.publish (DeviceManager.buildCommandTopic
                deviceId) json .atLeastOnce false).2.paho.sent = b.mqtt.paho.sent
          rw [hsent, hsilent]
          split
          · next hok => simp [hok]
          · next hfailed => simpa using hfailed

end Backend

namespace DeviceManager

variable {A : (e : PortCall) → e.Reply → Prop}

/-- `Register` publishes nothing. -/
theorem silent_register (now : Timestamp) (req : RegisterDeviceRequest) :
    (register now req).Within (fun e => e.message = none) A := by
  refine Program.within_perform_bind rfl fun r _ => ?_
  cases r with
  | error e => trivial
  | ok =>
    refine Program.within_perform_bind rfl fun connected _ => ?_
    split
    · exact Program.within_bind (within_subscribeEach (fun _ _ => rfl) _) fun _ =>
        Program.within_pure _
    · trivial

/-- `Unregister` publishes nothing. -/
theorem silent_unregister (deviceId : StdString) :
    (unregister deviceId).Within (fun e => e.message = none) A := by
  refine Program.within_perform_bind rfl fun connected _ => ?_
  split
  · exact Program.within_bind (within_unsubscribeEach (fun _ => rfl) _) fun _ =>
      Program.within_perform rfl
  · exact Program.within_perform rfl

/-- `SubscribeAll` publishes nothing. -/
theorem silent_subscribeAll : subscribeAll.Within (fun e => e.message = none) A := by
  refine Program.within_perform_bind rfl fun r _ => ?_
  cases r with
  | error e => trivial
  | ok devices =>
    exact Program.within_bind (within_subscribeEach (fun _ _ => rfl) _) fun _ =>
      Program.within_pure _

end DeviceManager

/-! ## Ids of online devices -/

namespace Tables

/-- No id of an online device holds a NUL byte. -/
def OnlineNulFree (t : Tables) : Prop := ∀ row ∈ t.devices, row.isConnected ≠ 0 → row.id.NulFree

/-- If the ids of online devices hold no NUL byte before, they hold none after. -/
def KeepsOnlineNulFree (t t' : Tables) : Prop := t.OnlineNulFree → t'.OnlineNulFree

/-- The relation goes on from statement to statement. -/
theorem evolution_keepsOnlineNulFree : Evolution KeepsOnlineNulFree where
  refl _ := id
  trans _ _ _ h h' := h' ∘ h

/-- The command topic of an online device is read by the library as it was built. -/
theorem OnlineNulFree.cStr_buildCommandTopic {t : Tables} (h : t.OnlineNulFree)
    {deviceId : StdString} (honline : t.Online deviceId) :
    (DeviceManager.buildCommandTopic deviceId).cStr =
      DeviceManager.buildCommandTopic deviceId := by
  obtain ⟨row, hrow, rfl, hconnected⟩ := honline
  have hid := h row hrow hconnected
  refine cStr_eq_self ?_
  rw [NulFree] at hid ⊢
  simp only [DeviceManager.buildCommandTopic, DeviceManager.deviceTopic, List.mem_append, not_or]
  exact ⟨⟨⟨by decide, hid⟩, by decide⟩, by decide⟩

/-- A registered device is offline at first. -/
theorem keepsOnlineNulFree_insertDevice (now : Timestamp) (req : RegisterDeviceRequest) :
    (Write.insertDevice (SqliteDeviceRepository.bindDevice (req.device now))).Keeps
      KeepsOnlineNulFree := by
  intro t t' n happly hnul
  rw [Write.apply] at happly
  split at happly
  · cases happly
  · obtain ⟨rfl, -⟩ := Prod.mk.inj (Option.some.inj happly)
    intro row hrow hconnected
    rcases List.mem_append.mp hrow with hrow | hrow
    · exact hnul row hrow hconnected
    · obtain rfl := List.mem_singleton.mp hrow
      exact absurd rfl hconnected

/-- A removal brings no device online. -/
theorem keepsOnlineNulFree_deleteDevice (deviceId : StdString) :
    (Write.deleteDevice deviceId).Keeps KeepsOnlineNulFree := by
  intro t t' n happly hnul
  obtain ⟨rfl, -⟩ := Prod.mk.inj (Option.some.inj happly)
  exact fun row hrow => hnul row (List.mem_filter.mp hrow).1

/-- The row that an update writes has been read before, and so its id was cut at a NUL byte. -/
theorem keepsOnlineNulFree_updateDevice {device : DeviceInfo} (hid : device.id.NulFree) :
    (Write.updateDevice (SqliteDeviceRepository.bindDevice device)).Keeps
      KeepsOnlineNulFree := by
  intro t t' n happly hnul
  obtain ⟨rfl, -⟩ := Prod.mk.inj (Option.some.inj happly)
  intro row hrow hconnected
  obtain ⟨stored, hstored, heq⟩ := List.mem_map.mp hrow
  split at heq
  · rw [← heq]
    exact hid
  · rw [← heq] at hconnected ⊢
    exact hnul stored hstored hconnected

end Tables

end IotDashboard
