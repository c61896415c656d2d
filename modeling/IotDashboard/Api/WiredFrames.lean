import IotDashboard.Api.Frames
import IotDashboard.Api.Gate
import IotDashboard.Api.Wiring

/-!
# What a step writes

Which data-modifying statements a step of the wired application may make: requests insert devices
and delete the one they name, status and heartbeat messages update the device of their topic, and
nothing else writes. In particular no step stores a reading.

## Main definitions

* `WiredInput.MayStep`: the statements that an input may lead to;
* `Wired.Told`: calls on the WebSocket server and nothing else;
* `Wired.Insensitive`: relations between states that requests alone can break.

## Main results

* `Wired.tables_step`: a step keeps what these statements keep;
* `Wired.monitor_step`: the monitor changes in polls only;
* `Wired.Insensitive.step`: every other step keeps such a relation.
-/

namespace IotDashboard

open StdString

/-- The statements that an input may lead to. -/
inductive WiredInput.MayStep : WiredInput → Write → Prop
  | insert {env : Env} {enableCors : Bool} {bReq : RawRequest} (row : DeviceRow) :
      MayStep (.request env enableCors bReq) (.insertDevice row)
  | delete {env : Env} {enableCors : Bool} {bReq : RawRequest} :
      (HttpSession.beastToApp bReq).method = .delete →
      (HttpSession.beastToApp bReq).path = lit "/devices" →
      MayStep (.request env enableCors bReq)
        (.deleteDevice ((HttpSession.beastToApp bReq).getQueryParam (lit "id")))
  | update {now : Timestamp} {topic payload deviceId subtopic : StdString} {device : DeviceInfo} :
      DeviceManager.decodeTopic topic = some (deviceId, subtopic) →
      subtopic = lit "status" ∨ subtopic = lit "heartbeat" → device.id = deviceId.cStr →
      MayStep (.message now topic payload)
        (.updateDevice (SqliteDeviceRepository.bindDevice device))

namespace Wired

variable {V : Vendor} {T : Tables → Tables → Prop}

/-- The contents of the database. -/
def tables (w : Wired) : Tables := w.app.backend.database.tables

/-- The tables of the two states are related, and their monitors are the same. -/
def Related (T : Tables → Tables → Prop) (w w' : Wired) : Prop :=
  T w.tables w'.tables ∧ w'.monitor = w.monitor

/-! ## Callbacks -/

/-- A caught exception does not take anything back. -/
theorem state_catching (callback : Code Unit) (w : Wired) :
    ((catching callback).run w).2 = (callback.run w).2 := by
  rw [catching, Stateful.run_tryCatch, Stateful.run_bind]
  rcases callback.run w with ⟨x | _, w'⟩
  · cases x <;> rfl
  · rfl

private theorem respects_catching {R : Wired → Wired → Prop} {callback : Code Unit}
    (h : callback.Respects R) : (catching callback).Respects R := by
  intro w
  rw [state_catching]
  exact h w

/-- The WebSocket server was called, and nothing else has happened. -/
def Told (w w' : Wired) : Prop := ∃ calls, w' = { w with webSocket := w.webSocket ++ calls }

theorem Told.refl (w : Wired) : Told w w := ⟨[], by rw [List.append_nil]⟩

/-- What is told twice is told. -/
theorem Told.trans (w w' w'' : Wired) (h : Told w w') (h' : Told w' w'') : Told w w'' := by
  obtain ⟨calls, rfl⟩ := h
  obtain ⟨calls', rfl⟩ := h'
  exact ⟨calls ++ calls', by rw [List.append_assoc]⟩

/-- Telling clients changes nothing of the application. -/
theorem Told.app {w w' : Wired} (h : Told w w') : w'.app = w.app := by
  obtain ⟨calls, rfl⟩ := h
  rfl

private theorem told_bind {α β : Type} {m : Code α} {f : α → Code β} (hm : m.Respects Told)
    (hf : ∀ a, (f a).Respects Told) : (m >>= f).Respects Told :=
  Stateful.respects_bind Told.trans hm hf

private theorem told_dump (j : Json) : (dump V j).Respects Told := Told.refl

private theorem told_broadcast (message : StdString) : (broadcast message).Respects Told :=
  fun _ => ⟨[.broadcast message], rfl⟩

private theorem told_broadcastToTopic (topic message : StdString) :
    (broadcastToTopic topic message).Respects Told :=
  fun _ => ⟨[.broadcastToTopic topic message], rfl⟩

/-- A status change is told to the WebSocket server only. -/
theorem told_statusCallback (deviceId : StdString) (online : Bool) :
    (statusCallback V deviceId online).Respects Told :=
  told_bind (told_dump _) fun _ => told_bind (told_broadcast _) fun _ =>
    told_bind (told_dump _) fun _ => told_broadcastToTopic _ _

/-- So are timeouts. -/
theorem told_reportAll (deviceIds : List StdString) : (reportAll V deviceIds).Respects Told := by
  induction deviceIds with
  | nil => exact Told.refl
  | cons deviceId deviceIds ih =>
    exact told_bind (told_bind (told_dump _) fun _ => told_broadcast _) fun _ => ih

section Relations

variable {R : Wired → Wired → Prop} (htold : ∀ {w w'}, Told w w' → R w w')
  (htrans : ∀ a b c, R a b → R b c → R a c)

include htold htrans

/-- A reading is told first; then the commands go out that it has fired. -/
theorem respects_sensorCallback_of_told
    (hdispatch : ∀ actions, (devices (dispatch V actions)).Respects R) (reading : SensorReading) :
    (sensorCallback V reading).Respects R := by
  have hrefl (w : Wired) : R w w := htold (Told.refl w)
  have hbind {α β : Type} {m : Code α} {f : α → Code β} (hm : m.Respects Told)
      (hf : ∀ a, (f a).Respects R) : (m >>= f).Respects R :=
    Stateful.respects_bind htrans (fun w => htold (hm w)) hf
  refine hbind (told_dump _) fun _ => hbind (told_broadcastToTopic _ _) fun _ =>
    hbind (told_dump _) fun _ => hbind (told_broadcastToTopic _ _) fun _ =>
      Stateful.respects_bind htrans (Stateful.respects_read hrefl _) fun r => ?_
  split
  · exact hrefl
  · split
    · exact hdispatch _
    · exact hrefl

end Relations

section Callbacks

variable (E : Evolution T)

include E

private theorem related_refl (w : Wired) : Related T w w := ⟨E.refl w.tables, rfl⟩

private theorem related_trans (a b c : Wired) (h : Related T a b) (h' : Related T b c) :
    Related T a c :=
  ⟨E.trans a.tables b.tables c.tables h.1 h'.1, h'.2.trans h.2⟩

private theorem related_of_told {w w' : Wired} (h : Told w w') : Related T w w' := by
  obtain ⟨calls, rfl⟩ := h
  exact ⟨E.refl w.tables, rfl⟩

/-- Code of the device manager stays in a frame if its calls do. -/
theorem respects_devices {α : Type} {p : Ports α}
    (hp : p.Within (PortCall.Keeps T) fun _ _ => True) : (devices p).Respects (Related T) :=
  fun w => ⟨Backend.respects_run E hp w.app.backend, rfl⟩

omit E in
private theorem within_dispatch {A : (e : PortCall) → e.Reply → Prop} (actions : List Action) :
    (dispatch V actions).Within (PortCall.Keeps T) A := by
  induction actions with
  | nil => trivial
  | cons action actions ih =>
    exact Program.within_bind (Program.within_ofExcept _) fun params =>
      Program.within_bind (DeviceManager.within_sendCommand V _ _ params) fun _ => ih

/-- The commands for fired actions change no table. -/
theorem respects_sensorCallback (reading : SensorReading) :
    (sensorCallback V reading).Respects (Related T) :=
  respects_sensorCallback_of_told (related_of_told E) (related_trans E)
    (fun _ => respects_devices E (within_dispatch _)) reading

end Callbacks

/-! ## Steps -/

section Steps

variable (E : Evolution T)

include E

private theorem onTables_request {env : Env} {enableCors : Bool} {bReq : RawRequest}
    (h : ∀ write, (WiredInput.request env enableCors bReq).MayStep write → write.Keeps T)
    (s : AppState) :
    Backend.OnTables T s.backend
      (HttpSession.onRead (registerHttpRoutes V env) enableCors bReq s).2.backend := by
  have F : Frame V (Frame.OnStores T fun _ _ => True) :=
    Frame.ofStores E (fun row => h _ (.insert row)) (fun _ => trivial) (fun _ _ _ _ _ => trivial)
      fun _ _ => trivial
  refine (F.weak.rel_onRead enableCors fun route req' res' hhandled => ?_).1
  obtain ⟨-, hroute, hpath, hmethod⟩ := HttpRouter.of_run_resolve_eq_handled hhandled
  refine F.rel_handler hroute (fun _ => F.refl s) ?_ fun _ _ _ => ⟨E.refl _, trivial⟩
  intro hdelete hdevices _
  -- The handler removes the device that the request names.
  obtain ⟨-, -, -, hsame⟩ := exists_sendsToken_of_handled hhandled (by rw [hdevices]; decide)
  have hid : req'.getQueryParam (lit "id") =
      (HttpSession.beastToApp bReq).getQueryParam (lit "id") := by
    rw [HttpRequest.getQueryParam, HttpRequest.getQueryParam, hsame.query]
  have hkeeps := h _ (.delete (hsame.method.symm.trans (hmethod.symm.trans hdelete))
    (hsame.path.symm.trans (hpath.symm.trans hdevices)))
  rw [← hid] at hkeeps
  exact Frame.respects_devices E (fun _ => trivial) (DeviceManager.within_unregister hkeeps) s

/-- What a look-up by id may answer. -/
def Answers : (e : ManagerCall) → e.Reply → Prop
  | .port (.getById deviceId), r =>
    ∀ device, (r : Result DeviceInfo) = .ok device → device.id = deviceId.cStr
  | _, _ => True

omit E in
private theorem answers_of_run_handle (e : ManagerCall) (w : Wired) (r : e.Reply) (w' : Wired)
    (h : (handle V e).run w = (.ok r, w')) : Answers e r := by
  cases e with
  | port e =>
    cases e with
    | getById deviceId =>
      rintro device rfl
      have hcall := @Backend.run_perform w.app.backend (.getById deviceId)
      rw [handle, devices, App.devices, Stateful.run_zoom, Stateful.run_zoom, hcall] at h
      have hread : (((SqliteDeviceRepository.getById deviceId).run Database.handle).run
          w.app.backend.database).1 = .ok (.ok device) := congrArg Prod.fst h
      exact SqliteDeviceRepository.id_of_run_getById (Prod.ext hread rfl)
    | _ => trivial
  | _ => trivial

/-- A call of the message handlers keeps what its statement keeps. -/
theorem respects_handle (e : ManagerCall) (he : ∀ call, e = .port call → call.Keeps T) :
    (handle V e).Respects (Related T) := by
  cases e with
  | port call => exact respects_devices E (Program.within_perform (he call rfl))
  | statusCallback deviceId online =>
    exact respects_catching fun w => related_of_told E (told_statusCallback deviceId online w)
  | sensorCallback reading => exact respects_catching (respects_sensorCallback E reading)

private theorem related_message {now : Timestamp} {topic payload : StdString}
    (h : ∀ write, (WiredInput.message now topic payload).MayStep write → write.Keeps T) :
    ((DeviceManager.handleMqttMessage V now topic payload).run (handle V)).Respects
      (Related T) := by
  refine Program.respects_run (related_refl E) (related_trans E) (respects_handle E)
    answers_of_run_handle ?_
  refine DeviceManager.within_handleMqttMessage (fun deviceId subtopic hdecode hsubtopic => ?_)
    nofun nofun
  refine ⟨?_, fun device online hdevice => ?_⟩
  · rintro call ⟨⟩
    exact PortCall.keeps_of_write_eq_none rfl
  · rintro call ⟨⟩ write ⟨⟩
    exact h _ (.update hdecode hsubtopic (hdevice device rfl))

/-- A step keeps what the statements keep that its input may lead to. -/
theorem tables_step {i : WiredInput} (h : ∀ write, i.MayStep write → write.Keeps T) (w : Wired) :
    T w.tables (step V w i).2.tables := by
  cases i with
  | request env enableCors bReq => exact onTables_request E h w.app
  | message now topic payload => exact (related_message E h w).1
  | poll now =>
    exact (related_of_told E (told_reportAll _ { w with monitor := (w.monitor.poll now).2 })).1
  | subscribeAll => exact (respects_devices E DeviceManager.within_subscribeAll w).1
  | connectionLost => exact E.refl w.tables
  | reconnected => exact E.refl w.tables

omit E in
/-- Only polls change the monitor. -/
theorem monitor_step (w : Wired) (i : WiredInput) :
    (step V w i).2.monitor =
      match i with
      | .poll now => (w.monitor.poll now).2
      | _ => w.monitor := by
  have hany : Evolution fun _ _ => True := ⟨fun _ => trivial, fun _ _ _ _ _ => trivial⟩
  cases i with
  | message now topic payload =>
    exact (related_message hany (fun _ _ _ _ _ _ => trivial) w).2
  | poll now =>
    exact (related_of_told hany (told_reportAll _ { w with monitor := (w.monitor.poll now).2 })).2
  | _ => rfl

omit E

/-- A relation that requests alone can break: whatever the callbacks, the device manager, the
monitor and the connection to the broker do, it holds. -/
structure Insensitive (R : Wired → Wired → Prop) : Prop where
  trans : ∀ a b c, R a b → R b c → R a c
  told : ∀ {w w'}, Told w w' → R w w'
  devices : ∀ {α : Type} (p : Ports α), (devices p).Respects R
  monitor : ∀ w monitor, R w { w with monitor }
  client : ∀ w client, R w { w with app.backend.mqtt := client }

/-- Every step that is no request keeps such a relation. -/
theorem Insensitive.step {R : Wired → Wired → Prop} (h : Insensitive R) (w : Wired) {i : WiredInput}
    (hi : ∀ env enableCors bReq, i ≠ .request env enableCors bReq) : R w (step V w i).2 := by
  have hrefl (w : Wired) : R w w := h.told (Told.refl w)
  cases i with
  | request env enableCors bReq => exact absurd rfl (hi env enableCors bReq)
  | message now topic payload =>
    refine Program.respects_run_of_forall hrefl h.trans (fun e => ?_)
      (DeviceManager.handleMqttMessage V now topic payload) w
    cases e with
    | port e => exact h.devices _
    | statusCallback deviceId online =>
      exact respects_catching fun w => h.told (told_statusCallback deviceId online w)
    | sensorCallback reading =>
      exact respects_catching
        (respects_sensorCallback_of_told h.told h.trans (fun _ => h.devices _) reading)
  | poll now =>
    -- The round comes first, and then its timeouts are told.
    exact h.trans _ _ _ (h.monitor w _)
      (h.told (told_reportAll _ { w with monitor := (w.monitor.poll now).2 }))
  | subscribeAll => exact h.devices DeviceManager.subscribeAll w
  | connectionLost => exact h.client w _
  | reconnected => exact h.client w _

end Steps

end Wired

end IotDashboard
