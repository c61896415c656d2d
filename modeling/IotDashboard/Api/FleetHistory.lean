import IotDashboard.Api.DeviceWrites
import IotDashboard.Api.MessageRaces
import IotDashboard.Api.QuietRoutes
import IotDashboard.Devices.Fleet

/-!
# The devices as the history tells them

Which devices are stored, what is stored of them and whether they are online follows from what the
clients and the devices can see: the registrations that were answered with 201, the removals that
were answered with 204, and the status messages that can be read. Nothing else matters, neither
other requests nor polls nor the state of the connection to the broker; and what `GET /devices`
answers is what follows.

A run handles whole messages and requests, one at a time. Where the threads let the repository calls
of a handler interleave with others, none of this has to hold: a heartbeat read before a `DELETE`
and written after the `POST` that follows it brings the old device back.

## Main definitions

* `WiredInput.fleetEvent`: what an input with its output tells of the devices;
* `Fleet.Lists`: a list of the devices of a fleet that pass a filter.

## Main results

* `Wired.fleet_step`: one step changes the table as its event says;
* `Wired.fleet_of_run`: the table after a run, and the answer of `GET /devices`.
-/

namespace IotDashboard

open StdString

/-- The registration that the text of a body asks for. -/
def DeviceController.requestOf (V : Vendor) (text : StdString) : Option RegisterDeviceRequest :=
  match V.parse text with
  | .error _ => none
  | .ok body => (readRequest body).toOption

/-- What an input with its output tells of the devices. -/
def WiredInput.fleetEvent (V : Vendor) : WiredInput → WiredOutput → Option FleetEvent
  | .request _ _ bReq, .response res =>
    let req := HttpSession.beastToApp bReq
    if req.path ≠ lit "/devices" then none
    else if req.method = .post ∧ res.status = 201 then
      (DeviceController.requestOf V req.body).map .registered
    else if req.method = .delete ∧ res.status = 204 then
      some (.unregistered (req.getQueryParam (lit "id")))
    else none
  | .message _ topic payload, _ =>
    match DeviceManager.decodeTopic topic with
    | none => none
    | some (deviceId, subtopic) =>
      if subtopic ≠ lit "status" then none
      else match DeviceManager.readStatus V payload with
        | .error _ => none
        | .ok online => some (.reported deviceId online)
  | _, _ => none

/-- A message comes on a topic that a broker delivers. -/
def WiredInput.Deliverable : WiredInput → Prop
  | .message _ topic _ => topic.NulFree
  | _ => True

instance : DecidablePred WiredInput.Deliverable := fun i =>
  match i with
  | .message _ topic _ => inferInstanceAs (Decidable topic.NulFree)
  | .request _ _ _ => isTrue trivial
  | .poll _ => isTrue trivial
  | .subscribeAll => isTrue trivial
  | .connectionLost => isTrue trivial
  | .reconnected => isTrue trivial

/-- The events of a history, oldest first. -/
def fleetEvents (V : Vendor) (tr : WiredTrace) : List FleetEvent :=
  tr.filterMap fun entry => entry.1.fleetEvent V entry.2

/-- The state of a fleet after what may be an event. -/
def Fleet.applyOption (fleet : Fleet) : Option FleetEvent → Fleet
  | none => fleet
  | some event => fleet.apply event

/-! ## Statements -/

section Statements

variable {d : Database}

/-- Without failures, an insert registers its device. -/
theorem fleet_step_insertDevice (hreliable : d.Reliable) (req : RegisterDeviceRequest)
    (now : Timestamp) :
    (d.step (.insertDevice (SqliteDeviceRepository.bindDevice (req.device now)))).2.tables.fleet =
      d.tables.fleet.apply (.registered req) := by
  by_cases hstored : req.id ∈ d.tables.ids
  · -- The primary key refuses the row.
    have houtcome : d.outcome (.insertDevice (SqliteDeviceRepository.bindDevice
        (req.device now))) = none := by
      rw [Database.outcome, hreliable 0, if_neg Bool.false_ne_true]
      exact dif_pos hstored
    rw [Database.step_of_failure d houtcome, Tables.fleet_apply_registered hstored]
    rfl
  · have happly : Write.apply d.tables (.insertDevice (SqliteDeviceRepository.bindDevice
        (req.device now))) = some (d.tables.insertDevice _ hstored, 1) := dif_neg hstored
    rw [Database.step_of_apply hreliable happly]
    exact Tables.fleet_insertDevice hstored

end Statements

/-! ## Routes -/

section Routes

variable {V : Vendor} {env : Env} {enableCors : Bool} {bReq : RawRequest} {s : AppState}
  {route : Route AppState} {req : HttpRequest}

variable (enableCors req) in
/-- `POST /devices` without failures: the answer is 201 exactly if the body can be read and has an
id and a name, and then the table changes by the registration. -/
theorem fleet_postDevices (env : Env) (res : HttpResponse) (hparses : V.ParsesUtf8)
    (hdumps : V.DumpsUtf8) (hreliable : s.backend.database.Reliable) :
    let r := (DeviceController.postDevices V env req res).run s
    r.2.backend.database.tables.fleet = s.backend.database.tables.fleet.applyOption
      (if (HttpSession.responseOf enableCors r.1).status = 201 then
        (DeviceController.requestOf V req.body).map .registered else none) := by
  intro r
  -- Up to the call of the device manager, an error leaves the table as it is.
  cases hparse : V.parse req.body with
  | error e =>
    have hrun : r = (.ok (res.error 400 (lit "BadRequest") (lit "Invalid JSON")), s) := by
      simp only [r, DeviceController.postDevices, hparse]
      rfl
    rw [hrun]
    simp [Fleet.applyOption]
  | ok body =>
    cases hread : DeviceController.readRequest body with
    | error e =>
      have hrun : r = (.error (.json e), s) := by
        simp only [r, DeviceController.postDevices, hparse, hread]
        rfl
      rw [hrun]
      simp [Fleet.applyOption]
    | ok request =>
      by_cases hempty : request.id = [] ∨ request.name = []
      · have hrun : r = (.ok (res.error 400 (lit "BadRequest") (lit "id and name are required")),
            s) := by
          have hguard : (request.id.isEmpty || request.name.isEmpty) = true := by simpa using hempty
          simp only [r, DeviceController.postDevices, hparse, hread]
          show (ite _ _ _ : App HttpResponse).run s = _
          rw [if_pos hguard]
          rfl
        rw [hrun]
        simp [Fleet.applyOption]
      · rw [not_or] at hempty
        -- Without failures the call of the device manager returns, and the answer is 201.
        obtain ⟨text, hrun⟩ := run_postDevices hparses hdumps env res hparse hread hempty.1
          hempty.2 (hreliable 0)
        have hrequest : DeviceController.requestOf V req.body = some request := by
          simp only [DeviceController.requestOf, hparse, hread]
          rfl
        simp only [r, hrun, HttpSession.status_responseOf_ok, HttpResponse.json_status, if_true,
          hrequest, Option.map_some, Backend.run_register _ _ (hreliable 0), Fleet.applyOption]
        exact fleet_step_insertDevice (Database.reliable_tick hreliable 1) request env.now

/-- `DELETE /devices` without failures removes the device and tells whether it was stored. -/
theorem run_deleteDevices (res : HttpResponse) (hreliable : s.backend.database.Reliable)
    (hid : req.getQueryParam (lit "id") ≠ []) :
    ∃ s', (DeviceController.deleteDevices req res).run s =
        (.ok (if req.getQueryParam (lit "id") ∈ s.backend.database.tables.ids then res.noContent
          else res.error 404 (lit "NotFound") (lit "Device not found")), s') ∧
      s'.backend.database.tables =
        s.backend.database.tables.deleteDevice (req.getQueryParam (lit "id")) := by
  have hreliable' := Database.reliable_tick hreliable 1
  let d := ((s.backend.database.tick 1).step (.deleteDevice (req.getQueryParam (lit "id")))).2
  have hd : d = { s.backend.database.tick 1 |>.tick 1 with
      tables := s.backend.database.tables.deleteDevice (req.getQueryParam (lit "id"))
      changes := s.backend.database.tables.devices.countP
        (·.id = req.getQueryParam (lit "id")) } :=
    congrArg Prod.snd (Database.step_of_apply hreliable' rfl)
  obtain ⟨s', hunregister, hs'⟩ : ∃ s', (App.devices (DeviceManager.unregister
      (req.getQueryParam (lit "id")))).run s =
        (.ok (SqliteDeviceRepository.reportChanges d.changes), s') ∧
          s'.backend.database = d := by
    rw [App.devices, Stateful.run_zoom, Backend.run_unregister _ (hreliable 0)]
    exact ⟨_, rfl, rfl⟩
  refine ⟨s', ?_, by rw [hs', hd]⟩
  rw [DeviceController.deleteDevices]
  rw [if_neg (by simpa using hid), Stateful.run_bind_of_ok hunregister, hd]
  -- The counter of the statement tells whether there was a row.
  split_ifs with hstored
  · rw [SqliteDeviceRepository.reportChanges,
      if_neg (Tables.countP_eq_zero_iff.not_left.mpr hstored)]
    rfl
  · rw [SqliteDeviceRepository.reportChanges, if_pos (Tables.countP_eq_zero_iff.mpr hstored)]
    rfl

variable (enableCors req) in
/-- The answer is 204 exactly if the device is stored, and then it is removed. -/
theorem fleet_deleteDevices (res : HttpResponse) (hreliable : s.backend.database.Reliable) :
    let r := (DeviceController.deleteDevices req res).run s
    r.2.backend.database.tables.fleet = s.backend.database.tables.fleet.applyOption
      (if (HttpSession.responseOf enableCors r.1).status = 204 then
        some (.unregistered (req.getQueryParam (lit "id"))) else none) := by
  intro r
  by_cases hempty : req.getQueryParam (lit "id") = []
  · have hrun : r = (.ok (res.error 400 (lit "BadRequest") (lit "id query parameter required")),
        s) := by
      simp only [r, DeviceController.deleteDevices]
      rw [if_pos (by simpa using hempty)]
      rfl
    rw [hrun]
    simp [Fleet.applyOption]
  · obtain ⟨s', hrun, htables⟩ := run_deleteDevices res hreliable hempty
    simp only [r, hrun, htables, HttpSession.status_responseOf_ok]
    by_cases hstored : req.getQueryParam (lit "id") ∈ s.backend.database.tables.ids
    · rw [if_pos hstored, if_pos (show res.noContent.status = 204 from rfl)]
      exact Tables.fleet_deleteDevice _
    · -- The statement matches no row.
      rw [if_neg hstored, Tables.deleteDevice_of_notMem hstored]
      simp [Fleet.applyOption]

/-- A command changes no table. -/
theorem tables_postCommands (res : HttpResponse) :
    (DeviceController.postCommands V req res).Respects fun s s' =>
      s'.backend.database.tables = s.backend.database.tables := by
  have hrefl (s : AppState) : s.backend.database.tables = s.backend.database.tables := rfl
  have hbind {α β : Type} {m : App α} {f : α → App β} (hm : m.Respects fun s s' =>
      s'.backend.database.tables = s.backend.database.tables)
      (hf : ∀ a, (f a).Respects fun s s' =>
        s'.backend.database.tables = s.backend.database.tables) :=
    Stateful.respects_bind (fun _ _ _ h h' => h'.trans h) hm hf
  have hsame : Evolution (· = · : Tables → Tables → Prop) :=
    ⟨fun _ => rfl, fun _ _ _ => Eq.trans⟩
  unfold DeviceController.postCommands
  split
  · exact hrefl
  refine hbind hrefl fun deviceId => hbind hrefl fun command => hbind hrefl fun parameters =>
    hbind hrefl fun params => ?_
  split
  · exact hrefl
  refine hbind (fun s => (Backend.respects_run hsame
    (DeviceManager.within_sendCommand V deviceId command params) s.backend).symm) fun r => ?_
  split
  · exact hrefl
  · exact hrefl
  · exact hrefl
  · exact fun s => (Undisturbed.json V res 202 _ s).tables

/-- A request changes the table as its answer tells. -/
theorem fleet_request (hparses : V.ParsesUtf8) (hdumps : V.DumpsUtf8)
    (hreliable : s.backend.database.Reliable) :
    let r := HttpSession.onRead (registerHttpRoutes V env) enableCors bReq s
    r.2.backend.database.tables.fleet = s.backend.database.tables.fleet.applyOption
      ((WiredInput.request env enableCors bReq).fleetEvent V (.response r.1)) := by
  intro r
  rcases handled_or_unhandled V env enableCors bReq s with ⟨route, req, h⟩ | h
  · have hr : r = _ := h.onRead
    by_cases hreaches : ReachesDevices (HttpSession.beastToApp bReq).method
        (HttpSession.beastToApp bReq).path
    · rcases hreaches with ⟨hpath, hmethod | hmethod⟩ | ⟨hpath, hmethod⟩
      · obtain rfl := h.route_eq ⟨.post, lit "/devices", DeviceController.postDevices V env⟩
          (by simp [routes_registerHttpRoutes]) hmethod hpath
        have hfleet := fleet_postDevices enableCors req env {} hparses hdumps hreliable
        rw [h.same.body] at hfleet
        rw [hr]
        simpa [WiredInput.fleetEvent, hpath, hmethod] using hfleet
      · obtain rfl := h.route_eq ⟨.delete, lit "/devices", DeviceController.deleteDevices⟩
          (by simp [routes_registerHttpRoutes]) hmethod hpath
        have hfleet := fleet_deleteDevices enableCors req {} hreliable
        have hid : req.getQueryParam (lit "id") =
            (HttpSession.beastToApp bReq).getQueryParam (lit "id") := by
          rw [HttpRequest.getQueryParam, HttpRequest.getQueryParam, h.same.query]
        rw [hid] at hfleet
        rw [hr]
        simpa [WiredInput.fleetEvent, hpath, hmethod] using hfleet
      · obtain rfl := h.route_eq ⟨.post, lit "/commands", DeviceController.postCommands V⟩
          (by simp [routes_registerHttpRoutes]) hmethod hpath
        have htables : r.2.backend.database.tables = s.backend.database.tables := by
          rw [hr]
          exact tables_postCommands {} s
        have hnone : (WiredInput.request env enableCors bReq).fleetEvent V (.response r.1) =
            none := by
          have hother : (HttpSession.beastToApp bReq).path ≠ lit "/devices" := by
            rw [hpath]
            decide
          simp [WiredInput.fleetEvent, hother]
        rw [hnone, htables]
        rfl
    · -- Requests to other routes are no events.
      have htables := (undisturbed_handler req {} h.mem (by rwa [h.method, h.path]) s).tables
      have hnone :
          (WiredInput.request env enableCors bReq).fleetEvent V (.response r.1) = none := by
        simp only [WiredInput.fleetEvent]
        by_cases hpath : (HttpSession.beastToApp bReq).path = lit "/devices"
        · have hmethod := not_or.mp fun h => hreaches (.inl ⟨hpath, h⟩)
          simp [hmethod.1, hmethod.2]
        · simp [hpath]
      rw [hnone, hr, htables]
      rfl
  · -- No status of a request that is not handled stands for an event.
    rw [show r.2 = s from h.state]
    suffices hnone : (WiredInput.request env enableCors bReq).fleetEvent V (.response r.1) = none by
      rw [hnone]
      rfl
    have hstatus : (HttpSession.beastToApp bReq).method = .options ∨
        r.1.status ∈ [401, 403, 404, 405, 500] := h.status
    simp only [WiredInput.fleetEvent]
    rcases hstatus with hmethod | hstatus
    · simp [hmethod]
    · simp only [List.mem_cons, List.not_mem_nil, or_false] at hstatus
      rcases hstatus with h | h | h | h | h <;> simp [h]

end Routes

/-! ## Messages -/

/-- A record that is changed in place changes the entry of its device, unless the id is cut at a NUL
byte. -/
theorem Tables.fleet_modified {t : Tables} {deviceId : StdString} (hid : deviceId.NulFree)
    {change : DeviceInfo → DeviceInfo} {f : FleetEntry → FleetEntry}
    (hchange : ∀ row, (SqliteDeviceRepository.bindDevice (change
      (SqliteDeviceRepository.rowToDevice row))).fleetEntry = f row.fleetEntry)
    (hkeeps : ∀ device, (change device).id = device.id) :
    (t.modified deviceId change).fleet =
      Function.update t.fleet deviceId ((t.fleet deviceId).map f) := by
  rw [modified]
  cases hfind : t.devices.find? (·.id = deviceId) with
  | none =>
    have hunknown : t.fleet deviceId = none := by rw [fleet, hfind, Option.map_none]
    dsimp only
    rw [hunknown, Option.map_none, ← hunknown, Function.update_eq_self]
  | some row =>
    have hrow := (find?_eq_some_iff.mp hfind).2
    let written := SqliteDeviceRepository.bindDevice (change
      (SqliteDeviceRepository.rowToDevice row))
    have hwritten : written.id = deviceId := by
      show (change _).id = deviceId
      rw [hkeeps]
      exact (congrArg cStr hrow).trans (cStr_eq_self hid)
    have hstored : written.id ∈ t.ids := by
      rw [hwritten, ← hrow]
      exact List.mem_map_of_mem (find?_eq_some_iff.mp hfind).1
    have hknown : t.fleet deviceId = some row.fleetEntry := by rw [fleet, hfind, Option.map_some]
    dsimp only
    rw [fleet_updateDevice hstored, hwritten, hknown, hchange, Option.map_some]

namespace Wired

variable {V : Vendor} {w : Wired}

/-- A message that is no status or heartbeat message changes no table. -/
theorem tables_message_of_other {now : Timestamp} {topic payload : StdString}
    (hother : ∀ deviceId, DeviceManager.decodeTopic topic ≠ some (deviceId, lit "status") ∧
      DeviceManager.decodeTopic topic ≠ some (deviceId, lit "heartbeat")) :
    (step V w (.message now topic payload)).2.tables = w.tables := by
  have hsame : Evolution (· = · : Tables → Tables → Prop) :=
    ⟨fun _ => rfl, fun _ _ _ => Eq.trans⟩
  refine (tables_step hsame (fun write h => ?_) w).symm
  cases h with
  | @update _ _ _ deviceId subtopic _ hdecode hsubtopic =>
    rcases hsubtopic with rfl | rfl
    · exact absurd hdecode (hother deviceId).1
    · exact absurd hdecode (hother deviceId).2

/-- What a status or heartbeat message does to the table. -/
theorem tables_message_of_change (message : DeviceMessage) (deviceId : StdString) (now : Timestamp)
    (hreliable : w.app.backend.database.Reliable) :
    (step V w (.message now (message.topic deviceId) message.payload)).2.tables =
      match message.change V now with
      | none => w.tables
      | some change => w.tables.modified deviceId change := by
  let x : Reregistration := ⟨message, now, ⟨deviceId, [], [], [], []⟩, 0⟩
  obtain ⟨w', hrun, -, htables⟩ :=
    Reregistration.yields_handling (V := V) (x := x) (t := w.tables) w ⟨hreliable, rfl⟩
  have hstep : (step V w (.message now (message.topic deviceId) message.payload)).2 = w' :=
    congrArg Prod.snd hrun
  rw [hstep, htables]
  rfl

/-- A message changes the table as its payload tells. -/
theorem fleet_message {now : Timestamp} {topic payload : StdString} (o : WiredOutput)
    (hreliable : w.app.backend.database.Reliable) (htopic : topic.NulFree) :
    (step V w (.message now topic payload)).2.tables.fleet =
      w.tables.fleet.applyOption ((WiredInput.message now topic payload).fleetEvent V o) := by
  -- The id of a topic without a NUL byte has none either.
  have hid {deviceId subtopic : StdString}
      (hdecode : DeviceManager.decodeTopic topic = some (deviceId, subtopic)) :
      deviceId.NulFree := by
    rw [(DeviceManager.decodeTopic_eq_some_iff.mp hdecode).1, NulFree] at htopic
    simp only [List.mem_append, not_or] at htopic
    exact htopic.1.1.2
  by_cases hstatus : ∃ deviceId, DeviceManager.decodeTopic topic = some (deviceId, lit "status")
  · obtain ⟨deviceId, hdecode⟩ := hstatus
    have heq : topic = (DeviceMessage.status payload).topic deviceId :=
      (DeviceManager.decodeTopic_eq_some_iff.mp hdecode).1
    have htables := tables_message_of_change (V := V) (.status payload) deviceId now hreliable
    rw [← heq] at htables
    simp only [DeviceMessage.change, DeviceMessage.payload] at htables
    cases hread : DeviceManager.readStatus V payload with
    | error e =>
      rw [hread] at htables
      simp only [WiredInput.fleetEvent, hdecode, hread]
      exact congrArg Tables.fleet htables
    | ok online =>
      rw [hread] at htables
      simp only [WiredInput.fleetEvent, hdecode, hread]
      exact (congrArg Tables.fleet htables).trans (Tables.fleet_modified (hid hdecode)
        (fun row => row.fleetEntry_writeBack online now) fun _ => rfl)
  by_cases hheartbeat : ∃ deviceId,
      DeviceManager.decodeTopic topic = some (deviceId, lit "heartbeat")
  · obtain ⟨deviceId, hdecode⟩ := hheartbeat
    have heq : topic = (DeviceMessage.heartbeat payload).topic deviceId :=
      (DeviceManager.decodeTopic_eq_some_iff.mp hdecode).1
    have htables := tables_message_of_change (V := V) (.heartbeat payload) deviceId now hreliable
    rw [← heq] at htables
    have hfleet := (congrArg Tables.fleet htables).trans (Tables.fleet_modified (hid hdecode)
      (f := id) (fun row => row.fleetEntry_writeBack (row.isConnected != 0) now) fun _ => rfl)
    rw [Option.map_id, id, Function.update_eq_self] at hfleet
    simp only [WiredInput.fleetEvent, hdecode]
    exact hfleet
  · have htables : (step V w (.message now topic payload)).2.tables = w.tables :=
      tables_message_of_other fun deviceId =>
        ⟨fun h => hstatus ⟨deviceId, h⟩, fun h => hheartbeat ⟨deviceId, h⟩⟩
    have hnone : (WiredInput.message now topic payload).fleetEvent V o = none := by
      simp only [WiredInput.fleetEvent]
      cases hdecode : DeviceManager.decodeTopic topic with
      | none => rfl
      | some decoded =>
        have hother : decoded.2 ≠ lit "status" := fun h =>
          hstatus ⟨decoded.1, by rw [hdecode, ← h]⟩
        simp [hother]
    rw [hnone, htables]
    rfl

/-! ## Steps -/

/-- Answering a request does not make the calls of the database fail. -/
theorem reliable_onRead (V : Vendor) (env : Env) (enableCors : Bool) (bReq : RawRequest)
    (s : AppState) (hreliable : s.backend.database.Reliable) :
    (HttpSession.onRead (registerHttpRoutes V env) enableCors
      bReq s).2.backend.database.Reliable := by
  let R : AppState → AppState → Prop := fun s s' =>
    s.backend.database.Reliable → s'.backend.database.Reliable
  have hdevices {α : Type} (p : Ports α) : (App.devices p).Respects R := fun s =>
    Backend.reliable_run p s.backend
  have F : WeakFrame V R :=
    { refl := fun _ => id
      trans := fun _ _ _ h h' => h' ∘ h
      list := fun _ => hdevices _
      register := fun _ _ => hdevices _
      sendCommand := fun _ _ _ => hdevices _
      query := fun opts s =>
        Database.reliable_run (SqliteSensorRepository.query opts) s.backend.database }
  refine F.rel_onRead enableCors (fun route req' res' hhandled => ?_) hreliable
  obtain ⟨-, hroute, -⟩ := HttpRouter.of_run_resolve_eq_handled hhandled
  exact F.rel_handler hroute (fun _ => id) (fun _ _ _ => hdevices _ s) (fun _ _ _ => id)
    fun _ _ _ _ _ _ _ _ => id

/-- No step makes later calls fail. -/
theorem reliable_step {i : WiredInput} (hreliable : w.app.backend.database.Reliable) :
    (step V w i).2.app.backend.database.Reliable := by
  have hothers : Insensitive fun w w' =>
      w.app.backend.database.Reliable → w'.app.backend.database.Reliable :=
    { trans := fun _ _ _ h h' => h' ∘ h
      told := fun h => by rw [h.app]; exact id
      devices := fun p w => Backend.reliable_run p w.app.backend
      monitor := fun _ _ => id
      client := fun _ _ => id }
  cases i with
  | request env enableCors bReq => exact reliable_onRead V env enableCors bReq w.app hreliable
  | _ => exact hothers.step w nofun hreliable

/-- A step without failures changes the table as its event says. -/
theorem fleet_step (hparses : V.ParsesUtf8) (hdumps : V.DumpsUtf8) {i : WiredInput}
    (hreliable : w.app.backend.database.Reliable) (hdeliverable : i.Deliverable) :
    (step V w i).2.tables.fleet =
      w.tables.fleet.applyOption (i.fleetEvent V (step V w i).1) := by
  have hsame : Evolution (· = · : Tables → Tables → Prop) :=
    ⟨fun _ => rfl, fun _ _ _ => Eq.trans⟩
  cases i with
  | request env enableCors bReq => exact fleet_request hparses hdumps hreliable
  | message now topic payload => exact fleet_message _ hreliable hdeliverable
  | poll now =>
    have hquiet : ∀ write, (WiredInput.poll now).MayStep write → write.Keeps (· = ·) := by
      rintro _ ⟨⟩
    exact congrArg Tables.fleet (tables_step hsame hquiet w).symm
  | subscribeAll =>
    have hquiet : ∀ write, WiredInput.subscribeAll.MayStep write → write.Keeps (· = ·) := by
      rintro _ ⟨⟩
    exact congrArg Tables.fleet (tables_step hsame hquiet w).symm
  | connectionLost => rfl
  | reconnected => rfl

/-! ## Runs -/

variable {w₀ : Wired} {tr : WiredTrace}

/-- A step adds the event that it tells. -/
theorem fleetEvents_snoc (tr : WiredTrace) (i : WiredInput) (o : WiredOutput) :
    fleetEvents V (tr ++ [(i, o)]) = fleetEvents V tr ++ (i.fleetEvent V o).toList := by
  rw [fleetEvents, List.filterMap_append, fleetEvents]
  cases h : i.fleetEvent V o <;> simp [h]

/-- The table after a run is what the events of the run make of the table before it. -/
theorem reliable_and_fleet_of_run (hparses : V.ParsesUtf8) (hdumps : V.DumpsUtf8)
    (hreliable : w₀.app.backend.database.Reliable)
    (hrun : Mealy.Run (step V) (fun _ _ i => i.Deliverable) w₀ tr w) :
    w.app.backend.database.Reliable ∧
      w.tables.fleet = w₀.tables.fleet.after (fleetEvents V tr) := by
  induction hrun with
  | nil => exact ⟨hreliable, rfl⟩
  | @snoc tr w i _ hdeliverable ih =>
    refine ⟨reliable_step ih.1, ?_⟩
    rw [fleet_step hparses hdumps ih.1 hdeliverable, ih.2, fleetEvents_snoc]
    cases i.fleetEvent V (step V w i).1 with
    | none => simp [Fleet.applyOption]
    | some event => simp [Fleet.applyOption]

/-! ## The answer of `GET /devices` -/

/-- The filter that `GET /devices` takes from the query. -/
def deviceFilter (req : HttpRequest) : DeviceFilter :=
  ⟨req.getQueryParam (lit "type"), req.getQueryParam (lit "online") == lit "true"⟩

/-- The value that a list of devices is the text of. -/
def deviceListing (devices : List (StdString × FleetEntry)) : Json :=
  .mkObject [(lit "devices", .array (devices.map fun d =>
      DeviceController.deviceToJson (d.2.device d.1))),
    (lit "total", .number devices.length)]

/-- `GET /devices` answers with the rows whose entries pass. -/
theorem run_getDevices {s : AppState} (req : HttpRequest) (res : HttpResponse)
    (hreliable : s.backend.database.Reliable) :
    ((DeviceController.getDevices V req res).run s).1 =
      (liftJson (V.dump (deviceListing (((selectDevices s.backend.database.tables).filter fun row =>
        row.fleetEntry.Passes (deviceFilter req)).map fun row => (row.id, row.fleetEntry))))).map
          (res.json 200) := by
  obtain ⟨filter, hfilter⟩ : ∃ filter, deviceFilter req = filter := ⟨_, rfl⟩
  rw [hfilter]
  have hgetAll : (Ports.getAll.run Backend.handle).run s.backend = _ := Backend.run_perform .getAll
  simp only [Backend.handle, Backend.run_onDatabase,
    SqliteDeviceRepository.run_getAll hreliable] at hgetAll
  obtain ⟨s', hlist⟩ : ∃ s', (App.devices (DeviceManager.list filter)).run s =
      (.ok (.ok (DeviceManager.applyFilter filter
        ((selectDevices s.backend.database.tables).map SqliteDeviceRepository.rowToDevice))),
        s') := by
    rw [App.devices, Stateful.run_zoom, DeviceManager.list, Program.run_bind,
      Stateful.run_bind_of_ok hgetAll]
    exact ⟨_, rfl⟩
  have hjson (row : DeviceRow) :
      DeviceController.deviceToJson (SqliteDeviceRepository.rowToDevice row) =
        DeviceController.deviceToJson (row.fleetEntry.device row.id) := by
    simp only [DeviceController.deviceToJson, SqliteDeviceRepository.rowToDevice,
      DeviceRow.fleetEntry, FleetEntry.device]
  rw [deviceFilter] at hfilter
  rw [DeviceController.getDevices, hfilter, Stateful.run_bind_of_ok hlist,
    DeviceManager.applyFilter_map]
  dsimp only
  rw [App.run_json]
  simp only [deviceListing, List.map_map, List.length_map, Function.comp_def, hjson]

/-- An answer of `GET /devices` that reports success lists the devices that pass the filter. -/
theorem getDevices_lists {env : Env} {enableCors : Bool} {bReq : RawRequest} {s : AppState}
    (hreliable : s.backend.database.Reliable)
    (hmethod : (HttpSession.beastToApp bReq).method = .get)
    (hpath : (HttpSession.beastToApp bReq).path = lit "/devices")
    (hstatus : (HttpSession.onRead (registerHttpRoutes V env) enableCors bReq s).1.status = 200) :
    ∃ devices, s.backend.database.tables.fleet.Lists (deviceFilter (HttpSession.beastToApp bReq))
        devices ∧
      V.dump (deviceListing devices) =
        .ok (HttpSession.onRead (registerHttpRoutes V env) enableCors bReq s).1.body := by
  rcases handled_or_unhandled V env enableCors bReq s with ⟨route, req, h⟩ | h
  · obtain rfl := h.route_eq ⟨.get, lit "/devices", DeviceController.getDevices V⟩
      (by simp [routes_registerHttpRoutes]) hmethod hpath
    have hfilter : deviceFilter req = deviceFilter (HttpSession.beastToApp bReq) := by
      rw [deviceFilter, deviceFilter, HttpRequest.getQueryParam, HttpRequest.getQueryParam,
        HttpRequest.getQueryParam, HttpRequest.getQueryParam, h.same.query]
    refine ⟨_, s.backend.database.tables.fleet_lists _, ?_⟩
    have hrun := run_getDevices (V := V) req {} hreliable
    rw [hfilter] at hrun
    rw [h.onRead] at hstatus ⊢
    simp only [hrun] at hstatus ⊢
    cases hdump : V.dump (deviceListing _) with
    | error e =>
      rw [hdump] at hstatus
      cases hstatus
    | ok text =>
      exact congrArg Except.ok
        (HttpSession.body_responseOf_ok (({} : HttpResponse).json 200 text)).symm
  · rcases h.status with hoptions | hstatus'
    · rw [hmethod] at hoptions
      cases hoptions
    · simp [hstatus] at hstatus'

/-- After a run of whole messages and requests, one at a time, without failures of the database and
with messages on topics that a broker delivers, the table is what the accepted registrations, the
accepted removals and the readable status messages make of the one before, in their order; a device
is online if its last report since it is known says so; and what `GET /devices` lists is these
devices, as far as they pass the filter. -/
theorem fleet_of_run (hparses : V.ParsesUtf8) (hdumps : V.DumpsUtf8)
    (hreliable : w₀.app.backend.database.Reliable)
    (hrun : Mealy.Run (step V) (fun _ _ i => i.Deliverable) w₀ tr w) :
    w.tables.fleet = w₀.tables.fleet.after (fleetEvents V tr) ∧
    (∀ deviceId, w.tables.fleet.Online deviceId ↔
      (w₀.tables.fleet.Online deviceId ∧ ∀ e ∈ fleetEvents V tr, ¬ e.Silences deviceId) ∨
        ∃ past future, fleetEvents V tr = past ++ .reported deviceId true :: future ∧
          (w₀.tables.fleet.after past deviceId).isSome ∧ ∀ e ∈ future, ¬ e.Silences deviceId) ∧
    ∀ env enableCors bReq,
      let req := HttpSession.beastToApp bReq
      let res := (HttpSession.onRead (registerHttpRoutes V env) enableCors bReq w.app).1
      req.method = .get → req.path = lit "/devices" → res.status = 200 →
        ∃ devices, (w₀.tables.fleet.after (fleetEvents V tr)).Lists (deviceFilter req) devices ∧
          V.dump (deviceListing devices) = .ok res.body := by
  obtain ⟨hreliable', hfleet⟩ := reliable_and_fleet_of_run hparses hdumps hreliable hrun
  refine ⟨hfleet, fun deviceId => ?_, fun env enableCors bReq hmethod hpath hstatus => ?_⟩
  · rw [hfleet]
    exact Fleet.online_after_iff _
  · rw [← hfleet]
    exact getDevices_lists hreliable' hmethod hpath hstatus

/-- The lamp reports that it is online, and later sends a heartbeat. -/
def lampReports : List WiredInput :=
  [.message 0 (DeviceManager.deviceTopic (lit "d-1") "status")
      (lit "\x7b\"status\":\"online\"\x7d"),
    .message 5000000000 (DeviceManager.deviceTopic (lit "d-1") "heartbeat") []]

/-- The lamp is online afterwards. -/
theorem fleet_of_run_lampReports :
    (Mealy.exec (step Vendor.reference) (oneLamp 0) lampReports).2.tables.fleet (lit "d-1") =
      some ⟨lit "lamp", lit "light", lit "mqtt", [], true⟩ := by
  have hallowed : Mealy.Allowed (step Vendor.reference) (fun _ _ i => i.Deliverable) []
      (oneLamp 0) lampReports := by
    exact ⟨by decide, by decide, trivial⟩
  have hreliable : (oneLamp 0).app.backend.database.Reliable := fun _ => rfl
  have hfleet := (fleet_of_run Vendor.parsesUtf8_reference Vendor.dumpsUtf8_reference hreliable
    (Mealy.Run.exec hallowed)).1
  rw [hfleet]
  decide +kernel

end Wired

end IotDashboard
