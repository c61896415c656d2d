import IotDashboard.Api.DeviceEvents
import IotDashboard.Api.FleetHistory
import IotDashboard.Flutter.Dashboard

/-!
# Live status and stored status

The dashboard fetches the devices once and then follows the status messages that the server
broadcasts. This is right as far as the server is concerned: it broadcasts one message for every
readable status message of a device whose id can be printed, in their order and nothing else; so the
fetched flags, brought up to date by the broadcasts, are the stored ones. What no broadcast tells is
that a device was registered anew or removed. A run handles whole messages and requests, one at a
time.

## Main definitions

* `Wired.broadcasts`: the texts broadcast so far;
* `FleetEvent.report`: what an event tells of the flag of a device;
* `Wired.statusReports`: what the status messages of a history say.

## Main results

* `Fleet.after_of_reports`: the fleet after events that are reports, as far as a device goes;
* `Wired.broadcasts_of_run`: the broadcasts of a run;
* `Wired.live_of_run`: the fetched devices, brought up to date.
-/

namespace IotDashboard

open StdString

/-- What the event tells of the flag of a device. -/
def FleetEvent.report : FleetEvent → Option (StdString × Bool)
  | reported deviceId online => some (deviceId, online)
  | _ => none

/-- The device as the app fetches it. -/
def FleetEntry.toDevice (deviceId : StdString) (entry : FleetEntry) : Flutter.Device :=
  ⟨deviceId, entry.name, entry.type, entry.protocol, entry.address, entry.online⟩

/-- As long as there are only reports about a device, its last report is what changes. -/
theorem Fleet.after_of_reports {fleet : Fleet} {deviceId : StdString} {events : List FleetEvent}
    (hreports : ∀ e ∈ events, e.deviceId = deviceId → e.report.isSome) :
    fleet.after events deviceId = (fleet deviceId).map fun entry =>
      { entry with
        online :=
          ((events.filterMap FleetEvent.report).mostRecent deviceId).getD entry.online } := by
  induction events using List.reverseRecOn with
  | nil => simp
  | append_singleton events event ih =>
    have ih := ih fun e he => hreports e (List.mem_append_left _ he)
    rw [after_snoc, List.mostRecent_filterMap_snoc]
    by_cases hid : deviceId = event.deviceId
    · have hreport := hreports event (by simp) hid.symm
      cases event with
      | reported id online =>
        obtain rfl : deviceId = id := hid
        have hself : (fleet.after events).apply (.reported deviceId online) deviceId =
            (fleet.after events deviceId).map fun entry => { entry with online } := apply_self
        rw [hself, ih]
        cases fleet deviceId <;> simp [FleetEvent.report]
      | registered req => cases hreport
      | unregistered id => cases hreport
    · rw [Fleet.apply_of_ne hid, ih]
      cases event with
      | reported id online =>
        have hne : deviceId ≠ id := hid
        simp [FleetEvent.report, hne]
      | registered req => rfl
      | unregistered id => rfl

namespace Wired

variable {V : Vendor} {w : Wired}

/-! ## Broadcasts -/

/-- The text that the call broadcasts. -/
def broadcastText : WsCall → Option StdString
  | .broadcast message => some message
  | .broadcastToTopic _ _ => none

/-- The texts broadcast so far. -/
def broadcasts (w : Wired) : List StdString := w.webSocket.filterMap broadcastText

/-- What the readable status messages of a history say, oldest first: the device and its flag. -/
def statusReports (V : Vendor) (tr : WiredTrace) : List (StdString × Bool) :=
  (fleetEvents V tr).filterMap FleetEvent.report

/-- The broadcast about a flag, if it can be printed. -/
def statusTexts (V : Vendor) (report : StdString × Bool) : List StdString :=
  match V.dump (deviceStatus report.1 report.2) with
  | .error _ => []
  | .ok text => [text]

/-- The flag that a call of the message handlers reports. -/
def reportedFlag : ManagerCall → Option (StdString × Bool)
  | .statusCallback deviceId online => some (deviceId, online)
  | _ => none

/-- A call broadcasts the flag that it reports. -/
theorem broadcasts_handle (e : ManagerCall) (w : Wired) :
    ((handle V e).run w).2.broadcasts =
      w.broadcasts ++ (reportedFlag e).toList.flatMap (statusTexts V) := by
  cases e with
  | port e => exact (List.append_nil _).symm
  | statusCallback deviceId online =>
    show ((catching (statusCallback V deviceId online)).run w).2.broadcasts = w.broadcasts ++ _
    rw [state_catching]
    simp only [reportedFlag, Option.toList_some, List.flatMap_singleton, statusTexts]
    cases hdump : V.dump (deviceStatus deviceId online) with
    | error x =>
      have hthrows : (statusCallback V deviceId online).run w = (.error (.json x), w) := by
        rw [statusCallback, dump, hdump]
        rfl
      rw [hthrows, List.append_nil]
    | ok text =>
      have hcalls : (statusCallback V deviceId online).run w = (.ok (), { w with
          webSocket := (w.webSocket ++ [.broadcast text]) ++
            [.broadcastToTopic (lit "devices") text] }) := by
        rw [statusCallback, dump, hdump]
        rfl
      rw [hcalls]
      simp [broadcasts, broadcastText]
  | sensorCallback reading =>
    -- Readings are sent to topics only.
    have htopic (topic message : StdString) : (broadcastToTopic topic message).Respects
        fun w w' => w'.broadcasts = w.broadcasts := fun w => by
      show ((w.webSocket ++ [WsCall.broadcastToTopic topic message]).filterMap broadcastText) = _
      rw [List.filterMap_append]
      exact List.append_nil _
    have htrans (a b c : Wired) (h : b.broadcasts = a.broadcasts)
        (h' : c.broadcasts = b.broadcasts) : c.broadcasts = a.broadcasts := h'.trans h
    show ((catching (sensorCallback V reading)).run w).2.broadcasts = w.broadcasts ++ []
    rw [state_catching, List.append_nil]
    refine Stateful.respects_bind htrans (fun _ => rfl) (fun _ => Stateful.respects_bind htrans
      (htopic _ _) fun _ => Stateful.respects_bind htrans (fun _ => rfl) fun _ =>
        Stateful.respects_bind htrans (htopic _ _) fun _ => Stateful.respects_bind htrans
          (fun _ => rfl) fun r => ?_) w
    split
    · exact fun _ => rfl
    · split <;> exact fun _ => rfl

/-- So what a handler broadcasts are the flags that its calls report. -/
theorem broadcasts_run {α : Type} (p : Manager α) (w : Wired) :
    ((p.run (handle V)).run w).2.broadcasts =
      w.broadcasts ++ ((p.calls (handle V) w).filterMap reportedFlag).flatMap (statusTexts V) := by
  rw [Program.log_run broadcasts_handle, List.filterMap_eq_flatMap_toList, List.flatMap_assoc]

/-- A readable status message reports its flag, after the device was updated if it is stored. -/
theorem reportedFlags_handleStatusMessage {now : Timestamp} {deviceId payload : StdString}
    {online : Bool} (hread : DeviceManager.readStatus V payload = .ok online)
    (hreliable : w.app.backend.database.Reliable) :
    ((DeviceManager.handleStatusMessage V now deviceId payload).calls (handle V) w).filterMap
      reportedFlag = [(deviceId, online)] := by
  let report : Manager Unit := .call (.statusCallback deviceId online) fun r =>
    Manager.catchJson (.ofExcept (liftJson r))
  have hreport (w : Wired) : (report.calls (handle V) w).filterMap reportedFlag =
      [(deviceId, online)] := by
    rw [Program.calls, List.filterMap_cons]
    rcases (handle V (.statusCallback deviceId online)).run w with ⟨_ | r, w'⟩
    · rfl
    · cases r <;> rfl
  obtain ⟨w₁, hget, hw₁⟩ := @yields_getById V w.tables deviceId w ⟨hreliable, rfl⟩
  rw [Manager.getById, Program.run_perform] at hget
  rw [DeviceManager.handleStatusMessage, hread]
  show ((Program.call (.port (.getById deviceId)) _).calls (handle V) w).filterMap reportedFlag = _
  rw [Program.calls, hget]
  dsimp only
  rw [List.filterMap_cons]
  cases w.tables.devices.find? (·.id = deviceId) with
  | none => exact hreport w₁
  | some row =>
    obtain ⟨result, hupdate⟩ := yields_update (V := V) (t := w.tables)
      { SqliteDeviceRepository.rowToDevice row with isConnected := online, lastSeen := now }
    obtain ⟨w₂, hrun, -⟩ := hupdate w₁ hw₁
    rw [Manager.update, Program.run_perform] at hrun
    show ((Program.call (.port (.update _)) _).calls (handle V) w₁).filterMap reportedFlag = _
    rw [Program.calls, hrun]
    exact hreport w₂

/-- The flags that a message reports, as long as the calls of the database do not fail. -/
theorem reportedFlags_message {now : Timestamp} {topic payload : StdString} (o : WiredOutput)
    (hreliable : w.app.backend.database.Reliable) :
    ((DeviceManager.handleMqttMessage V now topic payload).calls (handle V) w).filterMap
        reportedFlag =
      (((WiredInput.message now topic payload).fleetEvent V o).bind FleetEvent.report).toList := by
  have hnone {p : Manager Unit} (hp : p.Within (fun e => reportedFlag e = none) fun _ _ => True) :
      (p.calls (handle V) w).filterMap reportedFlag = [] :=
    List.filterMap_eq_nil_iff.mpr fun e he =>
      Program.of_mem_calls (fun _ _ _ _ _ => trivial) hp he
  simp only [DeviceManager.handleMqttMessage, WiredInput.fleetEvent]
  cases DeviceManager.decodeTopic topic with
  | none => rfl
  | some decoded =>
    obtain ⟨deviceId, subtopic⟩ := decoded
    dsimp only
    by_cases hstatus : subtopic = lit "status"
    · rw [if_pos hstatus, if_neg (not_not.mpr hstatus)]
      cases hread : DeviceManager.readStatus V payload with
      | error x =>
        rw [DeviceManager.handleStatusMessage, hread]
        rfl
      | ok online => exact reportedFlags_handleStatusMessage hread hreliable
    · rw [if_neg hstatus, if_pos hstatus]
      refine hnone ?_
      split
      · exact DeviceManager.within_handleSensorMessage fun _ => rfl
      split
      · exact DeviceManager.within_handleHeartbeat rfl fun _ _ => rfl
      · trivial

/-- Nobody is watched by the monitor. -/
def Unwatched (w : Wired) : Prop := w.monitor.devices.entries = []

private theorem poll_of_unwatched (h : w.Unwatched) (now : Timestamp) :
    w.monitor.poll now = ([], w.monitor) := by
  rw [HeartbeatMonitor.poll, h]
  rfl

/-- The application never asks the monitor to watch a device. -/
theorem unwatched_step (h : w.Unwatched) (i : WiredInput) : (step V w i).2.Unwatched := by
  rw [Unwatched, monitor_step]
  cases i with
  | poll now =>
    dsimp only
    rw [poll_of_unwatched h]
    exact h
  | _ => exact h

/-- A step broadcasts the flag that its event reports, and nothing else. -/
theorem broadcasts_step (hreliable : w.app.backend.database.Reliable) (hunwatched : w.Unwatched)
    (i : WiredInput) :
    (step V w i).2.broadcasts = w.broadcasts ++
      ((i.fleetEvent V (step V w i).1).bind FleetEvent.report).toList.flatMap (statusTexts V) := by
  cases i with
  | message now topic payload =>
    rw [← reportedFlags_message (step V w (.message now topic payload)).1 hreliable]
    exact broadcasts_run _ w
  | request env enableCors bReq =>
    have hnone : ((WiredInput.request env enableCors bReq).fleetEvent V
        (step V w (.request env enableCors bReq)).1).bind FleetEvent.report = none := by
      simp only [step, WiredInput.fleetEvent]
      split
      · rfl
      split
      · cases DeviceController.requestOf V _ <;> rfl
      split <;> rfl
    rw [hnone]
    exact (List.append_nil _).symm
  | poll now =>
    have hquiet : (step V w (.poll now)).2 = w := by
      rw [step, poll_of_unwatched hunwatched]
      rfl
    rw [hquiet]
    exact (List.append_nil _).symm
  | _ => exact (List.append_nil _).symm

/-! ## Runs -/

variable {w₀ : Wired} {tr : WiredTrace}

/-- What is broadcast in a run are the reported flags. -/
theorem broadcasts_of_run (hreliable : w₀.app.backend.database.Reliable)
    (hunwatched : w₀.Unwatched)
    (hrun : Mealy.Run (step V) (fun _ _ i => i.Deliverable) w₀ tr w) :
    w.broadcasts = w₀.broadcasts ++ (statusReports V tr).flatMap (statusTexts V) := by
  have h : w.app.backend.database.Reliable ∧ w.Unwatched ∧
      w.broadcasts = w₀.broadcasts ++ (statusReports V tr).flatMap (statusTexts V) := by
    induction hrun with
    | nil => exact ⟨hreliable, hunwatched, (List.append_nil _).symm⟩
    | @snoc tr w i _ _ ih =>
      obtain ⟨hreliable, hunwatched, hbroadcasts⟩ := ih
      refine ⟨reliable_step hreliable, unwatched_step hunwatched i, ?_⟩
      rw [broadcasts_step hreliable hunwatched, hbroadcasts, statusReports, statusReports,
        fleetEvents_snoc, List.filterMap_append, List.flatMap_append, List.append_assoc]
      congr 2
      cases i.fleetEvent V (step V w i).1 <;> rfl
  exact h.2.2

/-- The message about a reported flag, if it can be printed. -/
def heardOf (V : Vendor) (report : StdString × Bool) : List Flutter.StatusMessage :=
  match V.dump (deviceStatus report.1 report.2) with
  | .error _ => []
  | .ok _ => [.status report.1 report.2]

private theorem forall₂_heardOf (reports : List (StdString × Bool)) :
    List.Forall₂ (fun m text => V.dump m.toJson = .ok text) (reports.flatMap (heardOf V))
      (reports.flatMap (statusTexts V)) := by
  induction reports with
  | nil => exact .nil
  | cons report reports ih =>
    rw [List.flatMap_cons, List.flatMap_cons, heardOf, statusTexts]
    cases hdump : V.dump (deviceStatus report.1 report.2) with
    | error x => exact ih
    | ok text => exact .cons hdump ih

/-- No report about a device with a UTF-8 id is missed. -/
theorem mostRecent_heardOf (hdumps : V.DumpsUtf8) {deviceId : StdString}
    (hutf8 : deviceId.isUtf8 = true) (reports : List (StdString × Bool)) :
    ((reports.flatMap (heardOf V)).map Flutter.StatusMessage.entry).mostRecent deviceId =
      reports.mostRecent deviceId := by
  induction reports using List.reverseRecOn with
  | nil => rfl
  | append_singleton reports report ih =>
    obtain ⟨id, online⟩ := report
    rw [List.flatMap_append, List.flatMap_singleton, List.map_append, List.mostRecent_snoc]
    by_cases hid : deviceId = id
    · obtain ⟨text, htext⟩ := hdumps _ (DeviceEvent.utf8_deviceStatus (hid ▸ hutf8) online)
      rw [if_pos hid, heardOf, htext]
      exact (List.mostRecent_snoc _ id online deviceId).trans (if_pos hid)
    · rw [if_neg hid, ← ih, heardOf]
      cases V.dump (deviceStatus id online) with
      | error x => rw [List.map_nil, List.append_nil]
      | ok text => exact (List.mostRecent_snoc _ id online deviceId).trans (if_neg hid)

/-- In a run of whole messages and requests, one at a time and without failures of the database, the
server broadcasts exactly one text for each readable status message whose id can be printed, in
their order and nothing else. Every stored device with a UTF-8 id is, at the end of the run, what
the fetched device becomes by the last of these messages about it, as long as it is neither
registered anew nor removed. -/
theorem live_of_run (hparses : V.ParsesUtf8) (hdumps : V.DumpsUtf8)
    (hreliable : w₀.app.backend.database.Reliable) (hunwatched : w₀.Unwatched)
    (hrun : Mealy.Run (step V) (fun _ _ i => i.Deliverable) w₀ tr w) :
    let heard := (statusReports V tr).flatMap (heardOf V)
    let texts := (statusReports V tr).flatMap (statusTexts V)
    w.broadcasts = w₀.broadcasts ++ texts ∧
    List.Forall₂ (fun m text => V.dump m.toJson = .ok text) heard texts ∧
    ∀ deviceId entry, deviceId.isUtf8 = true → w₀.tables.fleet deviceId = some entry →
      (∀ e ∈ fleetEvents V tr, e.deviceId = deviceId → e.report.isSome) →
        (w.tables.fleet deviceId).map (FleetEntry.toDevice deviceId) =
          some (Flutter.latest heard (entry.toDevice deviceId)) := by
  refine ⟨broadcasts_of_run hreliable hunwatched hrun, forall₂_heardOf _, ?_⟩
  intro deviceId entry hutf8 hentry hreports
  rw [(reliable_and_fleet_of_run hparses hdumps hreliable hrun).2,
    Fleet.after_of_reports hreports, hentry]
  simp only [Option.map_some, FleetEntry.toDevice, Flutter.latest, mostRecent_heardOf hdumps hutf8]
  rfl

/-- The lamp is fetched while it is offline, reports that it is online, and sends a heartbeat. -/
theorem live_of_run_lampReports :
    let w := (Mealy.exec (step Vendor.reference) (oneLamp 0) lampReports).2
    w.broadcasts = [lit ("\x7b\"data\":\x7b\"device_id\":\"d-1\",\"online\":true\x7d," ++
      "\"type\":\"device_status\"\x7d")] ∧
    (w.tables.fleet (lit "d-1")).map (FleetEntry.toDevice (lit "d-1")) =
      some (Flutter.latest [.status (lit "d-1") true]
        ⟨lit "d-1", lit "lamp", lit "light", lit "mqtt", [], false⟩) := by
  have hallowed : Mealy.Allowed (step Vendor.reference) (fun _ _ i => i.Deliverable) []
      (oneLamp 0) lampReports := by
    exact ⟨by decide, by decide, trivial⟩
  have hreliable : (oneLamp 0).app.backend.database.Reliable := fun _ => rfl
  obtain ⟨htexts, -, hlatest⟩ := live_of_run Vendor.parsesUtf8_reference
    Vendor.dumpsUtf8_reference hreliable rfl (Mealy.Run.exec hallowed)
  have hreports : statusReports Vendor.reference
      (Mealy.exec (step Vendor.reference) (oneLamp 0) lampReports).1 = [(lit "d-1", true)] := by
    decide +kernel
  rw [hreports] at htexts hlatest
  refine ⟨htexts.trans (by decide +kernel), ?_⟩
  exact hlatest (lit "d-1") ⟨lit "lamp", lit "light", lit "mqtt", [], false⟩ (by decide)
    (by decide) (by decide +kernel)

end Wired

end IotDashboard
