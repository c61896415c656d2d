import IotDashboard.Api.Controllers

/-!
# What the device repository reports

A write is meant to be reported as done exactly if it was done, with the table unchanged
otherwise; and so a registration is to succeed exactly for a new id, after which the device can be
read back. `Step` does not tell success from failure, so what is reported is inferred: always
success by `Add`, and from the change counter by `Update` and `Remove`, whatever a failed statement
leaves there.

## Main definitions

* `WriteTruthful`: what an operation reports and leaves agrees with what its statement did;
* `RegisterTruthful` and `PostTruthful`: the same for the operations built on `Add`.

## Main results

* `deviceWrites_truthful_iff`: when each of the five operations is truthful;
* `duplicate_reported_added`: a device that is stored already is reported as added.
-/

namespace IotDashboard

open StdString SqliteDeviceRepository

/-- The operation, which stepped the statement `w` on the connection `d`, reported success and left
the new tables if the statement changed a row; and otherwise reported an error and left the tables
alone. -/
def WriteTruthful (w : Write) (d : Database)
    (run : Except CxxException (Result Unit) × Database) : Prop :=
  match d.outcome w with
  | some (tables, _ + 1) => run.1 = .ok (.ok ()) ∧ run.2.tables = tables
  | _ => (∃ e, run.1 = .ok (.error e)) ∧ run.2.tables = d.tables

/-- What `GetById` answers when no call fails. -/
def storedDevice (d : Database) (deviceId : StdString) : Except CxxException (Result DeviceInfo) :=
  (((getById deviceId).run Database.handle).run { d with faults := fun _ => false }).1

/-- The registration of `device` succeeded exactly if its id was new, and if it did the device is
read back as `record`. -/
def RegisterTruthful (b : Backend) (device record : DeviceInfo)
    (run : Except CxxException (Result DeviceInfo) × Backend) : Prop :=
  (run.1 = .ok (.ok device) ↔ device.id ∉ b.database.tables.ids) ∧
    (run.1 = .ok (.ok device) → storedDevice run.2.database device.id = .ok (.ok record))

/-- The request was answered with 201 if the id was new and with 409 otherwise, and if with 201 the
device is read back as `record`. -/
def PostTruthful (b : Backend) (device record : DeviceInfo)
    (run : Except CxxException HttpResponse × AppState) : Prop :=
  ∃ res, run.1 = .ok res ∧
    (device.id ∉ b.database.tables.ids → res.status = 201) ∧
    (device.id ∈ b.database.tables.ids → res.status = 409) ∧
    (res.status = 201 → storedDevice run.2.backend.database device.id = .ok (.ok record))

/-- A registration of the device adds it as it is, up to the precision of its time stamp: the id is
new, the insert does not fail, and no text is cut at a NUL byte. -/
def Registers (d : Database) (device : DeviceInfo) : Prop :=
  device.id ∉ d.tables.ids ∧ d.faults 1 = false ∧ device.NulFree

variable {d : Database} {device : DeviceInfo} {deviceId : StdString}

/-! ## The repository -/

/-- The insert succeeds exactly if no call fails and the id is new. -/
private lemma outcome_insertDevice (d : Database) (row : DeviceRow) :
    (∃ h : row.id ∉ d.tables.ids, d.faults 0 = false ∧
      d.outcome (.insertDevice row) = some (d.tables.insertDevice row h, 1)) ∨
    ((d.faults 0 = true ∨ row.id ∈ d.tables.ids) ∧ d.outcome (.insertDevice row) = none) := by
  by_cases hfault : d.faults 0 = true
  · exact .inr ⟨.inl hfault, if_pos hfault⟩
  by_cases hstored : row.id ∈ d.tables.ids
  · right
    refine ⟨.inr hstored, ?_⟩
    rw [Database.outcome, if_neg hfault, Write.apply, dif_pos hstored]
  · left
    refine ⟨hstored, Bool.eq_false_iff.mpr hfault, ?_⟩
    rw [Database.outcome, if_neg hfault, Write.apply, dif_neg hstored]

/-- `Add` is truthful exactly if its insert succeeds. -/
theorem add_truthful_iff (hprepare : d.faults 0 = false) :
    WriteTruthful (.insertDevice (bindDevice device)) (d.tick 1)
        (((add device).run Database.handle).run d) ↔
      d.faults 1 = false ∧ device.id ∉ d.tables.ids := by
  rw [run_add hprepare, WriteTruthful]
  rcases outcome_insertDevice (d.tick 1) (bindDevice device) with
    ⟨hnew, hfault, houtcome⟩ | ⟨hrefused, houtcome⟩
  · rw [houtcome, Database.step_of_outcome _ houtcome]
    exact iff_of_true ⟨rfl, rfl⟩ ⟨hfault, hnew⟩
  · rw [houtcome]
    refine iff_of_false (fun h => ?_) (fun h => ?_)
    · -- An error was due, but `Add` reported success.
      obtain ⟨⟨e, he⟩, -⟩ := h
      cases he
    · rcases hrefused with hfault | hstored
      · exact Bool.eq_false_iff.mp h.1 hfault
      · exact h.2 hstored

/-- A write that goes by the change counter is truthful exactly if its statement succeeds or its
failure leaves the counter at zero. -/
private lemma reportChanges_truthful_iff {w : Write} {tables : Tables} {n : ℕ}
    (happly : w.apply d.tables = some (tables, n)) (hzero : n = 0 → tables = d.tables) :
    WriteTruthful w d (.ok (reportChanges (d.step w).2.changes), (d.step w).2) ↔
      d.faults 0 = false ∨ d.changesOnFailure d.changes = 0 := by
  by_cases hfault : d.faults 0 = true
  · have houtcome : d.outcome w = none := if_pos hfault
    rw [WriteTruthful, houtcome, Database.step_of_failure _ houtcome]
    -- The counter may still hold what an earlier statement changed.
    by_cases hchanges : d.changesOnFailure d.changes = 0
    · simp [reportChanges, Database.tick, hchanges]
    · simp [reportChanges, Database.tick, hchanges, hfault]
  · -- The counter was set by this statement.
    have houtcome : d.outcome w = some (tables, n) := (if_neg hfault).trans happly
    rw [WriteTruthful, houtcome, Database.step_of_outcome _ houtcome]
    cases n with
    | zero => simp [reportChanges, hzero rfl, hfault]
    | succ n => simp [reportChanges, hfault]

/-- When `Update` is truthful. -/
theorem update_truthful_iff (hprepare : d.faults 0 = false) :
    WriteTruthful (.updateDevice (bindDevice device)) (d.tick 1)
        (((update device).run Database.handle).run d) ↔
      d.faults 1 = false ∨ d.changesOnFailure d.changes = 0 := by
  rw [run_update hprepare]
  refine reportChanges_truthful_iff (d := d.tick 1) rfl fun hzero => ?_
  exact Tables.updateDevice_of_notMem (Tables.countP_eq_zero_iff.mp hzero)

/-- When `Remove` is truthful. -/
theorem remove_truthful_iff (hprepare : d.faults 0 = false) :
    WriteTruthful (.deleteDevice deviceId) (d.tick 1)
        (((remove deviceId).run Database.handle).run d) ↔
      d.faults 1 = false ∨ d.changesOnFailure d.changes = 0 := by
  rw [run_remove hprepare]
  refine reportChanges_truthful_iff (d := d.tick 1) rfl fun hzero => ?_
  exact Tables.deleteDevice_of_notMem (Tables.countP_eq_zero_iff.mp hzero)

/-! ## Registration -/

/-- After the insert of a device with a new id, its id selects the row if the insert succeeded, and
nothing otherwise. -/
private lemma storedDevice_step_insertDevice (d : Database) (device : DeviceInfo)
    (hnew : device.id ∉ d.tables.ids) :
    storedDevice (d.step (.insertDevice (bindDevice device))).2 device.id =
      .ok (if d.faults 0 then .error .deviceNotFound
        else .ok (rowToDevice (bindDevice device))) := by
  rcases outcome_insertDevice d (bindDevice device) with
    ⟨hnew, hfault, houtcome⟩ | ⟨hrefused, houtcome⟩
  · rw [Database.step_of_outcome _ houtcome, storedDevice, run_getById rfl rfl]
    have hfind : (d.tables.insertDevice (bindDevice device) hnew).devices.find?
        (·.id = device.id) = some (bindDevice device) :=
      d.tables.find?_insertDevice (bindDevice device) hnew
    simp only [hfind, hfault, Bool.false_eq_true, if_false]
  · have hfault : d.faults 0 = true := hrefused.resolve_right hnew
    rw [Database.step_of_failure _ houtcome, storedDevice, run_getById rfl rfl]
    have hfind : d.tables.devices.find? (·.id = device.id) = none := by
      rw [List.find?_eq_none]
      intro row hrow hid
      exact hnew (List.mem_map.mpr ⟨row, hrow, by simpa using hid⟩)
    have htables : (d.tick 1).tables = d.tables := rfl
    simp only [htables, hfind, hfault, if_true]

/-- A registration is reported whatever happens, so it is truthful exactly if the id is new, the
insert succeeds and the record is what the row reads back as. -/
theorem register_truthful_iff {b : Backend} {now : Timestamp} {req : RegisterDeviceRequest}
    {record : DeviceInfo} (hprepare : b.database.faults 0 = false) :
    RegisterTruthful b (req.device now) record
        (((DeviceManager.register now req).run Backend.handle).run b) ↔
      req.id ∉ b.database.tables.ids ∧ b.database.faults 1 = false ∧
        rowToDevice (bindDevice (req.device now)) = record := by
  rw [Backend.run_register now req hprepare, RegisterTruthful]
  by_cases hnew : req.id ∈ b.database.tables.ids
  · -- A device of a stored id is reported as registered all the same.
    refine iff_of_false (fun h => ?_) fun h => h.1 hnew
    exact h.1.mp rfl hnew
  · have hstored := storedDevice_step_insertDevice (b.database.tick 1) (req.device now) hnew
    rw [show (req.device now).id = req.id from rfl] at hstored ⊢
    rw [hstored]
    cases hfault : b.database.faults 1 <;> simp [Database.tick, hnew, hfault]

/-- When the registered device can be read back up to the precision of its time stamp. -/
private lemma register_truncated_iff {b : Backend} {now : Timestamp} {req : RegisterDeviceRequest}
    (hprepare : b.database.faults 0 = false) :
    RegisterTruthful b (req.device now) (req.device now).truncated
        (((DeviceManager.register now req).run Backend.handle).run b) ↔
      Registers b.database (req.device now) := by
  rw [register_truthful_iff hprepare, rowToDevice_bindDevice]
  rfl

/-- When the registered device can be read back as it was. -/
private lemma register_exact_iff {b : Backend} {now : Timestamp} {req : RegisterDeviceRequest}
    (hprepare : b.database.faults 0 = false) :
    RegisterTruthful b (req.device now) (req.device now)
        (((DeviceManager.register now req).run Backend.handle).run b) ↔
      Registers b.database (req.device now) ∧ (req.device now).truncated = req.device now := by
  rw [register_truthful_iff hprepare, rowToDevice_bindDevice_eq_self, Registers]
  simp only [and_assoc]
  rfl

/-- A request is read if its five fields are. -/
theorem readRequest_eq_ok_iff {body : Json} {request : RegisterDeviceRequest} :
    DeviceController.readRequest body = .ok request ↔
      body.value Json.getString (lit "id") [] = .ok request.id ∧
      body.value Json.getString (lit "name") [] = .ok request.name ∧
      body.value Json.getString (lit "type") [] = .ok request.type ∧
      body.value Json.getString (lit "protocol") (lit "mqtt") = .ok request.protocol ∧
      body.value Json.getString (lit "address") [] = .ok request.address := by
  constructor
  · intro h
    -- The five fields are read in turn, and the first one of another type would throw.
    obtain ⟨id, hid, h⟩ := Except.exists_of_bind_eq_ok h
    obtain ⟨name, hname, h⟩ := Except.exists_of_bind_eq_ok h
    obtain ⟨type, htype, h⟩ := Except.exists_of_bind_eq_ok h
    obtain ⟨protocol, hprotocol, h⟩ := Except.exists_of_bind_eq_ok h
    obtain ⟨address, haddress, h⟩ := Except.exists_of_bind_eq_ok h
    cases h
    exact ⟨hid, hname, htype, hprotocol, haddress⟩
  · rintro ⟨hid, hname, htype, hprotocol, haddress⟩
    rw [DeviceController.readRequest, hid, hname, htype, hprotocol, haddress]
    rfl

/-- What a body of UTF-8 texts asks to register consists of UTF-8 texts. -/
private lemma isUtf8_of_readRequest {body : Json} {request : RegisterDeviceRequest}
    (hbody : body.Utf8) (hread : DeviceController.readRequest body = .ok request) :
    request.id.isUtf8 = true ∧ request.name.isUtf8 = true ∧ request.type.isUtf8 = true ∧
      request.protocol.isUtf8 = true ∧ request.address.isUtf8 = true := by
  obtain ⟨hid, hname, htype, hprotocol, haddress⟩ := readRequest_eq_ok_iff.mp hread
  exact ⟨Json.isUtf8_of_value hbody rfl hid, Json.isUtf8_of_value hbody rfl hname,
    Json.isUtf8_of_value hbody rfl htype, Json.isUtf8_of_value hbody (by decide) hprotocol,
    Json.isUtf8_of_value hbody rfl haddress⟩

/-- The device that such a request registers can be printed. -/
private lemma exists_dump_deviceToJson {V : Vendor} (hparses : V.ParsesUtf8) (hdumps : V.DumpsUtf8)
    {text : StdString} {body : Json} {request : RegisterDeviceRequest}
    (hparse : V.parse text = .ok body)
    (hread : DeviceController.readRequest body = .ok request) (now : Timestamp) :
    ∃ t, V.dump (DeviceController.deviceToJson (request.device now)) = .ok t := by
  obtain ⟨hid, hname, htype, hprotocol, haddress⟩ :=
    isUtf8_of_readRequest (hparses _ _ hparse) hread
  refine hdumps _ (Json.utf8_mkObject ?_)
  simp only [List.forall_mem_cons, RegisterDeviceRequest.device]
  exact ⟨⟨by decide, .string hid⟩, ⟨by decide, .string hname⟩, ⟨by decide, .string htype⟩,
    ⟨by decide, .string hprotocol⟩, ⟨by decide, .string haddress⟩, ⟨by decide, .boolean _⟩, by simp⟩

/-- A request with an id and a name is answered with 201, after the registration has run. -/
theorem run_postDevices {V : Vendor} (hparses : V.ParsesUtf8) (hdumps : V.DumpsUtf8)
    (env : Env) {s : AppState} {req : HttpRequest} (res : HttpResponse) {body : Json}
    {request : RegisterDeviceRequest} (hparse : V.parse req.body = .ok body)
    (hread : DeviceController.readRequest body = .ok request) (hid : request.id ≠ [])
    (hname : request.name ≠ []) (hprepare : s.backend.database.faults 0 = false) :
    ∃ text, (DeviceController.postDevices V env req res).run s =
      (.ok (res.json 201 text), { s with
        backend := (((DeviceManager.register env.now request).run Backend.handle).run
          s.backend).2 }) := by
  obtain ⟨text, htext⟩ := exists_dump_deviceToJson hparses hdumps hparse hread env.now
  refine ⟨text, ?_⟩
  have hguard : ¬(request.id.isEmpty || request.name.isEmpty) = true := by
    simp [hid, hname]
  have hregister : (App.devices (DeviceManager.register env.now request)).run s =
      (.ok (.ok (request.device env.now)), { s with
        backend := (((DeviceManager.register env.now request).run Backend.handle).run
          s.backend).2 }) := by
    rw [App.devices, Stateful.run_zoom, Backend.run_register _ _ hprepare]
  -- Body, fields, check, registration and answer, one after the other.
  rw [DeviceController.postDevices, hparse]
  show (Stateful.ofExcept (liftJson (DeviceController.readRequest body)) >>= _).run s = _
  rw [hread, liftJson_ok, Stateful.run_bind_of_ok (Stateful.run_ofExcept _ s), if_neg hguard,
    Stateful.run_bind_of_ok hregister]
  show (Stateful.ofExcept (liftJson (V.dump _)) >>= _).run _ = _
  rw [htext, liftJson_ok, Stateful.run_bind_of_ok (Stateful.run_ofExcept _ _)]
  rfl

/-- `POST /devices` is truthful exactly when the registration is. -/
theorem post_truthful_iff {V : Vendor} (hparses : V.ParsesUtf8) (hdumps : V.DumpsUtf8)
    (env : Env) {s : AppState} {req : HttpRequest} (res : HttpResponse) {body : Json}
    {request : RegisterDeviceRequest} {record : DeviceInfo}
    (hparse : V.parse req.body = .ok body)
    (hread : DeviceController.readRequest body = .ok request) (hid : request.id ≠ [])
    (hname : request.name ≠ []) (hprepare : s.backend.database.faults 0 = false) :
    PostTruthful s.backend (request.device env.now) record
        ((DeviceController.postDevices V env req res).run s) ↔
      RegisterTruthful s.backend (request.device env.now) record
        (((DeviceManager.register env.now request).run Backend.handle).run s.backend) := by
  obtain ⟨text, hrun⟩ := run_postDevices hparses hdumps env res hparse hread hid hname hprepare
  rw [hrun, PostTruthful, RegisterTruthful, Backend.run_register _ _ hprepare]
  -- Both claim that the id was new and that the device can be read back.
  by_cases hnew : (request.device env.now).id ∈ s.backend.database.tables.ids <;> simp [hnew]

/-! ## The five operations -/

/-- What is reported of a device write is true exactly if its statement does not fail: for an
insert, by a call that fails or an id that is stored already; for an update or a removal, by a call
that fails and leaves a count, such as that of an earlier statement. What is registered is read back
up to the precision of the time stamp exactly if moreover no text holds a NUL byte, and as it was
exactly if moreover the time stamp is a whole number of milliseconds. -/
theorem deviceWrites_truthful_iff (V : Vendor) (hparses : V.ParsesUtf8) (hdumps : V.DumpsUtf8)
    (d : Database) (hprepare : d.faults 0 = false) :
    (∀ device, WriteTruthful (.insertDevice (bindDevice device)) (d.tick 1)
        (((add device).run Database.handle).run d) ↔
      d.faults 1 = false ∧ device.id ∉ d.tables.ids) ∧
    (∀ device, WriteTruthful (.updateDevice (bindDevice device)) (d.tick 1)
        (((update device).run Database.handle).run d) ↔
      d.faults 1 = false ∨ d.changesOnFailure d.changes = 0) ∧
    (∀ deviceId, WriteTruthful (.deleteDevice deviceId) (d.tick 1)
        (((remove deviceId).run Database.handle).run d) ↔
      d.faults 1 = false ∨ d.changesOnFailure d.changes = 0) ∧
    (∀ b now req, b.database = d →
      let device := RegisterDeviceRequest.device req now
      let run := ((DeviceManager.register now req).run Backend.handle).run b
      (RegisterTruthful b device device.truncated run ↔ Registers d device) ∧
      (RegisterTruthful b device device run ↔
        Registers d device ∧ device.truncated = device)) ∧
    (∀ env s req res body request, s.backend.database = d → V.parse req.body = .ok body →
      DeviceController.readRequest body = .ok request → request.id ≠ [] → request.name ≠ [] →
      let device := request.device env.now
      let run := (DeviceController.postDevices V env req res).run s
      (PostTruthful s.backend device device.truncated run ↔ Registers d device) ∧
      (PostTruthful s.backend device device run ↔
        Registers d device ∧ device.truncated = device)) := by
  refine ⟨fun _ => add_truthful_iff hprepare, fun _ => update_truthful_iff hprepare,
    fun _ => remove_truthful_iff hprepare, ?_, ?_⟩
  · rintro b now req rfl
    exact ⟨register_truncated_iff hprepare, register_exact_iff hprepare⟩
  rintro env s req res body request rfl hparse hread hid hname
  -- The handler adds nothing to what the registration does.
  have hpost : ∀ record, PostTruthful s.backend (request.device env.now) record _ ↔ _ := fun _ =>
    post_truthful_iff hparses hdumps env res hparse hread hid hname hprepare
  exact ⟨(hpost _).trans (register_truncated_iff hprepare),
    (hpost _).trans (register_exact_iff hprepare)⟩

/-- Over an empty store, a registration of the device `d-1` is truthful. -/
theorem deviceWrites_truthful_sample :
    let req : RegisterDeviceRequest := ⟨lit "d-1", lit "Thermostat", lit "sensor", lit "mqtt", []⟩
    let device := req.device 0
    let b : Backend := {}
    RegisterTruthful b device device
      (((DeviceManager.register 0 req).run Backend.handle).run b) := by
  intro req device b
  have hregister := (deviceWrites_truthful_iff Vendor.reference Vendor.parsesUtf8_reference
    Vendor.dumpsUtf8_reference {} rfl).2.2.2.1 b 0 req rfl
  have hnulFree : device.NulFree := by
    simp only [DeviceInfo.NulFree, NulFree]
    decide
  exact hregister.2.mpr ⟨⟨List.not_mem_nil, rfl, hnulFree⟩, by decide⟩

/-- A device whose id is stored already is reported as added, also where a failed statement leaves
the counter alone. -/
theorem duplicate_reported_added :
    ¬ ∀ (d : Database) (device : DeviceInfo), d.changesOnFailure = id → d.faults 0 = false →
      WriteTruthful (.insertDevice (bindDevice device)) (d.tick 1)
        (((add device).run Database.handle).run d) := by
  intro htruthful
  let device : DeviceInfo := ⟨lit "d-1", lit "Thermostat", lit "sensor", lit "mqtt", [], false, 0⟩
  let d : Database := {
    tables := Tables.empty.insertDevice (bindDevice device) List.not_mem_nil
    changesOnFailure := id }
  obtain ⟨⟨e, he⟩, -⟩ := htruthful d device rfl rfl
  rw [run_add rfl] at he
  cases he

end IotDashboard
