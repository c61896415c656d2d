import IotDashboard.Api.CommandHistory
import IotDashboard.Api.FleetHistory
import IotDashboard.Devices.Commands
import IotDashboard.Flutter.DeviceRepository
import IotDashboard.Flutter.RuleRoundTrip

/-!
# The device repository against the server

For a user who may write, the operations of `DeviceRepositoryImpl` are operations on the fleet that
the history of the server tells. Requests, routes, statements, JSON texts and casts in between
cannot be noticed: the app is told what the fleet says, and the fleet changes as the app is told.
The history is that of a server which handles whole messages and requests, one at a time.

## Main definitions

* `Flutter.DeviceCall.Outcome`: what an operation does to a fleet, and what the app is told;
* `Flutter.DeviceCall.Carried`: the request carries what the app meant;
* `Fleet.Utf8`: the texts of a fleet can be sent.

## Main results

* `Flutter.DeviceCall.outcome_of_run`: every operation after every run of the server.
-/

namespace IotDashboard

open StdString PercentEncoding

private theorem DartConvert.Faithful.parsesUtf8 {J : DartConvert} {V : Vendor} (hJ : J.Faithful V) :
    V.ParsesUtf8 := fun text j hparse => (hJ.parses text j hparse).utf8

/-! ## Texts -/

/-- The texts of a registration are UTF-8. -/
structure RegisterDeviceRequest.Utf8 (req : RegisterDeviceRequest) : Prop where
  id : req.id.isUtf8 = true
  name : req.name.isUtf8 = true
  type : req.type.isUtf8 = true
  protocol : req.protocol.isUtf8 = true
  address : req.address.isUtf8 = true

/-- The texts of an entry are UTF-8. -/
structure FleetEntry.Utf8 (entry : FleetEntry) : Prop where
  name : entry.name.isUtf8 = true
  type : entry.type.isUtf8 = true
  protocol : entry.protocol.isUtf8 = true
  address : entry.address.isUtf8 = true

/-- The texts of an event are UTF-8. -/
def FleetEvent.Utf8 : FleetEvent → Prop
  | .registered req => req.Utf8
  | .unregistered _ => True
  | .reported _ _ => True

/-- The texts of a fleet are UTF-8. -/
def Fleet.Utf8 (fleet : Fleet) : Prop :=
  ∀ deviceId, ∀ entry ∈ fleet deviceId, deviceId.isUtf8 = true ∧ entry.Utf8

/-- The entry of a UTF-8 registration is UTF-8. -/
theorem RegisterDeviceRequest.Utf8.fleetEntry {req : RegisterDeviceRequest} (h : req.Utf8) :
    req.fleetEntry.Utf8 :=
  ⟨isUtf8_cStr h.name, isUtf8_cStr h.type, isUtf8_cStr h.protocol, isUtf8_cStr h.address⟩

namespace Fleet.Utf8

variable {fleet : Fleet}

/-- A UTF-8 event leaves a UTF-8 fleet. -/
theorem apply (h : fleet.Utf8) {event : FleetEvent} (hevent : event.Utf8) :
    (fleet.apply event).Utf8 := by
  intro deviceId entry hentry
  by_cases hid : deviceId = event.deviceId
  · subst hid
    rw [apply_self] at hentry
    cases event with
    | registered req =>
      -- The device keeps its entry, or gets that of the registration.
      obtain rfl := Option.some.inj hentry
      refine ⟨hevent.id, ?_⟩
      show ((fleet req.id).getD req.fleetEntry).Utf8
      cases hknown : fleet req.id with
      | none => exact hevent.fleetEntry
      | some known => exact (h _ known hknown).2
    | unregistered deviceId => cases hentry
    | reported deviceId online =>
      obtain ⟨known, hknown, rfl⟩ := Option.map_eq_some_iff.mp hentry
      obtain ⟨hid, hutf8⟩ := h _ known hknown
      exact ⟨hid, hutf8.name, hutf8.type, hutf8.protocol, hutf8.address⟩
  · rw [apply_of_ne hid] at hentry
    exact h deviceId entry hentry

/-- UTF-8 events leave a UTF-8 fleet. -/
theorem after (h : fleet.Utf8) {events : List FleetEvent} (hevents : ∀ e ∈ events, e.Utf8) :
    (fleet.after events).Utf8 := by
  induction events using List.reverseRecOn with
  | nil => exact h
  | append_singleton events event ih =>
    rw [after_snoc]
    exact (ih fun e he => hevents e (List.mem_append_left _ he)).apply (hevents event (by simp))

end Fleet.Utf8

private theorem DeviceController.utf8_requestOf {V : Vendor} (hparses : V.ParsesUtf8)
    {text : StdString}
    {req : RegisterDeviceRequest} (h : requestOf V text = some req) : req.Utf8 := by
  rw [requestOf] at h
  cases hparse : V.parse text with
  | error e =>
    rw [hparse] at h
    cases h
  | ok body =>
    rw [hparse] at h
    dsimp only at h
    cases hread : readRequest body with
    | error e =>
      rw [hread] at h
      cases h
    | ok request =>
      rw [hread] at h
      obtain rfl := Option.some.inj h
      have hbody := hparses _ _ hparse
      obtain ⟨hid, hname, htype, hprotocol, haddress⟩ := readRequest_eq_ok_iff.mp hread
      exact ⟨Json.isUtf8_of_value hbody rfl hid, Json.isUtf8_of_value hbody rfl hname,
        Json.isUtf8_of_value hbody rfl htype, Json.isUtf8_of_value hbody (by decide) hprotocol,
        Json.isUtf8_of_value hbody rfl haddress⟩

/-- What is registered over the API can be sent back. -/
theorem utf8_fleetEvents {V : Vendor} (hparses : V.ParsesUtf8) {tr : WiredTrace} :
    ∀ event ∈ fleetEvents V tr, event.Utf8 := by
  intro event hevent
  obtain ⟨⟨i, o⟩, -, hio⟩ := List.mem_filterMap.mp hevent
  cases event with
  | unregistered deviceId => trivial
  | reported deviceId online => trivial
  | registered req =>
    cases i with
    | request env enableCors bReq =>
      cases o with
      | response res =>
        simp only [WiredInput.fleetEvent] at hio
        split_ifs at hio
        · obtain ⟨req', hreq, heq⟩ := Option.map_eq_some_iff.mp hio
          cases heq
          exact DeviceController.utf8_requestOf hparses hreq
        · cases hio
      | _ => cases hio
    | message now topic payload =>
      simp only [WiredInput.fleetEvent] at hio
      grind
    | _ => cases hio

/-- A list of such a fleet can be printed. -/
theorem Wired.textual_deviceListing {fleet : Fleet} (hutf8 : fleet.Utf8) {filter : DeviceFilter}
    {devices : List (StdString × FleetEntry)} (hlists : fleet.Lists filter devices)
    (hsize : devices.length < 2 ^ 64) : (deviceListing devices).Textual := by
  refine Json.Textual.mkObject ?_
  simp only [List.forall_mem_cons]
  refine ⟨⟨rfl, .array fun x hx => ?_⟩, ⟨rfl, .number (by omega) (by omega)⟩, by simp⟩
  obtain ⟨⟨deviceId, entry⟩, hmem, rfl⟩ := List.mem_map.mp hx
  obtain ⟨hid, hentry⟩ := hutf8 deviceId entry ((hlists.2 deviceId entry).mp hmem).1
  refine Json.Textual.mkObject ?_
  simp only [List.forall_mem_cons]
  exact ⟨⟨rfl, .string (isUtf8_cStr hid)⟩, ⟨rfl, .string hentry.name⟩, ⟨rfl, .string hentry.type⟩,
    ⟨rfl, .string hentry.protocol⟩, ⟨rfl, .string hentry.address⟩, ⟨rfl, .boolean _⟩, by simp⟩

/-! ## Operations -/

namespace Flutter.DeviceCall

/-- The filter that the query of `getDevices` stands for. -/
def filter (onlineOnly : Option Bool) (type : Option StdString) : DeviceFilter :=
  ⟨type.getD [], onlineOnly == some true⟩

/-- What an operation does to a fleet, and what the app is told. -/
inductive Outcome (fleet : Fleet) : DeviceCall → DeviceAnswer → Fleet → Prop
  | listed {onlineOnly : Option Bool} {type : Option StdString}
      {devices : List (StdString × FleetEntry)} :
      fleet.Lists (filter onlineOnly type) devices →
      Outcome fleet (getDevices onlineOnly type)
        (.devices (devices.map fun d => .ofServer (d.2.device d.1))) fleet
  | registered {id name type protocol address : StdString} : id ≠ [] → name ≠ [] →
      Outcome fleet (registerDevice id name type protocol address)
        (.registered ⟨id, name, type, protocol, address, false⟩)
        (fleet.apply (.registered ⟨id, name, type, protocol, address⟩))
  | unnamed {id name type protocol address : StdString} : id = [] ∨ name = [] →
      Outcome fleet (registerDevice id name type protocol address) (.failure 400) fleet
  | removed {id : StdString} : id ≠ [] → (fleet id).isSome →
      Outcome fleet (unregisterDevice id) .done (fleet.apply (.unregistered id))
  | notRemoved {id : StdString} : id ≠ [] → fleet id = none →
      Outcome fleet (unregisterDevice id) (.failure 404) fleet
  | noId : Outcome fleet (unregisterDevice []) (.failure 400) fleet
  /-- What the broker makes of a command to a device that is online is not up to the fleet. -/
  | commanded {deviceId command : StdString} {parameters : DartMap} {answer : DeviceAnswer} :
      deviceId ≠ [] → command ≠ [] → fleet.Online deviceId →
      answer = .done ∨ answer = .failure 500 →
      Outcome fleet (sendCommand deviceId command parameters) answer fleet
  | offline {deviceId command : StdString} {parameters : DartMap} :
      deviceId ≠ [] → command ≠ [] → (fleet deviceId).isSome → ¬ fleet.Online deviceId →
      Outcome fleet (sendCommand deviceId command parameters) (.failure 422) fleet
  | unknown {deviceId command : StdString} {parameters : DartMap} :
      deviceId ≠ [] → command ≠ [] → fleet deviceId = none →
      Outcome fleet (sendCommand deviceId command parameters) (.failure 404) fleet
  | noCommand {deviceId command : StdString} {parameters : DartMap} :
      deviceId = [] ∨ command = [] →
      Outcome fleet (sendCommand deviceId command parameters) (.failure 400) fleet

/-- The request carries what the app meant: the server takes the values in a query as they are
written, and texts in the data are UTF-8. -/
def Carried : DeviceCall → Prop
  | getDevices _ type => ∀ t ∈ type, ∀ b ∈ t, isUnreserved b = true
  | registerDevice id name type protocol address =>
    (⟨id, name, type, protocol, address⟩ : RegisterDeviceRequest).Utf8
  | unregisterDevice id => ∀ b ∈ id, isUnreserved b = true
  | sendCommand deviceId command parameters =>
    deviceId.isUtf8 = true ∧ command.isUtf8 = true ∧ (Json.object parameters).Textual

/-- The user of the app may write. -/
structure Entitled (V : Vendor) (env : Env) (s : AppState) (accessToken : StdString)
    (claims : UserClaims) : Prop where
  valid : s.authService.validateToken V env.now.seconds accessToken = .ok (.ok claims)
  role : claims.role ≠ .viewer

/-- The operation is sent, the app reads the answer, and both are an outcome for the fleet. -/
def Agrees (J : DartConvert) (V : Vendor) (env : Env) (enableCors : Bool) (accessToken : StdString)
    (s : AppState) (call : DeviceCall) : Prop :=
  ∃ bReq answer, call.request J accessToken = some bReq ∧
    let r := HttpSession.onRead (registerHttpRoutes V env) enableCors bReq s
    call.answer J r.1 = some answer ∧
      call.Outcome s.backend.database.tables.fleet answer r.2.backend.database.tables.fleet

section Operations

variable {V : Vendor} {J : DartConvert} {env : Env} {enableCors : Bool} {accessToken : StdString}
  {claims : UserClaims} {s : AppState}

/-- A request of an entitled user is handled. -/
theorem handled_dioRequest (route : Route AppState) {method : Verb}
    (hroute : route ∈ (registerHttpRoutes V env).routes)
    (hmethod : HttpSession.methodOfVerb method = route.method) (hoptions : route.method ≠ .options)
    (hpublic : isPublicPath route.path = false) (hpath : byte '?' ∉ route.path)
    (h : Entitled V env s accessToken claims) (query : List (StdString × StdString))
    (body : StdString) : ∃ req, Handled V env enableCors
      (dioRequest accessToken method route.path query body) s route req :=
  handled_of_sendsToken hroute hmethod (path_dioRequest hpath) hoptions hpublic
    ⟨accessToken, lastField_dioRequest, h.valid⟩ h.role

/-- A status that is no success is a failure. -/
theorem answer_error (call : DeviceCall) {status : UInt16} {code message : StdString}
    (hstatus : 300 ≤ status) : call.answer J (HttpSession.responseOf enableCors
      (.ok (({} : HttpResponse).error status code message))) = some (.failure status) := by
  unfold answer
  rw [HttpSession.status_responseOf_ok, HttpResponse.error_status, if_pos (.inr hstatus)]

/-! ### Registration -/

private theorem readRequest_registration (id name type protocol address : StdString) :
    DeviceController.readRequest (registration id name type protocol address) =
      .ok ⟨id, name, type, protocol, address⟩ := by
  rw [readRequest_eq_ok_iff, registration, Json.value_mkObject, Json.value_mkObject,
    Json.value_mkObject, Json.value_mkObject, Json.value_mkObject]
  exact ⟨rfl, rfl, rfl, rfl, rfl⟩

/-- The data of a registration are text, and so is the answer. -/
theorem textual_registration {req : RegisterDeviceRequest} (h : req.Utf8) (now : Timestamp) :
    (registration req.id req.name req.type req.protocol req.address).Textual ∧
      (DeviceController.deviceToJson (req.device now)).Textual := by
  constructor
  · refine Json.Textual.mkObject ?_
    simp only [List.forall_mem_cons]
    exact ⟨⟨rfl, .string h.id⟩, ⟨rfl, .string h.name⟩, ⟨rfl, .string h.type⟩,
      ⟨rfl, .string h.protocol⟩, ⟨rfl, .string h.address⟩, by simp⟩
  · refine Json.Textual.mkObject ?_
    simp only [List.forall_mem_cons]
    exact ⟨⟨rfl, .string h.id⟩, ⟨rfl, .string h.name⟩, ⟨rfl, .string h.type⟩,
      ⟨rfl, .string h.protocol⟩, ⟨rfl, .string h.address⟩, ⟨rfl, .boolean _⟩, by simp⟩

/-- `POST /devices` answers with the text of the device. -/
theorem run_postDevices_of_dump {req : HttpRequest} {request : RegisterDeviceRequest} {body : Json}
    {text : StdString} (res : HttpResponse) (hreliable : s.backend.database.Reliable)
    (hparse : V.parse req.body = .ok body) (hread : DeviceController.readRequest body = .ok request)
    (hid : request.id ≠ []) (hname : request.name ≠ [])
    (hdump : V.dump (DeviceController.deviceToJson (request.device env.now)) = .ok text) :
    ((DeviceController.postDevices V env req res).run s).1 = .ok (res.json 201 text) := by
  have hguard : ¬(request.id.isEmpty || request.name.isEmpty) = true := by simp [hid, hname]
  obtain ⟨s', hregister⟩ : ∃ s', (App.devices (DeviceManager.register env.now request)).run s =
      (.ok (.ok (request.device env.now)), s') := by
    rw [App.devices, Stateful.run_zoom, Backend.run_register _ _ (hreliable 0)]
    exact ⟨_, rfl⟩
  rw [DeviceController.postDevices, hparse]
  dsimp only
  rw [hread, liftJson_ok, Stateful.run_bind_of_ok (Stateful.run_ofExcept _ s), if_neg hguard,
    Stateful.run_bind_of_ok hregister]
  dsimp only
  rw [App.run_json, hdump]
  rfl

private theorem agrees_registerDevice (hJ : J.Faithful V) (hdumps : V.DumpsUtf8)
    (hentitled : Entitled V env s accessToken claims)
    (hreliable : s.backend.database.Reliable) {id name type protocol address : StdString}
    (hcarried : (registerDevice id name type protocol address).Carried) :
    (registerDevice id name type protocol address).Agrees J V env enableCors accessToken s := by
  let request : RegisterDeviceRequest := ⟨id, name, type, protocol, address⟩
  have hutf8 : request.Utf8 := hcarried
  obtain ⟨hdata, hdevice⟩ := textual_registration hutf8 env.now
  -- The client writes the body, and the server reads the same device from it.
  obtain ⟨text, hencode, hparse⟩ := hJ.encodes _ hdata
  let bReq := dioRequest accessToken .post (lit "/devices") [] text
  have hrequest : (registerDevice id name type protocol address).request J accessToken =
      some bReq := congrArg (Option.map _) hencode
  have hpath : byte '?' ∉ lit "/devices" := by decide
  obtain ⟨req, h⟩ : ∃ req, Handled V env enableCors bReq s _ req :=
    handled_dioRequest ⟨.post, lit "/devices", DeviceController.postDevices V env⟩
      (by simp [routes_registerHttpRoutes]) rfl (by simp) rfl hpath hentitled [] text
  have hbody : V.parse req.body = .ok (registration id name type protocol address) := by
    rw [h.same.body]
    exact hparse
  have hread := readRequest_registration id name type protocol address
  have hfleet := fleet_postDevices enableCors req env {} hJ.parsesUtf8 hdumps hreliable
  have hposted : DeviceController.requestOf V req.body = some request := by
    rw [DeviceController.requestOf, hbody]
    dsimp only
    rw [hread]
    rfl
  dsimp only at hfleet
  rw [hposted] at hfleet
  simp only [Agrees, hrequest, Option.some.injEq, exists_and_left, exists_eq_left', h.onRead]
  -- The server refuses a device without an id or a name.
  by_cases hempty : id = [] ∨ name = []
  · have hguard : (id.isEmpty || name.isEmpty) = true := by simpa using hempty
    have hrun : ((DeviceController.postDevices V env req {}).run s).1 =
        .ok (({} : HttpResponse).error 400 (lit "BadRequest")
          (lit "id and name are required")) := by
      rw [DeviceController.postDevices, hbody]
      dsimp only
      rw [hread, liftJson_ok, Stateful.run_bind_of_ok (Stateful.run_ofExcept _ s), if_pos hguard]
      rfl
    rw [hrun] at hfleet ⊢
    refine ⟨_, answer_error _ (by decide), ?_⟩
    rw [hfleet, HttpSession.status_responseOf_ok, if_neg (by simp)]
    exact .unnamed hempty
  · rw [not_or] at hempty
    -- The answer is read back as the device, which is offline.
    obtain ⟨body, hdump, hdecode⟩ := hJ.decodes _ hdevice
    have hrun := run_postDevices_of_dump {} hreliable hbody hread hempty.1 hempty.2 hdump
    rw [hrun] at hfleet ⊢
    refine ⟨.registered ⟨id, name, type, protocol, address, false⟩, ?_, ?_⟩
    · have hfromJson : (asMap (DeviceController.deviceToJson (request.device env.now))).bind
          Device.fromJson = some ⟨id, name, type, protocol, address, false⟩ :=
        Device.fromJson_deviceToJson _
      unfold answer
      rw [HttpSession.status_responseOf_ok, HttpSession.body_responseOf_ok, if_neg (by simp)]
      simp only [HttpResponse.json, hdecode, Option.bind_eq_bind, Option.bind_some]
      rw [← Option.bind_assoc, hfromJson]
      rfl
    · rw [hfleet, HttpSession.status_responseOf_ok, if_pos (by simp)]
      exact .registered hempty.1 hempty.2

/-! ### Removal -/

private theorem agrees_unregisterDevice (hentitled : Entitled V env s accessToken claims)
    (hreliable : s.backend.database.Reliable) {id : StdString}
    (hcarried : (unregisterDevice id).Carried) :
    (unregisterDevice id).Agrees J V env enableCors accessToken s := by
  let bReq := dioRequest accessToken .delete (lit "/devices") [(lit "id", id)] []
  have hpath : byte '?' ∉ lit "/devices" := by decide
  obtain ⟨req, h⟩ : ∃ req, Handled V env enableCors bReq s _ req :=
    handled_dioRequest ⟨.delete, lit "/devices", DeviceController.deleteDevices⟩
      (by simp [routes_registerHttpRoutes]) rfl (by simp) rfl hpath hentitled [(lit "id", id)] []
  -- Neither the name of the parameter nor the id needs an escape.
  have hname : ∀ b ∈ lit "id", isUnreserved b = true := List.all_eq_true.mp rfl
  have hid : req.getQueryParam (lit "id") = id := by
    have hsent : (HttpSession.beastToApp bReq).getQueryParam (lit "id") = _ :=
      getQueryParam_dioRequest hpath (by simpa using fun b hb => hname b hb) (lit "id")
    rw [HttpRequest.getQueryParam, h.same.query, ← HttpRequest.getQueryParam, hsent]
    exact encodeQueryComponent_eq hcarried
  have hfleet := fleet_deleteDevices enableCors req {} hreliable
  dsimp only at hfleet
  rw [hid] at hfleet
  refine ⟨bReq, ?_⟩
  simp only [h.onRead]
  -- An empty id is the same as none.
  by_cases hempty : id = []
  · subst hempty
    have hrun : ((DeviceController.deleteDevices req {}).run s).1 = .ok (({} : HttpResponse).error
        400 (lit "BadRequest") (lit "id query parameter required")) := by
      rw [DeviceController.deleteDevices, hid]
      rfl
    rw [hrun] at hfleet ⊢
    refine ⟨_, rfl, answer_error _ (by decide), ?_⟩
    rw [hfleet, HttpSession.status_responseOf_ok, if_neg (by simp)]
    exact .noId
  have hne : req.getQueryParam (lit "id") ≠ [] := by rwa [hid]
  obtain ⟨s', hrun, -⟩ := run_deleteDevices {} hreliable hne
  rw [hid] at hrun
  rw [hrun] at hfleet ⊢
  dsimp only at hfleet
  by_cases hstored : id ∈ s.backend.database.tables.ids
  · rw [if_pos hstored] at hfleet ⊢
    refine ⟨.done, rfl, ?_, ?_⟩
    · unfold answer
      rw [HttpSession.status_responseOf_ok, if_neg (by simp [HttpResponse.noContent])]
    · rw [hfleet, HttpSession.status_responseOf_ok, if_pos (by simp [HttpResponse.noContent])]
      exact .removed hempty (Tables.isSome_fleet_iff.mpr hstored)
  · rw [if_neg hstored] at hfleet ⊢
    refine ⟨_, rfl, answer_error _ (by decide), ?_⟩
    rw [hfleet, HttpSession.status_responseOf_ok, if_neg (by simp)]
    exact .notRemoved hempty (Tables.fleet_eq_none_iff.mpr hstored)

/-! ### Lists -/

/-- The filter reaches the server. -/
theorem deviceFilter_query (accessToken : StdString) {onlineOnly : Option Bool}
    {type : Option StdString} (hcarried : (getDevices onlineOnly type).Carried) :
    Wired.deviceFilter (HttpSession.beastToApp
      (dioRequest accessToken .get (lit "/devices") (query onlineOnly type) [])) =
        filter onlineOnly type := by
  have honline : ∀ b ∈ lit "online", isUnreserved b = true := List.all_eq_true.mp rfl
  have htype : ∀ b ∈ lit "type", isUnreserved b = true := List.all_eq_true.mp rfl
  have hnames : ∀ param ∈ query onlineOnly type, ∀ b ∈ param.1, isUnreserved b = true := by
    intro param hparam
    rcases List.mem_append.mp hparam with h | h
    · split at h
      · rwa [List.mem_singleton.mp h]
      · cases h
    · obtain ⟨t, -, rfl⟩ := Option.map_eq_some_iff.mp (Option.mem_toList.mp h)
      exact htype
  have hpath : byte '?' ∉ lit "/devices" := by decide
  rw [Wired.deviceFilter, getQueryParam_dioRequest hpath hnames,
    getQueryParam_dioRequest hpath hnames, filter]
  have hvalue : encodeQueryComponent (lit "true") = lit "true" := by decide
  have hne : lit "online" ≠ lit "type" := by decide
  -- Each parameter is there or not.
  congr 1
  · cases type with
    | none =>
      by_cases hflag : onlineOnly = some true <;> simp [query, hflag, hne]
    | some t =>
      have ht : encodeQueryComponent t = t := encodeQueryComponent_eq (hcarried t rfl)
      by_cases hflag : onlineOnly = some true <;> simp [query, hflag, hne, ht]
  · have hempty : (([] : StdString) == lit "true") = false := by decide
    rcases onlineOnly with _ | _ | _
    · cases type <;> simp [query, hempty, hne.symm]
    · cases type <;> simp [query, hempty, hne.symm]
    · simp [query, hvalue]

private theorem agrees_getDevices (hJ : J.Faithful V)
    (hentitled : Entitled V env s accessToken claims)
    (hreliable : s.backend.database.Reliable) (hutf8 : s.backend.database.tables.fleet.Utf8)
    (hsize : s.backend.database.tables.devices.length < 2 ^ 64) {onlineOnly : Option Bool}
    {type : Option StdString} (hcarried : (getDevices onlineOnly type).Carried) :
    (getDevices onlineOnly type).Agrees J V env enableCors accessToken s := by
  let bReq := dioRequest accessToken .get (lit "/devices") (query onlineOnly type) []
  have hpath : byte '?' ∉ lit "/devices" := by decide
  obtain ⟨req, h⟩ : ∃ req, Handled V env enableCors bReq s _ req :=
    handled_dioRequest ⟨.get, lit "/devices", DeviceController.getDevices V⟩
      (by simp [routes_registerHttpRoutes]) rfl (by simp) rfl hpath hentitled
      (query onlineOnly type) []
  have hfilter : Wired.deviceFilter req = filter onlineOnly type := by
    rw [← deviceFilter_query accessToken hcarried, Wired.deviceFilter, Wired.deviceFilter,
      HttpRequest.getQueryParam, HttpRequest.getQueryParam, h.same.query]
    rfl
  -- The listed rows are some of the stored ones.
  have hlists := s.backend.database.tables.fleet_lists (filter onlineOnly type)
  obtain ⟨devices, hdevices⟩ : ∃ devices, (((selectDevices s.backend.database.tables).filter
      fun row => row.fleetEntry.Passes (filter onlineOnly type)).map
        fun row => (row.id, row.fleetEntry)) = devices := ⟨_, rfl⟩
  have hlength : devices.length ≤ s.backend.database.tables.devices.length := by
    rw [← hdevices, List.length_map]
    exact (List.length_filter_le _ _).trans (List.mergeSort_perm _ _).length_eq.le
  have hrun := Wired.run_getDevices (V := V) req {} hreliable
  rw [hfilter, hdevices] at hrun
  rw [hdevices] at hlists
  obtain ⟨body, hdump, hdecode⟩ := hJ.decodes _
    (Wired.textual_deviceListing hutf8 hlists (hlength.trans_lt hsize))
  rw [hdump, liftJson_ok, Except.map] at hrun
  have htables := (undisturbed_getDevices (V := V) req {} s).tables
  refine ⟨bReq, .devices (devices.map fun d => .ofServer (d.2.device d.1)), rfl, ?_⟩
  simp only [h.onRead, hrun, htables]
  refine ⟨?_, .listed hlists⟩
  have hitems : (devices.map fun d => DeviceController.deviceToJson (d.2.device d.1)).mapM
      (fun v => do Device.fromJson (← asMap v)) =
        some (devices.map fun d => Device.ofServer (d.2.device d.1)) :=
    List.mapM_map_of_forall fun d _ => Device.fromJson_deviceToJson _
  unfold answer
  rw [HttpSession.status_responseOf_ok, HttpSession.body_responseOf_ok, if_neg (by simp)]
  simp only [HttpResponse.json, hdecode, Option.bind_eq_bind, Option.bind_some]
  rw [Wired.deviceListing, asMap_mkObject]
  simp only [Option.bind_some]
  rw [get_fieldsOf rfl]
  simp only [asList, Option.bind_some]
  exact congrArg (Option.bind · fun list => some (DeviceAnswer.devices list)) hitems

/-! ### Commands -/

private theorem readCommand_command (deviceId name : StdString) {params : StdString}
    {parameters : DartMap}
    (hdump : V.dump (.object parameters) = .ok params) :
    DeviceController.readCommand V (command deviceId name parameters) =
      .ok ⟨deviceId, name, params⟩ := by
  rw [DeviceController.readCommand, command, Json.value_mkObject, Json.value_mkObject,
    Json.value_mkObject]
  show (V.dump (.object parameters)).bind _ = _
  rw [hdump]
  rfl

/-- The status of `POST /commands`, by what becomes of the command. -/
def statusOf : Result Unit → UInt16
  | .ok () => 202
  | .error .deviceNotFound => 404
  | .error .deviceOffline => 422
  | .error _ => 500

private theorem status_postCommands (hJ : J.Faithful V) (hdumps : V.DumpsUtf8) {req : HttpRequest}
    {body : Json} {c : DeviceCommand} (hparse : V.parse req.body = .ok body)
    (hread : DeviceController.readCommand V body = .ok c)
    (hnamed : (c.deviceId.isEmpty || c.command.isEmpty) = false) {result : Result Unit}
    {b' : Backend} (hsend : ((DeviceManager.sendCommand V c.deviceId c.command c.params).run
      Backend.handle).run s.backend = (.ok result, b')) :
    (HttpSession.responseOf enableCors ((DeviceController.postCommands V req {}).run s).1).status =
      statusOf result := by
  have hcall : (App.devices (DeviceManager.sendCommand V c.deviceId c.command c.params)).run s =
      (.ok result, { s with backend := b' }) := by
    rw [App.devices, Stateful.run_zoom, hsend]
  rw [run_postCommands {} s hparse, hread]
  dsimp only
  rw [hnamed, if_neg Bool.false_ne_true, Stateful.run_bind_of_ok hcall]
  rcases result with e | _
  · cases e <;> exact HttpSession.status_responseOf_ok _
  · obtain ⟨text, htext⟩ := exists_dump_accepted hJ.parsesUtf8 hdumps hparse hread
    dsimp only
    rw [App.run_json, htext]
    exact HttpSession.status_responseOf_ok _

/-- A command to a device that is online is published, or the broker is to blame. -/
theorem statusOf_publish (c : MqttClient) (topic payload : StdString) (qos : QoS) (retain : Bool) :
    statusOf (c.publish topic payload qos retain).1 = 202 ∨
      statusOf (c.publish topic payload qos retain).1 = 500 := by
  rw [MqttClient.publish]
  by_cases hconnected : c.connected = true
  · rw [if_neg (not_not.mpr hconnected)]
    split
    · exact .inr rfl
    · exact .inl rfl
  · rw [if_pos hconnected]
    exact .inr rfl

/-- The app reads the status of the answer and nothing else. -/
def told (status : UInt16) : DeviceAnswer :=
  if status < 200 ∨ 300 ≤ status then .failure status else .done

private theorem agrees_sendCommand (hJ : J.Faithful V) (hdumps : V.DumpsUtf8)
    (hentitled : Entitled V env s accessToken claims) (hreliable : s.backend.database.Reliable)
    {deviceId name : StdString} {parameters : DartMap}
    (hcarried : (sendCommand deviceId name parameters).Carried) :
    (sendCommand deviceId name parameters).Agrees J V env enableCors accessToken s := by
  obtain ⟨hdevice, hname, hparameters⟩ := hcarried
  have hdata : (command deviceId name parameters).Textual := by
    refine Json.Textual.mkObject ?_
    simp only [List.forall_mem_cons]
    exact ⟨⟨rfl, .string hdevice⟩, ⟨rfl, .string hname⟩, ⟨rfl, hparameters⟩, by simp⟩
  obtain ⟨text, hencode, hparse⟩ := hJ.encodes _ hdata
  obtain ⟨params, hdump, -⟩ := hJ.decodes _ hparameters
  let bReq := dioRequest accessToken .post (lit "/commands") [] text
  have hrequest : (sendCommand deviceId name parameters).request J accessToken = some bReq :=
    congrArg (Option.map _) hencode
  have hpath : byte '?' ∉ lit "/commands" := by decide
  obtain ⟨req, h⟩ : ∃ req, Handled V env enableCors bReq s _ req :=
    handled_dioRequest ⟨.post, lit "/commands", DeviceController.postCommands V⟩
      (by simp [routes_registerHttpRoutes]) rfl (by simp) rfl hpath hentitled [] text
  have hbody : V.parse req.body = .ok (command deviceId name parameters) := by
    rw [h.same.body]
    exact hparse
  have hread := readCommand_command deviceId name hdump
  have htables : ((DeviceController.postCommands V req {}).run s).2.backend.database.tables =
      s.backend.database.tables := tables_postCommands {} s
  -- The client looks at the status alone.
  obtain ⟨status, hstatus⟩ : ∃ status, (HttpSession.responseOf enableCors
      ((DeviceController.postCommands V req {}).run s).1).status = status := ⟨_, rfl⟩
  refine ⟨bReq, told status, hrequest, ?_, ?_⟩
  · unfold answer
    rw [h.onRead, hstatus, told]
    split <;> rfl
  simp only [h.onRead, htables]
  by_cases hempty : deviceId = [] ∨ name = []
  · have hguard : (deviceId.isEmpty || name.isEmpty) = true := by simpa using hempty
    rw [run_postCommands {} s hbody, hread] at hstatus
    dsimp only at hstatus
    rw [if_pos hguard] at hstatus
    obtain rfl : 400 = status := (HttpSession.status_responseOf_ok _).symm.trans hstatus
    exact .noCommand hempty
  have hguard : (deviceId.isEmpty || name.isEmpty) = false := by simpa using hempty
  rw [not_or] at hempty
  -- Whether the broker takes the message is up to the library.
  by_cases honline : s.backend.database.tables.Online deviceId
  · obtain ⟨json, hjson⟩ := Backend.exists_buildCommandJson hJ.parsesUtf8 hdumps hname params
    have hsend := (Backend.sendCommand_of_online hreliable honline hjson).1
    rw [status_postCommands hJ hdumps hbody hread hguard hsend] at hstatus
    refine .commanded hempty.1 hempty.2 (Tables.online_fleet_iff.mpr honline) ?_
    rw [← hstatus]
    rcases statusOf_publish s.backend.mqtt (DeviceManager.buildCommandTopic deviceId) json
      .atLeastOnce false with h | h
    · rw [h]
      exact .inl rfl
    · rw [h]
      exact .inr rfl
  · have hsend := (@Backend.sendCommand_of_not_online _ V _ name params hreliable honline).1
    rw [status_postCommands hJ hdumps hbody hread hguard hsend] at hstatus
    have hoffline := Tables.online_fleet_iff.not.mpr honline
    by_cases hstored : deviceId ∈ s.backend.database.tables.ids
    · rw [if_pos hstored] at hstatus
      subst hstatus
      exact .offline hempty.1 hempty.2 (Tables.isSome_fleet_iff.mpr hstored) hoffline
    · rw [if_neg hstored] at hstatus
      subst hstatus
      exact .unknown hempty.1 hempty.2 (Tables.fleet_eq_none_iff.mpr hstored)

/-! ### Runs -/

variable (enableCors) in
/-- Every operation agrees with the fleet. -/
theorem agrees (hJ : J.Faithful V) (hdumps : V.DumpsUtf8)
    (hentitled : Entitled V env s accessToken claims) (hreliable : s.backend.database.Reliable)
    (hutf8 : s.backend.database.tables.fleet.Utf8)
    (hsize : s.backend.database.tables.devices.length < 2 ^ 64) {call : DeviceCall}
    (hcarried : call.Carried) : call.Agrees J V env enableCors accessToken s := by
  cases call with
  | getDevices onlineOnly type =>
    exact agrees_getDevices hJ hentitled hreliable hutf8 hsize hcarried
  | registerDevice id name type protocol address =>
    exact agrees_registerDevice hJ hdumps hentitled hreliable hcarried
  | unregisterDevice id => exact agrees_unregisterDevice hentitled hreliable hcarried
  | sendCommand deviceId name parameters =>
    exact agrees_sendCommand hJ hdumps hentitled hreliable hcarried

/-- After a run of whole messages and requests that the server handles one at a time, without
failures of the database and with messages on topics that a broker delivers, every operation of a
user who may write is sent and answered, and the app is told an outcome for the fleet that the
history tells; the history with the request tells the fleet of this outcome. -/
theorem outcome_of_run {w₀ w : Wired} {tr : WiredTrace} (hJ : J.Faithful V) (hdumps : V.DumpsUtf8)
    (hreliable : w₀.app.backend.database.Reliable) (hutf8 : w₀.tables.fleet.Utf8)
    (hrun : Mealy.Run (Wired.step V) (fun _ _ i => i.Deliverable) w₀ tr w)
    (hsize : w.tables.devices.length < 2 ^ 64)
    (hentitled : Entitled V env w.app accessToken claims) {call : DeviceCall}
    (hcarried : call.Carried) :
    ∃ bReq res answer, call.request J accessToken = some bReq ∧
      (Wired.step V w (.request env enableCors bReq)).1 = .response res ∧
      call.answer J res = some answer ∧
      call.Outcome (w₀.tables.fleet.after (fleetEvents V tr)) answer
        (w₀.tables.fleet.after
          (fleetEvents V (tr ++ [(.request env enableCors bReq, .response res)]))) := by
  have hfleet := Wired.reliable_and_fleet_of_run hJ.parsesUtf8 hdumps hreliable hrun
  have hutf8' : w.tables.fleet.Utf8 := by
    rw [hfleet.2]
    exact hutf8.after (utf8_fleetEvents hJ.parsesUtf8)
  obtain ⟨bReq, answer, hrequest, hanswer, houtcome⟩ :=
    agrees enableCors hJ hdumps hentitled hfleet.1 hutf8' hsize hcarried
  refine ⟨bReq, _, answer, hrequest, rfl, hanswer, ?_⟩
  -- The run goes on with the request.
  have hdeliverable : (WiredInput.request env enableCors bReq).Deliverable := trivial
  have hnext := (Wired.reliable_and_fleet_of_run hJ.parsesUtf8 hdumps hreliable
    (hrun.snoc _ hdeliverable)).2
  rw [← hfleet.2]
  exact hnext ▸ houtcome

/-- The application with one lamp, before an operator of it removes the lamp. -/
theorem outcome_of_run_removeLamp : ∃ accessToken bReq res answer,
    (unregisterDevice (lit "d-1")).request .withReals accessToken = some bReq ∧
      (Wired.step .withReals { Wired.oneLamp 0 with
        app.authService := { config := AuthenticationService.sampleConfig } }
          (.request { now := 0 } true bReq)).1 = .response res ∧
      (unregisterDevice (lit "d-1")).answer .withReals res = some answer ∧
      (unregisterDevice (lit "d-1")).Outcome (Wired.oneLamp 0).tables.fleet answer
        ((Wired.oneLamp 0).tables.fleet.after
          (fleetEvents .withReals [(.request { now := 0 } true bReq, .response res)])) := by
  let service : AuthenticationService := { config := AuthenticationService.sampleConfig }
  let w : Wired := { Wired.oneLamp 0 with app.authService := service }
  obtain ⟨accessToken, hgenerate⟩ := JwtHandler.exists_generate
    (h := ⟨AuthenticationService.sampleConfig.jwtSecret⟩) Vendor.dumpsUtf8_withReals
    (rfl : (AuthenticationService.sampleClaims .operator).userId.isUtf8 = true) rfl 0 10
  have hstart : AuthenticationService.Run .withReals Mealy.anyInput
      AuthenticationService.sampleConfig [] service := .nil
  have hvalid : service.validateToken .withReals 0 accessToken =
      .ok (.ok (AuthenticationService.sampleClaims .operator)) :=
    AuthenticationService.validateToken_of_generate (fun _ _ => JsonText.parse_dump) hstart
      hgenerate (by simp [service]) (by decide)
  have hutf8 : w.tables.fleet.Utf8 := by
    intro deviceId entry hentry
    obtain ⟨row, hrow, rfl, rfl⟩ := Tables.fleet_eq_some_iff.mp hentry
    obtain rfl := List.mem_singleton.mp hrow
    exact ⟨rfl, rfl, rfl, rfl, rfl⟩
  have hrun : Mealy.Run (Wired.step .withReals) (fun _ _ i => i.Deliverable) w [] w := .nil
  have hcarried : (unregisterDevice (lit "d-1")).Carried := List.all_eq_true.mp rfl
  obtain ⟨bReq, res, answer, hrequest, hstep, hanswer, houtcome⟩ :=
    @outcome_of_run .withReals .withReals { now := 0 } true accessToken _ w w []
      DartConvert.faithful_withReals Vendor.dumpsUtf8_withReals (fun _ => rfl) hutf8 hrun
      (by decide) ⟨hvalid, by decide⟩ _ hcarried
  exact ⟨accessToken, bReq, res, answer, hrequest, hstep, hanswer, houtcome⟩

end Operations

end Flutter.DeviceCall

end IotDashboard
