import IotDashboard.Api.Dispatch
import IotDashboard.Api.QuietRoutes
import IotDashboard.Api.WiredFrames
import IotDashboard.Devices.IssuedCommands

/-!
# Where commands come from

A device is sent a command because somebody who may write has asked for it at `POST /commands`, or
because a reading has fired a rule. Whatever else happens, and whichever calls of the libraries
fail, nothing else is sent, and nothing is sent more often than it was asked for.

## Main definitions

* `WiredInput.asked`: the commands that an input asks for;
* `Wired.sent`: the messages handed to the broker so far.

## Main results

* `Wired.sent_step`: a step sends some of the commands that its input asks for;
* `Wired.commands_of_run`: where the messages come from, in every step of every run.
-/

namespace IotDashboard

open StdString

/-- The command that a body asks for. -/
def DeviceController.readCommand (V : Vendor) (body : Json) :
    Except JsonException DeviceCommand := do
  let deviceId ← body.value Json.getString (lit "device_id") []
  let command ← body.value Json.getString (lit "command") []
  let parameters ← body.value Json.getJson (lit "parameters") (.object [])
  let params ← V.dump parameters
  return ⟨deviceId, command, params⟩

/-- The command that the text of a body asks for, if it names the device and the command. -/
def DeviceController.commandOf (V : Vendor) (text : StdString) : Option DeviceCommand :=
  match V.parse text with
  | .error _ => none
  | .ok body =>
    match readCommand V body with
    | .error _ => none
    | .ok c => if c.deviceId.isEmpty || c.command.isEmpty then none else some c

/-- The command that an action asks for, if its parameters can be printed. -/
def Action.command? (V : Vendor) (action : Action) : Option DeviceCommand :=
  match V.dump action.parameters with
  | .error _ => none
  | .ok params => some ⟨action.deviceId, action.command, params⟩

/-- The commands that a reading asks for. -/
def Wired.fired (V : Vendor) (w : Wired) (reading : SensorReading) : List DeviceCommand :=
  match RuleEngine.evaluate reading w.app.rules with
  | .error _ => []
  | .ok actions => actions.filterMap (Action.command? V)

/-- The commands that an input asks for. -/
def WiredInput.asked (V : Vendor) (w : Wired) : WiredInput → List DeviceCommand
  | .request _ _ bReq =>
    let req := HttpSession.beastToApp bReq
    if req.method = .post ∧ req.path = lit "/commands" then
      (DeviceController.commandOf V req.body).toList
    else []
  | .message now topic payload =>
    match DeviceManager.decodeTopic topic with
    | none => []
    | some (deviceId, subtopic) =>
      if subtopic ≠ lit "sensors" then []
      else match DeviceManager.readSensors V now deviceId payload with
        | .error _ => []
        | .ok reading => w.fired V reading
  | _ => []

/-- The messages handed to the broker so far. -/
def Wired.sent (w : Wired) : List MqttMessage := w.app.backend.mqtt.paho.sent

/-! ## Requests -/

section Requests

variable {V : Vendor} {env : Env}

/-- After its reads, `POST /commands` sends a command that has a device and a name. -/
theorem run_postCommands {req : HttpRequest} (res : HttpResponse) (s : AppState) {body : Json}
    (hparse : V.parse req.body = .ok body) :
    (DeviceController.postCommands V req res).run s =
      match DeviceController.readCommand V body with
      | .error x => (.error (.json x), s)
      | .ok c => (if c.deviceId.isEmpty || c.command.isEmpty then
          App.error res 400 "BadRequest" "device_id and command required"
        else do
          match ← App.devices (DeviceManager.sendCommand V c.deviceId c.command c.params) with
          | .error .deviceNotFound => App.error res 404 "NotFound" "Device not found"
          | .error .deviceOffline => App.error res 422 "DeviceOffline" "Device is offline"
          | .error _ => App.error res 500 "InternalError" "Failed to send command"
          | .ok () =>
            App.json V res 202 (.mkObject [(lit "status", .string (lit "accepted")),
              (lit "device_id", .string c.deviceId),
              (lit "command", .string c.command)])).run s := by
  simp only [DeviceController.postCommands, hparse, DeviceController.readCommand]
  cases hdevice : body.value Json.getString (lit "device_id") [] with
  | error x => rw [App.run_value_bind_of_error hdevice]; rfl
  | ok deviceId =>
    rw [App.run_value_bind_of_ok hdevice]
    cases hcommand : body.value Json.getString (lit "command") [] with
    | error x => rw [App.run_value_bind_of_error hcommand]; rfl
    | ok command =>
      rw [App.run_value_bind_of_ok hcommand]
      cases hparameters : body.value Json.getJson (lit "parameters") (.object []) with
      | error x => rw [App.run_value_bind_of_error hparameters]; rfl
      | ok parameters =>
        rw [App.run_value_bind_of_ok hparameters]
        cases hdump : V.dump parameters with
        | error x =>
          simp only [bind, Except.bind, hdump]
          rfl
        | ok params =>
          simp only [bind, Except.bind, hdump]
          rfl

/-- The answer to a command that was sent can be printed. -/
theorem exists_dump_accepted (hparses : V.ParsesUtf8) (hdumps : V.DumpsUtf8) {text : StdString}
    {body : Json} {c : DeviceCommand} (hparse : V.parse text = .ok body)
    (hread : DeviceController.readCommand V body = .ok c) :
    ∃ t, V.dump (.mkObject [(lit "status", .string (lit "accepted")),
      (lit "device_id", .string c.deviceId), (lit "command", .string c.command)]) = .ok t := by
  have hbody := hparses _ _ hparse
  obtain ⟨deviceId, hdevice, hread⟩ := Except.exists_of_bind_eq_ok hread
  obtain ⟨command, hcommand, hread⟩ := Except.exists_of_bind_eq_ok hread
  obtain ⟨parameters, -, hread⟩ := Except.exists_of_bind_eq_ok hread
  obtain ⟨params, -, hread⟩ := Except.exists_of_bind_eq_ok hread
  cases hread
  refine hdumps _ (Json.utf8_mkObject ?_)
  simp only [List.forall_mem_cons]
  exact ⟨⟨by decide, .string (by decide)⟩,
    ⟨by decide, .string (Json.isUtf8_of_value hbody rfl hdevice)⟩,
    ⟨by decide, .string (Json.isUtf8_of_value hbody rfl hcommand)⟩, by simp⟩

/-- `POST /commands` issues the command that its body asks for, or nothing, and its status tells
which. -/
theorem issues_postCommands (hparses : V.ParsesUtf8) (hdumps : V.DumpsUtf8) (req : HttpRequest)
    (s : AppState) (enableCors : Bool) :
    let r := (DeviceController.postCommands V req {}).run s
    Backend.Issues V (DeviceController.commandOf V req.body).toList s.backend r.2.backend ∧
      ((HttpSession.responseOf enableCors r.1).status = 202 ↔
        ¬ Backend.Silent s.backend r.2.backend) := by
  intro r
  -- Where the handler does not get to the command, it leaves the state as it was.
  have hunsent {x : Except CxxException HttpResponse} (hr : r = (x, s))
      (hx : (HttpSession.responseOf enableCors x).status ≠ 202) :
      Backend.Issues V (DeviceController.commandOf V req.body).toList s.backend r.2.backend ∧
        ((HttpSession.responseOf enableCors r.1).status = 202 ↔
          ¬ Backend.Silent s.backend r.2.backend) := by
    rw [hr]
    exact ⟨.refl _, iff_of_false hx (not_not.mpr rfl)⟩
  cases hparse : V.parse req.body with
  | error x =>
    have hr : r =
        (.ok (({} : HttpResponse).error 400 (lit "BadRequest") (lit "Invalid JSON")), s) := by
      show (DeviceController.postCommands V req {}).run s = _
      rw [DeviceController.postCommands, hparse]
      rfl
    exact hunsent hr (by simp [HttpResponse.error, HttpResponse.json])
  | ok body =>
    have hr : r = _ := run_postCommands (V := V) {} s hparse
    cases hread : DeviceController.readCommand V body with
    | error x =>
      rw [hread] at hr
      exact hunsent hr (by simp)
    | ok c =>
      rw [hread] at hr
      dsimp only at hr
      by_cases hnamed : (c.deviceId.isEmpty || c.command.isEmpty) = true
      · rw [if_pos hnamed] at hr
        exact hunsent hr (by simp [HttpResponse.error, HttpResponse.json])
      rw [if_neg hnamed] at hr
      have hasked : (DeviceController.commandOf V req.body).toList = [c] := by
        simp [DeviceController.commandOf, hparse, hread, hnamed]
      rw [hasked]
      have hcommand := Backend.issues_sendCommand V c.deviceId c.command c.params s.backend
      obtain ⟨x, b', hsend⟩ : ∃ x b', ((DeviceManager.sendCommand V c.deviceId c.command
          c.params).run Backend.handle).run s.backend = (x, b') := ⟨_, _, rfl⟩
      rw [hsend] at hcommand
      have hcall : (App.devices (DeviceManager.sendCommand V c.deviceId c.command c.params)).run s =
          (x, { s with backend := b' }) := by
        rw [App.devices, Stateful.run_zoom, hsend]
      -- The backend is the one that `SendCommand` leaves, and 202 stands for its success.
      suffices hrun : r.2.backend = b' ∧
          ((HttpSession.responseOf enableCors r.1).status = 202 ↔ x = .ok (.ok ())) by
        rw [hrun.1]
        exact ⟨hcommand.1, hrun.2.trans hcommand.2⟩
      rcases x with e | e | _
      · rw [Stateful.run_bind_of_error hcall] at hr
        rw [hr]
        exact ⟨rfl, iff_of_false (by simp) (by simp)⟩
      · rw [Stateful.run_bind_of_ok hcall] at hr
        cases e <;> exact ⟨by rw [hr]; rfl, by
          rw [hr]; exact iff_of_false (by simp [App.error, HttpResponse.error]) (by simp)⟩
      · obtain ⟨text, htext⟩ := exists_dump_accepted hparses hdumps hparse hread
        rw [Stateful.run_bind_of_ok hcall] at hr
        replace hr := hr.trans (App.run_json _ _ _ _ _)
        rw [htext] at hr
        rw [hr]
        exact ⟨rfl, iff_of_true (by simp [Except.map]) rfl⟩

/-- Nothing was handed to the library. -/
def SilentApp (s s' : AppState) : Prop := Backend.Silent s.backend s'.backend

/-- An operation that does not publish, and an answer that goes by its result. -/
theorem silentApp_devices_bind {α β : Type} {p : Ports α} {f : α → App β}
    (hp : p.Within (fun e => e.message = none) fun _ _ => True)
    (hf : ∀ a, (f a).Respects fun s s' => s' = s) :
    (App.devices p >>= f).Respects SilentApp := by
  have hdevices : (App.devices p).Respects SilentApp := fun s => Backend.silent_run hp s.backend
  refine Stateful.respects_bind_of_comp (fun _ _ => id) ?_ hdevices hf
  rintro s s' _ h rfl
  exact h

/-- The registration of a device sends nothing. -/
theorem silentApp_postDevices (req : HttpRequest) (res : HttpResponse) :
    (DeviceController.postDevices V env req res).Respects SilentApp := by
  intro s
  rw [DeviceController.postDevices]
  cases V.parse req.body with
  | error x => rfl
  | ok body =>
    dsimp only
    cases DeviceController.readRequest body with
    | error x => rfl
    | ok request =>
      rw [liftJson_ok, Stateful.run_bind_of_ok (Stateful.run_ofExcept _ s)]
      split
      · rfl
      refine silentApp_devices_bind (DeviceManager.silent_register _ _) (fun r s => ?_) s
      cases r with
      | error e => rfl
      | ok device => exact congrArg Prod.snd (App.run_json V res 201 _ s)

/-- The removal of a device sends nothing. -/
theorem silentApp_deleteDevices (req : HttpRequest) (res : HttpResponse) :
    (DeviceController.deleteDevices req res).Respects SilentApp := by
  intro s
  rw [DeviceController.deleteDevices]
  split
  · rfl
  refine silentApp_devices_bind (DeviceManager.silent_unregister _) (fun r s => ?_) s
  cases r <;> rfl

variable {enableCors : Bool} {bReq : RawRequest} {s : AppState}

/-- A request for a command issues what its body asks for, and its status tells whether. -/
theorem issues_request (hparses : V.ParsesUtf8) (hdumps : V.DumpsUtf8)
    (hmethod : (HttpSession.beastToApp bReq).method = .post)
    (hpath : (HttpSession.beastToApp bReq).path = lit "/commands") :
    let r := HttpSession.onRead (registerHttpRoutes V env) enableCors bReq s
    Backend.Issues V (DeviceController.commandOf V (HttpSession.beastToApp bReq).body).toList
      s.backend r.2.backend ∧ (r.1.status = 202 ↔ ¬ Backend.Silent s.backend r.2.backend) := by
  intro r
  rcases handled_or_unhandled V env enableCors bReq s with ⟨route, req, h⟩ | h
  · obtain rfl := h.route_eq ⟨.post, lit "/commands", DeviceController.postCommands V⟩
      (by simp [routes_registerHttpRoutes]) hmethod hpath
    have hcommand := issues_postCommands hparses hdumps req s enableCors
    rw [h.same.body] at hcommand
    simp only [r, h.onRead]
    exact hcommand
  · have hstatus : r.1.status ≠ 202 := fun hstatus => by
      rcases h.status with hoptions | hother
      · rw [hmethod] at hoptions
        cases hoptions
      · rw [hstatus] at hother
        simp at hother
    rw [show r.2 = s from h.state]
    exact ⟨.refl _, iff_of_false hstatus (not_not.mpr rfl)⟩

/-- A request that makes the application send a command carries the token of somebody who is no
viewer. -/
theorem exists_sendsToken_of_sent
    (hpath : (HttpSession.beastToApp bReq).path = lit "/commands")
    (hsent : ¬ Backend.Silent s.backend
      (HttpSession.onRead (registerHttpRoutes V env) enableCors bReq s).2.backend) :
    ∃ claims, SendsToken V env.now.seconds s.authService bReq claims ∧ claims.role ≠ .viewer := by
  rcases handled_or_unhandled V env enableCors bReq s with ⟨route, req, h⟩ | h
  · obtain ⟨claims, hsends, hviewer, -⟩ := exists_sendsToken_of_handled h.resolved
      (by rw [h.path, hpath]; decide)
    exact ⟨claims, hsends, hviewer⟩
  · rw [h.state] at hsent
    exact absurd rfl hsent

/-- Every other request sends nothing. -/
theorem silent_request (hother : ¬ ((HttpSession.beastToApp bReq).method = .post ∧
      (HttpSession.beastToApp bReq).path = lit "/commands")) :
    Backend.Silent s.backend
      (HttpSession.onRead (registerHttpRoutes V env) enableCors bReq s).2.backend := by
  rcases handled_or_unhandled V env enableCors bReq s with ⟨route, req, h⟩ | h
  · rw [h.onRead]
    by_cases hreaches : ReachesDevices (HttpSession.beastToApp bReq).method
        (HttpSession.beastToApp bReq).path
    · rcases hreaches with ⟨hpath, hmethod | hmethod⟩ | ⟨hpath, hmethod⟩
      · obtain rfl := h.route_eq ⟨.post, lit "/devices", DeviceController.postDevices V env⟩
          (by simp [routes_registerHttpRoutes]) hmethod hpath
        exact silentApp_postDevices req {} s
      · obtain rfl := h.route_eq ⟨.delete, lit "/devices", DeviceController.deleteDevices⟩
          (by simp [routes_registerHttpRoutes]) hmethod hpath
        exact silentApp_deleteDevices req {} s
      · exact absurd ⟨hmethod, hpath⟩ hother
    · rw [← h.method, ← h.path] at hreaches
      exact congrArg (fun c : MqttClient => c.paho.sent)
        (undisturbed_handler req {} h.mem hreaches s).mqtt
  · rw [h.state]
    rfl

end Requests

namespace Wired

variable {V : Vendor} {w : Wired}

/-! ## Messages -/

/-- The loop over fired actions issues their commands, up to the first that cannot be printed. -/
theorem issues_dispatch (actions : List Action) :
    ((dispatch V actions).run Backend.handle).Respects
      (Backend.Issues V (actions.filterMap (Action.command? V))) := by
  induction actions with
  | nil => exact fun b => .refl b
  | cons action actions ih =>
    intro b
    rw [dispatch, Program.run_bind, Program.run_ofExcept]
    cases hdump : V.dump action.parameters with
    | error x => exact .refl b
    | ok params =>
      have hcommand : Action.command? V action =
          some ⟨action.deviceId, action.command, params⟩ := by
        rw [Action.command?, hdump]
      rw [List.filterMap_cons_some hcommand, liftJson_ok,
        Stateful.run_bind_of_ok (Stateful.run_ofExcept _ b), Program.run_bind]
      refine Stateful.respects_bind_of_comp (fun _ _ h => ?_) (fun _ _ _ h h' => ?_)
        (fun b => (Backend.issues_sendCommand V _ _ params b).1) (fun _ => ih) b
      · exact h.mono ((List.nil_sublist _).cons_cons _)
      · exact h.append h'

/-- Some of the commands are issued. -/
def Issues (V : Vendor) (commands : List DeviceCommand) (w w' : Wired) : Prop :=
  Backend.Issues V commands w.app.backend w'.app.backend

/-- The callback for readings issues the commands that the reading asks for. -/
theorem issues_sensorCallback (reading : SensorReading) (w : Wired) :
    Issues V (w.fired V reading) w ((sensorCallback V reading).run w).2 := by
  -- Everything before the commands leaves the components behind the router alone.
  let Kept : Wired → Wired → Prop := fun w w' => w'.app = w.app
  let Fires : Wired → Wired → Prop := fun w w' => Issues V (w.fired V reading) w w'
  have hbind {α β : Type} {m : Code α} {f : α → Code β} (hm : m.Respects Kept)
      (hf : ∀ a, (f a).Respects Fires) : (m >>= f).Respects Fires := by
    refine Stateful.respects_bind_of_comp (fun w w' h => ?_) (fun w w' w'' h h' => ?_) hm hf
    · show Backend.Issues V _ w.app.backend w'.app.backend
      rw [show w'.app = w.app from h]
      exact .refl _
    · have hfires : Backend.Issues V (fired V w' reading) w'.app.backend w''.app.backend := h'
      simp only [fired] at hfires
      rw [show w'.app = w.app from h] at hfires
      exact hfires
  refine hbind (fun _ => rfl) (fun _ => hbind (fun _ => rfl) fun _ => hbind (fun _ => rfl)
    fun _ => hbind (fun _ => rfl) fun _ => ?_) w
  intro w
  show Issues V (w.fired V reading) w ((match RuleEngine.evaluate reading w.app.rules with
    | .error _ => return ()
    | .ok actions => if ¬ actions.isEmpty then devices (dispatch V actions) else return ()
      : Code Unit).run w).2
  rw [fired]
  cases RuleEngine.evaluate reading w.app.rules with
  | error e => exact .refl _
  | ok actions =>
    dsimp only
    split
    · exact issues_dispatch actions w.app.backend
    · exact .refl _

/-- A message issues the commands that its reading asks for. -/
theorem issues_message {now : Timestamp} {topic payload deviceId : StdString}
    {reading : SensorReading}
    (hdecode : DeviceManager.decodeTopic topic = some (deviceId, lit "sensors"))
    (hread : DeviceManager.readSensors V now deviceId payload = .ok reading) :
    Issues V (w.fired V reading) w (step V w (.message now topic payload)).2 := by
  -- What follows the callback does nothing but end the handler.
  obtain ⟨caught, hcaught, hhandler⟩ : ∃ caught : CxxException → Manager Unit,
      (∀ x w, (((caught x).run (handle V)).run w).2 = w) ∧
        DeviceManager.handleMqttMessage V now topic payload =
          (Program.perform (ManagerCall.sensorCallback reading) >>= fun r =>
            (Program.ofExcept (liftJson r)).tryCatch caught) := by
    refine ⟨?caught, ?state, ?handler⟩
    case handler =>
      rw [DeviceManager.handleMqttMessage, hdecode]
      dsimp only
      rw [if_neg (by decide), if_pos rfl, DeviceManager.handleSensorMessage, hread]
      rfl
    case state => rintro (x | _) w <;> rfl
  show Issues V (w.fired V reading) w (((DeviceManager.handleMqttMessage V now topic payload).run
    (handle V)).run w).2
  rw [hhandler, Program.run_bind, Program.run_perform]
  have hcallback := issues_sensorCallback (V := V) reading w
  rw [← state_catching] at hcallback
  cases hrun : (handle V (.sensorCallback reading)).run w with
  | mk r w' =>
    have hissues : Issues V (w.fired V reading) w w' := by
      have hcatching : (catching (sensorCallback V reading)).run w = (r, w') := hrun
      rwa [hcatching] at hcallback
    rcases r with x | x | _
    · rwa [Stateful.run_bind_of_error hrun]
    · rw [Stateful.run_bind_of_ok hrun]
      have hend := hcaught (.json x) w'
      show Issues V (w.fired V reading) w (((caught (.json x)).run (handle V)).run w').2
      rwa [hend]
    · rwa [Stateful.run_bind_of_ok hrun]

/-- Nothing was handed to the library. -/
def Unsent (w w' : Wired) : Prop := w'.sent = w.sent

private theorem silent_devices {α : Type} {p : Ports α}
    (hp : p.Within (fun e => e.message = none) fun _ _ => True) : (devices p).Respects Unsent :=
  fun w => Backend.silent_run hp w.app.backend

/-- The calls that status and heartbeat messages make. -/
def Unpublished : ManagerCall → Prop
  | .port e => e.message = none
  | .statusCallback _ _ => True
  | .sensorCallback _ => False

/-- A call that publishes nothing sends nothing. -/
theorem silent_handle {e : ManagerCall} (he : Unpublished e) : (handle V e).Respects Unsent := by
  cases e with
  | port e => exact silent_devices (Program.within_perform he)
  | statusCallback deviceId online =>
    intro w
    show ((catching (statusCallback V deviceId online)).run w).2.sent = w.sent
    rw [state_catching]
    exact congrArg (fun app : AppState => app.backend.mqtt.paho.sent)
      (told_statusCallback deviceId online w).app
  | sensorCallback reading => exact he.elim

/-- A handler that publishes nothing sends nothing. -/
theorem silent_run {α : Type} {p : Manager α} (hp : p.Within Unpublished fun _ _ => True) :
    (p.run (handle V)).Respects Unsent := by
  have hrefl (w : Wired) : Unsent w w := rfl
  have htrans (a b c : Wired) (h : Unsent a b) (h' : Unsent b c) : Unsent a c := Eq.trans h' h
  exact Program.respects_run hrefl htrans (fun _ => silent_handle) (fun _ _ _ _ _ => trivial) hp

/-- A message sends some of the commands that it asks for. -/
theorem sent_message {now : Timestamp} {topic payload : StdString} :
    ∃ messages, messages.Sublist ((w.tables.toOnline
        ((WiredInput.message now topic payload).asked V w)).filterMap (DeviceCommand.message V)) ∧
      (step V w (.message now topic payload)).2.sent = w.sent ++ messages := by
  have hsilent (h : (DeviceManager.handleMqttMessage V now topic payload).Within Unpublished
      fun _ _ => True) :
      ∃ messages, messages.Sublist ((w.tables.toOnline
          ((WiredInput.message now topic payload).asked V w)).filterMap
            (DeviceCommand.message V)) ∧
        (step V w (.message now topic payload)).2.sent = w.sent ++ messages :=
    ⟨[], List.nil_sublist _, by rw [List.append_nil]; exact silent_run h w⟩
  -- A topic of another shape is passed over.
  cases hdecode : DeviceManager.decodeTopic topic with
  | none =>
    exact hsilent (by rw [DeviceManager.handleMqttMessage, hdecode]; trivial)
  | some decoded =>
    obtain ⟨deviceId, subtopic⟩ := decoded
    rw [DeviceManager.handleMqttMessage, hdecode] at hsilent
    dsimp only at hsilent
    by_cases hstatus : subtopic = lit "status"
    · rw [if_pos hstatus] at hsilent
      exact hsilent (DeviceManager.within_handleStatusMessage rfl (fun _ _ _ => rfl)
        fun _ => trivial)
    rw [if_neg hstatus] at hsilent
    -- Only readings can fire rules.
    by_cases hsensors : subtopic = lit "sensors"
    · rw [if_pos hsensors] at hsilent
      cases hread : DeviceManager.readSensors V now deviceId payload with
      | error x =>
        rw [DeviceManager.handleSensorMessage, hread] at hsilent
        exact hsilent trivial
      | ok reading =>
        -- The rules are asked what they fire before anything is sent.
        rw [hsensors] at hdecode
        have hasked : (WiredInput.message now topic payload).asked V w = w.fired V reading := by
          simp only [WiredInput.asked, hdecode, hread, ne_eq, not_true_eq_false, if_false]
        rw [hasked]
        exact (issues_message hdecode hread).2
    rw [if_neg hsensors] at hsilent
    by_cases hheartbeat : subtopic = lit "heartbeat"
    · rw [if_pos hheartbeat] at hsilent
      exact hsilent (DeviceManager.within_handleHeartbeat rfl fun _ _ => rfl)
    · rw [if_neg hheartbeat] at hsilent
      exact hsilent trivial

/-! ## Steps -/

/-- A step sends some of the commands that its input asks for, in order. -/
theorem sent_step (hparses : V.ParsesUtf8) (hdumps : V.DumpsUtf8) (i : WiredInput) :
    ∃ messages, messages.Sublist
        ((w.tables.toOnline (i.asked V w)).filterMap (DeviceCommand.message V)) ∧
      (step V w i).2.sent = w.sent ++ messages := by
  have hsilent {i : WiredInput} (h : Unsent w (step V w i).2) :
      ∃ messages, messages.Sublist
          ((w.tables.toOnline (i.asked V w)).filterMap (DeviceCommand.message V)) ∧
        (step V w i).2.sent = w.sent ++ messages :=
    ⟨[], List.nil_sublist _, by rw [List.append_nil]; exact h⟩
  cases i with
  | request env enableCors bReq =>
    by_cases hcommand : (HttpSession.beastToApp bReq).method = .post ∧
        (HttpSession.beastToApp bReq).path = lit "/commands"
    · have hissues := (@issues_request V env enableCors bReq w.app hparses hdumps hcommand.1
        hcommand.2).1
      have hasked : (WiredInput.request env enableCors bReq).asked V w =
          (DeviceController.commandOf V (HttpSession.beastToApp bReq).body).toList :=
        if_pos hcommand
      rw [hasked]
      exact hissues.2
    · exact hsilent (silent_request hcommand)
  | message now topic payload => exact sent_message
  | poll now =>
    exact hsilent (congrArg (fun app : AppState => app.backend.mqtt.paho.sent)
      (told_reportAll _ { w with monitor := (w.monitor.poll now).2 }).app)
  | subscribeAll => exact hsilent (silent_devices DeviceManager.silent_subscribeAll w)
  | connectionLost => exact hsilent rfl
  | reconnected => exact hsilent w.app.backend.mqtt.sent_reconnect

private theorem onlineNulFree_onRead (env : Env) (enableCors : Bool) (bReq : RawRequest)
    (s : AppState)
    (h : s.backend.database.tables.OnlineNulFree) :
    (HttpSession.onRead (registerHttpRoutes V env) enableCors
      bReq s).2.backend.database.tables.OnlineNulFree := by
  have hE := Tables.evolution_keepsOnlineNulFree
  let R : AppState → AppState → Prop := fun s s' =>
    Backend.OnTables Tables.KeepsOnlineNulFree s.backend s'.backend
  have hdevices {α : Type} {p : Ports α}
      (hp : p.Within (PortCall.Keeps Tables.KeepsOnlineNulFree) fun _ _ => True) :
      (App.devices p).Respects R := fun s => Backend.respects_run hE hp s.backend
  have F : WeakFrame V R :=
    { refl := fun s => hE.refl _
      trans := fun s s' s'' => hE.trans _ _ _
      list := fun filter => hdevices (DeviceManager.within_list filter)
      register := fun now req => hdevices
        (DeviceManager.within_register (Tables.keepsOnlineNulFree_insertDevice now req))
      sendCommand := fun _ _ _ => hdevices (DeviceManager.within_sendCommand V _ _ _)
      query := fun opts s => Database.respects_run hE (by simp)
        (SqliteSensorRepository.within_query opts) s.backend.database }
  refine F.rel_onRead enableCors (fun route req' res' hhandled => ?_) h
  obtain ⟨-, hroute, -⟩ := HttpRouter.of_run_resolve_eq_handled hhandled
  exact F.rel_handler hroute (fun _ => hE.refl _)
    (fun _ _ _ => hdevices
      (DeviceManager.within_unregister (Tables.keepsOnlineNulFree_deleteDevice _)) s)
    (fun _ _ _ => hE.refl _) fun _ _ _ _ _ _ _ s => hE.refl _

/-- No step lets a device with a NUL byte in its id go online. -/
theorem onlineNulFree_step (i : WiredInput) (h : w.tables.OnlineNulFree) :
    (step V w i).2.tables.OnlineNulFree := by
  have hE := Tables.evolution_keepsOnlineNulFree
  cases i with
  | request env enableCors bReq => exact onlineNulFree_onRead env enableCors bReq w.app h
  | message now topic payload =>
    refine tables_step hE (fun write hwrite => ?_) w h
    cases hwrite with
    | update hdecode hsubtopic hid =>
      exact Tables.keepsOnlineNulFree_updateDevice (by rw [hid]; exact nulFree_cStr _)
  | poll now => exact tables_step hE (by rintro _ ⟨⟩) w h
  | subscribeAll => exact tables_step hE (by rintro _ ⟨⟩) w h
  | connectionLost => exact h
  | reconnected => exact h

/-! ## Runs -/

/-- A command that comes back is passed over: its topic has no handler. -/
theorem step_command (w : Wired) (now : Timestamp) (deviceId payload : StdString) :
    step V w (.message now (DeviceManager.buildCommandTopic deviceId) payload) =
      (.delivered [], w) := by
  have hdecode : DeviceManager.decodeTopic (DeviceManager.buildCommandTopic deviceId) =
      some (deviceId, lit "commands") :=
    DeviceManager.decodeTopic_deviceTopic deviceId (by decide)
  have hhandler : DeviceManager.handleMqttMessage V now
      (DeviceManager.buildCommandTopic deviceId) payload = return () := by
    rw [DeviceManager.handleMqttMessage, hdecode]
    dsimp only
    rw [if_neg (by decide), if_neg (by decide), if_neg (by decide)]
  rw [step, hhandler]
  rfl

/-- In every step of every run, whichever calls fail, the messages handed to the broker are some of
those for the commands that the input asks for and whose devices are online, in their order and
none of them twice. They go to the topic of their device, and one that comes back is passed over.
A request that leads to a message carries the token of somebody who may write, and a request for a
command is answered with 202 exactly if its message was handed over. -/
theorem commands_of_run (hparses : V.ParsesUtf8) (hdumps : V.DumpsUtf8) {w₀ : Wired}
    {tr : WiredTrace} (hnul : w₀.tables.OnlineNulFree)
    (hrun : Mealy.Run (step V) Mealy.anyInput w₀ tr w) (i : WiredInput) :
    ∃ messages, (step V w i).2.sent = w.sent ++ messages ∧
      messages.Sublist ((w.tables.toOnline (i.asked V w)).filterMap (DeviceCommand.message V)) ∧
      (∀ message ∈ messages, ∃ deviceId, w.tables.Online deviceId ∧
        message.topic = DeviceManager.buildCommandTopic deviceId ∧
        ∀ w' now payload, step V w' (.message now message.topic payload) = (.delivered [], w')) ∧
      ∀ env enableCors bReq, i = .request env enableCors bReq →
        (messages ≠ [] → ∃ claims, SendsToken V env.now.seconds w.app.authService bReq claims ∧
          claims.role ≠ .viewer) ∧
        ((HttpSession.beastToApp bReq).method = .post →
          (HttpSession.beastToApp bReq).path = lit "/commands" →
          ∃ res, (step V w i).1 = .response res ∧ (res.status = 202 ↔ messages ≠ [])) := by
  have hnul' : w.tables.OnlineNulFree :=
    hrun.invariant (P := fun w => w.tables.OnlineNulFree) hnul fun _ _ i h _ =>
      onlineNulFree_step i h
  obtain ⟨messages, hsublist, hsent⟩ := sent_step (w := w) hparses hdumps i
  have hsilent : (step V w i).2.sent = w.sent ↔ messages = [] := by
    rw [hsent, List.append_right_eq_self]
  refine ⟨messages, hsent, hsublist, fun message hmessage => ?_, ?_⟩
  · obtain ⟨c, hc, hcarries⟩ := List.mem_filterMap.mp (hsublist.subset hmessage)
    have honline : w.tables.Online c.deviceId := by
      simpa using (List.mem_filter.mp hc).2
    have htopic : message.topic = DeviceManager.buildCommandTopic c.deviceId := by
      rw [DeviceCommand.message] at hcarries
      split at hcarries
      · cases hcarries
      · cases hcarries
        exact hnul'.cStr_buildCommandTopic honline
    exact ⟨c.deviceId, honline, htopic, fun w' now payload => by
      rw [htopic]; exact step_command w' now c.deviceId payload⟩
  · rintro env enableCors bReq rfl
    have hsilent' : Backend.Silent w.app.backend (HttpSession.onRead (registerHttpRoutes V env)
        enableCors bReq w.app).2.backend ↔ messages = [] := hsilent
    refine ⟨fun hmessages => ?_, fun hmethod hpath => ⟨_, rfl, ?_⟩⟩
    · by_cases hcommand : (HttpSession.beastToApp bReq).method = .post ∧
          (HttpSession.beastToApp bReq).path = lit "/commands"
      · exact exists_sendsToken_of_sent hcommand.2 (hsilent'.not.mpr hmessages)
      · exact absurd (hsilent'.mp (silent_request hcommand)) hmessages
    · exact (issues_request hparses hdumps hmethod hpath).2.trans hsilent'.not

/-- The lamp tells that it is dark. -/
def darkReading : WiredInput :=
  .message 0 (DeviceManager.deviceTopic (lit "d-1") "sensors")
    (lit "\x7b\"sensor_type\":\"light\",\"value\":0\x7d")

/-- The rule fires for two devices, of which one is online. -/
theorem commands_of_run_darkReading :
    ∃ message, (step Vendor.reference nightState darkReading).2.sent = [message] ∧
      message.topic = lit "devices/d-1/commands" ∧
      ∀ w' now payload,
        step Vendor.reference w' (.message now message.topic payload) = (.delivered [], w') := by
  have hnul : nightState.tables.OnlineNulFree := by
    unfold Tables.OnlineNulFree
    decide
  obtain ⟨messages, hsent, -, hmessages, -⟩ := commands_of_run Vendor.parsesUtf8_reference
    Vendor.dumpsUtf8_reference hnul (.nil : Mealy.Run (step Vendor.reference) Mealy.anyInput
      nightState [] nightState) darkReading
  have hone : (step Vendor.reference nightState darkReading).2.sent =
      [⟨lit "devices/d-1/commands", lit "\x7b\"command\":\"off\",\"parameters\":\x7b\x7d\x7d",
        .atLeastOnce, false⟩] := by
    decide +kernel
  obtain rfl : messages = _ := hsent.symm.trans hone
  obtain ⟨deviceId, -, -, hpassed⟩ := hmessages _ List.mem_cons_self
  exact ⟨_, hone, rfl, hpassed⟩

end Wired

end IotDashboard
