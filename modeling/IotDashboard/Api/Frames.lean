import IotDashboard.Api.Application
import IotDashboard.Devices.Footprint

/-!
# What requests leave alone

A handler reaches the application only through calls of the device manager, the sensor repository
and the rule engine. So a relation between states that these calls respect is respected by the
handlers, and by every request; what ends a session, removes a device or removes a rule is left to
the relation at hand.

## Main definitions

* `Frame`: a relation that the calls made by handlers respect;
* `WeakFrame`: the same with no word on the rules that are added.

## Main results

* `WeakFrame.rel_handler`: the state after a handler is related to the state before it;
* `WeakFrame.rel_onRead`: the same for a request;
* `Frame.ofStores`: relations that are about the tables and the rules.
-/

namespace IotDashboard

open StdString

/-- A relation that the calls made by handlers respect, apart from those that remove something. -/
structure Frame (V : Vendor) (R : AppState → AppState → Prop) : Prop where
  refl : ∀ s, R s s
  trans : ∀ a b c, R a b → R b c → R a c
  list : ∀ filter, (App.devices (DeviceManager.list filter)).Respects R
  register : ∀ now req, (App.devices (DeviceManager.register now req)).Respects R
  sendCommand : ∀ deviceId command params,
    (App.devices (DeviceManager.sendCommand V deviceId command params)).Respects R
  query : ∀ opts, (App.sensors (SqliteSensorRepository.query opts)).Respects R
  addRule : ∀ rule, (App.rules (RuleEngine.addRule rule)).Respects R

/-- The same with no word on the rules that are added. -/
structure WeakFrame (V : Vendor) (R : AppState → AppState → Prop) : Prop where
  refl : ∀ s, R s s
  trans : ∀ a b c, R a b → R b c → R a c
  list : ∀ filter, (App.devices (DeviceManager.list filter)).Respects R
  register : ∀ now req, (App.devices (DeviceManager.register now req)).Respects R
  sendCommand : ∀ deviceId command params,
    (App.devices (DeviceManager.sendCommand V deviceId command params)).Respects R
  query : ∀ opts, (App.sensors (SqliteSensorRepository.query opts)).Respects R

/-- A frame is a weak one. -/
theorem Frame.weak {V : Vendor} {R : AppState → AppState → Prop} (F : Frame V R) :
    WeakFrame V R where
  refl := F.refl
  trans := F.trans
  list := F.list
  register := F.register
  sendCommand := F.sendCommand
  query := F.query

/-- The rule is what `POST /automation/rules` reads from the body. -/
structure AutomationController.ReadsRule (body : Json) (rule : AutomationRule) : Prop where
  id : body.value Json.getString (lit "id") [] = .ok rule.id
  name : body.value Json.getString (lit "name") [] = .ok rule.name
  lists : readLists body = .ok (rule.conditions, rule.actions)

/-- The middlewares change nothing. -/
theorem state_resolve {V : Vendor} {env : Env} {req : HttpRequest} {res : HttpResponse}
    {s : AppState} : (((registerHttpRoutes V env).resolve req res).run s).2 = s := by
  by_cases hpublic : isPublicPath req.path = true
  · rw [run_resolve_of_public hpublic]
  rw [Bool.not_eq_true] at hpublic
  by_cases hcarries : ∃ claims, CarriesToken V env.now.seconds s.authService req claims
  · obtain ⟨claims, hcarries⟩ := hcarries
    obtain ⟨req', res', -, hrun⟩ := run_resolve_of_carries env s res hpublic hcarries
    rw [hrun]
  · rcases run_resolve_of_not_carries res hpublic (not_exists.mp hcarries) with
      ⟨x, -, hrun⟩ | ⟨message, hrun⟩ <;> rw [hrun]

/-- What follows the removal of a device only writes the answer. -/
theorem state_deleteDevices {req : HttpRequest} (res : HttpResponse) {s : AppState}
    (h : req.getQueryParam (lit "id") ≠ []) :
    ((DeviceController.deleteDevices req res).run s).2 =
      ((App.devices (DeviceManager.unregister (req.getQueryParam (lit "id")))).run s).2 := by
  rw [DeviceController.deleteDevices, if_neg (by simpa using h), Stateful.run_bind]
  rcases (App.devices (DeviceManager.unregister _)).run s with ⟨_ | _ | _, _⟩ <;> rfl

/-- What follows the removal of a rule only writes the answer. -/
theorem state_deleteRules {req : HttpRequest} (res : HttpResponse) {s : AppState}
    (h : req.getQueryParam (lit "id") ≠ []) :
    ((AutomationController.deleteRules req res).run s).2 =
      ((App.rules (RuleEngine.removeRule (req.getQueryParam (lit "id")))).run s).2 := by
  rw [AutomationController.deleteRules, if_neg (by simpa using h), Stateful.run_bind]
  rcases (App.rules (RuleEngine.removeRule _)).run s with ⟨_ | _ | _, _⟩ <;> rfl

namespace WeakFrame

variable {V : Vendor} {env : Env} {R : AppState → AppState → Prop} {α β : Type}

/-! ## Parts of handlers -/

section Parts

variable (F : WeakFrame V R)

include F

/-- Code in a frame goes on in it. -/
theorem bind {m : App α} {f : α → App β} (hm : m.Respects R) (hf : ∀ a, (f a).Respects R) :
    (m >>= f).Respects R :=
  Stateful.respects_bind F.trans hm hf

theorem pure (a : α) : (Pure.pure a : App α).Respects R := Stateful.respects_pure F.refl a

/-- An exception changes nothing. -/
theorem ofExcept (r : Except CxxException α) : (Stateful.ofExcept r : App α).Respects R :=
  Stateful.respects_ofExcept F.refl r

/-- What follows a read of the body may rely on what was read. -/
theorem bind_ofExcept {r : Except JsonException α} {f : α → App β}
    (hf : ∀ a, r = .ok a → (f a).Respects R) :
    (Stateful.ofExcept (liftJson r) >>= f).Respects R := by
  intro s
  cases r with
  | ok a => exact hf a rfl s
  | error e => exact F.refl s

/-- Reading the state changes nothing. -/
theorem read (f : AppState → Except CxxException α) : (Stateful.read f : App α).Respects R :=
  Stateful.respects_read F.refl f

/-- Making an answer changes nothing. -/
theorem json (res : HttpResponse) (status : UInt16) (j : Json) :
    (App.json V res status j).Respects R :=
  F.bind (F.ofExcept _) fun _ => F.pure _

/-- Refusing changes nothing. -/
theorem error (res : HttpResponse) (status : UInt16) (code message : String) :
    (App.error res status code message).Respects R :=
  F.pure _

/-- Reading a field of a body changes nothing. -/
theorem value (get : Json → Except JsonException α) (j : Json) (key : String) (fallback : α) :
    (App.value get j key fallback).Respects R :=
  F.ofExcept _

end Parts

/-! ## Handlers -/

section Handlers

variable (F : WeakFrame V R) (req : HttpRequest) (res : HttpResponse)

include F

/-- `POST /auth/login` stays in every frame. -/
theorem postLogin : (AuthController.postLogin V env req res).Respects R := by
  unfold AuthController.postLogin
  split
  · exact F.error _ _ _ _
  refine F.bind (F.value _ _ _ _) fun username => F.bind (F.value _ _ _ _) fun password => ?_
  split
  · exact F.error _ _ _ _
  refine F.bind (F.read _) fun r => ?_
  split
  · exact F.error _ _ _ _
  · exact F.json _ _ _

/-- `POST /auth/refresh` stays in every frame. -/
theorem postRefresh : (AuthController.postRefresh V env req res).Respects R := by
  unfold AuthController.postRefresh
  split
  · exact F.error _ _ _ _
  refine F.bind (F.value _ _ _ _) fun refreshToken => ?_
  split
  · exact F.error _ _ _ _
  refine F.bind (F.read _) fun r => ?_
  split
  · exact F.error _ _ _ _
  · exact F.json _ _ _

/-- `GET /devices` stays in every frame. -/
theorem getDevices : (DeviceController.getDevices V req res).Respects R := by
  refine F.bind (F.list _) fun r => ?_
  split
  · exact F.error _ _ _ _
  · exact F.json _ _ _

/-- `POST /devices` stays in every frame. -/
theorem postDevices : (DeviceController.postDevices V env req res).Respects R := by
  unfold DeviceController.postDevices
  split
  · exact F.error _ _ _ _
  refine F.bind (F.ofExcept _) fun request => ?_
  split
  · exact F.error _ _ _ _
  refine F.bind (F.register _ _) fun r => ?_
  split
  · exact F.error _ _ _ _
  · exact F.json _ _ _

/-- `POST /commands` stays in every frame. -/
theorem postCommands : (DeviceController.postCommands V req res).Respects R := by
  unfold DeviceController.postCommands
  split
  · exact F.error _ _ _ _
  refine F.bind (F.value _ _ _ _) fun deviceId => F.bind (F.value _ _ _ _) fun command =>
    F.bind (F.value _ _ _ _) fun params => F.bind (F.ofExcept _) fun text => ?_
  split
  · exact F.error _ _ _ _
  refine F.bind (F.sendCommand _ _ _) fun r => ?_
  split
  · exact F.error _ _ _ _
  · exact F.error _ _ _ _
  · exact F.error _ _ _ _
  · exact F.json _ _ _

/-- `GET /sensors` stays in every frame. -/
theorem getSensors : (SensorController.getSensors V req res).Respects R := by
  rw [SensorController.getSensors]
  split
  · exact F.error _ _ _ _
  refine F.bind (F.query _) fun r => ?_
  split
  · exact F.error _ _ _ _
  · exact F.json _ _ _

/-- `GET /automation/rules` stays in every frame. -/
theorem getRules : (AutomationController.getRules V req res).Respects R := by
  refine F.bind (F.read _) fun r => ?_
  split
  · exact F.error _ _ _ _
  · exact F.json _ _ _

/-- A new rule, where the engine's part of it is known for what the body can hold and for whom the
middlewares let in. -/
theorem postRules (hadd : ∀ body rule, V.parse req.body = .ok body →
      AutomationController.ReadsRule body rule →
      rule.createdBy = req.getHeader (lit "x-user-id") →
      (App.rules (RuleEngine.addRule rule)).Respects R) :
    (AutomationController.postRules V req res).Respects R := by
  unfold AutomationController.postRules
  split
  · exact F.error _ _ _ _
  next body hparse =>
  refine F.bind_ofExcept fun id hid => F.bind_ofExcept fun name hname =>
    F.bind (F.value _ _ _ _) fun enabled => ?_
  split
  · exact F.error _ _ _ _
  split
  · exact F.pure _
  next conditions actions hlists =>
  refine F.bind (hadd body _ hparse ⟨hid, hname, hlists⟩ rfl) fun r => ?_
  split
  · exact F.error _ _ _ _
  refine F.bind (F.read _) fun created => ?_
  split
  · exact F.json _ _ _
  · exact F.json _ _ _

/-- `GET /metrics` stays in every frame. -/
theorem getMetrics : (MetricsController.getMetrics V env req res).Respects R :=
  F.bind (F.read _) fun _ => F.json _ _ _

/-- The removal of a device, where the device manager's part of it is known. -/
theorem deleteDevices {s : AppState}
    (h : req.getQueryParam (lit "id") ≠ [] →
      R s ((App.devices (DeviceManager.unregister (req.getQueryParam (lit "id")))).run s).2) :
    R s ((DeviceController.deleteDevices req res).run s).2 := by
  by_cases hid : req.getQueryParam (lit "id") = []
  · rw [DeviceController.deleteDevices, if_pos (by simpa using hid)]
    exact F.refl s
  · rw [state_deleteDevices res hid]
    exact h hid

/-- The removal of a rule, where the engine's part of it is known. -/
theorem deleteRules {s : AppState}
    (h : req.getQueryParam (lit "id") ≠ [] →
      R s ((App.rules (RuleEngine.removeRule (req.getQueryParam (lit "id")))).run s).2) :
    R s ((AutomationController.deleteRules req res).run s).2 := by
  by_cases hid : req.getQueryParam (lit "id") = []
  · rw [AutomationController.deleteRules, if_pos (by simpa using hid)]
    exact F.refl s
  · rw [state_deleteRules res hid]
    exact h hid

/-- The end of a session, where the service's part of it is known. -/
theorem postLogout {s : AppState}
    (h : ∀ token, R s { s with authService := s.authService.logout token }) :
    R s ((AuthController.postLogout req res).run s).2 := by
  show R s (ite _ _ s)
  split
  · exact h _
  · exact F.refl s

end Handlers

/-! ## Requests -/

section Requests

variable (F : WeakFrame V R) {req : HttpRequest} {res : HttpResponse} {s : AppState}

include F

/-- A handler respects the relation if the ends of sessions do, and if those removals and additions
do that the route asks for. -/
theorem rel_handler {route : Route AppState} (hroute : route ∈ (registerHttpRoutes V env).routes)
    (hlogout : ∀ token, R s { s with authService := s.authService.logout token })
    (hdevice : route.method = .delete → route.path = lit "/devices" →
      req.getQueryParam (lit "id") ≠ [] →
      R s ((App.devices (DeviceManager.unregister (req.getQueryParam (lit "id")))).run s).2)
    (hrule : route.method = .delete → route.path = lit "/automation/rules" →
      req.getQueryParam (lit "id") ≠ [] →
      R s ((App.rules (RuleEngine.removeRule (req.getQueryParam (lit "id")))).run s).2)
    (hadd : route.method = .post → route.path = lit "/automation/rules" →
      ∀ body rule, V.parse req.body = .ok body → AutomationController.ReadsRule body rule →
      rule.createdBy = req.getHeader (lit "x-user-id") →
      (App.rules (RuleEngine.addRule rule)).Respects R) :
    R s ((route.handler req res).run s).2 := by
  rw [routes_registerHttpRoutes] at hroute
  simp only [List.mem_cons, List.not_mem_nil, or_false] at hroute
  -- One case for each route, in the order of registration.
  rcases hroute with rfl | rfl | rfl | rfl | rfl | rfl | rfl | rfl | rfl | rfl | rfl | rfl | rfl
  · exact F.json _ _ _ s
  · exact F.postLogin req res s
  · exact F.postRefresh req res s
  · exact F.postLogout req res hlogout
  · exact F.getDevices req res s
  · exact F.postDevices req res s
  · exact F.deleteDevices req res (hdevice rfl rfl)
  · exact F.postCommands req res s
  · exact F.getSensors req res s
  · exact F.getRules req res s
  · exact F.postRules req res (hadd rfl rfl) s
  · exact F.deleteRules req res (hrule rfl rfl)
  · exact F.getMetrics req res s

/-- Only a handler writes. -/
theorem rel_dispatch
    (hhandler : ∀ route req' res', ((registerHttpRoutes V env).resolve req res).run s =
      (.ok (.handled route req' res'), s) → R s ((route.handler req' res').run s).2) :
    R s (((registerHttpRoutes V env).dispatch req res).run s).2 := by
  have hstate : (((registerHttpRoutes V env).resolve req res).run s).2 = s := state_resolve
  rw [HttpRouter.dispatch, Stateful.run_bind]
  rcases hrun : ((registerHttpRoutes V env).resolve req res).run s with ⟨x | resolution, s'⟩
  · rw [hrun] at hstate
    subst hstate
    exact F.refl s'
  · rw [hrun] at hstate
    subst hstate
    cases resolution with
    | handled route req' res' => exact hhandler route req' res' hrun
    | _ => exact F.refl s'

/-- What a session does with a request, by the handler that runs. -/
theorem rel_onRead {bReq : RawRequest} (enableCors : Bool)
    (hhandler : ∀ route req' res',
      ((registerHttpRoutes V env).resolve (HttpSession.beastToApp bReq) {}).run s =
        (.ok (.handled route req' res'), s) → R s ((route.handler req' res').run s).2) :
    R s (HttpSession.onRead (registerHttpRoutes V env) enableCors bReq s).2 := by
  rcases HttpSession.onRead_state (registerHttpRoutes V env) enableCors bReq s with
    hsame | hdispatch
  · rw [hsame]
    exact F.refl s
  · rw [hdispatch]
    exact F.rel_dispatch hhandler

end Requests

end WeakFrame

namespace Frame

variable {V : Vendor} {env : Env} {R : AppState → AppState → Prop} {α : Type}

/-- Every handler stays in the frame, apart from a logout and the two removals. -/
theorem rel_handler (F : Frame V R) {req : HttpRequest} {res : HttpResponse} {s : AppState}
    {route : Route AppState} (hroute : route ∈ (registerHttpRoutes V env).routes)
    (hlogout : ∀ token, R s { s with authService := s.authService.logout token })
    (hdevice : route.method = .delete → route.path = lit "/devices" →
      req.getQueryParam (lit "id") ≠ [] →
      R s ((App.devices (DeviceManager.unregister (req.getQueryParam (lit "id")))).run s).2)
    (hrule : route.method = .delete → route.path = lit "/automation/rules" →
      req.getQueryParam (lit "id") ≠ [] →
      R s ((App.rules (RuleEngine.removeRule (req.getQueryParam (lit "id")))).run s).2) :
    R s ((route.handler req res).run s).2 :=
  F.weak.rel_handler hroute hlogout hdevice hrule fun _ _ _ rule _ _ _ => F.addRule rule

/-! ## Relations on the stores -/

/-- A relation on the tables and one on the rules, with no word on the rest. -/
def OnStores (T : Tables → Tables → Prop) (U : RuleRepository → RuleRepository → Prop)
    (s s' : AppState) : Prop :=
  Backend.OnTables T s.backend s'.backend ∧ U s.rules s'.rules

variable {T : Tables → Tables → Prop} {U : RuleRepository → RuleRepository → Prop}

/-- A program of the device manager keeps what the statements of its calls keep. -/
theorem respects_devices (E : Evolution T) (hUrefl : ∀ r, U r r) {p : Ports α}
    (hp : p.Within (PortCall.Keeps T) fun _ _ => True) :
    (App.devices p).Respects (OnStores T U) := fun s =>
  ⟨Backend.respects_run E hp s.backend, hUrefl s.rules⟩

/-- It is enough that registered devices and added rules keep the relations. -/
theorem ofStores (E : Evolution T) (hinsert : ∀ row, (Write.insertDevice row).Keeps T)
    (hUrefl : ∀ r, U r r)
    (hUtrans : ∀ a b c, U a b → U b c → U a c)
    (hadd : ∀ rule r, U r (RuleEngine.addRule rule r).2) : Frame V (OnStores T U) where
  refl s := ⟨E.refl _, hUrefl _⟩
  trans a b c hab hbc := ⟨E.trans _ _ _ hab.1 hbc.1, hUtrans _ _ _ hab.2 hbc.2⟩
  list filter := respects_devices E hUrefl (DeviceManager.within_list filter)
  register now req := respects_devices E hUrefl (DeviceManager.within_register (hinsert _))
  sendCommand deviceId command params :=
    respects_devices E hUrefl (DeviceManager.within_sendCommand V deviceId command params)
  query opts s := ⟨Database.respects_run E (by simp) (SqliteSensorRepository.within_query opts)
    s.backend.database, hUrefl s.rules⟩
  addRule rule s := ⟨E.refl _, hadd rule s.rules⟩

end Frame

end IotDashboard
