import IotDashboard.Api.QuietRoutes
import IotDashboard.Foundation.JsonText

/-!
# Answers

What a client can rely on of an answer, whatever it has sent, whatever the state is and whatever
goes wrong. Each endpoint has one status for success and a few for failures; the other statuses come
from the server before a handler runs, or from a handler that throws. There is no body with a 204,
success has a text that the JSON library has printed, and every failure has an object of a code and
a message. `Error` puts this object together as a string and escapes nothing, so it matters that no
text in it needs an escape, not even the text of an exception.

## Main definitions

* `endpoints`: the endpoints of the application with their statuses;
* `Fails`, `Answers`: what failures look like, and what the answers of an endpoint look like.

## Main results

* `answers_handlers`: each handler answers as its endpoint does;
* `outcome_onRead`: the answers to all requests, with the statuses of those that no handler sees.
-/

namespace IotDashboard

open StdString

/-! ## Errors -/

/-- The library reads compact texts of values without floating-point numbers. -/
def Vendor.ReadsText (V : Vendor) : Prop :=
  ∀ j : Json, j.Canonical → j.Utf8 → V.parse (JsonText.dump (fun _ => []) j) = .ok j

private theorem Vendor.readsText_reference : reference.ReadsText := fun _ hcanonical hutf8 =>
  JsonText.parse_dump hcanonical (JsonText.dumpChecked_of_utf8 hutf8)

/-- The object that `Error` writes down. -/
def errorJson (code message : StdString) : Json :=
  .object [(lit "error", .string code), (lit "message", .string message)]

/-- With plain texts, `Error` writes the text of its object. -/
theorem HttpResponse.body_error (res : HttpResponse) (status : UInt16) {code message : StdString}
    (hcode : code.Plain) (hmessage : message.Plain) :
    (res.error status code message).body =
      JsonText.dump (fun _ => []) (errorJson code message) := by
  have herror : JsonText.dumpString (lit "error") = lit "\"error\"" := by decide
  have htext : JsonText.dumpString (lit "message") = lit "\"message\"" := by decide
  unfold errorJson
  simp only [JsonText.dump, JsonText.dumpMembers, herror, htext,
    JsonText.dumpString_of_plain hcode, JsonText.dumpString_of_plain hmessage]
  unfold HttpResponse.error HttpResponse.json lit byte
  simp

/-- The body of an error is read back. -/
theorem HttpResponse.parse_error {V : Vendor} (hreads : V.ReadsText) (res : HttpResponse)
    (status : UInt16) {code message : StdString} (hcode : code.Plain) (hmessage : message.Plain) :
    V.parse (res.error status code message).body = .ok (errorJson code message) := by
  rw [res.body_error status hcode hmessage]
  have hsorted : [lit "error", lit "message"].Pairwise (· < ·) := by decide
  refine hreads _ (.object hsorted ?_) (.object ?_ ?_)
  · exact List.forall_mem_cons.mpr ⟨.string code, List.forall_mem_singleton.mpr (.string message)⟩
  · exact List.forall_mem_cons.mpr ⟨rfl, List.forall_mem_singleton.mpr rfl⟩
  · exact List.forall_mem_cons.mpr
      ⟨.string hcode.isUtf8, List.forall_mem_singleton.mpr (.string hmessage.isUtf8)⟩

/-! ## What answers look like -/

/-- The body is announced as JSON. -/
def HttpResponse.IsJson (res : HttpResponse) : Prop :=
  res.headers.lookup (lit "content-type") = some (lit "application/json")

/-- A failure with one of the statuses, and an object of a code and a message. -/
structure Fails (V : Vendor) (statuses : List UInt16) (res : HttpResponse) : Prop where
  status : res.status ∈ statuses
  isJson : res.IsJson
  body : ∃ code message, V.parse res.body = .ok (errorJson code message)

/-- A success with the status: a text of the library, or nothing at all. -/
inductive Succeeds (V : Vendor) (status : UInt16) (res : HttpResponse) : Prop
  | noContent : status = 204 → res.status = 204 → res.body = [] → Succeeds V status res
  | json (j : Json) : status ≠ 204 → res.status = status → res.IsJson →
      V.dump j = .ok res.body → Succeeds V status res

/-- A success with the one status, or a failure with one of the others. -/
def Answers (V : Vendor) (success : UInt16) (failures : List UInt16) (res : HttpResponse) : Prop :=
  Succeeds V success res ∨ Fails V failures res

/-- A path and a method of the interface, with the status of success and those of failures. -/
structure Endpoint where
  method : HttpMethod
  path : StdString
  success : UInt16
  failures : List UInt16 := []

/-- The interface of the application, in the order in which the routes are registered. -/
def endpoints : List Endpoint :=
  [⟨.get, lit "/health", 200, []⟩,
    ⟨.post, lit "/auth/login", 200, [400, 401]⟩,
    ⟨.post, lit "/auth/refresh", 200, [400, 401]⟩,
    ⟨.post, lit "/auth/logout", 204, []⟩,
    ⟨.get, lit "/devices", 200, [500]⟩,
    ⟨.post, lit "/devices", 201, [400, 409]⟩,
    ⟨.delete, lit "/devices", 204, [400, 404]⟩,
    ⟨.post, lit "/commands", 202, [400, 404, 422, 500]⟩,
    ⟨.get, lit "/sensors", 200, [400, 500]⟩,
    ⟨.get, lit "/automation/rules", 200, []⟩,
    ⟨.post, lit "/automation/rules", 201, [400, 409]⟩,
    ⟨.delete, lit "/automation/rules", 204, [400, 404]⟩,
    ⟨.get, lit "/metrics", 200, []⟩]

private theorem fails_error {V : Vendor} (hreads : V.ReadsText) {statuses : List UInt16}
    (res : HttpResponse) {status : UInt16} {code message : StdString} (hstatus : status ∈ statuses)
    (hcode : code.Plain) (hmessage : message.Plain) :
    Fails V statuses (res.error status code message) where
  status := hstatus
  isJson := AList.lookup_insert _
  body := ⟨code, message, res.parse_error hreads status hcode hmessage⟩

/-! ## Exceptions that are answered -/

/-- If the computation fails, then with a plain text. -/
def Explained {α : Type} (r : Except JsonException α) : Prop := ∀ e, r = .error e → e.what.Plain

namespace Explained

variable {α β : Type} {r : Except JsonException α} {f : α → Except JsonException β}

/-- A value needs no explanation. -/
theorem ok (a : α) : Explained (.ok a : Except JsonException α) := by
  intro e h
  cases h

/-- An exception with a plain text is explained. -/
theorem error {e : JsonException} (h : e.what.Plain) :
    Explained (.error e : Except JsonException α) := by
  intro e' heq
  cases heq
  exact h

/-- Explained parts make explained code. -/
theorem bind (hr : Explained r) (hf : ∀ a, Explained (f a)) : Explained (r >>= f) := by
  cases r with
  | error e => exact error (hr e rfl)
  | ok a => exact hf a

/-- So does explained code for each element. -/
theorem mapM (hf : ∀ a, Explained (f a)) (as : List α) : Explained (as.mapM f) := by
  induction as with
  | nil => exact ok []
  | cons a as ih =>
    rw [List.mapM_cons]
    exact bind (hf a) fun b => bind ih fun bs => ok (b :: bs)

variable (j : Json)

/-- Type errors say which type a value has instead. -/
theorem typeError (id : ℕ) {text : String} (h : (lit text).Plain) :
    Explained (.error (Json.typeError id (text ++ j.typeName)) : Except JsonException α) := by
  have hframe : (lit "[json.exception.type_error.").Plain := by decide
  have hnames : ∀ name ∈ ["null", "boolean", "number", "string", "array", "object"],
      (lit name).Plain := by decide
  have hname : (lit j.typeName).Plain := hnames j.typeName (by cases j <;> simp [Json.typeName])
  have htext : lit (text ++ j.typeName) = lit text ++ lit j.typeName := by
    unfold lit
    rw [String.toList_append, List.map_append]
  refine error (((hframe.append (plain_toDecimal id)).append (by decide)).append ?_)
  rw [htext]
  exact h.append hname

/-- Reading a string is explained. -/
theorem getString : Explained j.getString := by
  cases j with
  | string s => exact ok s
  | _ => exact typeError _ 302 (by decide)

/-- Reading a number is explained. -/
theorem getDouble : Explained j.getDouble := by
  cases j with
  | number n => exact ok _
  | real d => exact ok d
  | _ => exact typeError _ 302 (by decide)

/-- Reading a field with a default is explained if reading its value is. -/
theorem value {get : Json → Except JsonException α} (hget : ∀ v, Explained (get v))
    (key : StdString) (fallback : α) : Explained (j.value get key fallback) := by
  cases j with
  | object fields =>
    unfold Json.value
    dsimp only
    split
    · exact hget _
    · exact ok fallback
  | _ => exact typeError _ 306 (by decide)

/-- The exception for a missing key holds the key. -/
theorem atKey {key : StdString} (hkey : key.Plain) : Explained (j.atKey key) := by
  have hframe : (lit "[json.exception.out_of_range.403] key '").Plain := by decide
  cases j with
  | object fields =>
    unfold Json.atKey
    dsimp only
    split
    · exact ok _
    · exact error ((hframe.append hkey).append (by decide))
  | _ => exact typeError _ 304 (by decide)

/-- Reading a condition is explained. -/
theorem ofJson : Explained (Condition.ofJson j) :=
  bind (atKey j (by decide)) fun sensorType => bind (getString sensorType) fun _ =>
    bind (atKey j (by decide)) fun op => bind (getString op) fun _ =>
      bind (atKey j (by decide)) fun threshold => bind (getDouble threshold) fun _ => ok _

/-- Reading an action is explained. -/
theorem readAction : Explained (AutomationController.readAction j) :=
  bind (value j getString _ _) fun _ => bind (value j getString _ _) fun _ =>
    bind (value j (fun v => ok v) _ _) fun _ => ok _

/-- Reading the lists of a rule is explained. -/
theorem readLists : Explained (AutomationController.readLists j) :=
  bind (atKey j (by decide)) fun conditions =>
    bind (mapM ofJson conditions.elements) fun _ => bind (atKey j (by decide)) fun actions =>
      bind (mapM readAction actions.elements) fun _ => ok _

end Explained

/-! ## Handlers -/

section Handlers

variable {V : Vendor} (hreads : V.ReadsText) {env : Env} (req : HttpRequest) {res : HttpResponse}
  {success : UInt16} {failures : List UInt16}

open Stateful (ensures_bind ensures_ofExcept_bind ensures_pure)

include hreads in
private theorem App.ensures_error {status : UInt16} {code message : String}
    (hstatus : status ∈ failures)
    (hcode : (lit code).Plain) (hmessage : (lit message).Plain) :
    (App.error res status code message).Ensures (Answers V success failures) :=
  ensures_pure (.inr (fails_error hreads res hstatus hcode hmessage))

private theorem App.ensures_json (j : Json) (hne : success ≠ 204) :
    (App.json V res success j).Ensures (Answers V success failures) := by
  refine ensures_ofExcept_bind fun text htext => ensures_pure (.inl (.json j hne rfl ?_ ?_))
  · exact AList.lookup_insert _
  · rwa [liftJson_eq_ok_iff] at htext

private theorem App.ensures_noContent :
    (return res.noContent : App HttpResponse).Ensures (Answers V 204 failures) :=
  ensures_pure (.inl (.noContent rfl rfl rfl))

private theorem answers_getHealth :
    (HealthController.getHealth V env req res).Ensures (Answers V 200 []) :=
  App.ensures_json _ (by decide)

include hreads

private theorem answers_postLogin :
    (AuthController.postLogin V env req res).Ensures (Answers V 200 [400, 401]) := by
  unfold AuthController.postLogin
  split
  · exact App.ensures_error hreads (by decide) (by decide) (by decide)
  refine ensures_bind fun username => ensures_bind fun password => ?_
  split
  · exact App.ensures_error hreads (by decide) (by decide) (by decide)
  refine ensures_bind fun r => ?_
  split
  · exact App.ensures_error hreads (by decide) (by decide) (by decide)
  · exact App.ensures_json _ (by decide)

private theorem answers_postRefresh :
    (AuthController.postRefresh V env req res).Ensures (Answers V 200 [400, 401]) := by
  unfold AuthController.postRefresh
  split
  · exact App.ensures_error hreads (by decide) (by decide) (by decide)
  refine ensures_bind fun refreshToken => ?_
  split
  · exact App.ensures_error hreads (by decide) (by decide) (by decide)
  refine ensures_bind fun r => ?_
  split
  · exact App.ensures_error hreads (by decide) (by decide) (by decide)
  · exact App.ensures_json _ (by decide)

omit hreads in
private theorem answers_postLogout :
    (AuthController.postLogout req res).Ensures (Answers V 204 []) := by
  intro s answer heq
  cases heq
  exact .inl (.noContent rfl rfl rfl)

private theorem answers_getDevices :
    (DeviceController.getDevices V req res).Ensures (Answers V 200 [500]) := by
  refine ensures_bind fun r => ?_
  split
  · exact App.ensures_error hreads (by decide) (by decide) (by decide)
  · exact App.ensures_json _ (by decide)

private theorem answers_postDevices :
    (DeviceController.postDevices V env req res).Ensures (Answers V 201 [400, 409]) := by
  unfold DeviceController.postDevices
  split
  · exact App.ensures_error hreads (by decide) (by decide) (by decide)
  refine ensures_bind fun request => ?_
  split
  · exact App.ensures_error hreads (by decide) (by decide) (by decide)
  refine ensures_bind fun r => ?_
  split
  · exact App.ensures_error hreads (by decide) (by decide) (by decide)
  · exact App.ensures_json _ (by decide)

private theorem answers_deleteDevices :
    (DeviceController.deleteDevices req res).Ensures (Answers V 204 [400, 404]) := by
  unfold DeviceController.deleteDevices
  dsimp only
  split
  · exact App.ensures_error hreads (by decide) (by decide) (by decide)
  refine ensures_bind fun r => ?_
  split
  · exact App.ensures_error hreads (by decide) (by decide) (by decide)
  · exact App.ensures_noContent

private theorem answers_postCommands :
    (DeviceController.postCommands V req res).Ensures (Answers V 202 [400, 404, 422, 500]) := by
  unfold DeviceController.postCommands
  split
  · exact App.ensures_error hreads (by decide) (by decide) (by decide)
  refine ensures_bind fun deviceId => ensures_bind fun command => ensures_bind fun parameters =>
    ensures_bind fun params => ?_
  split
  · exact App.ensures_error hreads (by decide) (by decide) (by decide)
  refine ensures_bind fun r => ?_
  -- The errors for a missing device and for an offline one have statuses of their own.
  split
  · exact App.ensures_error hreads (by decide) (by decide) (by decide)
  · exact App.ensures_error hreads (by decide) (by decide) (by decide)
  · exact App.ensures_error hreads (by decide) (by decide) (by decide)
  · exact App.ensures_json _ (by decide)

private theorem answers_getSensors :
    (SensorController.getSensors V req res).Ensures (Answers V 200 [400, 500]) := by
  unfold SensorController.getSensors
  dsimp only
  split
  · exact App.ensures_error hreads (by decide) (by decide) (by decide)
  refine ensures_bind fun r => ?_
  split
  · exact App.ensures_error hreads (by decide) (by decide) (by decide)
  · exact App.ensures_json _ (by decide)

omit hreads in
private theorem answers_getRules :
    (AutomationController.getRules V req res).Ensures (Answers V 200 []) := by
  intro s answer heq
  -- The list of the rules does not fail, and so its error is never answered.
  exact App.ensures_json _ (by decide) s answer heq

private theorem answers_postRules :
    (AutomationController.postRules V req res).Ensures (Answers V 201 [400, 409]) := by
  unfold AutomationController.postRules
  split
  · exact App.ensures_error hreads (by decide) (by decide) (by decide)
  refine ensures_bind fun id => ensures_bind fun name => ensures_bind fun enabled => ?_
  dsimp only
  split
  · exact App.ensures_error hreads (by decide) (by decide) (by decide)
  split
  · next e he =>
    have hlead : (lit "Invalid conditions/actions: ").Plain := by decide
    exact ensures_pure (.inr (fails_error hreads res (by decide) (by decide)
      (hlead.append (Explained.readLists _ e he))))
  refine ensures_bind fun r => ?_
  split
  · exact App.ensures_error hreads (by decide) (by decide) (by decide)
  refine ensures_bind fun created => ?_
  split
  · exact App.ensures_json _ (by decide)
  · exact App.ensures_json _ (by decide)

private theorem answers_deleteRules :
    (AutomationController.deleteRules req res).Ensures (Answers V 204 [400, 404]) := by
  unfold AutomationController.deleteRules
  dsimp only
  split
  · exact App.ensures_error hreads (by decide) (by decide) (by decide)
  refine ensures_bind fun r => ?_
  split
  · exact App.ensures_error hreads (by decide) (by decide) (by decide)
  · exact App.ensures_noContent

omit hreads in
private theorem answers_getMetrics :
    (MetricsController.getMetrics V env req res).Ensures (Answers V 200 []) :=
  ensures_bind fun _ => App.ensures_json _ (by decide)

/-- The routes are the endpoints, and their handlers answer with the statuses of these. -/
theorem answers_handlers : List.Forall₂ (fun endpoint (route : Route AppState) =>
      route.method = endpoint.method ∧ route.path = endpoint.path ∧
        ∀ req res, (route.handler req res).Ensures
          (Answers V endpoint.success endpoint.failures))
    endpoints (registerHttpRoutes V env).routes := by
  rw [routes_registerHttpRoutes]
  unfold endpoints
  refine .cons ⟨rfl, rfl, fun req res => answers_getHealth req⟩ ?_
  refine .cons ⟨rfl, rfl, fun req res => answers_postLogin hreads req⟩ ?_
  refine .cons ⟨rfl, rfl, fun req res => answers_postRefresh hreads req⟩ ?_
  refine .cons ⟨rfl, rfl, fun req res => answers_postLogout req⟩ ?_
  refine .cons ⟨rfl, rfl, fun req res => answers_getDevices hreads req⟩ ?_
  refine .cons ⟨rfl, rfl, fun req res => answers_postDevices hreads req⟩ ?_
  refine .cons ⟨rfl, rfl, fun req res => answers_deleteDevices hreads req⟩ ?_
  refine .cons ⟨rfl, rfl, fun req res => answers_postCommands hreads req⟩ ?_
  refine .cons ⟨rfl, rfl, fun req res => answers_getSensors hreads req⟩ ?_
  refine .cons ⟨rfl, rfl, fun req res => answers_getRules req⟩ ?_
  refine .cons ⟨rfl, rfl, fun req res => answers_postRules hreads req⟩ ?_
  refine .cons ⟨rfl, rfl, fun req res => answers_deleteRules hreads req⟩ ?_
  exact .cons ⟨rfl, rfl, fun req res => answers_getMetrics req⟩ .nil

end Handlers

/-! ## Requests -/

/-- A page of any origin may read the answer, if the server is set up for that. -/
def HttpResponse.Shared (enableCors : Bool) (res : HttpResponse) : Prop :=
  enableCors = true → res.headers.lookup (lit "access-control-allow-origin") = some (lit "*")

/-- What becomes of a request: its endpoint answers, or the server does. -/
inductive Outcome (V : Vendor) (enableCors : Bool) (req : HttpRequest) (s s' : AppState)
    (res : HttpResponse) : Prop
  | answered {endpoint : Endpoint} : endpoint ∈ endpoints → endpoint.method = req.method →
      endpoint.path = req.path → res.Shared enableCors →
      Answers V endpoint.success endpoint.failures res → Outcome V enableCors req s s' res
  | preflight : enableCors = true → req.method = .options → res.Shared enableCors →
      res.status = 204 → res.body = [] → s' = s → Outcome V enableCors req s s' res
  | refused : isPublicPath req.path = false → res.Shared enableCors → Fails V [401, 403] res →
      s' = s → Outcome V enableCors req s s' res
  | notFound : (∀ endpoint ∈ endpoints, endpoint.path ≠ req.path) → res.Shared enableCors →
      Fails V [404] res → s' = s → Outcome V enableCors req s s' res
  | methodNotAllowed : (∃ endpoint ∈ endpoints, endpoint.path = req.path) →
      (∀ endpoint ∈ endpoints, endpoint.path = req.path → endpoint.method ≠ req.method) →
      res.Shared enableCors → Fails V [405] res → s' = s → Outcome V enableCors req s s' res
  -- The answer to an exception is a fresh one, which has no header for other origins.
  | thrown : (isPublicPath req.path = false ∨
        ∃ endpoint ∈ endpoints, endpoint.method = req.method ∧ endpoint.path = req.path) →
      res.headers.lookup (lit "access-control-allow-origin") = none → Fails V [500] res →
      Outcome V enableCors req s s' res

section Requests

variable {V : Vendor} {env : Env} {enableCors : Bool}

open HttpSession (responseOf)

private theorem isJson_responseOf {res : HttpResponse} (h : res.IsJson) :
    (responseOf enableCors (.ok res)).IsJson := by
  cases enableCors with
  | false => exact h
  | true => exact (AList.lookup_insert_ne (by decide)).trans h

private theorem shared_responseOf (res : HttpResponse) :
    (responseOf enableCors (.ok res)).Shared enableCors := by
  rintro rfl
  exact AList.lookup_insert _

/-- The session leaves a failure as it is. -/
theorem Fails.responseOf {statuses : List UInt16} {res : HttpResponse}
    (h : Fails V statuses res) : Fails V statuses (responseOf enableCors (.ok res)) where
  status := by rw [HttpSession.status_responseOf_ok]; exact h.status
  isJson := isJson_responseOf h.isJson
  body := by rw [HttpSession.body_responseOf_ok]; exact h.body

/-- The session leaves an answer as it is. -/
theorem Answers.responseOf {success : UInt16} {failures : List UInt16} {res : HttpResponse}
    (h : Answers V success failures res) :
    Answers V success failures (responseOf enableCors (.ok res)) := by
  refine h.imp (fun hsuccess => ?_) Fails.responseOf
  cases hsuccess with
  | noContent h hstatus hbody =>
    refine .noContent h ?_ ?_
    · rw [HttpSession.status_responseOf_ok, hstatus]
    · rw [HttpSession.body_responseOf_ok, hbody]
  | json j hne hstatus hjson hbody =>
    refine .json j hne ?_ (isJson_responseOf hjson) ?_
    · rw [HttpSession.status_responseOf_ok, hstatus]
    · rw [HttpSession.body_responseOf_ok, hbody]

private theorem fails_thrown (enableCors : Bool) (hreads : V.ReadsText) (x : CxxException) :
    Fails V [500] (responseOf enableCors (.error x)) :=
  fails_error hreads _ (by decide) (by decide) (by decide)

/-- The endpoints have the methods and the paths of the routes. -/
theorem map_endpoints : endpoints.map (fun endpoint => (endpoint.method, endpoint.path)) =
    (registerHttpRoutes V env).routes.map fun route => (route.method, route.path) := rfl

private theorem forall_endpoints_of_routes {P : HttpMethod × StdString → Prop}
    (h : ∀ route ∈ (registerHttpRoutes V env).routes, P (route.method, route.path)) :
    ∀ endpoint ∈ endpoints, P (endpoint.method, endpoint.path) := by
  intro endpoint hmem
  have hpair := List.mem_map_of_mem (f := fun e : Endpoint => (e.method, e.path)) hmem
  rw [@map_endpoints V env] at hpair
  obtain ⟨route, hroute, heq⟩ := List.mem_map.mp hpair
  exact heq ▸ h route hroute

/-- The answers to requests that no handler sees. -/
theorem Rejection.outcome (hreads : V.ReadsText) {req : HttpRequest} {res : HttpResponse}
    (h : Rejection V env enableCors req res) (s : AppState) :
    Outcome V enableCors req s s res := by
  cases h with
  | preflight henable hmethod =>
    refine .preflight henable hmethod (fun _ => ?_) rfl rfl rfl
    -- Of the three headers, the one for the origin was set first.
    unfold HttpSession.preflight HttpResponse.setHeader
    rw [AList.lookup_insert_ne (by decide), AList.lookup_insert_ne (by decide),
      AList.lookup_insert]
  | thrown x hpublic => exact .thrown (.inl hpublic) rfl (fails_thrown enableCors hreads x)
  | refused hpublic hstatus hcode hmessage =>
    refine .refused hpublic (shared_responseOf _) ?_ rfl
    refine (fails_error hreads _ ?_ hcode hmessage).responseOf
    rcases hstatus with rfl | rfl <;> decide
  | methodNotAllowed hmatched hother =>
    obtain ⟨route, hroute, hpath⟩ := hmatched
    obtain ⟨endpoint, hmem, hsame⟩ := (answers_handlers hreads).exists_of_mem_right hroute
    refine .methodNotAllowed ⟨endpoint, hmem, hsame.2.1.symm.trans hpath⟩
      (forall_endpoints_of_routes (P := fun p => p.2 = req.path → p.1 ≠ req.method) hother)
      (shared_responseOf _) ?_ rfl
    exact (fails_error hreads _ (by decide) (by decide) (by decide)).responseOf
  | notFound hother =>
    refine .notFound (forall_endpoints_of_routes (P := fun p => p.2 ≠ req.path) hother)
      (shared_responseOf _) ?_ rfl
    exact (fails_error hreads _ (by decide) (by decide) (by decide)).responseOf

/-- For every request, state and clock, and whatever fails: there is an answer that the client can
read, of the endpoint or of the server itself, and its status tells which. -/
theorem outcome_onRead (hreads : V.ReadsText) (bReq : RawRequest) (s : AppState) :
    Outcome V enableCors (HttpSession.beastToApp bReq) s
      (HttpSession.onRead (registerHttpRoutes V env) enableCors bReq s).2
      (HttpSession.onRead (registerHttpRoutes V env) enableCors bReq s).1 := by
  rcases handled_or_unhandled V env enableCors bReq s with ⟨route, req, h⟩ | h
  · obtain ⟨endpoint, hmem, hmethod, hpath, hanswers⟩ :=
      (answers_handlers hreads).exists_of_mem_right h.mem
    have hpair : endpoint.method = (HttpSession.beastToApp bReq).method ∧
        endpoint.path = (HttpSession.beastToApp bReq).path :=
      ⟨hmethod.symm.trans h.method, hpath.symm.trans h.path⟩
    rw [h.onRead]
    cases hrun : ((route.handler req {}).run s).1 with
    | error x => exact .thrown (.inr ⟨endpoint, hmem, hpair⟩) rfl (fails_thrown enableCors hreads x)
    | ok res =>
      exact .answered hmem hpair.1 hpair.2 (shared_responseOf res)
        (hanswers req {} s res hrun).responseOf
  · rw [h.state]
    exact h.answer.outcome hreads s

/-- A login whose body is no object throws, and is answered without the header for other
origins. -/
theorem outcome_onRead_login :
    let s : AppState := { authService.config := {} }
    let bReq : RawRequest := { method := .post, target := lit "/auth/login", body := lit "[]" }
    let answer := HttpSession.onRead (registerHttpRoutes Vendor.reference { now := 0 }) true bReq s
    answer.1.status = 500 ∧ ¬ answer.1.Shared true ∧
      Outcome Vendor.reference true (HttpSession.beastToApp bReq) s answer.2 answer.1 := by
  refine ⟨by decide +kernel, fun h => ?_, outcome_onRead Vendor.readsText_reference _ _⟩
  exact absurd (h rfl) (by decide +kernel)

end Requests

end IotDashboard
