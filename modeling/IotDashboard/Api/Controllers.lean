import IotDashboard.Api.AuthMiddleware
import IotDashboard.Automation.Rules
import IotDashboard.Database.SensorRepository
import IotDashboard.Devices.Backend

/-!
# Controllers

The HTTP controllers of the application. A controller's `register` adds its middlewares and its
routes to the router, side by side in the source; the handlers are functions of the request on the
state of the application.

What a handler reads from the world around the application during a request (the clock, the
uptimes, the number of WebSocket clients) is given by an `Env`.
-/

namespace IotDashboard

open StdString

/-- The parts of the application that requests read and write. -/
structure AppState where
  authService : AuthenticationService
  backend : Backend := {}
  rules : RuleRepository := {}
  httpRequests : UInt64 := 0
  mqttMessages : UInt64 := 0

/-- The world during one request. -/
structure Env where
  now : Timestamp
  healthUptime : Int64 := 0
  metricsUptime : Int64 := 0
  connectionCount : ℕ := 0

/-- A computation on the application, as handlers perform it. -/
abbrev App (α : Type) : Type := Stateful CxxException AppState α

namespace App

/-- A call of the device manager. -/
def devices {α : Type} (p : Ports α) : App α :=
  .zoom AppState.backend (fun backend s => { s with backend }) (p.run Backend.handle)

/-- A call of the sensor repository. -/
def sensors {α : Type} (p : Sql α) : App α :=
  .zoom AppState.backend (fun backend s => { s with backend }) (Backend.onDatabase p)

/-- A call of the rule engine that changes the rules. -/
def rules {α : Type} (f : RuleRepository → α × RuleRepository) : App α := fun s =>
  (.ok (f s.rules).1, { s with rules := (f s.rules).2 })

/-- `j.value(key, fallback)` in a handler that lets the exception escape. -/
def value {α : Type} (get : Json → Except JsonException α) (j : Json) (key : String)
    (fallback : α) : App α :=
  .ofExcept (liftJson (j.value get (lit key) fallback))

/-- `res.Json(status, j.dump())`. -/
def json (V : Vendor) (res : HttpResponse) (status : UInt16) (j : Json) : App HttpResponse := do
  let text ← Stateful.ofExcept (liftJson (V.dump j))
  return res.json status text

/-- The answer is the text of the value, if it can be printed. -/
theorem run_json (V : Vendor) (res : HttpResponse) (status : UInt16) (j : Json) (s : AppState) :
    (json V res status j).run s = ((liftJson (V.dump j)).map (res.json status), s) := by
  rw [json, Stateful.run_bind, Stateful.run_ofExcept]
  cases V.dump j <;> rfl

section Value

variable {α β : Type} {get : Json → Except JsonException α} {j : Json} {key : String}
  {fallback : α} {f : α → App β} {s : AppState}

/-- A field that is read is passed on. -/
theorem run_value_bind_of_ok {a : α} (h : j.value get (lit key) fallback = .ok a) :
    (value get j key fallback >>= f).run s = (f a).run s := by
  rw [value, h]
  rfl

/-- A field that cannot be read throws. -/
theorem run_value_bind_of_error {x : JsonException}
    (h : j.value get (lit key) fallback = .error x) :
    (value get j key fallback >>= f).run s = (.error (.json x), s) := by
  rw [value, h]
  rfl

end Value

/-- A handler gets past the read of a field that has its type. -/
theorem returns_value_bind_iff {α β : Type} {get : Json → Except JsonException α} {j : Json}
    {key : String} {fallback : α} {f : α → App β} {s : AppState} :
    (value get j key fallback >>= f).Returns s ↔
      ∃ a, j.value get (lit key) fallback = .ok a ∧ (f a).Returns s := by
  rw [value, Stateful.returns_ofExcept_bind_iff]
  simp only [liftJson_eq_ok_iff]

/-- A handler gets past a call of the device manager that returns. -/
theorem returns_devices_bind_iff {α β : Type} {p : Ports α} {f : α → App β} {s : AppState} :
    (devices p >>= f).Returns s ↔ ∃ a backend, (p.run Backend.handle).run s.backend =
      (.ok a, backend) ∧ (f a).Returns { s with backend } := by
  rw [Stateful.returns_bind_iff]
  refine exists_congr fun a => ⟨?_, ?_⟩
  · rintro ⟨s', heq, h⟩
    obtain ⟨hfirst, rfl⟩ := Prod.mk.inj heq
    exact ⟨_, Prod.ext hfirst rfl, h⟩
  · rintro ⟨backend, hrun, h⟩
    refine ⟨_, ?_, h⟩
    rw [devices, Stateful.run_zoom, hrun]

/-- An answer can be made exactly if its value can be printed. -/
theorem returns_json_iff {V : Vendor} {res : HttpResponse} {status : UInt16} {j : Json}
    {s : AppState} : (json V res status j).Returns s ↔ ∃ text, V.dump j = .ok text := by
  rw [json, Stateful.returns_ofExcept_bind_iff]
  simp only [liftJson_eq_ok_iff]
  exact exists_congr fun text => and_iff_left ⟨_, rfl⟩

/-- `res.Error(status, code, message)`. -/
def error (res : HttpResponse) (status : UInt16) (code message : String) : App HttpResponse :=
  return res.error status (lit code) (lit message)

end App

variable (V : Vendor) (env : Env)

/-! ## Health -/

namespace HealthController

/-- `GET /health`. -/
def getHealth : RouteHandler AppState := fun _ res =>
  App.json V res 200 (.mkObject [(lit "status", .string (lit "healthy")),
    (lit "version", .string (lit "1.0.0")), (lit "uptime_seconds", .number env.healthUptime.toInt)])

/-- `Register`. -/
def register (router : HttpRouter AppState) : HttpRouter AppState :=
  router.addRoute .get (lit "/health") (getHealth V env)

end HealthController

/-! ## Authentication -/

namespace AuthController

/-- `POST /auth/login`. -/
def postLogin : RouteHandler AppState := fun req res =>
  match V.parse req.body with
  | .error _ => App.error res 400 "BadRequest" "Invalid JSON body"
  | .ok body => do
    -- A field of another type throws here, outside the `try` of the parse.
    let username ← App.value Json.getString body "username" []
    let password ← App.value Json.getString body "password" []
    if username.isEmpty || password.isEmpty then
      App.error res 400 "BadRequest" "username and password required"
    else
      match ← Stateful.read fun s : AppState =>
        s.authService.login V env.now.seconds username password with
      | .error _ => App.error res 401 "Unauthorized" "Invalid credentials"
      | .ok pair =>
        App.json V res 200 (.mkObject [(lit "access_token", .string pair.accessToken),
          (lit "refresh_token", .string pair.refreshToken),
          (lit "expires_in", .number pair.expiresInSeconds.toNat),
          (lit "token_type", .string (lit "Bearer"))])

/-- `POST /auth/refresh`. -/
def postRefresh : RouteHandler AppState := fun req res =>
  match V.parse req.body with
  | .error _ => App.error res 400 "BadRequest" "Invalid JSON body"
  | .ok body => do
    let refreshToken ← App.value Json.getString body "refresh_token" []
    if refreshToken.isEmpty then App.error res 400 "BadRequest" "refresh_token required"
    else
      match ← Stateful.read fun s : AppState =>
        s.authService.refreshToken V env.now.seconds refreshToken with
      | .error _ => App.error res 401 "Unauthorized" "Invalid or expired refresh token"
      | .ok pair =>
        App.json V res 200 (.mkObject [(lit "access_token", .string pair.accessToken),
          (lit "expires_in", .number pair.expiresInSeconds.toNat),
          (lit "token_type", .string (lit "Bearer"))])

/-- `POST /auth/logout`. -/
def postLogout : RouteHandler AppState := fun req res s =>
  let auth := req.getHeader authorization
  -- The answer is the same with and without a token.
  (.ok res.noContent, if auth.startsWith bearer then
    { s with authService := s.authService.logout (auth.substrFrom 7) } else s)

/-- `Register`. -/
def register (router : HttpRouter AppState) : HttpRouter AppState :=
  ((router.addRoute .post (lit "/auth/login") (postLogin V env)).addRoute
    .post (lit "/auth/refresh") (postRefresh V env)).addRoute
    .post (lit "/auth/logout") postLogout

end AuthController

/-! ## Devices -/

namespace DeviceController

/-- `DeviceToJson`. -/
def deviceToJson (d : DeviceInfo) : Json :=
  .mkObject [(lit "id", .string d.id), (lit "name", .string d.name), (lit "type", .string d.type),
    (lit "protocol", .string d.protocol), (lit "address", .string d.address),
    (lit "online", .boolean d.isConnected)]

/-- `GET /devices`. -/
def getDevices : RouteHandler AppState := fun req res => do
  let filter : DeviceFilter :=
    ⟨req.getQueryParam (lit "type"), req.getQueryParam (lit "online") == lit "true"⟩
  match ← App.devices (DeviceManager.list filter) with
  | .error _ => App.error res 500 "InternalError" "Failed to list devices"
  | .ok devices =>
    App.json V res 200 (.mkObject [(lit "devices", .array (devices.map deviceToJson)),
      (lit "total", .number devices.length)])

/-- The fields that `POST /devices` reads. -/
def readRequest (body : Json) : Except JsonException RegisterDeviceRequest := do
  let id ← body.value Json.getString (lit "id") []
  let name ← body.value Json.getString (lit "name") []
  let type ← body.value Json.getString (lit "type") []
  let protocol ← body.value Json.getString (lit "protocol") (lit "mqtt")
  let address ← body.value Json.getString (lit "address") []
  return ⟨id, name, type, protocol, address⟩

/-- `POST /devices`. -/
def postDevices : RouteHandler AppState := fun req res =>
  match V.parse req.body with
  | .error _ => App.error res 400 "BadRequest" "Invalid JSON"
  | .ok body => do
    let request ← Stateful.ofExcept (liftJson (readRequest body))
    if request.id.isEmpty || request.name.isEmpty then
      App.error res 400 "BadRequest" "id and name are required"
    else
      -- Every error of the device manager becomes a conflict.
      match ← App.devices (DeviceManager.register env.now request) with
      | .error _ => App.error res 409 "Conflict" "Device already exists or invalid data"
      | .ok device => App.json V res 201 (deviceToJson device)

/-- `DELETE /devices`. -/
def deleteDevices : RouteHandler AppState := fun req res => do
  let id := req.getQueryParam (lit "id")
  if id.isEmpty then App.error res 400 "BadRequest" "id query parameter required"
  else
    match ← App.devices (DeviceManager.unregister id) with
    | .error _ => App.error res 404 "NotFound" "Device not found"
    | .ok () => return res.noContent

/-- `POST /commands`. -/
def postCommands : RouteHandler AppState := fun req res =>
  match V.parse req.body with
  | .error _ => App.error res 400 "BadRequest" "Invalid JSON"
  | .ok body => do
    let deviceId ← App.value Json.getString body "device_id" []
    let command ← App.value Json.getString body "command" []
    let parameters ← App.value Json.getJson body "parameters" (.object [])
    let params ← Stateful.ofExcept (liftJson (V.dump parameters))
    if deviceId.isEmpty || command.isEmpty then
      App.error res 400 "BadRequest" "device_id and command required"
    else
      match ← App.devices (DeviceManager.sendCommand V deviceId command params) with
      | .error .deviceNotFound => App.error res 404 "NotFound" "Device not found"
      | .error .deviceOffline => App.error res 422 "DeviceOffline" "Device is offline"
      | .error _ => App.error res 500 "InternalError" "Failed to send command"
      | .ok () =>
        App.json V res 202 (.mkObject [(lit "status", .string (lit "accepted")),
          (lit "device_id", .string deviceId), (lit "command", .string command)])

/-- The middleware for reading devices. -/
def readAuth : Middleware AppState :=
  Access.middleware V env.now.seconds AppState.authService ⟨lit "devices", .read⟩

/-- The middleware for changing devices. -/
def writeAuth : Middleware AppState :=
  Access.middleware V env.now.seconds AppState.authService ⟨lit "devices", .write⟩

/-- `Register`. -/
def register (router : HttpRouter AppState) : HttpRouter AppState :=
  (((((((router.addMiddleware (readAuth V env)).addRoute
    .get (lit "/devices") (getDevices V)).addMiddleware (writeAuth V env)).addRoute
    .post (lit "/devices") (postDevices V env)).addMiddleware (writeAuth V env)).addRoute
    .delete (lit "/devices") deleteDevices).addMiddleware (writeAuth V env)).addRoute
    .post (lit "/commands") (postCommands V)

end DeviceController

/-! ## Sensors -/

namespace SensorController

/-- `ReadingToJson`. -/
def readingToJson (r : SensorReading) : Json :=
  let fields := [(lit "device_id", Json.string r.deviceId), (lit "sensor_type", .string r.sensor),
    (lit "value", .real r.value), (lit "unit", .string r.unit),
    (lit "timestamp", .number r.timestamp.seconds.toInt)]
  match r.quality with
  | none => .mkObject fields
  | some quality => .mkObject (fields ++ [(lit "quality", .string quality)])

/-- The options that `GET /sensors` takes from the query; a limit that is no number keeps the
default. -/
def queryOptions (req : HttpRequest) : SensorQueryOptions :=
  let opts : SensorQueryOptions :=
    { deviceId := req.getQueryParam (lit "device_id")
      sensorType := req.getQueryParam (lit "sensor_type") }
  match stoul (req.getQueryParam (lit "limit")) with
  | none => opts
  | some limit => { opts with limit := UInt64.ofNat limit }

/-- `GET /sensors`. -/
def getSensors : RouteHandler AppState := fun req res => do
  let opts := queryOptions req
  if opts.deviceId.isEmpty then App.error res 400 "BadRequest" "device_id is required"
  else
    match ← App.sensors (SqliteSensorRepository.query opts) with
    | .error _ => App.error res 500 "InternalError" "Failed to query sensors"
    | .ok readings =>
      App.json V res 200 (.mkObject [(lit "readings", .array (readings.map readingToJson)),
        (lit "total", .number readings.length)])

/-- The middleware for reading sensors. -/
def readAuth : Middleware AppState :=
  Access.middleware V env.now.seconds AppState.authService ⟨lit "sensors", .read⟩

/-- `Register`. -/
def register (router : HttpRouter AppState) : HttpRouter AppState :=
  (router.addMiddleware (readAuth V env)).addRoute .get (lit "/sensors") (getSensors V)

end SensorController

/-! ## Automation -/

namespace AutomationController

/-- `RuleToJson`. -/
def ruleToJson (r : AutomationRule) : Json :=
  let actions := r.actions.map fun a => Json.mkObject [(lit "device_id", .string a.deviceId),
    (lit "command", .string a.command), (lit "parameters", a.parameters)]
  .mkObject [(lit "id", .string r.id), (lit "name", .string r.name),
    (lit "enabled", .boolean r.enabled), (lit "conditions", .array (r.conditions.map (·.toJson))),
    (lit "actions", .array actions)]

/-- `GET /automation/rules`. -/
def getRules : RouteHandler AppState := fun _ res => do
  match ← Stateful.read fun s : AppState => .ok (RuleEngine.listRules s.rules) with
  | .error _ => App.error res 500 "InternalError" "Failed to list rules"
  | .ok rules =>
    App.json V res 200 (.mkObject [(lit "rules", .array (rules.map ruleToJson)),
      (lit "total", .number rules.length)])

/-- An action as `POST /automation/rules` reads it. -/
def readAction (a : Json) : Except JsonException Action := do
  let deviceId ← a.value Json.getString (lit "device_id") []
  let command ← a.value Json.getString (lit "command") []
  let parameters ← a.value Json.getJson (lit "parameters") (.object [])
  return ⟨deviceId, command, parameters⟩

/-- The conditions and actions of a body. -/
def readLists (body : Json) : Except JsonException (List Condition × List Action) := do
  let conditions ← (← body.atKey (lit "conditions")).elements.mapM Condition.ofJson
  let actions ← (← body.atKey (lit "actions")).elements.mapM readAction
  return (conditions, actions)

/-- `POST /automation/rules`. The rule is moved into the engine, which leaves its id empty. -/
def postRules : RouteHandler AppState := fun req res =>
  match V.parse req.body with
  | .error _ => App.error res 400 "BadRequest" "Invalid JSON"
  | .ok body => do
    let id ← App.value Json.getString body "id" []
    let name ← App.value Json.getString body "name" []
    let enabled ← App.value Json.getBool body "enabled" true
    let createdBy := req.getHeader (lit "x-user-id")
    if id.isEmpty || name.isEmpty then App.error res 400 "BadRequest" "id and name required"
    else
      match readLists body with
      | .error e =>
        return res.error 400 (lit "BadRequest") (lit "Invalid conditions/actions: " ++ e.what)
      | .ok (conditions, actions) =>
        let rule : AutomationRule := ⟨id, name, enabled, conditions, actions, createdBy⟩
        match ← App.rules (RuleEngine.addRule rule) with
        | .error _ => App.error res 409 "Conflict" "Rule ID already exists"
        | .ok () =>
          -- The rule was moved from, so its id is read back as empty.
          let movedFromId : StdString := []
          match ← Stateful.read fun s : AppState =>
            .ok (RuleEngine.getRule movedFromId s.rules) with
          | .error _ => App.json V res 201 body
          | .ok created => App.json V res 201 (ruleToJson created)

/-- `DELETE /automation/rules`. -/
def deleteRules : RouteHandler AppState := fun req res => do
  let id := req.getQueryParam (lit "id")
  if id.isEmpty then App.error res 400 "BadRequest" "id query parameter required"
  else
    match ← App.rules (RuleEngine.removeRule id) with
    | .error _ => App.error res 404 "NotFound" "Rule not found"
    | .ok () => return res.noContent

/-- The middleware for reading rules. -/
def readAuth : Middleware AppState :=
  Access.middleware V env.now.seconds AppState.authService ⟨lit "automation", .read⟩

/-- The middleware for changing rules. -/
def writeAuth : Middleware AppState :=
  Access.middleware V env.now.seconds AppState.authService ⟨lit "automation", .write⟩

/-- `Register`. -/
def register (router : HttpRouter AppState) : HttpRouter AppState :=
  (((((router.addMiddleware (readAuth V env)).addRoute
    .get (lit "/automation/rules") (getRules V)).addMiddleware (writeAuth V env)).addRoute
    .post (lit "/automation/rules") (postRules V)).addMiddleware (writeAuth V env)).addRoute
    .delete (lit "/automation/rules") deleteRules

end AutomationController

/-! ## Metrics -/

namespace MetricsController

/-- `GET /metrics`. -/
def getMetrics : RouteHandler AppState := fun _ res => do
  let counters ← Stateful.read fun s : AppState => .ok (s.httpRequests, s.mqttMessages)
  App.json V res 200 (.mkObject [(lit "uptime_seconds", .number env.metricsUptime.toInt),
    (lit "active_websocket_clients", .number env.connectionCount),
    (lit "http_requests_total", .number counters.1.toNat),
    (lit "mqtt_messages_total", .number counters.2.toNat)])

/-- The middleware for reading metrics. -/
def readAuth : Middleware AppState :=
  Access.middleware V env.now.seconds AppState.authService ⟨lit "metrics", .read⟩

/-- `Register`. -/
def register (router : HttpRouter AppState) : HttpRouter AppState :=
  (router.addMiddleware (readAuth V env)).addRoute .get (lit "/metrics") (getMetrics V env)

end MetricsController

end IotDashboard
