import IotDashboard.Api.DeviceWrites
import IotDashboard.Api.RuleCreation
import IotDashboard.Devices.Commands
import IotDashboard.Security.TokenVerification

/-!
# Bad request bodies

Five handlers read a JSON body. A body that is no object, or has a field of another type than the
handler reads, should be answered with 400. But only the parser stands in a `try` block: the fields
are read after it, and there an exception escapes.

## Main definitions

* `BodyEndpoint`: the five handlers;
* `BodyEndpoint.WellTyped`: the body is an object, and its fields have the types that are read;
* `BodyEndpoint.AnswersBadBodies`: the handler returns, and answers a body that is not well typed
  with 400;
* `BodyEndpoint.Answerable`: the bodies for which it does so.

## Main results

* `BodyEndpoint.answersBadBodies_iff`: exactly for these, for each of the handlers.
-/

namespace IotDashboard

open StdString Json

/-- The handlers that read a body. -/
inductive BodyEndpoint where
  /-- `POST /auth/login` -/
  | login
  /-- `POST /auth/refresh` -/
  | refresh
  /-- `POST /devices` -/
  | devices
  /-- `POST /commands` -/
  | commands
  /-- `POST /automation/rules` -/
  | rules
deriving DecidableEq

namespace BodyEndpoint

variable (V : Vendor) (env : Env)

/-- The handler, after the middleware has let the caller through. -/
def handler : BodyEndpoint → RouteHandler AppState
  | login => AuthController.postLogin V env
  | refresh => AuthController.postRefresh V env
  | devices => DeviceController.postDevices V env
  | commands => DeviceController.postCommands V
  | rules => AutomationController.postRules V

/-- The field is an array of values that can be read, unless it is not there. -/
def ListTyped {α : Type} (read : Json → Except JsonException α) (body : Json) (key : StdString) :
    Prop :=
  ∀ list, body.atKey key = .ok list →
    ∃ xs, list = .array xs ∧ ∀ x ∈ xs, ∃ a, read x = .ok a

/-- The body is an object, and the fields that are read outside a `try` block have their types. -/
def HeadTyped (body : Json) : BodyEndpoint → Prop
  | login => FieldTyped getString body (lit "username") ∧ FieldTyped getString body (lit "password")
  | refresh => FieldTyped getString body (lit "refresh_token")
  | devices => FieldTyped getString body (lit "id") ∧ FieldTyped getString body (lit "name") ∧
    FieldTyped getString body (lit "type") ∧ FieldTyped getString body (lit "protocol") ∧
    FieldTyped getString body (lit "address")
  | commands => FieldTyped getString body (lit "device_id") ∧
    FieldTyped getString body (lit "command") ∧ FieldTyped getJson body (lit "parameters")
  | rules => FieldTyped getString body (lit "id") ∧ FieldTyped getString body (lit "name") ∧
    FieldTyped getBool body (lit "enabled")

/-- The body is an object, and the fields have the types that the handler reads. -/
def WellTyped (body : Json) (e : BodyEndpoint) : Prop :=
  e.HeadTyped body ∧ (e = rules → ListTyped Condition.ofJson body (lit "conditions") ∧
    ListTyped AutomationController.readAction body (lit "actions"))

/-- The handler returns; and a body that is no JSON, no object or not well typed is answered with
400, and changes nothing. -/
structure AnswersBadBodies (e : BodyEndpoint) (req : HttpRequest) (res : HttpResponse)
    (s : AppState) : Prop where
  returns : (e.handler V env req res).Returns s
  refuses : (∀ body, V.parse req.body = .ok body → ¬ e.WellTyped body) →
    ∃ answer, (e.handler V env req res).run s = (.ok answer, s) ∧ answer.status = 400

/-- The text that the body has for the field, which is empty if there is none. -/
def HasText (body : Json) (key : String) (text : StdString) : Prop :=
  body.value getString (lit key) [] = .ok text

/-- What else it takes for the handler to return, and to refuse what is not well typed. -/
def Answerable (s : AppState) (body : Json) : BodyEndpoint → Prop
  -- The claims of the user who logs in can be put into a token.
  | login => ∀ username password user, HasText body "username" username →
    HasText body "password" password → username ≠ [] → password ≠ [] →
    s.authService.users.lookup username = some user →
    PasswordHasher.verify V password user.passwordHash = true →
    user.userId.isUtf8 = true ∧ user.username.isUtf8 = true
  -- The token is not signed by the server over a payload that makes it throw.
  | refresh => ∀ token, HasText body "refresh_token" token → token ≠ [] →
    ∀ head tokenBody payload, JwtHandler.SignedAs V s.authService.jwtHandler token head tokenBody →
      V.parse (base64UrlDecode tokenBody) = .ok payload →
      JwtHandler.Harmless env.now.seconds payload
  -- The database can prepare its statement.
  | devices => ∀ id name, HasText body "id" id → HasText body "name" name → id ≠ [] → name ≠ [] →
    s.backend.database.faults 0 = false
  | commands => ∀ deviceId command, HasText body "device_id" deviceId →
    HasText body "command" command → deviceId ≠ [] → command ≠ [] →
    s.backend.database.faults 0 = false
  -- The lists are arrays and not `null` or objects, and the rule that is shown can be printed.
  | rules => ∀ id name lists, HasText body "id" id → HasText body "name" name → id ≠ [] →
    name ≠ [] → AutomationController.readLists body = .ok lists →
    (∃ xs, body.atKey (lit "conditions") = .ok (.array xs)) ∧
      (∃ xs, body.atKey (lit "actions") = .ok (.array xs)) ∧
      (id ∉ s.rules.rules → ∀ first, s.rules.rules.lookup [] = some first →
        (AutomationController.ruleToJson first).Utf8)

variable {V : Vendor} {env : Env} {req : HttpRequest} {res : HttpResponse} {s : AppState}
  {body : Json}

/-- Two required texts are there. -/
private lemma present_iff {a b : StdString} :
    ¬ (a.isEmpty || b.isEmpty) = true ↔ a ≠ [] ∧ b ≠ [] := by
  simp

private theorem HasText.fieldTyped {key : String} {text : StdString} (h : HasText body key text) :
    FieldTyped getString body (lit key) :=
  exists_value_iff.mp ⟨text, h⟩

private theorem exists_hasText {key : String} (h : FieldTyped getString body (lit key)) :
    ∃ text, HasText body key text :=
  exists_value_iff.mpr h

/-- A body has one text under a key. -/
theorem HasText.unique {key : String} {a b : StdString} (ha : HasText body key a)
    (hb : HasText body key b) : a = b :=
  Except.ok.inj (ha.symm.trans hb)

/-! ## The handlers -/

private theorem returns_login_iff (hdumps : V.DumpsUtf8) (honly : V.DumpsOnlyUtf8)
    (hparse : V.parse req.body = .ok body) :
    (login.handler V env req res).Returns s ↔
      login.HeadTyped body ∧ login.Answerable V env s body := by
  rw [handler, AuthController.postLogin, hparse]
  dsimp only
  simp only [App.returns_value_bind_iff]
  -- The handler returns if the fields have their types and the service does not throw.
  constructor
  · rintro ⟨username, husername, password, hpassword, h⟩
    refine ⟨⟨HasText.fieldTyped husername, HasText.fieldTyped hpassword⟩, ?_⟩
    intro username' password' user husername' hpassword' hne hne' hlookup hverify
    obtain rfl := HasText.unique husername' husername
    obtain rfl := HasText.unique hpassword' hpassword
    rw [if_neg (present_iff.mpr ⟨hne, hne'⟩), Stateful.returns_read_bind_iff] at h
    obtain ⟨result, hresult, -⟩ := h
    exact (AuthenticationService.exists_login_iff hdumps honly).mp ⟨result, hresult⟩ user hlookup
      hverify
  · rintro ⟨⟨husername, hpassword⟩, hsafe⟩
    obtain ⟨username, husername⟩ := exists_hasText husername
    obtain ⟨password, hpassword⟩ := exists_hasText hpassword
    refine ⟨username, husername, password, hpassword, ?_⟩
    -- Without a name or a password the service is not asked.
    split
    · exact ⟨_, rfl⟩
    · next hpresent =>
      obtain ⟨hne, hne'⟩ := present_iff.mp hpresent
      obtain ⟨result, hresult⟩ := (AuthenticationService.exists_login_iff hdumps honly).mpr
        fun user => hsafe username password user husername hpassword hne hne'
      refine Stateful.returns_read_bind_iff.mpr ⟨result, hresult, ?_⟩
      cases result with
      | error e => exact ⟨_, rfl⟩
      | ok pair =>
        obtain ⟨user, -, -, haccess, hrefresh, -⟩ :=
          AuthenticationService.login_eq_ok_iff.mp hresult
        -- Generated tokens are ASCII, so the answer can be printed.
        refine App.returns_json_iff.mpr (hdumps _ (utf8_mkObject fun f hf => ?_))
        simp only [List.mem_cons, List.not_mem_nil, or_false] at hf
        rcases hf with rfl | rfl | rfl | rfl
        · exact ⟨rfl, .string (JwtHandler.isUtf8_of_generate haccess)⟩
        · exact ⟨rfl, .string (JwtHandler.isUtf8_of_generate hrefresh)⟩
        · exact ⟨rfl, .number _⟩
        · exact ⟨rfl, .string rfl⟩

private theorem returns_refresh_iff (hparses : V.ParsesUtf8) (hdumps : V.DumpsUtf8)
    (hparse : V.parse req.body = .ok body) :
    (refresh.handler V env req res).Returns s ↔
      refresh.HeadTyped body ∧ refresh.Answerable V env s body := by
  rw [handler, AuthController.postRefresh, hparse]
  dsimp only
  simp only [App.returns_value_bind_iff]
  constructor
  · rintro ⟨token, htoken, h⟩
    refine ⟨HasText.fieldTyped htoken, fun token' htoken' hne => ?_⟩
    obtain rfl := HasText.unique htoken' htoken
    rw [if_neg (by simp [hne]), Stateful.returns_read_bind_iff] at h
    obtain ⟨result, hresult, -⟩ := h
    exact (JwtHandler.exists_verify_iff _ _ _ _).mp
      ((AuthenticationService.exists_refreshToken_iff hparses hdumps).mp ⟨result, hresult⟩)
  · rintro ⟨htoken, hsafe⟩
    obtain ⟨token, htoken⟩ := exists_hasText htoken
    refine ⟨token, htoken, ?_⟩
    split
    · exact ⟨_, rfl⟩
    · next hne =>
      obtain ⟨result, hresult⟩ :=
        (AuthenticationService.exists_refreshToken_iff hparses hdumps).mpr
          ((JwtHandler.exists_verify_iff _ _ _ _).mpr (hsafe token htoken (by simpa using hne)))
      refine Stateful.returns_read_bind_iff.mpr ⟨result, hresult, ?_⟩
      cases result with
      | error e => exact ⟨_, rfl⟩
      | ok pair =>
        obtain ⟨claims, -, -, haccess, -⟩ :=
          AuthenticationService.refreshToken_eq_ok_iff.mp hresult
        refine App.returns_json_iff.mpr (hdumps _ (utf8_mkObject fun f hf => ?_))
        simp only [List.mem_cons, List.not_mem_nil, or_false] at hf
        rcases hf with rfl | rfl | rfl
        · exact ⟨rfl, .string (JwtHandler.isUtf8_of_generate haccess)⟩
        · exact ⟨rfl, .number _⟩
        · exact ⟨rfl, .string rfl⟩

private theorem returns_devices_iff (hparses : V.ParsesUtf8) (hdumps : V.DumpsUtf8)
    (hparse : V.parse req.body = .ok body) :
    (devices.handler V env req res).Returns s ↔
      devices.HeadTyped body ∧ devices.Answerable V env s body := by
  -- All five fields are read before the first of them is looked at.
  constructor
  · intro h
    rw [handler, DeviceController.postDevices, hparse] at h
    obtain ⟨request, hread, h⟩ := Stateful.returns_ofExcept_bind_iff.mp h
    rw [liftJson_eq_ok_iff] at hread
    obtain ⟨hid, hname, htype, hprotocol, haddress⟩ := readRequest_eq_ok_iff.mp hread
    refine ⟨⟨exists_value_iff.mp ⟨_, hid⟩, exists_value_iff.mp ⟨_, hname⟩,
      exists_value_iff.mp ⟨_, htype⟩, exists_value_iff.mp ⟨_, hprotocol⟩,
      exists_value_iff.mp ⟨_, haddress⟩⟩, fun id name hid' hname' hne hne' => ?_⟩
    obtain rfl := HasText.unique hid' hid
    obtain rfl := HasText.unique hname' hname
    rw [if_neg (present_iff.mpr ⟨hne, hne'⟩)] at h
    obtain ⟨device, b, hregister, -⟩ := App.returns_devices_bind_iff.mp h
    exact (Backend.returns_register_iff env.now request).mp ⟨device, congrArg Prod.fst hregister⟩
  · rintro ⟨⟨hid, hname, htype, hprotocol, haddress⟩, hsafe⟩
    obtain ⟨id, hid⟩ := exists_hasText hid
    obtain ⟨name, hname⟩ := exists_hasText hname
    obtain ⟨type, htype⟩ := exists_hasText htype
    obtain ⟨protocol, hprotocol⟩ : ∃ protocol,
        body.value getString (lit "protocol") (lit "mqtt") = .ok protocol :=
      exists_value_iff.mpr hprotocol
    obtain ⟨address, haddress⟩ := exists_hasText haddress
    have hread : DeviceController.readRequest body = .ok ⟨id, name, type, protocol, address⟩ :=
      readRequest_eq_ok_iff.mpr ⟨hid, hname, htype, hprotocol, haddress⟩
    -- Without an id or a name the device manager is not called.
    by_cases hpresent : (id.isEmpty || name.isEmpty) = true
    · rw [handler, DeviceController.postDevices, hparse]
      refine Stateful.returns_ofExcept_bind_iff.mpr ⟨_, liftJson_eq_ok_iff.mpr hread, ?_⟩
      rw [if_pos hpresent]
      exact ⟨_, rfl⟩
    · obtain ⟨hne, hne'⟩ := present_iff.mp hpresent
      obtain ⟨text, hrun⟩ := run_postDevices hparses hdumps env res hparse hread hne hne'
        (hsafe id name hid hname hne hne')
      exact ⟨_, congrArg Prod.fst hrun⟩

private theorem returns_commands_iff (hparses : V.ParsesUtf8) (hdumps : V.DumpsUtf8)
    (hparse : V.parse req.body = .ok body) :
    (commands.handler V env req res).Returns s ↔
      commands.HeadTyped body ∧ commands.Answerable V env s body := by
  have hutf8 := hparses _ _ hparse
  rw [handler, DeviceController.postCommands, hparse]
  dsimp only
  simp only [App.returns_value_bind_iff, Stateful.returns_ofExcept_bind_iff, liftJson_eq_ok_iff]
  -- The parameters are printed before the device manager is called.
  constructor
  · rintro ⟨deviceId, hdeviceId, command, hcommand, parameters, hparameters, params, -, h⟩
    refine ⟨⟨HasText.fieldTyped hdeviceId, HasText.fieldTyped hcommand,
      exists_value_iff.mp ⟨_, hparameters⟩⟩, fun deviceId' command' hdeviceId' hcommand' => ?_⟩
    obtain rfl := HasText.unique hdeviceId' hdeviceId
    obtain rfl := HasText.unique hcommand' hcommand
    intro hne hne'
    rw [if_neg (present_iff.mpr ⟨hne, hne'⟩)] at h
    obtain ⟨result, b, hsend, -⟩ := App.returns_devices_bind_iff.mp h
    exact (Backend.returns_sendCommand_iff hparses hdumps (isUtf8_of_value hutf8 rfl hcommand)).mp
      ⟨result, congrArg Prod.fst hsend⟩
  · rintro ⟨⟨hdeviceId, hcommand, hparameters⟩, hsafe⟩
    obtain ⟨deviceId, hdeviceId⟩ := exists_hasText hdeviceId
    obtain ⟨command, hcommand⟩ := exists_hasText hcommand
    obtain ⟨parameters, hparameters⟩ : ∃ parameters,
        body.value getJson (lit "parameters") (.object []) = .ok parameters :=
      exists_value_iff.mpr hparameters
    obtain ⟨params, hparams⟩ := hdumps parameters
      (utf8_of_value hutf8 (.object (by simp) (by simp)) hparameters)
    refine ⟨deviceId, hdeviceId, command, hcommand, parameters, hparameters, params, hparams, ?_⟩
    split
    · exact ⟨_, rfl⟩
    · next hpresent =>
      obtain ⟨hne, hne'⟩ := present_iff.mp hpresent
      have hdeviceUtf8 := isUtf8_of_value hutf8 rfl hdeviceId
      have hcommandUtf8 := isUtf8_of_value hutf8 rfl hcommand
      have hprepare := hsafe deviceId command hdeviceId hcommand hne hne'
      obtain ⟨result, hresult⟩ : ((DeviceManager.sendCommand V deviceId command params).run
          Backend.handle).Returns s.backend :=
        (Backend.returns_sendCommand_iff hparses hdumps hcommandUtf8).mpr hprepare
      -- Each error of the device manager has an answer of its own.
      refine App.returns_devices_bind_iff.mpr ⟨result, _, Prod.ext hresult rfl, ?_⟩
      split
      · exact ⟨_, rfl⟩
      · exact ⟨_, rfl⟩
      · exact ⟨_, rfl⟩
      · refine App.returns_json_iff.mpr (hdumps _ (utf8_mkObject fun f hf => ?_))
        simp only [List.mem_cons, List.not_mem_nil, or_false] at hf
        rcases hf with rfl | rfl | rfl
        · exact ⟨rfl, .string rfl⟩
        · exact ⟨rfl, .string hdeviceUtf8⟩
        · exact ⟨rfl, .string hcommandUtf8⟩

/-- The other handlers refuse what is not well typed by throwing, so it is enough that they
return. -/
theorem answersBadBodies_iff_of_returns {e : BodyEndpoint} (hrules : e ≠ rules)
    (hparse : V.parse req.body = .ok body)
    (hreturns : (e.handler V env req res).Returns s ↔
      e.HeadTyped body ∧ e.Answerable V env s body) :
    e.AnswersBadBodies V env req res s ↔ e.HeadTyped body ∧ e.Answerable V env s body := by
  rw [← hreturns]
  refine ⟨fun h => h.returns, fun h => ⟨h, fun hbad => ?_⟩⟩
  have htyped : e.WellTyped body := ⟨(hreturns.mp h).1, fun heq => absurd heq hrules⟩
  exact absurd htyped (hbad body hparse)

private theorem headTyped_of_readsHead {id name : StdString} {enabled : Bool}
    (h : AutomationController.ReadsHead body id name enabled) : rules.HeadTyped body :=
  ⟨HasText.fieldTyped h.id, HasText.fieldTyped h.name, exists_value_iff.mp ⟨enabled, h.enabled⟩⟩

private theorem exists_readsHead (h : rules.HeadTyped body) :
    ∃ id name enabled, AutomationController.ReadsHead body id name enabled := by
  obtain ⟨hid, hname, henabled⟩ := h
  obtain ⟨id, hid⟩ := exists_hasText hid
  obtain ⟨name, hname⟩ := exists_hasText hname
  obtain ⟨enabled, henabled⟩ : ∃ enabled,
      body.value getBool (lit "enabled") true = .ok enabled := exists_value_iff.mpr henabled
  exact ⟨id, name, enabled, hid, hname, henabled⟩

/-- The lists of a body could be read from arrays only if they are arrays: a loop goes through an
object as well, and finds nothing in `null`. -/
theorem wellTyped_rules_iff {lists : List Condition × List Action}
    (hlists : AutomationController.readLists body = .ok lists) (hhead : rules.HeadTyped body) :
    rules.WellTyped body ↔ (∃ xs, body.atKey (lit "conditions") = .ok (.array xs)) ∧
      ∃ xs, body.atKey (lit "actions") = .ok (.array xs) := by
  obtain ⟨conditionList, actionList, hconditions, hreadConditions, hactions, hreadActions⟩ :=
    AutomationController.exists_of_readLists hlists
  rw [hconditions, hactions]
  constructor
  · rintro ⟨-, htyped⟩
    obtain ⟨hfirst, hsecond⟩ := htyped rfl
    obtain ⟨xs, rfl, -⟩ := hfirst _ hconditions
    obtain ⟨ys, rfl, -⟩ := hsecond _ hactions
    exact ⟨⟨xs, rfl⟩, ys, rfl⟩
  · rintro ⟨⟨xs, hxs⟩, ys, hys⟩
    cases hxs
    cases hys
    refine ⟨hhead, fun _ => ⟨fun list hlist => ?_, fun list hlist => ?_⟩⟩
    · rw [hconditions] at hlist
      cases hlist
      exact ⟨xs, rfl, List.forall_of_mapM_eq_ok hreadConditions⟩
    · rw [hactions] at hlist
      cases hlist
      exact ⟨ys, rfl, List.forall_of_mapM_eq_ok hreadActions⟩

/-- What an accepted body is answered with can be printed if the rule under the empty id can. -/
theorem utf8_answered_iff (hbody : body.Utf8) :
    (AutomationController.answered s body).Utf8 ↔
      ∀ first, s.rules.rules.lookup [] = some first →
        (AutomationController.ruleToJson first).Utf8 := by
  rw [AutomationController.answered]
  cases s.rules.rules.lookup [] with
  | none => exact iff_of_true hbody fun first hfirst => by cases hfirst
  | some first => simp

/-- With a status that is not 400, a body has to be well typed. -/
theorem answersBadBodies_iff_of_status {e : BodyEndpoint} (hparse : V.parse req.body = .ok body)
    (hstatus : ∀ answer s', (e.handler V env req res).run s = (.ok answer, s') →
      answer.status ≠ 400) :
    e.AnswersBadBodies V env req res s ↔
      (e.handler V env req res).Returns s ∧ e.WellTyped body := by
  constructor
  · refine fun h => ⟨h.returns, ?_⟩
    by_contra hnot
    obtain ⟨answer, hrun, h400⟩ := h.refuses fun body' hparse' => by
      obtain rfl : body = body' := Except.ok.inj (hparse.symm.trans hparse')
      exact hnot
    exact hstatus _ _ hrun h400
  · rintro ⟨hreturns, htyped⟩
    exact ⟨hreturns, fun hbad => absurd htyped (hbad body hparse)⟩

private theorem answersBadBodies_rules_iff (hparses : V.ParsesUtf8) (hdumps : V.DumpsUtf8)
    (honly : V.DumpsOnlyUtf8) (hparse : V.parse req.body = .ok body) :
    rules.AnswersBadBodies V env req res s ↔
      rules.HeadTyped body ∧ rules.Answerable V env s body := by
  rcases AutomationController.run_postRules_cases res s hparse with
    ⟨hhead, x, hthrows⟩ | ⟨hrefused, answer, hrun, h400⟩ |
    ⟨hnot, ⟨id, name, enabled, lists, hhead, hstored, hlists⟩, answer, hrun, h409⟩ |
    ⟨rule, haccepts⟩
  · refine iff_of_false ?_ ?_
    · intro h
      obtain ⟨answer, hanswer⟩ := h.returns
      rw [handler, hthrows] at hanswer
      cases hanswer
    · rintro ⟨htyped, -⟩
      obtain ⟨id, name, enabled, hread⟩ := exists_readsHead htyped
      exact hhead id name enabled hread
  · obtain ⟨id, name, enabled, hhead, hwhy⟩ := hrefused
    refine iff_of_true ⟨⟨answer, congrArg Prod.fst hrun⟩, fun _ => ⟨answer, hrun, h400⟩⟩
      ⟨headTyped_of_readsHead hhead, fun id' name' lists hid hname hne hne' hlists => ?_⟩
    -- A body is refused for want of an id, a name or readable lists.
    rcases hwhy with hempty | hempty | ⟨x, hx⟩
    · exact absurd ((HasText.unique hid hhead.id).trans hempty) hne
    · exact absurd ((HasText.unique hname hhead.name).trans hempty) hne'
    · cases hlists.symm.trans hx
  · have htyped := headTyped_of_readsHead hhead
    rw [answersBadBodies_iff_of_status hparse fun answer' s' hrun' => ?_,
      wellTyped_rules_iff hlists htyped]
    · constructor
      · rintro ⟨-, hconditions, hactions⟩
        refine ⟨htyped, fun id' name' lists' hid _ _ _ _ => ⟨hconditions, hactions, fun hnew => ?_⟩⟩
        rw [HasText.unique hid hhead.id] at hnew
        exact absurd hstored hnew
      · rintro ⟨-, hsafe⟩
        refine ⟨⟨answer, congrArg Prod.fst hrun⟩, ?_⟩
        have hne : id ≠ [] := fun hempty => hnot ⟨id, name, enabled, hhead, .inl hempty⟩
        have hne' : name ≠ [] := fun hempty => hnot ⟨id, name, enabled, hhead, .inr (.inl hempty)⟩
        obtain ⟨hconditions, hactions, -⟩ :=
          hsafe id name lists hhead.id hhead.name hne hne' hlists
        exact ⟨hconditions, hactions⟩
    · rw [handler, hrun] at hrun'
      cases hrun'
      rw [h409]
      decide
  · have htyped := headTyped_of_readsHead haccepts.readsHead
    have hreturns : (rules.handler V env req res).Returns s ↔
        ∀ first, s.rules.rules.lookup [] = some first →
          (AutomationController.ruleToJson first).Utf8 := by
      rw [handler, Stateful.Returns, haccepts.run_postRules,
        ← utf8_answered_iff (hparses _ _ hparse)]
      refine App.returns_json_iff.trans ⟨?_, hdumps _⟩
      rintro ⟨text, htext⟩
      exact honly _ _ htext
    rw [answersBadBodies_iff_of_status hparse fun answer' s' hrun' => ?_, hreturns,
      wellTyped_rules_iff haccepts.lists htyped]
    · constructor
      · rintro ⟨hprints, hconditions, hactions⟩
        exact ⟨htyped, fun _ _ _ _ _ _ _ _ => ⟨hconditions, hactions, fun _ => hprints⟩⟩
      · rintro ⟨-, hsafe⟩
        obtain ⟨hconditions, hactions, hprints⟩ := hsafe rule.id rule.name _ haccepts.id
          haccepts.name haccepts.id_ne haccepts.name_ne haccepts.lists
        exact ⟨hprints haccepts.new, hconditions, hactions⟩
    · rw [haccepts.status_eq hrun']
      decide

/-- A handler answers bad bodies as it should exactly for the bodies on which nothing that it does
outside a `try` block throws, and whose lists are arrays. -/
theorem answersBadBodies_iff (hparses : V.ParsesUtf8) (hdumps : V.DumpsUtf8)
    (honly : V.DumpsOnlyUtf8) (env : Env) (e : BodyEndpoint) (req : HttpRequest)
    (res : HttpResponse) (s : AppState) :
    e.AnswersBadBodies V env req res s ↔
      ∀ body, V.parse req.body = .ok body → e.HeadTyped body ∧ e.Answerable V env s body := by
  cases hparse : V.parse req.body with
  | error x =>
    -- What is no JSON is refused.
    refine iff_of_true ?_ fun body hbody => by cases hbody
    obtain ⟨answer, hrun, h400⟩ : ∃ answer, (e.handler V env req res).run s = (.ok answer, s) ∧
        answer.status = 400 := by
      cases e with
      | login => exact ⟨_, by rw [handler, AuthController.postLogin, hparse]; rfl, rfl⟩
      | refresh => exact ⟨_, by rw [handler, AuthController.postRefresh, hparse]; rfl, rfl⟩
      | devices => exact ⟨_, by rw [handler, DeviceController.postDevices, hparse]; rfl, rfl⟩
      | commands => exact ⟨_, by rw [handler, DeviceController.postCommands, hparse]; rfl, rfl⟩
      | rules => exact ⟨_, by rw [handler, AutomationController.postRules, hparse]; rfl, rfl⟩
    exact ⟨⟨answer, congrArg Prod.fst hrun⟩, fun _ => ⟨answer, hrun, h400⟩⟩
  | ok body =>
    simp only [Except.ok.injEq, forall_eq']
    cases e with
    | login =>
      exact answersBadBodies_iff_of_returns (by decide) hparse
        (returns_login_iff hdumps honly hparse)
    | refresh =>
      exact answersBadBodies_iff_of_returns (by decide) hparse
        (returns_refresh_iff hparses hdumps hparse)
    | devices =>
      exact answersBadBodies_iff_of_returns (by decide) hparse
        (returns_devices_iff hparses hdumps hparse)
    | commands =>
      exact answersBadBodies_iff_of_returns (by decide) hparse
        (returns_commands_iff hparses hdumps hparse)
    | rules => exact answersBadBodies_rules_iff hparses hdumps honly hparse

/-- A login whose body is an empty array. -/
def arrayLogin : HttpRequest := { body := lit "[]" }

private theorem parse_arrayLogin : Vendor.reference.parse arrayLogin.body = .ok (.array []) := rfl

theorem answersBadBodies_iff_arrayLogin :
    login.AnswersBadBodies Vendor.reference { now := 0 } arrayLogin {} AutomationController.fresh ↔
      ∀ body, Vendor.reference.parse arrayLogin.body = .ok body → login.HeadTyped body ∧
        login.Answerable Vendor.reference { now := 0 } AutomationController.fresh body :=
  answersBadBodies_iff Vendor.parsesUtf8_reference Vendor.dumpsUtf8_reference
    Vendor.dumpsOnlyUtf8_reference { now := 0 } login arrayLogin {} AutomationController.fresh

/-- An array has no fields, and to look for one throws. -/
theorem not_answersBadBodies_arrayLogin :
    ¬ login.AnswersBadBodies Vendor.reference { now := 0 } arrayLogin {}
      AutomationController.fresh := by
  intro h
  obtain ⟨⟨⟨fields, hfields, -⟩, -⟩, -⟩ := (returns_login_iff Vendor.dumpsUtf8_reference
    Vendor.dumpsOnlyUtf8_reference parse_arrayLogin).mp h.returns
  cases hfields

end BodyEndpoint

end IotDashboard
