import IotDashboard.Api.Frames
import IotDashboard.Api.Gate

/-!
# Whose name a request bears

The middlewares tell the handlers who sent a request by three headers. A client may send fields of
these names as well, in any letter case and any number. They have no effect: every middleware writes
over them, and a request that gets to a handler has passed at least one.

## Main definitions

* `SameButIdentity`: two raw requests that differ in such fields only;
* `IdentifiedAs`: handler and rule store know the request under the claims of its token.

## Main results

* `identity_unforgeable`: two such requests with an accepted token meet the same fate under the
  claims of the token, and every new rule is ascribed to the owner of the token.
-/

namespace IotDashboard

open StdString

/-- A field of the name, in lower case, is one that the middlewares set. -/
def isIdentityField (field : StdString × StdString) : Bool :=
  [lit "x-user-id", lit "x-username", lit "x-role"].contains (toLower field.1)

/-- The requests differ only in fields that the middlewares set. -/
structure SameButIdentity (a b : RawRequest) : Prop where
  version : a.version = b.version
  method : a.method = b.method
  target : a.target = b.target
  body : a.body = b.body
  fields : (a.fields.filter fun f => !isIdentityField f) =
    b.fields.filter fun f => !isIdentityField f

/-- The headers name the owner of the claims. -/
structure HttpRequest.Names (req : HttpRequest) (claims : UserClaims) : Prop where
  userId : req.getHeader (lit "x-user-id") = claims.userId
  username : req.getHeader (lit "x-username") = claims.username
  role : req.getHeader (lit "x-role") = AccessControl.roleToString claims.role

section

variable (V : Vendor) (env : Env) (s : AppState)

/-- The handler of the route runs for the request. -/
def Reaches (bReq : RawRequest) (route : Route AppState) : Prop :=
  ∃ req' res' s', ((registerHttpRoutes V env).resolve (HttpSession.beastToApp bReq) {}).run s =
    (.ok (.handled route req' res'), s')

/-- After the request there is a rule under the id that was not there before. -/
def Stores (bReq : RawRequest) (id : StdString) (rule : AutomationRule) : Prop :=
  ∃ enableCors,
    (HttpSession.onRead (registerHttpRoutes V env) enableCors bReq s).2.rules.rules.lookup id =
      some rule ∧ s.rules.rules.lookup id ≠ some rule

/-- The handler sees the claims in the headers, and a new rule is ascribed to their owner. -/
structure IdentifiedAs (bReq : RawRequest) (claims : UserClaims) : Prop where
  handled : ∀ {route req' res' s'},
    ((registerHttpRoutes V env).resolve (HttpSession.beastToApp bReq) {}).run s =
      (.ok (.handled route req' res'), s') → req'.Names claims
  stored : ∀ {id rule}, Stores V env s bReq id rule → rule.createdBy = claims.userId

end

variable {V : Vendor} {env : Env} {s s' : AppState} {a b bReq : RawRequest} {claims : UserClaims}
  {req req' : HttpRequest} {res res' : HttpResponse} {route : Route AppState}

/-! ## The headers behind the middlewares -/

private theorem HttpRequest.getHeader_setHeader_self {key value : StdString}
    (h : toLower key = key) :
    (req.setHeader key value).getHeader key = value := by
  rw [getHeader, setHeader, h, AList.lookup_insert]
  rfl

/-- Whatever stood in the three headers before is written over. -/
theorem HttpRequest.names_injectClaims (req : HttpRequest) (claims : UserClaims) :
    (req.injectClaims claims).Names claims where
  userId := by
    rw [injectClaims, getHeader_setHeader_of_ne (by decide), getHeader_setHeader_of_ne (by decide)]
    exact getHeader_setHeader_self (by decide)
  username := by
    rw [injectClaims, getHeader_setHeader_of_ne (by decide)]
    exact getHeader_setHeader_self (by decide)
  role := getHeader_setHeader_self (by decide)

/-- A chain that lets a request through names the owner of its token, unless the chain is empty. -/
theorem names_of_run_authChain {σ : Type} {now : Int64} {authService : σ → AuthenticationService}
    {accesses : List Access} {t t' : σ} (hpublic : isPublicPath req.path = false)
    (hcarries : CarriesToken V now (authService t) req claims)
    (hne : accesses ≠ [] ∨ req.Names claims)
    (hrun : (HttpRouter.runMiddlewares (authChain V now authService accesses) req res).run t =
      (.ok (true, req', res'), t')) : req'.Names claims := by
  induction accesses generalizing req res with
  | nil =>
    cases hrun
    exact hne.resolve_left (not_not_intro rfl)
  | cons access accesses ih =>
    change (HttpRouter.runMiddlewares (access.middleware V now authService ::
      authChain V now authService accesses) req res).run t = _ at hrun
    rw [HttpRouter.runMiddlewares,
      Stateful.run_bind_of_ok (run_middleware_of_carries hpublic hcarries)] at hrun
    by_cases hgranted : access.granted claims.role = true
    · -- The rest of the chain sees the claims already, and the token as before.
      have hnext : CarriesToken V now (authService t) (req.injectClaims claims) claims := by
        obtain ⟨token, hheader, hvalid⟩ := hcarries
        exact ⟨token, getHeader_injectClaims.trans hheader, hvalid⟩
      rw [if_pos hgranted] at hrun
      exact @ih (req.injectClaims claims) res hpublic hnext
        (.inr (req.names_injectClaims claims)) hrun
    · -- A middleware that refuses does not let the request through.
      rw [if_neg hgranted] at hrun
      cases hrun

/-- The handler of a path that is not public sees the claims of the accepted token. -/
theorem names_of_handled {s' : AppState} (hpublic : isPublicPath req.path = false)
    (hcarries : CarriesToken V env.now.seconds s.authService req claims)
    (h : ((registerHttpRoutes V env).resolve req res).run s =
      (.ok (.handled route req' res'), s')) : req'.Names claims := by
  obtain ⟨hrun, -⟩ := HttpRouter.of_run_resolve_eq_handled h
  rw [middlewares_registerHttpRoutes] at hrun
  exact names_of_run_authChain hpublic hcarries (.inl (by simp [declaredAccess])) hrun

/-! ## New rules -/

/-- The calls other than additions and removals of rules leave the rules alone. -/
theorem weakFrame_ascribed (V : Vendor) (rule : AutomationRule) (id : StdString) :
    WeakFrame V fun s s' =>
      s'.rules.rules.lookup id = some rule → s.rules.rules.lookup id = some rule where
  refl _ h := h
  trans _ _ _ hab hbc h := hab (hbc h)
  list _ _ h := h
  register _ _ _ h := h
  sendCommand _ _ _ _ h := h
  query _ _ h := h

/-- A rule that is found after a removal was there before. -/
theorem lookup_of_removeRule {id ruleId : StdString} {rule : AutomationRule} {r : RuleRepository}
    (h : (RuleEngine.removeRule ruleId r).2.rules.lookup id = some rule) :
    r.rules.lookup id = some rule := by
  rw [RuleEngine.removeRule, RuleRepository.remove] at h
  split at h
  · by_cases hid : id = ruleId
    · rw [hid, AList.lookup_erase] at h
      cases h
    · rwa [AList.lookup_erase_ne hid] at h
  · exact h

/-- A rule that is found after an addition was there before, or was added. -/
theorem lookup_of_addRule {id : StdString} {rule rule' : AutomationRule} {r : RuleRepository}
    (h : (RuleEngine.addRule rule' r).2.rules.lookup id = some rule) :
    r.rules.lookup id = some rule ∨ rule' = rule := by
  rw [RuleEngine.addRule, RuleRepository.add] at h
  split at h
  · exact .inl h
  · by_cases hid : id = rule'.id
    · rw [hid, AList.lookup_insert] at h
      exact .inr (Option.some.inj h)
    · rw [AList.lookup_insert_ne hid] at h
      exact .inl h

/-- Every new rule is ascribed to the owner of the token that the request was let in with. -/
theorem createdBy_of_stores {id : StdString} {rule : AutomationRule}
    (h : Stores V env s bReq id rule) :
    ∃ claims, SendsToken V env.now.seconds s.authService bReq claims ∧
      rule.createdBy = claims.userId := by
  obtain ⟨enableCors, hstored, hnew⟩ := h
  by_contra hnone
  refine hnew (?_ : s.rules.rules.lookup id = some rule)
  refine (weakFrame_ascribed V rule id).rel_onRead enableCors (fun route req' res' hhandled => ?_)
    hstored
  obtain ⟨-, hroute, hpath, -⟩ := HttpRouter.of_run_resolve_eq_handled hhandled
  refine (weakFrame_ascribed V rule id).rel_handler hroute (fun _ h => h) (fun _ _ _ h => h)
    (fun _ _ _ => lookup_of_removeRule) fun _ hrules body rule' _ _ hcreatedBy s' hlookup => ?_
  have hpublic : isPublicPath route.path = false := by
    rw [hrules]
    decide
  obtain ⟨claims, hsends, -, hsame⟩ := exists_sendsToken_of_handled hhandled hpublic
  -- Behind the middlewares the header names the owner of the token.
  have hnames := names_of_handled (by rwa [← hsame.path, ← hpath])
    (carriesToken_beastToApp_iff.mpr hsends) hhandled
  rcases lookup_of_addRule hlookup with hbefore | rfl
  · exact hbefore
  · exact absurd ⟨claims, hsends, hcreatedBy.trans hnames.userId⟩ hnone

private theorem identifiedAs (hpublic : isPublicPath (HttpSession.beastToApp bReq).path = false)
    (hsends : SendsToken V env.now.seconds s.authService bReq claims) :
    IdentifiedAs V env s bReq claims where
  handled h := names_of_handled hpublic (carriesToken_beastToApp_iff.mpr hsends) h
  stored h := by
    obtain ⟨claims', hsends', hcreatedBy⟩ := createdBy_of_stores h
    rw [hcreatedBy, hsends'.unique hsends]

/-! ## Two requests -/

/-- Differing in the identity alone goes both ways. -/
theorem SameButIdentity.symm (h : SameButIdentity a b) : SameButIdentity b a :=
  ⟨h.version.symm, h.method.symm, h.target.symm, h.body.symm, h.fields.symm⟩

/-- Both requests send the same token. -/
theorem SameButIdentity.sendsToken (h : SameButIdentity a b) {now : Int64}
    {service : AuthenticationService} (hsends : SendsToken V now service a claims) :
    SendsToken V now service b claims := by
  obtain ⟨token, hfield, hvalid⟩ := hsends
  refine ⟨token, ?_, hvalid⟩
  -- A field of the token is none of those in which the requests differ.
  have hfiltered : ∀ r : RawRequest, HttpSession.lastField r authorization =
      ((((r.fields.filter fun f => !isIdentityField f)).reverse.find?
        (toLower ·.1 == authorization)).map Prod.snd) := by
    intro r
    rw [← List.filter_reverse, List.find?_filter, HttpSession.lastField]
    congr 2
    funext f
    by_cases hname : toLower f.1 = authorization
    · have hother : isIdentityField f = false := by
        rw [isIdentityField, hname]
        decide
      simp [hname, hother]
    · simp [hname]
  rw [hfiltered, ← h.fields, ← hfiltered, hfield]

/-- Both requests reach the same handlers. -/
theorem SameButIdentity.reaches (h : SameButIdentity a b)
    (hpublic : isPublicPath (HttpSession.beastToApp a).path = false)
    (hsends : SendsToken V env.now.seconds s.authService a claims)
    (hreaches : Reaches V env s a route) : Reaches V env s b route := by
  have hpath : (HttpSession.beastToApp b).path = (HttpSession.beastToApp a).path := by
    rw [HttpSession.beastToApp, HttpSession.beastToApp, h.target]
  have hmethod : (HttpSession.beastToApp b).method = (HttpSession.beastToApp a).method := by
    rw [HttpSession.beastToApp, HttpSession.beastToApp, h.method]
  obtain ⟨req₁, res₁, hsame₁, hrun₁⟩ := run_resolve_of_carries env s {} hpublic
    (carriesToken_beastToApp_iff.mpr hsends)
  obtain ⟨req₂, res₂, hsame₂, hrun₂⟩ := run_resolve_of_carries env s {} (hpath ▸ hpublic)
    (carriesToken_beastToApp_iff.mpr (h.sendsToken hsends))
  obtain ⟨req', res', s', hhandled⟩ := hreaches
  rw [hrun₁] at hhandled
  have hresolution := Except.ok.inj (Prod.mk.inj hhandled).1
  by_cases hviewer : claims.role = .viewer
  · rw [if_neg (not_not_intro hviewer)] at hresolution
    cases hresolution
  · rw [if_pos hviewer] at hresolution hrun₂
    obtain ⟨hmem, hroutePath, hrouteMethod, -, -⟩ := HttpRouter.of_findRoute_eq_handled hresolution
    -- Method and path are the same behind the middlewares, so the same route is taken.
    refine ⟨req₂, res₂, s, ?_⟩
    rw [hrun₂, HttpRouter.findRoute_of_mem nodup_routes hmem
      (by rw [hrouteMethod, hsame₁.method, hsame₂.method, hmethod])
      (by rw [hroutePath, hsame₁.path, hsame₂.path, hpath])]

/-- Two requests for a path that is not public, with one accepted token and with whatever fields in
the names of the identity headers, reach the same handlers, which see the claims of the token, and
store rules that are ascribed to its owner; and no request stores any other rule. -/
theorem identity_unforgeable (V : Vendor) (env : Env) (s : AppState) :
    (∀ {a b claims}, SameButIdentity a b →
      isPublicPath (HttpSession.beastToApp a).path = false →
      SendsToken V env.now.seconds s.authService a claims →
      (∀ route, Reaches V env s a route ↔ Reaches V env s b route) ∧
        IdentifiedAs V env s a claims ∧ IdentifiedAs V env s b claims) ∧
    ∀ {bReq id rule}, Stores V env s bReq id rule →
      ∃ claims, SendsToken V env.now.seconds s.authService bReq claims ∧
        rule.createdBy = claims.userId := by
  refine ⟨fun {a b claims} hsame hpublic hsends => ?_, createdBy_of_stores⟩
  have hpublic' : isPublicPath (HttpSession.beastToApp b).path = false := by
    rwa [HttpSession.beastToApp, ← hsame.target]
  have hsends' := hsame.sendsToken hsends
  exact ⟨fun route => ⟨hsame.reaches hpublic hsends, hsame.symm.reaches hpublic' hsends'⟩,
    identifiedAs hpublic hsends, identifiedAs hpublic' hsends'⟩

/-- An operator's request with two forged fields, and the same request without them. -/
theorem identity_unforgeable_forgedFields :
    ∃ (s : AppState) (a b : RawRequest) (claims : UserClaims), a.fields.length = 3 ∧
      b.fields.length = 1 ∧
      (∀ route, Reaches Vendor.reference { now := 0 } s a route ↔
        Reaches Vendor.reference { now := 0 } s b route) ∧
      IdentifiedAs Vendor.reference { now := 0 } s a claims := by
  obtain ⟨service, tr, token, -, hvalid⟩ := exists_session .operator
  let a : RawRequest :=
    { method := .post
      target := lit "/automation/rules"
      fields := [(lit "X-User-Id", lit "admin"), (lit "Authorization", bearer ++ token),
        (lit "x-USER-id", lit "root")] }
  let b : RawRequest := { a with fields := [(lit "Authorization", bearer ++ token)] }
  have hsame : SameButIdentity a b := ⟨rfl, rfl, rfl, rfl, rfl⟩
  have hsends : SendsToken Vendor.reference (0 : Timestamp).seconds service a
      (AuthenticationService.sampleClaims .operator) := ⟨token, rfl, hvalid⟩
  obtain ⟨hreaches, ha, -⟩ :=
    (identity_unforgeable Vendor.reference { now := 0 } { authService := service }).1 hsame
      (show isPublicPath (lit "/automation/rules") = false by decide) hsends
  exact ⟨_, a, b, _, rfl, rfl, hreaches, ha⟩

end IotDashboard
