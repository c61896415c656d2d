import IotDashboard.Network.HttpRouter
import IotDashboard.Security.AuthenticationService

/-!
# Authentication middleware

`MakeAuthMiddleware` lets a request through if its path is public, or if it carries a bearer token
that the service accepts and whose role has the permission the middleware was made for. It writes
the claims of the token into the request's headers.

## Main results

* `run_authChain_of_carries`: a chain of such middlewares asks for the permissions of all of them;
* `run_authChain_of_not_carries`: without an accepted token nothing gets through.
-/

namespace IotDashboard

open StdString

/-- `IsPublicPath`. -/
def isPublicPath (path : StdString) : Bool :=
  path == lit "/health" || path == lit "/auth/login" || path == lit "/auth/refresh"

/-- All paths but three are guarded. -/
theorem isPublicPath_eq_false_iff {path : StdString} : isPublicPath path = false ↔
    path ∉ [lit "/health", lit "/auth/login", lit "/auth/refresh"] := by
  simp [isPublicPath, and_assoc]

/-- The header that carries the token. -/
def authorization : StdString := lit "authorization"

/-- What comes before the token. -/
def bearer : StdString := lit "Bearer "

/-- The headers that a middleware sets for the handlers. -/
def HttpRequest.injectClaims (req : HttpRequest) (claims : UserClaims) : HttpRequest :=
  ((req.setHeader (lit "x-user-id") claims.userId).setHeader (lit "x-username")
    claims.username).setHeader (lit "x-role") (AccessControl.roleToString claims.role)

variable {σ : Type}

/-- `MakeAuthMiddleware`, with the clock at `now` seconds. -/
def makeAuthMiddleware (V : Vendor) (now : Int64) (authService : σ → AuthenticationService)
    (resource : StdString) (requiredPermission : Permission) : Middleware σ := fun req res => do
  if isPublicPath req.path then return (true, req, res)
  let auth := req.getHeader authorization
  if auth.isEmpty || !auth.startsWith bearer then
    return (false, req, res.error 401 (lit "Unauthorized") (lit "Missing Bearer token"))
  let token := auth.substrFrom 7
  -- The service is asked again by every middleware of the list.
  match ← Stateful.read fun s => (authService s).validateToken V now token with
  | .error _ =>
    return (false, req, res.error 401 (lit "Unauthorized") (lit "Invalid or expired token"))
  | .ok claims =>
    if ¬ AccessControl.canAccess claims.role resource requiredPermission then
      return (false, req,
        res.error 403 (lit "Forbidden") (lit "Insufficient permissions for this resource"))
    return (true, req.injectClaims claims, res)

/-- The request carries a token that the service accepts with the claims. -/
def CarriesToken (V : Vendor) (now : Int64) (service : AuthenticationService) (req : HttpRequest)
    (claims : UserClaims) : Prop :=
  ∃ token, req.getHeader authorization = bearer ++ token ∧
    service.validateToken V now token = .ok (.ok claims)

/-- A resource with a permission on it. -/
structure Access where
  resource : StdString
  permission : Permission
deriving DecidableEq

/-- The role has the permission. -/
def Access.granted (access : Access) (role : Role) : Bool :=
  AccessControl.canAccess role access.resource access.permission

/-- `MakeAuthMiddleware` for an access. -/
def Access.middleware (V : Vendor) (now : Int64) (authService : σ → AuthenticationService)
    (access : Access) : Middleware σ :=
  makeAuthMiddleware V now authService access.resource access.permission

variable {V : Vendor} {now : Int64} {authService : σ → AuthenticationService} {access : Access}
  {accesses : List Access} {req req' : HttpRequest} {res res' : HttpResponse} {s s' : σ}
  {claims : UserClaims}

@[simp]
theorem getHeader_injectClaims :
    (req.injectClaims claims).getHeader authorization = req.getHeader authorization := by
  -- None of the three names is that of the token's header.
  simp only [HttpRequest.injectClaims]
  rw [HttpRequest.getHeader_setHeader_of_ne (by decide),
    HttpRequest.getHeader_setHeader_of_ne (by decide),
    HttpRequest.getHeader_setHeader_of_ne (by decide)]

/-- A public path passes. -/
theorem run_middleware_of_public (hpublic : isPublicPath req.path = true) :
    (access.middleware V now authService req res).run s = (.ok (true, req, res), s) := by
  simp [Access.middleware, makeAuthMiddleware, hpublic]

/-- With an accepted token, the role decides. -/
theorem run_middleware_of_carries (hpublic : isPublicPath req.path = false)
    (hcarries : CarriesToken V now (authService s) req claims) :
    (access.middleware V now authService req res).run s =
      (.ok (if access.granted claims.role then (true, req.injectClaims claims, res)
        else (false, req,
          res.error 403 (lit "Forbidden") (lit "Insufficient permissions for this resource"))),
        s) := by
  obtain ⟨token, hheader, hvalid⟩ := hcarries
  have hbearer : (req.getHeader authorization).startsWith bearer = true :=
    startsWith_iff.mpr ⟨token, hheader⟩
  have hempty : (req.getHeader authorization).isEmpty = false := by
    rw [hheader]
    rfl
  have htoken : (req.getHeader authorization).substrFrom 7 = token := by
    rw [hheader]
    rfl
  -- Path, header and token are in order, so only the permission is left to check.
  simp only [Access.middleware, makeAuthMiddleware, hpublic, hempty, hbearer, htoken,
    Stateful.run_bind, Stateful.run_read, hvalid, Bool.false_eq_true, if_false, Bool.not_true,
    Bool.or_self]
  have hdef : AccessControl.canAccess claims.role access.resource access.permission =
      access.granted claims.role := rfl
  rw [hdef]
  by_cases hrole : access.granted claims.role = true
  · rw [if_neg (not_not_intro hrole), if_pos hrole]
    rfl
  · rw [if_pos hrole, if_neg hrole]
    rfl

/-- How a request without an accepted token is stopped: reading the token throws, or the answer is
401. -/
inductive Stopped (V : Vendor) (now : Int64) (service : AuthenticationService) (req : HttpRequest)
    (res : HttpResponse) : Except CxxException (Bool × HttpRequest × HttpResponse) → Prop
  | thrown {token : StdString} {x : CxxException} : req.getHeader authorization = bearer ++ token →
      service.validateToken V now token = .error x → Stopped V now service req res (.error x)
  | unauthorized (message : StdString) :
      Stopped V now service req res (.ok (false, req, res.error 401 (lit "Unauthorized") message))

/-- Without an accepted token, the request does not pass. -/
theorem run_middleware_of_not_carries (access : Access) (res : HttpResponse)
    (hpublic : isPublicPath req.path = false)
    (hcarries : ∀ claims, ¬ CarriesToken V now (authService s) req claims) :
    ∃ r, (access.middleware V now authService req res).run s = (r, s) ∧
      Stopped V now (authService s) req res r := by
  by_cases hbearer : (req.getHeader authorization).startsWith bearer = true
  · obtain ⟨token, hheader⟩ := startsWith_iff.mp hbearer
    have hempty : (req.getHeader authorization).isEmpty = false := by
      rw [hheader]
      rfl
    have htoken : (req.getHeader authorization).substrFrom 7 = token := by
      rw [hheader]
      rfl
    simp only [Access.middleware, makeAuthMiddleware, hpublic, hempty, hbearer, htoken,
      Stateful.run_bind, Stateful.run_read, Bool.false_eq_true, if_false, Bool.not_true,
      Bool.or_self]
    rcases hvalid : (authService s).validateToken V now token with x | (e | claims)
    · exact ⟨_, rfl, .thrown hheader hvalid⟩
    · exact ⟨_, rfl, .unauthorized _⟩
    · exact absurd ⟨token, hheader, hvalid⟩ (hcarries claims)
  · -- The header is missing or of another scheme.
    simp only [Access.middleware, makeAuthMiddleware, hpublic, hbearer, Bool.false_eq_true,
      if_false, Bool.not_false, Bool.or_true, if_true]
    exact ⟨_, rfl, .unauthorized _⟩

/-! ## Chains -/

/-- The middlewares for some accesses. -/
def authChain (V : Vendor) (now : Int64) (authService : σ → AuthenticationService)
    (accesses : List Access) : List (Middleware σ) :=
  accesses.map (Access.middleware V now authService)

/-- The request is the same but for its headers, and these agree on the token. -/
structure SameRequest (req req' : HttpRequest) : Prop where
  method : req'.method = req.method
  path : req'.path = req.path
  query : req'.query = req.query
  body : req'.body = req.body
  authorization : req'.getHeader authorization = req.getHeader authorization

/-- The headers of the claims are no part of what was requested. -/
theorem sameRequest_injectClaims : SameRequest req (req.injectClaims claims) :=
  ⟨rfl, rfl, rfl, rfl, getHeader_injectClaims⟩

/-- The same request stays the same through several middlewares. -/
theorem SameRequest.trans {req₁ req₂ req₃ : HttpRequest} (h : SameRequest req₁ req₂)
    (h' : SameRequest req₂ req₃) : SameRequest req₁ req₃ :=
  ⟨h'.method.trans h.method, h'.path.trans h.path, h'.query.trans h.query, h'.body.trans h.body,
    h'.authorization.trans h.authorization⟩

/-- A public path passes every chain. -/
theorem run_authChain_of_public (hpublic : isPublicPath req.path = true) :
    (HttpRouter.runMiddlewares (authChain V now authService accesses) req res).run s =
      (.ok (true, req, res), s) := by
  induction accesses with
  | nil => rfl
  | cons access accesses ih =>
    show (HttpRouter.runMiddlewares (access.middleware V now authService ::
      authChain V now authService accesses) req res).run s = _
    rw [HttpRouter.runMiddlewares, Stateful.run_bind_of_ok (run_middleware_of_public hpublic)]
    exact ih

/-- With an accepted token, a chain asks for every one of its accesses. -/
theorem run_authChain_of_carries (authService : σ → AuthenticationService)
    (accesses : List Access) (res : HttpResponse) (hpublic : isPublicPath req.path = false)
    (hcarries : CarriesToken V now (authService s) req claims) :
    ∃ req' res', SameRequest req req' ∧
      (HttpRouter.runMiddlewares (authChain V now authService accesses) req res).run s =
        (.ok (accesses.all (·.granted claims.role), req', res'), s) := by
  induction accesses generalizing req with
  | nil => exact ⟨req, res, ⟨rfl, rfl, rfl, rfl, rfl⟩, rfl⟩
  | cons access accesses ih =>
    show ∃ req' res', _ ∧ (HttpRouter.runMiddlewares (access.middleware V now authService ::
      authChain V now authService accesses) req res).run s = _
    rw [HttpRouter.runMiddlewares,
      Stateful.run_bind_of_ok (run_middleware_of_carries hpublic hcarries)]
    by_cases hgranted : access.granted claims.role = true
    · -- The injected headers leave the token in place for the rest of the chain.
      have hnext : CarriesToken V now (authService s) (req.injectClaims claims) claims := by
        obtain ⟨token, hheader, hvalid⟩ := hcarries
        exact ⟨token, getHeader_injectClaims.trans hheader, hvalid⟩
      obtain ⟨req', res', hsame, hrun⟩ := @ih (req.injectClaims claims) hpublic hnext
      refine ⟨req', res', sameRequest_injectClaims.trans hsame, ?_⟩
      simp only [hgranted, if_true, List.all_cons, Bool.true_and]
      exact hrun
    · -- The first access that is not granted ends the chain.
      simp only [hgranted, List.all_cons]
      exact ⟨req, _, ⟨rfl, rfl, rfl, rfl, rfl⟩, rfl⟩

/-- Without an accepted token, a request passes no chain. -/
theorem run_authChain_of_not_carries (authService : σ → AuthenticationService)
    {accesses : List Access} (hne : accesses ≠ []) (res : HttpResponse)
    (hpublic : isPublicPath req.path = false)
    (hcarries : ∀ claims, ¬ CarriesToken V now (authService s) req claims) :
    ∃ r, (HttpRouter.runMiddlewares (authChain V now authService accesses) req res).run s =
      (r, s) ∧ Stopped V now (authService s) req res r := by
  -- The first middleware of the chain stops the request.
  obtain ⟨access, rest, rfl⟩ := List.exists_cons_of_ne_nil hne
  obtain ⟨r, hrun, hstop⟩ := run_middleware_of_not_carries access res hpublic hcarries
  show ∃ r, (HttpRouter.runMiddlewares (access.middleware V now authService ::
    authChain V now authService rest) req res).run s = _ ∧ _
  rw [HttpRouter.runMiddlewares, Stateful.run_bind, hrun]
  refine ⟨r, ?_, hstop⟩
  cases hstop with
  | thrown => rfl
  | unauthorized => rfl

end IotDashboard
