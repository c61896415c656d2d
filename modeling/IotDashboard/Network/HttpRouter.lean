import IotDashboard.Common.Error
import IotDashboard.Foundation.Stateful
import IotDashboard.Network.HttpTypes

/-!
# HTTP router

`HttpRouter` keeps one list of middlewares and one list of routes, each in registration order.
`Dispatch` runs every middleware before it looks for a route: a middleware is not tied to the
route it was registered next to.

`Resolution` names what `Dispatch` decided to do with a request. A handler runs exactly when the
resolution is `handled`, on the request and response as the middlewares left them.

## Main results

* `HttpRouter.run_resolve_of_pass`: a request that passes every middleware goes to the routes;
* `HttpRouter.findRoute_of_mem` and `HttpRouter.of_findRoute_eq_handled`: which route is taken.
-/

namespace IotDashboard

open StdString

variable {σ : Type}

/-- `http::RouteHandler`: the response it is given is the one it fills. -/
abbrev RouteHandler (σ : Type) : Type :=
  HttpRequest → HttpResponse → Stateful CxxException σ HttpResponse

/-- `http::Middleware`: whether to go on, and the request and response it leaves. -/
abbrev Middleware (σ : Type) : Type :=
  HttpRequest → HttpResponse → Stateful CxxException σ (Bool × HttpRequest × HttpResponse)

/-- `HttpRouter::Route`. -/
structure Route (σ : Type) where
  method : HttpMethod
  path : StdString
  handler : RouteHandler σ

/-- `HttpRouter`. -/
structure HttpRouter (σ : Type) where
  routes : List (Route σ) := []
  middlewares : List (Middleware σ) := []

/-- What `Dispatch` does with a request. -/
inductive Resolution (σ : Type) where
  | refused (res : HttpResponse)
  | handled (route : Route σ) (req : HttpRequest) (res : HttpResponse)
  | methodNotAllowed (res : HttpResponse)
  | notFound (res : HttpResponse)

namespace HttpRouter

variable (router : HttpRouter σ)

/-- `AddRoute`. -/
def addRoute (method : HttpMethod) (path : StdString) (handler : RouteHandler σ) : HttpRouter σ :=
  { router with routes := router.routes ++ [⟨method, path, handler⟩] }

/-- `AddMiddleware`. -/
def addMiddleware (mw : Middleware σ) : HttpRouter σ :=
  { router with middlewares := router.middlewares ++ [mw] }

/-- The middleware loop of `Dispatch`. -/
def runMiddlewares : List (Middleware σ) → Middleware σ
  | [], req, res => return (true, req, res)
  | mw :: mws, req, res => do
    let (goOn, req, res) ← mw req res
    -- The next middleware sees the request as this one left it.
    if goOn then runMiddlewares mws req res else return (false, req, res)

/-- The route loop of `Dispatch`, with `pathMatched` as so far computed. -/
def findRoute (req : HttpRequest) (res : HttpResponse) :
    Bool → List (Route σ) → Resolution σ
  | pathMatched, [] => if pathMatched then .methodNotAllowed res else .notFound res
  | pathMatched, route :: routes =>
    -- A path that matches is remembered, so that a wrong method is told from a wrong path.
    if route.path ≠ req.path then findRoute req res pathMatched routes
    else if route.method ≠ req.method then findRoute req res true routes
    else .handled route req res

/-- `Dispatch` up to the point where a handler would run. -/
def resolve (req : HttpRequest) (res : HttpResponse) : Stateful CxxException σ (Resolution σ) := do
  let (goOn, req, res) ← runMiddlewares router.middlewares req res
  if goOn then return findRoute req res false router.routes else return .refused res

/-- Carry out what was decided. -/
def act : Resolution σ → Stateful CxxException σ HttpResponse
  | .refused res => return res
  | .handled route req res => route.handler req res
  | .methodNotAllowed res =>
    return res.error 405 (lit "MethodNotAllowed") (lit "Method not allowed for this endpoint")
  | .notFound res => return res.error 404 (lit "NotFound") (lit "Endpoint not found")

/-- `Dispatch`. -/
def dispatch (req : HttpRequest) (res : HttpResponse) : Stateful CxxException σ HttpResponse :=
  router.resolve req res >>= act

variable {router} {req req' : HttpRequest} {res res' : HttpResponse} {s s' : σ}

/-- Among routes of distinct paths and methods, the one that fits the request is taken. -/
theorem findRoute_of_mem {routes : List (Route σ)} {route : Route σ} {pathMatched : Bool}
    (hnodup : (routes.map fun r => (r.method, r.path)).Nodup) (hmem : route ∈ routes)
    (hmethod : route.method = req.method) (hpath : route.path = req.path) :
    findRoute req res pathMatched routes = .handled route req res := by
  induction routes generalizing pathMatched with
  | nil => cases hmem
  | cons r routes ih =>
    obtain ⟨hfresh, hrest⟩ := List.nodup_cons.mp hnodup
    rw [findRoute]
    rcases List.mem_cons.mp hmem with rfl | hmem
    · rw [if_neg (not_not_intro hpath), if_neg (not_not_intro hmethod)]
    · -- The route comes later, so the head differs from it in path or method.
      by_cases hrpath : r.path = req.path
      · have hrmethod : r.method ≠ req.method := by
          intro hrmethod
          refine hfresh (List.mem_map.mpr ⟨route, hmem, Prod.ext ?_ ?_⟩)
          · exact hmethod.trans hrmethod.symm
          · exact hpath.trans hrpath.symm
        rw [if_neg (not_not_intro hrpath), if_pos hrmethod]
        exact ih hrest hmem
      · rw [if_pos hrpath]
        exact ih hrest hmem

/-- A route that is taken was registered, with the request's path and method. -/
theorem of_findRoute_eq_handled {routes : List (Route σ)} {route : Route σ} {pathMatched : Bool}
    (h : findRoute req res pathMatched routes = .handled route req' res') :
    route ∈ routes ∧ route.path = req.path ∧ route.method = req.method ∧
      req' = req ∧ res' = res := by
  induction routes generalizing pathMatched with
  | nil =>
    -- Without a route left, the answer is 405 or 404.
    rw [findRoute] at h
    split at h <;> cases h
  | cons r routes ih =>
    rw [findRoute] at h
    split at h
    · exact (ih h).imp_left (List.mem_cons_of_mem r)
    · split at h
      · exact (ih h).imp_left (List.mem_cons_of_mem r)
      · next hpath hmethod =>
        cases h
        exact ⟨List.mem_cons_self, not_not.mp hpath, not_not.mp hmethod, rfl, rfl⟩

/-- A request that passes every middleware is matched against the routes. -/
theorem run_resolve_of_pass
    (h : (runMiddlewares router.middlewares req res).run s = (.ok (true, req', res'), s')) :
    (router.resolve req res).run s = (.ok (findRoute req' res' false router.routes), s') := by
  rw [resolve, Stateful.run_bind_of_ok h]
  rfl

/-- A request that some middleware stops is refused. -/
theorem run_resolve_of_stop
    (h : (runMiddlewares router.middlewares req res).run s = (.ok (false, req', res'), s')) :
    (router.resolve req res).run s = (.ok (.refused res'), s') := by
  rw [resolve, Stateful.run_bind_of_ok h]
  rfl

/-- A request that is handled passed every middleware and matched its route. -/
theorem of_run_resolve_eq_handled {route : Route σ}
    (h : (router.resolve req res).run s = (.ok (.handled route req' res'), s')) :
    (runMiddlewares router.middlewares req res).run s = (.ok (true, req', res'), s') ∧
      route ∈ router.routes ∧ route.path = req'.path ∧ route.method = req'.method := by
  rw [resolve, Stateful.run_bind] at h
  rcases hrun : (runMiddlewares router.middlewares req res).run s with
    ⟨x | ⟨goOn, req₁, res₁⟩, s₁⟩ <;> rw [hrun] at h
  · -- A middleware threw.
    cases h
  · cases goOn with
    | false => cases h
    | true =>
      obtain ⟨hroute, rfl⟩ := Prod.mk.inj h
      obtain ⟨hmem, hpath, hmethod, rfl, rfl⟩ := of_findRoute_eq_handled (Except.ok.inj hroute)
      exact ⟨rfl, hmem, hpath, hmethod⟩

/-- The route loop does not refuse requests. -/
theorem findRoute_ne_refused {routes : List (Route σ)} {pathMatched : Bool}
    (res' : HttpResponse) : findRoute req res pathMatched routes ≠ .refused res' := by
  induction routes generalizing pathMatched with
  | nil => rw [findRoute]; split <;> simp
  | cons route routes ih =>
    rw [findRoute]
    split
    · exact ih
    split
    · exact ih
    · simp

/-- A path that is not found is that of no route. -/
theorem of_findRoute_eq_notFound {routes : List (Route σ)} {pathMatched : Bool}
    (h : findRoute req res pathMatched routes = .notFound res') :
    pathMatched = false ∧ res' = res ∧ ∀ route ∈ routes, route.path ≠ req.path := by
  induction routes generalizing pathMatched with
  | nil =>
    rw [findRoute] at h
    split at h
    · cases h
    · next hfalse =>
      cases h
      exact ⟨by simpa using hfalse, rfl, by simp⟩
  | cons r routes ih =>
    rw [findRoute] at h
    split at h
    · next hpath =>
      obtain ⟨hfalse, hres, hrest⟩ := ih h
      exact ⟨hfalse, hres, List.forall_mem_cons.mpr ⟨hpath, hrest⟩⟩
    split at h
    · -- A route of the path would have been remembered.
      exact absurd (ih h).1 (by simp)
    · cases h

/-- A method that is not allowed is that of no route of the path, of which there is one. -/
theorem of_findRoute_eq_methodNotAllowed {routes : List (Route σ)} {pathMatched : Bool}
    (h : findRoute req res pathMatched routes = .methodNotAllowed res') :
    res' = res ∧ (pathMatched = true ∨ ∃ route ∈ routes, route.path = req.path) ∧
      ∀ route ∈ routes, route.path = req.path → route.method ≠ req.method := by
  induction routes generalizing pathMatched with
  | nil =>
    rw [findRoute] at h
    split at h
    · next htrue =>
      cases h
      exact ⟨rfl, .inl htrue, by simp⟩
    · cases h
  | cons r routes ih =>
    rw [findRoute] at h
    split at h
    · next hpath =>
      obtain ⟨hres, hmatched, hrest⟩ := ih h
      refine ⟨hres, hmatched.imp_right ?_, ?_⟩
      · exact fun ⟨route, hmem, heq⟩ => ⟨route, List.mem_cons_of_mem r hmem, heq⟩
      · exact List.forall_mem_cons.mpr ⟨fun heq => absurd heq hpath, hrest⟩
    split at h
    · next hpath hmethod =>
      obtain ⟨hres, -, hrest⟩ := ih h
      exact ⟨hres, .inr ⟨r, List.mem_cons_self, not_not.mp hpath⟩,
        List.forall_mem_cons.mpr ⟨fun _ => hmethod, hrest⟩⟩
    · cases h

end HttpRouter

end IotDashboard
