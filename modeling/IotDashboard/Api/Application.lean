import IotDashboard.Api.Controllers
import IotDashboard.Network.HttpSession

/-!
# The assembled router

`Application::RegisterHttpRoutes` registers every controller with one router. The controllers add
their middlewares next to their routes, but the router keeps the middlewares in a list of its own,
so each request has to pass all of them.

## Main definitions

* `registerHttpRoutes`: the router;
* `declaredAccess`: for each route, the access whose middleware its controller adds next to it.

## Main results

* `run_resolve_of_carries`: with an accepted token, a request to a path that is not public reaches
  the routes exactly if the role is not that of a viewer;
* `run_resolve_of_not_carries`: without an accepted token, it does not.
-/

namespace IotDashboard

open StdString

variable (V : Vendor) (env : Env)

/-- `Application::RegisterHttpRoutes`. -/
def registerHttpRoutes : HttpRouter AppState :=
  -- Outermost is last: the health controller is registered first.
  MetricsController.register V env <| AutomationController.register V env <|
    SensorController.register V env <| DeviceController.register V env <|
      AuthController.register V env <| HealthController.register V env {}

/-- The routes whose controller adds a middleware next to them, with the access that the
middleware checks. -/
def declaredAccess : List (HttpMethod × StdString × Access) :=
  [(.get, lit "/devices", ⟨lit "devices", .read⟩),
    (.post, lit "/devices", ⟨lit "devices", .write⟩),
    (.delete, lit "/devices", ⟨lit "devices", .write⟩),
    (.post, lit "/commands", ⟨lit "devices", .write⟩),
    (.get, lit "/sensors", ⟨lit "sensors", .read⟩),
    (.get, lit "/automation/rules", ⟨lit "automation", .read⟩),
    (.post, lit "/automation/rules", ⟨lit "automation", .write⟩),
    (.delete, lit "/automation/rules", ⟨lit "automation", .write⟩),
    (.get, lit "/metrics", ⟨lit "metrics", .read⟩)]

/-- The accesses of the middlewares of the router are those of the routes, in the same order. -/
theorem middlewares_registerHttpRoutes :
    (registerHttpRoutes V env).middlewares =
      authChain V env.now.seconds AppState.authService (declaredAccess.map (·.2.2)) := rfl

/-- The routes of the router. -/
theorem routes_registerHttpRoutes :
    (registerHttpRoutes V env).routes =
      [⟨.get, lit "/health", HealthController.getHealth V env⟩,
        ⟨.post, lit "/auth/login", AuthController.postLogin V env⟩,
        ⟨.post, lit "/auth/refresh", AuthController.postRefresh V env⟩,
        ⟨.post, lit "/auth/logout", AuthController.postLogout⟩,
        ⟨.get, lit "/devices", DeviceController.getDevices V⟩,
        ⟨.post, lit "/devices", DeviceController.postDevices V env⟩,
        ⟨.delete, lit "/devices", DeviceController.deleteDevices⟩,
        ⟨.post, lit "/commands", DeviceController.postCommands V⟩,
        ⟨.get, lit "/sensors", SensorController.getSensors V⟩,
        ⟨.get, lit "/automation/rules", AutomationController.getRules V⟩,
        ⟨.post, lit "/automation/rules", AutomationController.postRules V⟩,
        ⟨.delete, lit "/automation/rules", AutomationController.deleteRules⟩,
        ⟨.get, lit "/metrics", MetricsController.getMetrics V env⟩] := rfl

/-- No resource of the router is `users`, so operators pass every middleware. -/
theorem granted_all_iff (role : Role) :
    declaredAccess.all (fun a => a.2.2.granted role) = true ↔ role ≠ .viewer := by
  cases role <;> decide

variable {V env} {req : HttpRequest} {res : HttpResponse} {s : AppState} {claims : UserClaims}

/-- With an accepted token, whether a request reaches the routes depends on the role alone. -/
theorem run_resolve_of_carries (env : Env) (s : AppState) (res : HttpResponse)
    (hpublic : isPublicPath req.path = false)
    (hcarries : CarriesToken V env.now.seconds s.authService req claims) :
    ∃ req' res', SameRequest req req' ∧
      ((registerHttpRoutes V env).resolve req res).run s =
        (.ok (if claims.role ≠ .viewer then
          HttpRouter.findRoute req' res' false (registerHttpRoutes V env).routes
          else .refused res'), s) := by
  obtain ⟨req', res', hsame, hrun⟩ := run_authChain_of_carries AppState.authService
    (declaredAccess.map (·.2.2)) res hpublic hcarries
  rw [← middlewares_registerHttpRoutes, List.all_map] at hrun
  refine ⟨req', res', hsame, ?_⟩
  by_cases hviewer : claims.role = .viewer
  · -- A viewer may not write, so one of the middlewares refuses.
    have hdenied :
        declaredAccess.all ((fun x : Access => x.granted claims.role) ∘ (·.2.2)) = false :=
      Bool.eq_false_iff.mpr fun hall => (granted_all_iff claims.role).mp hall hviewer
    rw [hdenied] at hrun
    rw [HttpRouter.run_resolve_of_stop hrun, if_neg (not_not_intro hviewer)]
  · have hgranted :
        declaredAccess.all ((fun x : Access => x.granted claims.role) ∘ (·.2.2)) = true :=
      (granted_all_iff claims.role).mpr hviewer
    rw [hgranted] at hrun
    rw [HttpRouter.run_resolve_of_pass hrun, if_pos hviewer]

/-- Without an accepted token, a request to a path that is not public is not resolved to a route
and changes nothing: either reading the token throws, or the answer is 401. -/
theorem run_resolve_of_not_carries (res : HttpResponse)
    (hpublic : isPublicPath req.path = false)
    (hcarries : ∀ claims, ¬ CarriesToken V env.now.seconds s.authService req claims) :
    (∃ x, (∃ token, req.getHeader authorization = bearer ++ token ∧
        s.authService.validateToken V env.now.seconds token = .error x) ∧
      ((registerHttpRoutes V env).resolve req res).run s = (.error x, s)) ∨
    ∃ message, ((registerHttpRoutes V env).resolve req res).run s =
      (.ok (.refused (res.error 401 (lit "Unauthorized") message)), s) := by
  have hne : declaredAccess.map (·.2.2) ≠ [] := by simp [declaredAccess]
  obtain ⟨r, hrun, hstop⟩ :=
    run_authChain_of_not_carries AppState.authService hne res hpublic hcarries
  rw [← middlewares_registerHttpRoutes] at hrun
  cases hstop with
  | @thrown token x hheader hvalid =>
    left
    refine ⟨x, ⟨token, hheader, hvalid⟩, ?_⟩
    rw [HttpRouter.resolve, Stateful.run_bind_of_error hrun]
  | unauthorized message => exact .inr ⟨message, HttpRouter.run_resolve_of_stop hrun⟩

/-- The routes of public paths need no token. -/
theorem run_resolve_of_public (hpublic : isPublicPath req.path = true) :
    ((registerHttpRoutes V env).resolve req res).run s =
      (.ok (HttpRouter.findRoute req res false (registerHttpRoutes V env).routes), s) := by
  apply HttpRouter.run_resolve_of_pass
  rw [middlewares_registerHttpRoutes]
  exact run_authChain_of_public hpublic

/-- No two routes share method and path. -/
theorem nodup_routes :
    ((registerHttpRoutes V env).routes.map fun r => (r.method, r.path)).Nodup := by
  rw [routes_registerHttpRoutes]
  simp only [List.map_cons, List.map_nil]
  decide

end IotDashboard
