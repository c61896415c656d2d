import IotDashboard.Api.Logout

/-!
# Who can delete

The role table gives the permission to delete to administrators alone. The routes that remove
devices and rules never ask for it: they reuse the middleware for writing, and operators may write.

## Main definitions

* `AsksRemoval`: a request for the removal of something that is stored;
* `NoOperatorRemoval`: the condition on a request, that it is no operator's request for a removal.

## Main results

* `kept_without_admin`: in runs of requests that meet the condition and carry no administrator's
  token, no stored device and no stored rule is removed;
* `operator_deletes_device`: an operator's request that removes a device.
-/

namespace IotDashboard

open StdString

/-- No device is lost. -/
def KeepsDevices (t t' : Tables) : Prop := ∀ row ∈ t.devices, row ∈ t'.devices

/-- No rule is lost. -/
def KeepsRules (r r' : RuleRepository) : Prop :=
  ∀ id rule, r.rules.lookup id = some rule → r'.rules.lookup id = some rule

/-- No stored device and no stored rule is removed. -/
def NothingRemoved : AppState → AppState → Prop := Frame.OnStores KeepsDevices KeepsRules

/-- The request asks for the removal of a stored device or of a stored rule. -/
def AsksRemoval (s : AppState) (req : HttpRequest) : Prop :=
  let id := req.getQueryParam (lit "id")
  req.method = .delete ∧ id ≠ [] ∧
    (req.path = lit "/devices" ∧ id ∈ s.backend.database.tables.ids ∨
      req.path = lit "/automation/rules" ∧ id ∈ s.rules.rules)

/-- A request without an administrator's token. -/
def WithoutAdmin (V : Vendor) (s : AppState) : AppInput → Prop
  | .request env _ bReq =>
    ∀ claims, SendsToken V env.now.seconds s.authService bReq claims → claims.role ≠ .admin
  | _ => False

/-- If the request is an operator's, it asks for no removal. -/
def NoOperatorRemoval (V : Vendor) (s : AppState) : AppInput → Prop
  | .request env _ bReq =>
    ∀ claims, SendsToken V env.now.seconds s.authService bReq claims →
      claims.role = .operator → ¬ AsksRemoval s (HttpSession.beastToApp bReq)
  | _ => True

private theorem asksRemoval_congr {s : AppState} {req req' : HttpRequest}
    (h : SameRequest req req') :
    AsksRemoval s req' ↔ AsksRemoval s req := by
  rw [AsksRemoval, AsksRemoval, HttpRequest.getQueryParam, HttpRequest.getQueryParam, h.method,
    h.path, h.query]

/-! ## The two stores -/

private theorem keepsDevices_insertDevice (row : DeviceRow) :
    (Write.insertDevice row).Keeps KeepsDevices := by
  intro t t' n happly device hdevice
  rw [Write.apply] at happly
  split at happly
  · cases happly
  · obtain ⟨rfl, -⟩ := Prod.mk.inj (Option.some.inj happly)
    exact List.mem_append_left _ hdevice

private theorem keepsRules_addRule (rule : AutomationRule) (r : RuleRepository) :
    KeepsRules r (RuleEngine.addRule rule r).2 := by
  intro id stored hstored
  rw [RuleEngine.addRule, RuleRepository.add]
  split
  · exact hstored
  · next hnew =>
    -- The new rule has another id than the stored one.
    have hne : id ≠ rule.id := by
      rintro rfl
      exact hnew (AList.lookup_isSome.mp (by rw [hstored]; rfl))
    exact (AList.lookup_insert_ne hne).trans hstored

private theorem evolution_keepsDevices : Evolution KeepsDevices where
  refl _ _ h := h
  trans _ _ _ h h' row hrow := h' row (h row hrow)

private theorem frame_nothingRemoved (V : Vendor) : Frame V NothingRemoved :=
  Frame.ofStores evolution_keepsDevices keepsDevices_insertDevice (fun _ _ _ h => h)
    (fun _ _ _ h h' id rule hrule => h' id rule (h id rule hrule)) keepsRules_addRule

/-- The removal of a device that is not stored removes nothing. -/
theorem nothingRemoved_unregister {s : AppState} {id : StdString}
    (h : id ∉ s.backend.database.tables.ids) :
    NothingRemoved s ((App.devices (DeviceManager.unregister id)).run s).2 := by
  -- A relation that also knows that the device is missing is kept by the deletion.
  let T : Tables → Tables → Prop := fun t t' =>
    id ∉ t.ids → id ∉ t'.ids ∧ KeepsDevices t t'
  have hdelete : (Write.deleteDevice id).Keeps T := by
    rintro t t' n happly hid
    obtain ⟨rfl, -⟩ := Prod.mk.inj (Option.some.inj happly)
    rw [Tables.deleteDevice_of_notMem hid]
    exact ⟨hid, fun _ hrow => hrow⟩
  have hevolution : Evolution T :=
    { refl := fun t hid => ⟨hid, evolution_keepsDevices.refl t⟩
      trans := fun a b c hab hbc hid =>
        ⟨(hbc (hab hid).1).1, evolution_keepsDevices.trans a b c (hab hid).2 (hbc (hab hid).1).2⟩ }
  have hkept := Backend.respects_run hevolution (DeviceManager.within_unregister hdelete) s.backend
  exact ⟨(hkept h).2, fun _ _ hrule => hrule⟩

/-- The removal of a rule that is not stored removes nothing. -/
theorem nothingRemoved_removeRule {s : AppState} {id : StdString} (h : id ∉ s.rules.rules) :
    NothingRemoved s ((App.rules (RuleEngine.removeRule id)).run s).2 := by
  refine ⟨fun _ hrow => hrow, ?_⟩
  show KeepsRules s.rules (s.rules.remove id).2
  rw [RuleRepository.remove, if_neg h]
  exact fun _ _ hrule => hrule

/-! ## Requests -/

/-- A request that meets both conditions removes nothing. -/
theorem nothingRemoved_of_step {V : Vendor} {s : AppState} {i : AppInput}
    (hadmin : WithoutAdmin V s i) (hoperator : NoOperatorRemoval V s i) :
    NothingRemoved s (Application.step V s i).2 := by
  cases i with
  | auth now call => exact hadmin.elim
  | elsewhere => exact hadmin.elim
  | request env enableCors bReq =>
    refine (frame_nothingRemoved V).weak.rel_onRead enableCors fun route req' res' hhandled => ?_
    obtain ⟨-, hroute, hpath, hmethod⟩ := HttpRouter.of_run_resolve_eq_handled hhandled
    -- Behind the gate there are operators only, and they ask for no removal.
    have hgate : isPublicPath route.path = false → ¬ AsksRemoval s req' := by
      intro hpublic
      obtain ⟨claims, hsends, hviewer, hsame⟩ := exists_sendsToken_of_handled hhandled hpublic
      rw [asksRemoval_congr hsame]
      refine hoperator claims hsends ?_
      cases hrole : claims.role with
      | admin => exact absurd hrole (hadmin claims hsends)
      | operator => rfl
      | viewer => exact absurd hrole hviewer
    refine (frame_nothingRemoved V).rel_handler hroute ?_ ?_ ?_
    · exact fun _ => (frame_nothingRemoved V).refl s
    · intro hdelete hdevices hne
      refine nothingRemoved_unregister fun hstored => hgate (by rw [hdevices]; decide) ?_
      exact ⟨hmethod.symm.trans hdelete, hne, .inl ⟨hpath.symm.trans hdevices, hstored⟩⟩
    · intro hdelete hrules hne
      refine nothingRemoved_removeRule fun hstored => hgate (by rw [hrules]; decide) ?_
      exact ⟨hmethod.symm.trans hdelete, hne, .inr ⟨hpath.symm.trans hrules, hstored⟩⟩

/-- Operators and viewers have no permission to delete; and in runs of requests none of which
carries an administrator's token or is an operator's request for a removal, nothing is removed. -/
theorem kept_without_admin (V : Vendor) :
    (∀ role, role ≠ .admin → ∀ resource,
      AccessControl.canAccess role resource .delete = false) ∧
    ∀ s₀ tr s, Mealy.Run (Application.step V)
      (fun _ s i => WithoutAdmin V s i ∧ NoOperatorRemoval V s i) s₀ tr s →
      NothingRemoved s₀ s := by
  constructor
  · intro role hrole resource
    cases role with
    | admin => exact absurd rfl hrole
    | operator => simp [AccessControl.canAccess]
    | viewer => simp [AccessControl.canAccess]
  · intro s₀ tr s hrun
    refine hrun.invariant ((frame_nothingRemoved V).refl s₀) fun _ s i hkept hguard => ?_
    exact (frame_nothingRemoved V).trans _ _ _ hkept (nothingRemoved_of_step hguard.1 hguard.2)

/-! ## Two requests for a removal -/

/-- The state in which one device is stored. -/
def oneDevice (service : AuthenticationService) : AppState where
  authService := service
  backend.database.tables :=
    Tables.empty.insertDevice ⟨lit "d-1", lit "lamp", lit "light", lit "mqtt", [], 0, 0⟩
      List.not_mem_nil

/-- The request for its removal. -/
def removalRequest (token : StdString) : RawRequest where
  method := .delete
  target := lit "/devices?id=d-1"
  fields := [(authorization, bearer ++ token)]

private theorem asksRemoval_removalRequest (service : AuthenticationService) (token : StdString) :
    AsksRemoval (oneDevice service) (HttpSession.beastToApp (removalRequest token)) := by
  have hid : (HttpSession.beastToApp (removalRequest token)).getQueryParam (lit "id") =
      lit "d-1" := rfl
  refine ⟨rfl, by rw [hid]; decide, .inl ⟨rfl, ?_⟩⟩
  rw [hid]
  exact List.mem_singleton.mpr rfl

/-- A viewer asks for the removal, and the device stays. -/
theorem kept_without_admin_viewer :
    ∃ (s₀ s : AppState) (bReq : RawRequest) (tr : List (AppInput × AppOutput)),
      tr.map Prod.fst = [.request { now := 0 } true bReq] ∧
      Mealy.Run (Application.step Vendor.reference) Mealy.anyInput s₀ tr s ∧
      AsksRemoval s₀ (HttpSession.beastToApp bReq) ∧ NothingRemoved s₀ s := by
  obtain ⟨service, -, token, -, hvalid⟩ := exists_session .viewer
  have hsends : SendsToken Vendor.reference (0 : Timestamp).seconds service (removalRequest token)
      (AuthenticationService.sampleClaims .viewer) := ⟨token, rfl, hvalid⟩
  refine ⟨oneDevice service, _, removalRequest token, _, rfl, .snoc _ .nil trivial, ?_, ?_⟩
  · exact asksRemoval_removalRequest service token
  · refine (kept_without_admin Vendor.reference).2 _ _ _ (.snoc _ .nil ⟨?_, ?_⟩)
    · intro claims hclaims
      rw [← hsends.unique hclaims]
      decide
    · intro claims hclaims hoperator
      rw [← hsends.unique hclaims] at hoperator
      cases hoperator

/-- An operator asks for the removal, and the device is gone. -/
theorem operator_deletes_device :
    ¬ ((∀ role, role ≠ .admin → ∀ resource,
        AccessControl.canAccess role resource .delete = false) ∧
      ∀ (config : SecurityConfig) (history : AuthTrace) (s₀ s : AppState)
        (tr : List (AppInput × AppOutput)),
        AuthenticationService.Run Vendor.reference Mealy.anyInput config history s₀.authService →
        Mealy.Run (Application.step Vendor.reference)
          (fun _ s i => WithoutAdmin Vendor.reference s i) s₀ tr s →
        NothingRemoved s₀ s) := by
  rintro ⟨-, hkept⟩
  obtain ⟨service, history, token, hrun, hvalid⟩ := exists_session .operator
  have hsends : SendsToken Vendor.reference (0 : Timestamp).seconds service (removalRequest token)
      (AuthenticationService.sampleClaims .operator) := ⟨token, rfl, hvalid⟩
  have hadmin : WithoutAdmin Vendor.reference (oneDevice service)
      (.request { now := 0 } true (removalRequest token)) := by
    intro claims hclaims
    rw [← hsends.unique hclaims]
    decide
  -- The request passes the middlewares, and the handler finds its route.
  obtain ⟨req', res', hsame, hresolve⟩ := run_resolve_of_carries { now := 0 } (oneDevice service) {}
    (show isPublicPath (HttpSession.beastToApp (removalRequest token)).path = false by rfl)
    (carriesToken_beastToApp_iff.mpr hsends)
  have hroute : ⟨.delete, lit "/devices", DeviceController.deleteDevices⟩ ∈
      (registerHttpRoutes Vendor.reference { now := 0 }).routes := by
    rw [routes_registerHttpRoutes]
    simp
  rw [if_pos (by decide), HttpRouter.findRoute_of_mem nodup_routes hroute hsame.method.symm
    hsame.path.symm] at hresolve
  have hid : req'.getQueryParam (lit "id") = lit "d-1" := by
    rw [HttpRequest.getQueryParam, hsame.query]
    rfl
  have hmethod : (HttpSession.beastToApp (removalRequest token)).method ≠ .options := by
    show HttpMethod.delete ≠ .options
    decide
  have hstate : (Application.step Vendor.reference (oneDevice service)
      (.request { now := 0 } true (removalRequest token))).2 =
      ((App.devices (DeviceManager.unregister (lit "d-1"))).run (oneDevice service)).2 := by
    rw [← hid, ← state_deleteDevices res' (by rw [hid]; decide)]
    refine (HttpSession.onRead_state_of_ne hmethod).trans ?_
    rw [HttpRouter.dispatch, Stateful.run_bind_of_ok hresolve]
    rfl
  have hremoved := (hkept _ history (oneDevice service) _ _ hrun (.snoc _ .nil hadmin)).1
    ⟨lit "d-1", lit "lamp", lit "light", lit "mqtt", [], 0, 0⟩ (List.mem_singleton.mpr rfl)
  rw [hstate] at hremoved
  -- The statement left no row with the id.
  have hstored := List.mem_map_of_mem (f := DeviceRow.id) hremoved
  change lit "d-1" ∈ (((DeviceManager.unregister (lit "d-1")).run Backend.handle).run
    (oneDevice service).backend).2.database.tables.ids at hstored
  rw [Backend.run_unregister _ rfl] at hstored
  exact ((Database.mem_ids_step_deleteDevice fun _ => rfl).mp hstored).2 rfl

end IotDashboard
