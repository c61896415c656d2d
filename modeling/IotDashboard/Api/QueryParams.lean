import IotDashboard.Api.Frames
import IotDashboard.Foundation.PercentEncoding
import IotDashboard.Network.HttpSession

/-!
# Parameters in the target

The app's HTTP library encodes the parameters that it appends to a path. `BeastToApp` cuts the
target at the question mark, `GetQueryParam` cuts the query at the separators, and nobody decodes
what is left.

## Main definitions

* `HttpSession.target`: a path with encoded parameters;
* `ActsOn`: a request for a removal reaches the handlers with the id that was meant.

## Main results

* `HttpSession.getQueryParam_target`: the value that a handler reads is the text of the encoding;
* `ActsOn.iff_verbatim`: it is the id exactly when the encoding escapes nothing.
-/

namespace IotDashboard

open StdString PercentEncoding

namespace HttpSession

/-- The text of one parameter. -/
def IsParam (form : Bool) (param : StdString × StdString) (text : StdString) : Prop :=
  ∃ name value, text = name ++ byte '=' :: value ∧ byte '=' ∉ name ∧
    Encodes form param.1 name ∧ Encodes form param.2 value

/-- A path with the texts of parameters. -/
def target (path : StdString) (texts : List StdString) : StdString :=
  path ++ byte '?' :: [byte '&'].intercalate texts

/-- The query of a target is its parameters. -/
theorem query_target {bReq : RawRequest} {path : StdString} {texts : List StdString}
    (hpath : byte '?' ∉ path) (htarget : bReq.target = target path texts) :
    (beastToApp bReq).query = [byte '&'].intercalate texts := by
  rw [beastToApp, splitTarget, htarget, target, find_append_cons hpath]
  simp [substrFrom]

end HttpSession

namespace HttpRequest

/-- The value of a parameter is what follows its first `=`. -/
theorem paramValue_append {name value key : StdString} (hname : byte '=' ∉ name) :
    paramValue key (name ++ byte '=' :: value) = if name = key then some value else none := by
  rw [paramValue, find_append_cons hname]
  simp [substr, substrFrom]

end HttpRequest

namespace HttpSession

variable {form : Bool} {path id text : StdString} {bReq : RawRequest}
  {before after : List StdString}

/-- A parameter does not end before its end. -/
theorem IsParam.ampersand_notMem {param : StdString × StdString} (h : IsParam form param text) :
    byte '&' ∉ text := by
  obtain ⟨name, value, rfl, -, hname, hvalue⟩ := h
  simp [hname.ampersand_notMem, hvalue.ampersand_notMem, show byte '&' ≠ byte '=' by decide]

private theorem encodes_id : Encodes form (lit "id") (lit "id") :=
  .literal rfl (fun _ => by decide) (.literal rfl (fun _ => by decide) .nil)

private theorem isParam_id (hid : Encodes form id text) :
    IsParam form (lit "id", id) (lit "id=" ++ text) :=
  ⟨lit "id", text, rfl, by decide, encodes_id, hid⟩

/-- A parameter of another name is passed over. -/
theorem IsParam.paramValue_eq_none {param : StdString × StdString} (h : IsParam form param text)
    (hne : param.1 ≠ lit "id") : HttpRequest.paramValue (lit "id") text = none := by
  obtain ⟨name, value, rfl, hseparator, hname, -⟩ := h
  rw [HttpRequest.paramValue_append hseparator, if_neg]
  rintro rfl
  exact hne (hname.unique encodes_id)

/-- A handler reads the text that encodes the id. -/
theorem getQueryParam_target (hpath : byte '?' ∉ path)
    (hbefore : ∀ t ∈ before, ∃ param, param.1 ≠ lit "id" ∧ IsParam form param t)
    (hafter : ∀ t ∈ after, ∃ param, IsParam form param t) (hid : Encodes form id text)
    (htarget : bReq.target = target path (before ++ (lit "id=" ++ text) :: after)) :
    (beastToApp bReq).getQueryParam (lit "id") = text := by
  -- No text of a parameter holds the separator, so the cuts are where the texts were joined.
  have hsplit : (beastToApp bReq).query.splitOn (byte '&') =
      before ++ (lit "id=" ++ text) :: after := by
    rw [query_target hpath htarget]
    refine List.splitOn_intercalate _ (fun t ht => ?_) (by simp)
    rcases List.mem_append.mp ht with ht | ht
    · obtain ⟨param, -, hparam⟩ := hbefore t ht
      exact hparam.ampersand_notMem
    rcases List.mem_cons.mp ht with rfl | ht
    · exact (isParam_id hid).ampersand_notMem
    · obtain ⟨param, hparam⟩ := hafter t ht
      exact hparam.ampersand_notMem
  -- Only parameters of other names come before the id.
  have hnone : before.findSome? (HttpRequest.paramValue (lit "id")) = none := by
    refine List.findSome?_eq_none_iff.mpr fun t ht => ?_
    obtain ⟨param, hne, hparam⟩ := hbefore t ht
    exact hparam.paramValue_eq_none hne
  have hvalue : HttpRequest.paramValue (lit "id") (lit "id=" ++ text) = some text :=
    (@HttpRequest.paramValue_append (lit "id") text (lit "id") (by decide)).trans (if_pos rfl)
  rw [HttpRequest.getQueryParam, hsplit, List.findSome?_append, hnone, List.findSome?_cons, hvalue]
  rfl

end HttpSession

/-- What the two removals do, if anything, they do to the id. Middleware may have changed other
parts of the request by the time that a handler has it. -/
structure ActsOn (bReq : RawRequest) (id : StdString) : Prop where
  value : (HttpSession.beastToApp bReq).getQueryParam (lit "id") = id
  deleteDevices : ∀ req res s, req.query = (HttpSession.beastToApp bReq).query →
    ((DeviceController.deleteDevices req res).run s).2 =
      ((App.devices (DeviceManager.unregister id)).run s).2
  deleteRules : ∀ req res s, req.query = (HttpSession.beastToApp bReq).query →
    ((AutomationController.deleteRules req res).run s).2 =
      ((App.rules (RuleEngine.removeRule id)).run s).2

namespace ActsOn

open HttpSession

variable {form : Bool} {path id text : StdString} {bReq : RawRequest}
  {before after : List StdString}

private theorem iff_value (hid : id ≠ []) :
    ActsOn bReq id ↔ (beastToApp bReq).getQueryParam (lit "id") = id := by
  refine ⟨ActsOn.value, fun hvalue => ?_⟩
  have hparam {req : HttpRequest} (hquery : req.query = (beastToApp bReq).query) :
      req.getQueryParam (lit "id") = id := by
    rw [← hvalue, HttpRequest.getQueryParam, HttpRequest.getQueryParam, hquery]
  refine ⟨hvalue, fun req res s hquery => ?_, fun req res s hquery => ?_⟩
  · rw [state_deleteDevices res (by rwa [hparam hquery]), hparam hquery]
  · rw [state_deleteRules res (by rwa [hparam hquery]), hparam hquery]

/-- A removal acts on the id that the client meant exactly when its encoding escapes nothing. -/
theorem iff_verbatim (hne : id ≠ []) (hpath : byte '?' ∉ path)
    (hbefore : ∀ t ∈ before, ∃ param, param.1 ≠ lit "id" ∧ IsParam form param t)
    (hafter : ∀ t ∈ after, ∃ param, IsParam form param t) (hid : Encodes form id text)
    (htarget : bReq.target = target path (before ++ (lit "id=" ++ text) :: after)) :
    ActsOn bReq id ↔ Verbatim form text := by
  rw [iff_value hne, getQueryParam_target hpath hbefore hafter hid htarget, hid.eq_iff]

/-- For the encoder of the app that is the case when the id consists of unreserved bytes. -/
theorem iff_unreserved (hne : id ≠ []) (hpath : byte '?' ∉ path)
    (htarget : bReq.target = target path [lit "id=" ++ encodeQueryComponent id]) :
    ActsOn bReq id ↔ ∀ b ∈ id, isUnreserved b = true := by
  have hid := encodes_encodeQueryComponent id
  have hnone {P : StdString → Prop} : ∀ t ∈ ([] : List StdString), P t :=
    fun _ h => absurd h List.not_mem_nil
  rw [iff_value hne, getQueryParam_target hpath hnone hnone hid htarget, hid.eq_iff,
    verbatim_encodeQueryComponent]

/-- A request to remove a device, with another parameter on each side of the id. -/
def removal (id : StdString) : RawRequest where
  method := .delete
  target := target (lit "/devices")
    [lit "force=1", lit "id=" ++ encodeQueryComponent id, lit "page=2"]

private theorem isParam_force : IsParam true (lit "force", lit "1") (lit "force=1") :=
  ⟨lit "force", lit "1", rfl, by decide, encodes_encodeQueryComponent (lit "force"),
    encodes_encodeQueryComponent (lit "1")⟩

private theorem isParam_page : IsParam true (lit "page", lit "2") (lit "page=2") :=
  ⟨lit "page", lit "2", rfl, by decide, encodes_encodeQueryComponent (lit "page"),
    encodes_encodeQueryComponent (lit "2")⟩

theorem iff_verbatim_plainId :
    ActsOn (removal (lit "pump-1")) (lit "pump-1") ↔
      Verbatim true (encodeQueryComponent (lit "pump-1")) := by
  have hbefore : ∀ t ∈ [lit "force=1"],
      ∃ param, param.1 ≠ lit "id" ∧ IsParam true param t := by
    intro t ht
    obtain rfl := List.mem_singleton.mp ht
    exact ⟨_, by decide, isParam_force⟩
  have hafter : ∀ t ∈ [lit "page=2"], ∃ param, IsParam true param t := by
    intro t ht
    obtain rfl := List.mem_singleton.mp ht
    exact ⟨_, isParam_page⟩
  have hpath : byte '?' ∉ lit "/devices" := by decide
  exact iff_verbatim (by decide) hpath hbefore hafter (encodes_encodeQueryComponent _) rfl

/-- An id with a space arrives with a plus sign. -/
theorem not_actsOn_spaceId :
    Encodes true (lit "pump 1") (encodeQueryComponent (lit "pump 1")) ∧
      (beastToApp (removal (lit "pump 1"))).getQueryParam (lit "id") = lit "pump+1" ∧
      ¬ ActsOn (removal (lit "pump 1")) (lit "pump 1") := by
  refine ⟨encodes_encodeQueryComponent _, by decide, fun h => ?_⟩
  exact absurd h.value (by decide)

end ActsOn

end IotDashboard
