import IotDashboard.Api.RuleStore
import IotDashboard.Common.VendorReals
import IotDashboard.Flutter.AutomationRepository
import IotDashboard.Flutter.WebSocketClient

/-!
# Automation rules between app and server

A rule that the app posts is stored by the server, and comes back in the list of rules as the same
rule. The app's form of a rule and the server's form of what it stores are one JSON value; in
between, the server turns the text of an operator into an enumeration and back.

## Main definitions

* `DartConvert.Faithful`: the two JSON libraries carry values to each other;
* `Flutter.AutomationRule.Valid`: what the app can post;
* `Flutter.AutomationRule.Survives`: the rule is accepted, and comes back.

## Main results

* `Flutter.AutomationRule.survives`: every valid rule with a new id survives.
-/

namespace IotDashboard

open StdString

/-- What one library prints the other reads, for values that text can carry; the server reads
nothing else. -/
structure DartConvert.Faithful (J : DartConvert) (V : Vendor) : Prop where
  encodes : ∀ j : Json, j.Textual → ∃ text, J.jsonEncode j = some text ∧ V.parse text = .ok j
  decodes : ∀ j : Json, j.Textual → ∃ text, V.dump j = .ok text ∧ J.jsonDecode text = some j
  parses : V.ParsesTextual

/-- The app's library, with floating-point numbers. -/
def DartConvert.withReals : DartConvert where
  jsonDecode text := (Vendor.withReals.parse text).toOption
  jsonEncode value := (Vendor.withReals.dump value).toOption

/-- The app's library and the server's are faithful to each other. -/
theorem DartConvert.faithful_withReals : withReals.Faithful Vendor.withReals := by
  have hprints {j : Json} (hj : j.Textual) : ∃ text, Vendor.withReals.dump j = .ok text ∧
      Vendor.withReals.parse text = .ok j := by
    obtain ⟨text, hdump⟩ := Vendor.dumpsUtf8_withReals j hj.utf8
    exact ⟨text, hdump, Vendor.roundTrips_withReals j text hj hdump⟩
  refine ⟨fun j hj => ?_, fun j hj => ?_, Vendor.parsesTextual_withReals⟩
  · obtain ⟨text, hdump, hparse⟩ := hprints hj
    exact ⟨text, congrArg Except.toOption hdump, hparse⟩
  · obtain ⟨text, hdump, hparse⟩ := hprints hj
    exact ⟨text, hdump, congrArg Except.toOption hparse⟩

/-! ## Rules -/

namespace Flutter

/-- The condition as the server keeps it. -/
def Condition.server (c : Condition) : IotDashboard.Condition :=
  ⟨c.sensorType, .ofString c.operator, c.threshold⟩

/-- The action as the server keeps it. -/
def RuleAction.server (a : RuleAction) : Action := ⟨a.deviceId, a.command, .object a.parameters⟩

/-- The server reads the app's form of a condition. -/
theorem Condition.ofJson_toJson (c : Condition) :
    IotDashboard.Condition.ofJson c.toJson = .ok c.server := by
  rw [IotDashboard.Condition.ofJson, Condition.toJson, Json.atKey_mkObject rfl,
    Json.atKey_mkObject rfl, Json.atKey_mkObject rfl]
  rfl

/-- The server reads the app's form of an action. -/
theorem RuleAction.readAction_toJson (a : RuleAction) :
    AutomationController.readAction a.toJson = .ok a.server := by
  rw [AutomationController.readAction, RuleAction.toJson, Json.value_mkObject,
    Json.value_mkObject, Json.value_mkObject]
  rfl

namespace AutomationRule

/-- The rule as the server keeps it. -/
def server (r : AutomationRule) (createdBy : StdString) : IotDashboard.AutomationRule where
  id := r.id
  name := r.name
  enabled := r.enabled
  conditions := r.conditions.map Condition.server
  actions := r.actions.map RuleAction.server
  createdBy := createdBy

/-- The app can post the rule. -/
structure Valid (r : AutomationRule) : Prop where
  id_ne : r.id ≠ []
  name_ne : r.name ≠ []
  id : r.id.isUtf8 = true
  name : r.name.isUtf8 = true
  conditions : ∀ c ∈ r.conditions, c.sensorType.isUtf8 = true ∧
    c.operator ∈ ComparisonOp.texts ∧ c.threshold.isFinite = true
  actions : ∀ a ∈ r.actions, a.deviceId.isUtf8 = true ∧ a.command.isUtf8 = true ∧
    (Json.object a.parameters).Textual

variable {r : AutomationRule}

/-! ## What the server reads and writes -/

/-- The server writes what the app wrote. -/
theorem ruleToJson_server (h : r.Valid) (createdBy : StdString) :
    AutomationController.ruleToJson (r.server createdBy) = r.toJson := by
  have hconditions : (r.conditions.map Condition.server).map IotDashboard.Condition.toJson =
      r.conditions.map Condition.toJson := by
    rw [List.map_map]
    refine List.map_congr_left fun c hc => ?_
    obtain ⟨-, hoperator, -⟩ := h.conditions c hc
    simp only [Function.comp_apply, Condition.server, IotDashboard.Condition.toJson,
      ComparisonOp.toText_ofString hoperator]
    rfl
  simp only [AutomationController.ruleToJson, server, hconditions, List.map_map]
  rfl

/-- A valid rule can be sent. -/
theorem textual_toJson (h : r.Valid) : r.toJson.Textual := by
  rw [← ruleToJson_server h []]
  refine AutomationController.textual_ruleToJson h.id h.name (fun c hc => ?_) fun a ha => ?_
  · obtain ⟨d, hd, rfl⟩ := List.mem_map.mp hc
    obtain ⟨hsensor, -, hthreshold⟩ := h.conditions d hd
    exact IotDashboard.Condition.textual_toJson hsensor hthreshold
  · obtain ⟨b, hb, rfl⟩ := List.mem_map.mp ha
    exact h.actions b hb

private theorem readLists_toJson (r : AutomationRule) :
    AutomationController.readLists r.toJson =
      .ok (r.conditions.map Condition.server, r.actions.map RuleAction.server) := by
  have hconditions : (r.conditions.map Condition.toJson).mapM IotDashboard.Condition.ofJson =
      .ok (r.conditions.map Condition.server) :=
    List.mapM_map_of_forall fun c _ => c.ofJson_toJson
  have hactions : (r.actions.map RuleAction.toJson).mapM AutomationController.readAction =
      .ok (r.actions.map RuleAction.server) :=
    List.mapM_map_of_forall fun a _ => a.readAction_toJson
  rw [AutomationController.readLists, toJson, Json.atKey_mkObject rfl, Json.atKey_mkObject rfl]
  show (do
    let conditions ← (r.conditions.map Condition.toJson).mapM IotDashboard.Condition.ofJson
    let actions ← (r.actions.map RuleAction.toJson).mapM AutomationController.readAction
    return (conditions, actions)) = _
  rw [hconditions, hactions]
  rfl

variable {V : Vendor} {J : DartConvert} {s : AppState}

/-- The state after the rule was posted by the user. -/
def posted (r : AutomationRule) (s : AppState) (createdBy : StdString) : AppState :=
  { s with rules := (s.rules.add (r.server createdBy)).2 }

/-- The server stores the rule and answers with a form of it. -/
theorem run_postRules (h : r.Valid) {req : HttpRequest} (res : HttpResponse)
    (hparse : V.parse req.body = .ok r.toJson) (hnew : r.id ∉ s.rules.rules) :
    let s' := r.posted s (req.getHeader (lit "x-user-id"))
    (AutomationController.postRules V req res).run s =
      (match RuleEngine.getRule [] s'.rules with
        | .error _ => App.json V res 201 r.toJson
        | .ok created => App.json V res 201 (AutomationController.ruleToJson created)).run s' := by
  intro s'
  -- What the handler reads from the body, field by field.
  have hid : (App.value Json.getString r.toJson "id" []).run s = (.ok r.id, s) := by
    rw [App.value, toJson, Json.value_mkObject]
    rfl
  have hname : (App.value Json.getString r.toJson "name" []).run s = (.ok r.name, s) := by
    rw [App.value, toJson, Json.value_mkObject]
    rfl
  have henabled : (App.value Json.getBool r.toJson "enabled" true).run s = (.ok r.enabled, s) := by
    rw [App.value, toJson, Json.value_mkObject]
    rfl
  have hpresent : (r.id.isEmpty || r.name.isEmpty) = false := by
    simp [h.id_ne, h.name_ne]
  have hadd : (App.rules (RuleEngine.addRule (r.server (req.getHeader (lit "x-user-id"))))).run s =
      (.ok (.ok ()), s') := by
    have hok : (s.rules.add (r.server (req.getHeader (lit "x-user-id")))).1 = .ok () := by
      rw [RuleRepository.add, if_neg (show (r.server _).id ∉ s.rules.rules from hnew)]
    exact Prod.ext (congrArg Except.ok hok) rfl
  rw [AutomationController.postRules, hparse]
  refine (Stateful.run_bind_of_ok hid).trans ((Stateful.run_bind_of_ok hname).trans
    ((Stateful.run_bind_of_ok henabled).trans ?_))
  rw [hpresent, if_neg Bool.false_ne_true, readLists_toJson]
  exact Stateful.run_bind_of_ok hadd

private theorem entries_posted (hnew : r.id ∉ s.rules.rules) (createdBy : StdString) :
    (r.posted s createdBy).rules.rules.entries =
      ⟨r.id, r.server createdBy⟩ :: s.rules.rules.entries := by
  rw [posted, RuleRepository.add, if_neg (show (r.server _).id ∉ s.rules.rules from hnew)]
  exact AList.entries_insert_of_notMem hnew

/-- What text can carry is answered, and the app reads it. -/
theorem run_json_of_textual (hJ : J.Faithful V) {j : Json} (hj : j.Textual) (res : HttpResponse)
    (status : UInt16) : ∃ text, (App.json V res status j).run s = (.ok (res.json status text), s) ∧
      J.jsonDecode text = some j := by
  obtain ⟨text, hdump, hdecode⟩ := hJ.decodes j hj
  refine ⟨text, ?_, hdecode⟩
  rw [App.run_json, hdump]
  rfl

/-! ## The list of rules -/

/-- The body of `GET /automation/rules`. -/
def listing (rules : List IotDashboard.AutomationRule) : Json :=
  .mkObject [(lit "rules", .array (rules.map AutomationController.ruleToJson)),
    (lit "total", .number rules.length)]

private theorem textual_listing {rules : List IotDashboard.AutomationRule}
    (hrules : ∀ rule ∈ rules, (AutomationController.ruleToJson rule).Textual)
    (hsize : rules.length < 2 ^ 64) : (listing rules).Textual := by
  refine Json.Textual.mkObject fun f hf => ?_
  simp only [List.mem_cons, List.not_mem_nil, or_false] at hf
  rcases hf with rfl | rfl
  · refine ⟨rfl, .array fun x hx => ?_⟩
    obtain ⟨rule, hrule, rfl⟩ := List.mem_map.mp hx
    exact hrules rule hrule
  · exact ⟨rfl, .number _, .number (by omega) (by omega)⟩

/-- The entry is about the rule of the id. -/
def HasId (id : StdString) (entry : Json) : Bool :=
  ((asMap entry).bind fun e => asString (e.get "id")) == some id

private theorem hasId_ruleToJson {id : StdString} {rule : IotDashboard.AutomationRule} :
    HasId id (AutomationController.ruleToJson rule) = true ↔ rule.id = id := by
  have hentry : ((asMap (AutomationController.ruleToJson rule)).bind fun e =>
      asString (e.get "id")) = some rule.id := by
    simp only [AutomationController.ruleToJson, asMap_mkObject, Option.bind_some]
    rw [get_fieldsOf rfl]
    rfl
  rw [HasId, hentry, beq_iff_eq, Option.some.injEq]

/-- Posting the rule is accepted, and in the list that is then asked for there is one entry for
its id, which the app reads as the rule. -/
def Survives (J : DartConvert) (V : Vendor) (r : AutomationRule) (s : AppState) : Prop :=
  ∃ text, J.jsonEncode r.toJson = some text ∧
    ∀ (req : HttpRequest) (res : HttpResponse), req.body = text →
      ∃ answer s', (AutomationController.postRules V req res).run s = (.ok answer, s') ∧
        answer.status = 201 ∧
        ∀ (req' : HttpRequest) (res' : HttpResponse),
          ∃ list, (AutomationController.getRules V req' res').run s' = (.ok list, s') ∧
            list.status = 200 ∧
            ∃ data entries entry, J.jsonDecode list.body = some (.object data) ∧
              DartMap.get data "rules" = .array entries ∧
              entries.filter (HasId r.id) = [.object entry] ∧ fromJson entry = some r

/-- Only the new entry is about the new id. -/
theorem filter_hasId_posted (h : r.Valid) (hstore : s.rules.Textual) (hnew : r.id ∉ s.rules.rules)
    (createdBy : StdString) :
    (((r.posted s createdBy).rules.rules.entries.map Sigma.snd).map
      AutomationController.ruleToJson).filter (HasId r.id) = [r.toJson] := by
  -- The other rules are filed under their own ids, which are not the new one.
  have hother : ((s.rules.rules.entries.map Sigma.snd).map
      AutomationController.ruleToJson).filter (HasId r.id) = [] := by
    refine List.filter_eq_nil_iff.mpr fun x hx => ?_
    obtain ⟨rule, hrule, rfl⟩ := List.mem_map.mp hx
    obtain ⟨e, he, rfl⟩ := List.mem_map.mp hrule
    rw [hasId_ruleToJson, (hstore e he).1]
    intro hid
    rw [← hid] at hnew
    exact hnew (AList.mem_keys.mpr (List.mem_map_of_mem he))
  have hself : HasId r.id r.toJson = true := by
    rw [← ruleToJson_server h createdBy]
    exact hasId_ruleToJson.mpr rfl
  rw [entries_posted hnew, List.map_cons, List.map_cons, ruleToJson_server h,
    List.filter_cons_of_pos hself, hother]

/-- Every rule that the app can post and whose id is new survives, in every state that requests
lead to. -/
theorem survives (hJ : J.Faithful V) (hserved : Served V s) (hrule : r.Valid)
    (hnew : r.id ∉ s.rules.rules) (hsize : s.rules.rules.entries.length + 1 < 2 ^ 64) :
    r.Survives J V s := by
  have hstore := textual_of_served hJ.parses hserved
  obtain ⟨text, hencode, hparse⟩ := hJ.encodes r.toJson (textual_toJson hrule)
  refine ⟨text, hencode, fun req res hbody => ?_⟩
  let s' := r.posted s (req.getHeader (lit "x-user-id"))
  have hstore' : s'.rules.Textual := by
    refine hstore.add ?_
    rw [ruleToJson_server hrule]
    exact textual_toJson hrule
  have hpost := run_postRules (s := s) hrule res (hbody ▸ hparse) hnew
  have hanswer : ∃ answer, (AutomationController.postRules V req res).run s =
      (.ok answer, s') ∧ answer.status = 201 := by
    rw [hpost]
    -- The answer is what was posted, or the rule that is filed under the empty id.
    rcases hget : RuleEngine.getRule [] s'.rules with e | created
    · obtain ⟨text', hanswer, -⟩ :=
        run_json_of_textual (s := s') hJ (textual_toJson hrule) res 201
      exact ⟨_, hanswer, rfl⟩
    · obtain ⟨text', hanswer, -⟩ :=
        run_json_of_textual (s := s') hJ (hstore'.of_getById hget) res 201
      exact ⟨_, hanswer, rfl⟩
  obtain ⟨answer, hanswer, hstatus⟩ := hanswer
  refine ⟨answer, s', hanswer, hstatus, fun req' res' => ?_⟩
  have hrules : ∀ rule ∈ s'.rules.rules.entries.map Sigma.snd,
      (AutomationController.ruleToJson rule).Textual := by
    intro rule hrule
    obtain ⟨e, he, rfl⟩ := List.mem_map.mp hrule
    exact (hstore' e he).2
  have hlength : (s'.rules.rules.entries.map Sigma.snd).length < 2 ^ 64 := by
    rw [List.length_map, entries_posted hnew]
    exact hsize
  obtain ⟨text', hlist, hdecode⟩ :=
    run_json_of_textual (s := s') hJ (textual_listing hrules hlength) res' 200
  exact ⟨_, hlist, rfl, _, _, r.fields, hdecode, get_fieldsOf rfl,
    filter_hasId_posted hrule hstore hnew _, fromJson_fields r⟩

/-- A rule with a condition, and with an action that takes a parameter. -/
def heatAlarm : AutomationRule where
  id := lit "heat-alarm"
  name := lit "Heat alarm"
  enabled := true
  conditions := [⟨lit "temperature", lit ">=", Double.ofInt 30⟩]
  actions := [⟨lit "fan-1", lit "set_speed", [(lit "level", .number 3)]⟩]

private theorem valid_heatAlarm : heatAlarm.Valid where
  id_ne := by decide
  name_ne := by decide
  id := rfl
  name := rfl
  conditions c hc := by
    obtain rfl := List.mem_singleton.mp hc
    exact ⟨rfl, by decide, by decide⟩
  actions a ha := by
    obtain rfl := List.mem_singleton.mp ha
    refine ⟨rfl, rfl, .object (fun f hf => ?_) fun f hf => ?_, .object ?_ fun f hf => ?_⟩
    · obtain rfl := List.mem_singleton.mp hf
      rfl
    · obtain rfl := List.mem_singleton.mp hf
      exact .number 3
    · exact List.pairwise_singleton _ _
    · obtain rfl := List.mem_singleton.mp hf
      exact .number (by decide) (by decide)

/-- An application without rules. -/
def noRules : AppState where
  authService.config := {}

/-- The heat alarm survives in an application without rules. -/
theorem survives_heatAlarm : heatAlarm.Survives .withReals .withReals noRules :=
  survives DartConvert.faithful_withReals (.start rfl) valid_heatAlarm (AList.notMem_empty _)
    (by decide)

end AutomationRule

end Flutter

end IotDashboard
