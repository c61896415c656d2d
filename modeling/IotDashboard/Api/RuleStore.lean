import IotDashboard.Api.Frames
import IotDashboard.Foundation.Containers

/-!
# Which rules are stored

Rules enter the store through `POST /automation/rules` only, which takes them from a body that was
parsed. So every stored rule is filed under its own id, and its JSON form is one that text can
carry.

## Main definitions

* `Served`: the states that requests lead to from an empty store;
* `RuleRepository.Textual`: the invariant.

## Main results

* `textual_of_served`: every state that is served has such a store.
-/

namespace IotDashboard

open StdString

/-- The states that requests lead to, with anything else done in between that leaves the rules
alone. -/
inductive Served (V : Vendor) : AppState → Prop
  | start {s : AppState} : s.rules = {} → Served V s
  | request {s : AppState} (env : Env) (enableCors : Bool) (bReq : RawRequest) : Served V s →
      Served V (HttpSession.onRead (registerHttpRoutes V env) enableCors bReq s).2
  | other {s s' : AppState} : Served V s → s'.rules = s.rules → Served V s'

/-- Rules are filed under their ids, and text can carry their JSON forms. -/
def RuleRepository.Textual (r : RuleRepository) : Prop :=
  ∀ e ∈ r.rules.entries, e.2.id = e.1 ∧ (AutomationController.ruleToJson e.2).Textual

/-! ## What is read from a body -/

variable {V : Vendor} {j : Json}

/-- The text of an operator is ASCII. -/
theorem ComparisonOp.isUtf8_toText (op : ComparisonOp) : op.toText.isUtf8 = true := by
  cases op <;> rfl

/-- A condition of a UTF-8 sensor and a finite threshold can be sent. -/
theorem Condition.textual_toJson {c : Condition} (hsensor : c.sensorType.isUtf8 = true)
    (hthreshold : c.threshold.isFinite = true) : c.toJson.Textual := by
  refine Json.Textual.mkObject fun f hf => ?_
  simp only [List.mem_cons, List.not_mem_nil, or_false] at hf
  rcases hf with rfl | rfl | rfl
  · exact ⟨rfl, .string hsensor⟩
  · exact ⟨rfl, .string c.op.isUtf8_toText⟩
  · exact ⟨rfl, .real hthreshold⟩

/-- A condition is read from two texts and a number. -/
theorem Condition.ofJson_eq_ok_iff {c : Condition} :
    ofJson j = .ok c ↔ ∃ op value, j.atKey (lit "sensor_type") = .ok (.string c.sensorType) ∧
      j.atKey (lit "operator") = .ok (.string op) ∧ c.op = .ofString op ∧
      j.atKey (lit "threshold") = .ok value ∧ value.getDouble = .ok c.threshold := by
  constructor
  · intro h
    -- The three fields are looked up and converted one after the other.
    obtain ⟨v₁, hsensor, h⟩ := Except.exists_of_bind_eq_ok h
    obtain ⟨sensorType, hsensorType, h⟩ := Except.exists_of_bind_eq_ok h
    obtain ⟨v₂, hoperator, h⟩ := Except.exists_of_bind_eq_ok h
    obtain ⟨op, hop, h⟩ := Except.exists_of_bind_eq_ok h
    obtain ⟨v₃, hthreshold, h⟩ := Except.exists_of_bind_eq_ok h
    obtain ⟨threshold, hdouble, h⟩ := Except.exists_of_bind_eq_ok h
    cases h
    rw [Json.eq_string_of_getString hsensorType] at hsensor
    rw [Json.eq_string_of_getString hop] at hoperator
    exact ⟨op, v₃, hsensor, hoperator, rfl, hthreshold, hdouble⟩
  · rintro ⟨op, value, hsensor, hoperator, hop, hthreshold, hdouble⟩
    rw [ofJson, hsensor, hoperator, hthreshold]
    show (do
      let threshold ← value.getDouble
      return Condition.mk c.sensorType (.ofString op) threshold) = _
    rw [hdouble, ← hop]
    rfl

/-- A condition that was read can be written. -/
theorem Condition.textual_of_ofJson (hj : j.Textual) {c : Condition} (h : ofJson j = .ok c) :
    c.toJson.Textual := by
  obtain ⟨op, value, hsensor, -, -, hthreshold, hdouble⟩ := ofJson_eq_ok_iff.mp h
  exact textual_toJson ((hj.of_atKey hsensor).isUtf8 rfl)
    ((hj.of_atKey hthreshold).isFinite hdouble)

namespace AutomationController

/-- The JSON form of an action inside `RuleToJson`. -/
theorem textual_action {a : Action} (hdevice : a.deviceId.isUtf8 = true)
    (hcommand : a.command.isUtf8 = true) (hparameters : a.parameters.Textual) :
    (Json.mkObject [(lit "device_id", .string a.deviceId), (lit "command", .string a.command),
      (lit "parameters", a.parameters)]).Textual := by
  refine Json.Textual.mkObject fun f hf => ?_
  simp only [List.mem_cons, List.not_mem_nil, or_false] at hf
  rcases hf with rfl | rfl | rfl
  · exact ⟨rfl, .string hdevice⟩
  · exact ⟨rfl, .string hcommand⟩
  · exact ⟨rfl, hparameters⟩

/-- A rule can be sent if its texts, conditions and actions can. -/
theorem textual_ruleToJson {r : AutomationRule} (hid : r.id.isUtf8 = true)
    (hname : r.name.isUtf8 = true) (hconditions : ∀ c ∈ r.conditions, c.toJson.Textual)
    (hactions : ∀ a ∈ r.actions, a.deviceId.isUtf8 = true ∧ a.command.isUtf8 = true ∧
      a.parameters.Textual) : (ruleToJson r).Textual := by
  refine Json.Textual.mkObject fun f hf => ?_
  simp only [List.mem_cons, List.not_mem_nil, or_false] at hf
  rcases hf with rfl | rfl | rfl | rfl | rfl
  · exact ⟨rfl, .string hid⟩
  · exact ⟨rfl, .string hname⟩
  · exact ⟨rfl, .boolean _⟩
  · refine ⟨rfl, .array fun x hx => ?_⟩
    obtain ⟨c, hc, rfl⟩ := List.mem_map.mp hx
    exact hconditions c hc
  · refine ⟨rfl, .array fun x hx => ?_⟩
    obtain ⟨a, ha, rfl⟩ := List.mem_map.mp hx
    obtain ⟨hdevice, hcommand, hparameters⟩ := hactions a ha
    exact textual_action hdevice hcommand hparameters

private theorem of_readAction (hj : j.Textual) {a : Action} (h : readAction j = .ok a) :
    a.deviceId.isUtf8 = true ∧ a.command.isUtf8 = true ∧ a.parameters.Textual := by
  obtain ⟨deviceId, hdevice, h⟩ := Except.exists_of_bind_eq_ok h
  obtain ⟨command, hcommand, h⟩ := Except.exists_of_bind_eq_ok h
  obtain ⟨parameters, hparameters, h⟩ := Except.exists_of_bind_eq_ok h
  cases h
  exact ⟨Json.isUtf8_of_value hj.utf8 rfl hdevice, Json.isUtf8_of_value hj.utf8 rfl hcommand,
    hj.of_value (.mkObject fun f hf => absurd hf List.not_mem_nil) hparameters⟩

/-- Both lists are looked up, and converted element by element. -/
theorem exists_of_readLists {body : Json} {conditions : List Condition} {actions : List Action}
    (h : readLists body = .ok (conditions, actions)) :
    ∃ conditionList actionList, body.atKey (lit "conditions") = .ok conditionList ∧
      conditionList.elements.mapM Condition.ofJson = .ok conditions ∧
      body.atKey (lit "actions") = .ok actionList ∧
      actionList.elements.mapM readAction = .ok actions := by
  obtain ⟨conditionList, hconditionList, h⟩ := Except.exists_of_bind_eq_ok h
  obtain ⟨conditions', hconditions, h⟩ := Except.exists_of_bind_eq_ok h
  obtain ⟨actionList, hactionList, h⟩ := Except.exists_of_bind_eq_ok h
  obtain ⟨actions', hactions, h⟩ := Except.exists_of_bind_eq_ok h
  cases h
  exact ⟨conditionList, actionList, hconditionList, hconditions, hactionList, hactions⟩

/-- A rule that was read can be written. -/
theorem ReadsRule.textual {body : Json} {rule : AutomationRule} (hbody : body.Textual)
    (h : ReadsRule body rule) : (ruleToJson rule).Textual := by
  obtain ⟨conditionList, actionList, hconditionList, hconditions, hactionList, hactions⟩ :=
    exists_of_readLists h.lists
  refine textual_ruleToJson (Json.isUtf8_of_value hbody.utf8 rfl h.id)
    (Json.isUtf8_of_value hbody.utf8 rfl h.name) (fun c hc => ?_) fun a ha => ?_
  · obtain ⟨x, hx, hcondition⟩ := List.exists_of_mapM_eq_ok hconditions c hc
    exact Condition.textual_of_ofJson ((hbody.of_atKey hconditionList).of_mem_elements x hx)
      hcondition
  · obtain ⟨x, hx, haction⟩ := List.exists_of_mapM_eq_ok hactions a ha
    exact of_readAction ((hbody.of_atKey hactionList).of_mem_elements x hx) haction

end AutomationController

/-! ## The store -/

namespace RuleRepository

variable {r : RuleRepository} {rule : AutomationRule}

/-- Adding a rule that can be sent leaves a store that can be sent. -/
theorem Textual.add (h : r.Textual) (hrule : (AutomationController.ruleToJson rule).Textual) :
    (r.add rule).2.Textual := by
  rw [RuleRepository.add]
  split
  · exact h
  · next hnew =>
    intro e he
    -- `Add` files the rule under its id, and only when there is none yet.
    rw [AList.entries_insert_of_notMem hnew] at he
    rcases List.mem_cons.mp he with rfl | he
    · exact ⟨rfl, hrule⟩
    · exact h e he

/-- A rule of such a store can be sent. -/
theorem Textual.of_getById (h : r.Textual) {ruleId : StdString}
    (hget : r.getById ruleId = .ok rule) : (AutomationController.ruleToJson rule).Textual := by
  rw [getById] at hget
  split at hget
  · cases hget
  · next hlookup =>
    cases hget
    exact (h _ (AList.mem_lookup_iff.mp hlookup)).2

/-- Removing a rule leaves a store that can be sent. -/
theorem Textual.remove (h : r.Textual) (ruleId : StdString) : (r.remove ruleId).2.Textual := by
  rw [RuleRepository.remove]
  split
  · exact fun e he => h e ((List.kerase_sublist ruleId r.rules.entries).subset he)
  · exact h

end RuleRepository

/-- The calls other than additions and removals of rules leave the rules alone. -/
theorem weakFrame_textual (V : Vendor) :
    WeakFrame V fun s s' => s.rules.Textual → s'.rules.Textual where
  refl _ h := h
  trans _ _ _ hab hbc h := hbc (hab h)
  list _ _ h := h
  register _ _ _ h := h
  sendCommand _ _ _ _ h := h
  query _ _ h := h

/-- The store is as it should be in every state that requests lead to. -/
theorem textual_of_served (hparses : V.ParsesTextual) {s : AppState} (h : Served V s) :
    s.rules.Textual := by
  induction h with
  | start hempty =>
    rw [hempty]
    exact fun e he => absurd he List.not_mem_nil
  | request env enableCors bReq _ ih =>
    refine (weakFrame_textual V).rel_onRead enableCors (fun route req' res' hhandled => ?_) ih
    -- Of the handlers, only those of the rules touch the store.
    obtain ⟨-, hroute, -, -⟩ := HttpRouter.of_run_resolve_eq_handled hhandled
    refine (weakFrame_textual V).rel_handler hroute (fun _ h => h) (fun _ _ _ h => h)
      (fun _ _ _ h => h.remove _) fun _ _ body rule hbody hread _ s' h => ?_
    exact h.add (hread.textual (hparses _ _ hbody))
  | other _ hsame ih => rwa [hsame]

end IotDashboard
