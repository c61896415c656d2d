import IotDashboard.Api.RuleCreation

/-!
# Conditions as they were written

A condition should be kept as it was written, or refused. `OpFromString` knows six operators, and
takes every other text for equality; a threshold becomes a double, to which an integer is rounded.

## Main definitions

* `Condition.Matches`: the condition is the one written in the JSON value;
* `AutomationController.KeepsConditions`: what is stored are the conditions of the body, and a body
  with another operator is refused.

## Main results

* `Condition.matches_iff`: which conditions are decoded as they were written;
* `AutomationController.conditions_kept_iff`: which bodies are kept or refused as they should be.
-/

namespace IotDashboard

open StdString

namespace Condition

/-- The JSON form of the condition has the sensor type, the operator and the threshold of the
value. -/
structure Matches (c : Condition) (j : Json) : Prop where
  sensorType : c.toJson.atKey (lit "sensor_type") = j.atKey (lit "sensor_type")
  operator : c.toJson.atKey (lit "operator") = j.atKey (lit "operator")
  threshold : (c.toJson.atKey (lit "threshold")).map Json.numericValue =
    (j.atKey (lit "threshold")).map Json.numericValue

/-- The operator of the value is one of the six. -/
def KnownOperator (j : Json) : Prop :=
  ∀ op, j.atKey (lit "operator") = .ok (.string op) → op ∈ ComparisonOp.texts

/-- The threshold of the value is a double: an integer is not changed when it is converted. -/
def ExactThreshold (j : Json) : Prop :=
  ∀ n, j.atKey (lit "threshold") = .ok (.number n) →
    (Json.real (.ofInt n)).numericValue = some (n : ℚ)

variable {c : Condition} {j : Json}

/-- An accepted condition is the one that was written exactly if its operator is known and its
threshold is a double. -/
theorem matches_iff (h : ofJson j = .ok c) :
    c.Matches j ↔ KnownOperator j ∧ ExactThreshold j := by
  obtain ⟨op, value, hsensor, hoperator, hop, hthreshold, hdouble⟩ := ofJson_eq_ok_iff.mp h
  -- What is written, field by field.
  have hsensorOut : c.toJson.atKey (lit "sensor_type") = .ok (.string c.sensorType) :=
    Json.atKey_mkObject rfl
  have hoperatorOut : c.toJson.atKey (lit "operator") =
      .ok (.string (ComparisonOp.ofString op).toText) := hop ▸ Json.atKey_mkObject rfl
  have hthresholdOut : c.toJson.atKey (lit "threshold") = .ok (.real c.threshold) :=
    Json.atKey_mkObject rfl
  -- An operator comes back if it is one of the six, and not the one that unknown texts become.
  have hknown : KnownOperator j ↔ (ComparisonOp.ofString op).toText = op := by
    rw [KnownOperator, hoperator]
    constructor
    · exact fun h => ComparisonOp.toText_ofString (h op rfl)
    · rintro h op' heq
      cases heq
      exact h ▸ ComparisonOp.toText_mem _
  -- A threshold comes back if it is a number that a double holds.
  have hexact : ExactThreshold j ↔
      (Json.real c.threshold).numericValue = value.numericValue := by
    rw [ExactThreshold, hthreshold]
    cases value with
    | number n =>
      rw [← Except.ok.inj hdouble]
      constructor
      · exact fun h => h n rfl
      · rintro h n' heq
        cases heq
        exact h
    | real d =>
      rw [← Except.ok.inj hdouble]
      exact iff_of_true (fun n heq => by cases heq) rfl
    | _ => cases hdouble
  -- The sensor type always comes back.
  rw [hknown, hexact]
  constructor
  · intro h
    have hop := h.operator
    have hvalue := h.threshold
    rw [hoperatorOut, hoperator] at hop
    rw [hthresholdOut, hthreshold] at hvalue
    exact ⟨Json.string.inj (Except.ok.inj hop), Except.ok.inj hvalue⟩
  · rintro ⟨hop, hvalue⟩
    refine ⟨hsensorOut.trans hsensor.symm, ?_, ?_⟩
    · rw [hoperatorOut, hoperator, hop]
    · rw [hthresholdOut, hthreshold]
      exact congrArg Except.ok hvalue

/-- The value has the fields of a condition: two texts and a number. -/
def Readable (j : Json) : Prop :=
  ∃ sensorType op value number, j.atKey (lit "sensor_type") = .ok (.string sensorType) ∧
    j.atKey (lit "operator") = .ok (.string op) ∧ j.atKey (lit "threshold") = .ok value ∧
    value.getDouble = .ok number

private theorem exists_ofJson_iff (j : Json) : (∃ c, ofJson j = .ok c) ↔ Readable j := by
  simp only [ofJson_eq_ok_iff]
  constructor
  · rintro ⟨c, op, value, hsensor, hoperator, -, hthreshold, hdouble⟩
    exact ⟨c.sensorType, op, value, c.threshold, hsensor, hoperator, hthreshold, hdouble⟩
  · rintro ⟨sensorType, op, value, number, hsensor, hoperator, hthreshold, hdouble⟩
    exact ⟨⟨sensorType, .ofString op, number⟩, op, value, hsensor, hoperator, rfl, hthreshold,
      hdouble⟩

/-- The value is no condition, or is decoded as it was written. -/
def DecodedAsWritten (j : Json) : Prop := ∀ c, ofJson j = .ok c → c.Matches j

/-- A value is decoded as it was written, or not at all, exactly if it lacks a field or has a known
operator and a double for its threshold. -/
theorem decodedAsWritten_iff (j : Json) :
    DecodedAsWritten j ↔ (Readable j → KnownOperator j ∧ ExactThreshold j) := by
  rw [← exists_ofJson_iff, forall_exists_index]
  exact forall₂_congr fun _ h => matches_iff h

/-- An operator that is not one of the six. -/
def arrow : Json :=
  .mkObject [(lit "sensor_type", .string (lit "temperature")), (lit "operator", .string (lit "=>")),
    (lit "threshold", .number 30)]

/-- The arrow is taken for equality. -/
theorem ofJson_arrow : ofJson arrow = .ok ⟨lit "temperature", .equal, .ofInt 30⟩ := by
  rw [ofJson, arrow, Json.atKey_mkObject rfl, Json.atKey_mkObject rfl, Json.atKey_mkObject rfl]
  rfl

private theorem not_knownOperator_arrow : ¬ KnownOperator arrow := fun h =>
  absurd (h (lit "=>") (Json.atKey_mkObject rfl)) (by decide)

end Condition

namespace AutomationController

/-- A rule that is new after the request has the conditions of the body, and a body with a condition
of another operator is refused and changes nothing. -/
structure KeepsConditions (V : Vendor) (req : HttpRequest) (res : HttpResponse) (s : AppState) :
    Prop where
  keeps : ∀ {id rule}, ((postRules V req res).run s).2.rules.rules.lookup id = some rule →
    s.rules.rules.lookup id ≠ some rule →
    ∃ body list, V.parse req.body = .ok body ∧ body.atKey (lit "conditions") = .ok list ∧
      List.Forall₂ Condition.Matches rule.conditions list.elements
  refuses : ∀ {body list}, V.parse req.body = .ok body →
    body.atKey (lit "conditions") = .ok list →
    (∃ j ∈ list.elements, ¬ Condition.KnownOperator j) →
    ∃ answer, (postRules V req res).run s = (.ok answer, s) ∧ answer.status = 400

/-- Every condition of an accepted body has a double for a threshold, and a body with another
operator is refused for another reason. -/
structure Keepable (V : Vendor) (req : HttpRequest) (s : AppState) (body : Json) : Prop where
  exact : ∀ {rule list}, Accepts V req s body rule → body.atKey (lit "conditions") = .ok list →
    ∀ j ∈ list.elements, Condition.ExactThreshold j
  refused : ∀ {list}, body.atKey (lit "conditions") = .ok list →
    (∃ j ∈ list.elements, ¬ Condition.KnownOperator j) → Refused body

variable {V : Vendor} {req : HttpRequest} {res : HttpResponse} {s : AppState} {body : Json}
  {rule : AutomationRule}

/-- The conditions of a rule are read from the list one by one. -/
theorem Accepts.forall₂_ofJson (h : Accepts V req s body rule) :
    ∃ list, body.atKey (lit "conditions") = .ok list ∧
      List.Forall₂ (fun c j => Condition.ofJson j = .ok c) rule.conditions list.elements := by
  obtain ⟨list, -, hlist, hconditions, -, -⟩ := exists_of_readLists h.lists
  exact ⟨list, hlist, List.forall₂_of_mapM_eq_ok hconditions⟩

/-- Conditions were read as they were written exactly if each operator is known and each threshold
is a double. -/
theorem Accepts.forall₂_matches_iff (h : Accepts V req s body rule) {list : Json}
    (hlist : body.atKey (lit "conditions") = .ok list) :
    List.Forall₂ Condition.Matches rule.conditions list.elements ↔
      ∀ j ∈ list.elements, Condition.KnownOperator j ∧ Condition.ExactThreshold j := by
  obtain ⟨list', hlist', hread⟩ := h.forall₂_ofJson
  obtain rfl : list = list' := Except.ok.inj (hlist.symm.trans hlist')
  exact hread.forall₂_iff Condition.matches_iff

/-- A request with a body is refused exactly if the body is. -/
theorem exists_status_400_iff (hparse : V.parse req.body = .ok body) :
    (∃ answer, (postRules V req res).run s = (.ok answer, s) ∧ answer.status = 400) ↔
      Refused body := by
  rcases run_postRules_cases res s hparse with ⟨hhead, x, hthrows⟩ | ⟨hrefused, hanswer⟩ |
      ⟨hnot, -, answer, hrun, h409⟩ | ⟨rule, haccepts⟩
  · refine iff_of_false (fun ⟨answer, hrun, _⟩ => ?_) fun ⟨id, name, enabled, hread, _⟩ => ?_
    · rw [hthrows] at hrun
      cases hrun
    · exact hhead id name enabled hread
  · exact iff_of_true hanswer hrefused
  · refine iff_of_false (fun ⟨answer', hrun', h400⟩ => ?_) hnot
    rw [hrun] at hrun'
    cases hrun'
    rw [h409] at h400
    cases h400
  · refine iff_of_false (fun ⟨answer, hrun, h400⟩ => ?_) haccepts.not_refused
    rw [haccepts.status_eq hrun] at h400
    cases h400

/-- What is new after the request was accepted by it. -/
theorem accepts_of_lookup {id : StdString}
    (hlookup : ((postRules V req res).run s).2.rules.rules.lookup id = some rule)
    (hnew : s.rules.rules.lookup id ≠ some rule) : ∃ body, Accepts V req s body rule := by
  cases hparse : V.parse req.body with
  | error x =>
    rw [postRules, hparse] at hlookup
    exact absurd hlookup hnew
  | ok body =>
    rcases run_postRules_cases res s hparse with ⟨-, x, hrun⟩ | ⟨-, answer, hrun, -⟩ |
        ⟨-, -, answer, hrun, -⟩ | ⟨rule', haccepts⟩
    · rw [hrun] at hlookup
      exact absurd hlookup hnew
    · rw [hrun] at hlookup
      exact absurd hlookup hnew
    · rw [hrun] at hlookup
      exact absurd hlookup hnew
    · rw [haccepts.run_postRules, App.run_json] at hlookup
      change (stored s rule').rules.rules.lookup id = some rule at hlookup
      rw [haccepts.rules_stored] at hlookup
      by_cases hid : id = rule'.id
      · rw [hid, AList.lookup_insert] at hlookup
        obtain rfl := Option.some.inj hlookup
        exact ⟨body, haccepts⟩
      · rw [AList.lookup_insert_ne hid] at hlookup
        exact absurd hlookup hnew

/-- A request keeps the conditions of its body, or refuses it, exactly if it can. -/
theorem keepsConditions_iff :
    KeepsConditions V req res s ↔ ∀ body, V.parse req.body = .ok body → Keepable V req s body := by
  constructor
  · intro h body hparse
    refine ⟨fun {rule list} haccepts hlist j hj => ?_, fun hlist hunknown =>
      (exists_status_400_iff hparse).mp (h.refuses hparse hlist hunknown)⟩
    have hlookup : ((postRules V req res).run s).2.rules.rules.lookup rule.id = some rule := by
      rw [haccepts.run_postRules, App.run_json]
      exact haccepts.lookup_stored
    have hnew : s.rules.rules.lookup rule.id ≠ some rule := fun hold =>
      haccepts.new (AList.lookup_isSome.mp (hold ▸ rfl))
    obtain ⟨body', list', hparse', hlist', hmatches⟩ := h.keeps hlookup hnew
    obtain rfl : body = body' := Except.ok.inj (hparse.symm.trans hparse')
    obtain rfl : list = list' := Except.ok.inj (hlist.symm.trans hlist')
    exact ((haccepts.forall₂_matches_iff hlist).mp hmatches j hj).2
  · intro h
    refine ⟨fun {id rule} hlookup hnew => ?_, fun {body list} hparse hlist hunknown => ?_⟩
    · obtain ⟨body, haccepts⟩ := accepts_of_lookup hlookup hnew
      have hkeepable := h body haccepts.parse
      obtain ⟨list, hlist, -⟩ := haccepts.forall₂_ofJson
      refine ⟨body, list, haccepts.parse, hlist, (haccepts.forall₂_matches_iff hlist).mpr
        fun j hj => ⟨?_, hkeepable.exact haccepts hlist j hj⟩⟩
      -- An unknown operator would have been refused.
      by_contra hunknown
      exact haccepts.not_refused (hkeepable.refused hlist ⟨j, hj, hunknown⟩)
    · exact (exists_status_400_iff hparse).mpr ((h body hparse).refused hlist hunknown)

/-- A JSON value is refused as a condition or decoded as it was written exactly if it lacks a field
or its operator is known and its threshold is a double; and a request keeps conditions or is
refused exactly if its body, when there is one, is of that kind. -/
theorem conditions_kept_iff (j : Json) (V : Vendor) (req : HttpRequest) (res : HttpResponse)
    (s : AppState) :
    (Condition.DecodedAsWritten j ↔
      (Condition.Readable j → Condition.KnownOperator j ∧ Condition.ExactThreshold j)) ∧
    (KeepsConditions V req res s ↔
      ∀ body, V.parse req.body = .ok body → Keepable V req s body) :=
  ⟨Condition.decodedAsWritten_iff j, keepsConditions_iff⟩

/-- A rule with the arrow as its condition. -/
def arrowBody : Json :=
  .mkObject [(lit "id", .string (lit "r-1")), (lit "name", .string (lit "Hot")),
    (lit "conditions", .array [Condition.arrow]), (lit "actions", .array [])]

private theorem textual_arrowBody : arrowBody.Textual := by
  refine .mkObject fun f hf => ?_
  simp only [List.mem_cons, List.not_mem_nil, or_false] at hf
  rcases hf with rfl | rfl | rfl | rfl
  · exact ⟨rfl, .string rfl⟩
  · exact ⟨rfl, .string rfl⟩
  · refine ⟨rfl, .array fun j hj => ?_⟩
    rw [List.mem_singleton.mp hj]
    refine .mkObject fun f hf => ?_
    simp only [List.mem_cons, List.not_mem_nil, or_false] at hf
    rcases hf with rfl | rfl | rfl
    · exact ⟨rfl, .string rfl⟩
    · exact ⟨rfl, .string rfl⟩
    · exact ⟨rfl, .number (by decide) (by decide)⟩
  · exact ⟨rfl, .array fun _ hx => absurd hx List.not_mem_nil⟩

/-- The rule is accepted, and its condition is an equality. -/
theorem accepts_arrowBody :
    Accepts Vendor.withReals (requestOf arrowBody) fresh arrowBody
      { idleRule with
        name := lit "Hot", conditions := [⟨lit "temperature", .equal, .ofInt 30⟩] } := by
  refine ⟨⟨?_, ?_, ?_⟩, parse_requestOf textual_arrowBody, ?_, rfl, by decide, by decide,
    AList.notMem_empty _⟩
  · rw [arrowBody, Json.value_mkObject]
    rfl
  · rw [arrowBody, Json.value_mkObject]
    rfl
  · rw [readLists, arrowBody, Json.atKey_mkObject rfl, Json.atKey_mkObject rfl]
    show (do
      let conditions ← [Condition.arrow].mapM Condition.ofJson
      let actions ← ([] : List Json).mapM readAction
      return (conditions, actions)) = _
    rw [List.mapM_cons, Condition.ofJson_arrow]
    rfl
  · rw [arrowBody, Json.value_mkObject]
    rfl

/-- The arrow is taken for equality, and a rule with it is accepted. -/
theorem not_conditions_kept_arrow :
    ¬ Condition.DecodedAsWritten Condition.arrow ∧
      ¬ KeepsConditions Vendor.withReals (requestOf arrowBody) {} fresh := by
  constructor
  · intro h
    exact Condition.not_knownOperator_arrow
      ((Condition.matches_iff Condition.ofJson_arrow).mp (h _ Condition.ofJson_arrow)).1
  · intro h
    obtain ⟨answer, hrun, h400⟩ := h.refuses (parse_requestOf textual_arrowBody)
      (Json.atKey_mkObject rfl)
      ⟨Condition.arrow, List.mem_singleton_self _, Condition.not_knownOperator_arrow⟩
    have h201 := accepts_arrowBody.status_eq hrun
    rw [h400] at h201
    cases h201

end AutomationController

end IotDashboard
