import IotDashboard.Api.RuleStore
import IotDashboard.Common.VendorReals

/-!
# Creating a rule

`POST /automation/rules` reads a rule from the body, moves it into the store and answers with what
it then finds under its id. But the id was moved with the rule: the lookup asks for the empty id,
and the answer falls back to the text of the body.

## Main definitions

* `AutomationController.Accepts`, `AutomationController.Refused`: what becomes of a body;
* `AutomationController.ReportsStored`: the answer shows the rule that is now stored.

## Main results

* `AutomationController.run_postRules_cases`: a body throws, is refused, names a rule that is there
  already, or is accepted;
* `AutomationController.reportsStored_iff`: the answer shows what is stored exactly for bodies in
  the server's own form.
-/

namespace IotDashboard

open StdString

namespace AutomationController

/-! ## What is accepted -/

/-- The body is accepted, and describes the rule. -/
structure Accepts (V : Vendor) (req : HttpRequest) (s : AppState) (body : Json)
    (rule : AutomationRule) : Prop extends ReadsRule body rule where
  parse : V.parse req.body = .ok body
  enabled : body.value Json.getBool (lit "enabled") true = .ok rule.enabled
  createdBy : rule.createdBy = req.getHeader (lit "x-user-id")
  id_ne : rule.id ≠ []
  name_ne : rule.name ≠ []
  new : rule.id ∉ s.rules.rules

/-- The state with the rule. -/
def stored (s : AppState) (rule : AutomationRule) : AppState :=
  { s with rules := (s.rules.add rule).2 }

/-- What an accepted body is answered with: the lookup asks for the id that was moved away. -/
def answered (s : AppState) (body : Json) : Json :=
  match s.rules.rules.lookup [] with
  | none => body
  | some first => ruleToJson first

variable {V : Vendor} {req : HttpRequest} {s : AppState} {body : Json} {rule : AutomationRule}

/-- An accepted rule is stored under its id. -/
theorem Accepts.rules_stored (h : Accepts V req s body rule) :
    (stored s rule).rules.rules = s.rules.rules.insert rule.id rule := by
  rw [stored, RuleRepository.add, if_neg h.new]

/-- It is found there afterwards. -/
theorem Accepts.lookup_stored (h : Accepts V req s body rule) :
    (stored s rule).rules.rules.lookup rule.id = some rule := by
  rw [h.rules_stored, AList.lookup_insert]

/-- An accepted rule is stored, and what the answer shows was looked up before. -/
theorem Accepts.run_postRules (h : Accepts V req s body rule) (res : HttpResponse) :
    (postRules V req res).run s = (App.json V res 201 (answered s body)).run (stored s rule) := by
  have hid : (App.value Json.getString body "id" []).run s = (.ok rule.id, s) := by
    rw [App.value, h.id]
    rfl
  have hname : (App.value Json.getString body "name" []).run s = (.ok rule.name, s) := by
    rw [App.value, h.name]
    rfl
  have henabled : (App.value Json.getBool body "enabled" true).run s = (.ok rule.enabled, s) := by
    rw [App.value, h.enabled]
    rfl
  have hpresent : (rule.id.isEmpty || rule.name.isEmpty) = false := by
    simp [h.id_ne, h.name_ne]
  have hadd : (App.rules (RuleEngine.addRule rule)).run s = (.ok (.ok ()), stored s rule) := by
    have hok : (s.rules.add rule).1 = .ok () := by
      rw [RuleRepository.add, if_neg h.new]
    exact Prod.ext (congrArg Except.ok hok) rfl
  -- The rule was filed under another id than the one that is looked up.
  have hget : RuleEngine.getRule [] (stored s rule).rules = RuleEngine.getRule [] s.rules := by
    unfold RuleEngine.getRule RuleRepository.getById
    rw [h.rules_stored, AList.lookup_insert_ne (Ne.symm h.id_ne)]
  rw [postRules, h.parse]
  refine (Stateful.run_bind_of_ok hid).trans ((Stateful.run_bind_of_ok hname).trans
    ((Stateful.run_bind_of_ok henabled).trans ?_))
  rw [hpresent, if_neg Bool.false_ne_true, h.lists, ← h.createdBy]
  refine (Stateful.run_bind_of_ok hadd).trans ?_
  dsimp only
  rw [Stateful.run_bind, Stateful.run_read, hget, RuleEngine.getRule, RuleRepository.getById,
    answered]
  cases s.rules.rules.lookup [] <;> rfl

/-- The only answer to an accepted body is 201. -/
theorem Accepts.status_eq (h : Accepts V req s body rule) {answer : HttpResponse}
    {s' : AppState} (hrun : (postRules V req res).run s = (.ok answer, s')) :
    answer.status = 201 := by
  rw [h.run_postRules, App.run_json] at hrun
  cases hdump : V.dump (answered s body) with
  | error x =>
    rw [hdump] at hrun
    cases hrun
  | ok text =>
    rw [hdump] at hrun
    cases hrun
    rfl

/-- The fields that are read outside the `try` block. -/
structure ReadsHead (body : Json) (id name : StdString) (enabled : Bool) : Prop where
  id : body.value Json.getString (lit "id") [] = .ok id
  name : body.value Json.getString (lit "name") [] = .ok name
  enabled : body.value Json.getBool (lit "enabled") true = .ok enabled

/-- The body is refused: it names no rule, or its conditions and actions cannot be read. -/
def Refused (body : Json) : Prop :=
  ∃ id name enabled, ReadsHead body id name enabled ∧
    (id = [] ∨ name = [] ∨ ∃ e, readLists body = .error e)

/-- The head of an accepted body was read. -/
theorem Accepts.readsHead (h : Accepts V req s body rule) :
    ReadsHead body rule.id rule.name rule.enabled :=
  ⟨h.id, h.name, h.enabled⟩

/-- An accepted body is not one that is refused. -/
theorem Accepts.not_refused (h : Accepts V req s body rule) : ¬ Refused body := by
  rintro ⟨id, name, enabled, hhead, hid | hname | ⟨e, he⟩⟩
  · exact h.id_ne ((Except.ok.inj (h.id.symm.trans hhead.id)).trans hid)
  · exact h.name_ne ((Except.ok.inj (h.name.symm.trans hhead.name)).trans hname)
  · cases h.lists.symm.trans he

/-- A body throws, is refused, names a rule that is there already, or is accepted. -/
theorem run_postRules_cases (res : HttpResponse) (s : AppState)
    (hparse : V.parse req.body = .ok body) :
    ((∀ id name enabled, ¬ ReadsHead body id name enabled) ∧
      ∃ x, (postRules V req res).run s = (.error x, s)) ∨
    (Refused body ∧ ∃ answer, (postRules V req res).run s = (.ok answer, s) ∧
      answer.status = 400) ∨
    (¬ Refused body ∧ (∃ id name enabled lists, ReadsHead body id name enabled ∧
        id ∈ s.rules.rules ∧ readLists body = .ok lists) ∧
      ∃ answer, (postRules V req res).run s = (.ok answer, s) ∧ answer.status = 409) ∨
    ∃ rule, Accepts V req s body rule := by
  rw [postRules, hparse]
  dsimp only
  cases hid : body.value Json.getString (lit "id") [] with
  | error x =>
    refine .inl ⟨fun id name enabled hhead => ?_, _, App.run_value_bind_of_error hid⟩
    cases hid.symm.trans hhead.id
  | ok id =>
    rw [App.run_value_bind_of_ok hid]
    cases hname : body.value Json.getString (lit "name") [] with
    | error x =>
      refine .inl ⟨fun id name enabled hhead => ?_, _, App.run_value_bind_of_error hname⟩
      cases hname.symm.trans hhead.name
    | ok name =>
      rw [App.run_value_bind_of_ok hname]
      cases henabled : body.value Json.getBool (lit "enabled") true with
      | error x =>
        refine .inl ⟨fun id name enabled hhead => ?_, _, App.run_value_bind_of_error henabled⟩
        cases henabled.symm.trans hhead.enabled
      | ok enabled =>
        rw [App.run_value_bind_of_ok henabled]
        have hhead : ReadsHead body id name enabled := ⟨hid, hname, henabled⟩
        split
        · next hempty =>
          rw [Bool.or_eq_true, List.isEmpty_iff, List.isEmpty_iff] at hempty
          exact .inr (.inl ⟨⟨id, name, enabled, hhead, hempty.imp_right .inl⟩, _, rfl, rfl⟩)
        · next hpresent =>
          rw [Bool.not_eq_true, Bool.or_eq_false_iff, List.isEmpty_eq_false_iff,
            List.isEmpty_eq_false_iff] at hpresent
          cases hlists : readLists body with
          | error e =>
            exact .inr (.inl ⟨⟨id, name, enabled, hhead, .inr (.inr ⟨e, hlists⟩)⟩, _, rfl, rfl⟩)
          | ok lists =>
            obtain ⟨conditions, actions⟩ := lists
            by_cases hnew : id ∈ s.rules.rules
            · -- The store keeps the rule it has.
              have hadd : (App.rules (RuleEngine.addRule ⟨id, name, enabled, conditions, actions,
                  req.getHeader (lit "x-user-id")⟩)).run s = (.ok (.error .invalidInput), s) := by
                show (Except.ok (s.rules.add _).1, { s with rules := (s.rules.add _).2 }) = _
                rw [RuleRepository.add, if_pos hnew]
              refine .inr (.inr (.inl ⟨?_, ⟨id, name, enabled, _, hhead, hnew, rfl⟩,
                res.error 409 (lit "Conflict") (lit "Rule ID already exists"),
                Stateful.run_bind_of_ok hadd, rfl⟩))
              rintro ⟨id', name', enabled', hhead', hid' | hname' | ⟨e, he⟩⟩
              · exact hpresent.1 ((Except.ok.inj (hid.symm.trans hhead'.id)).trans hid')
              · exact hpresent.2 ((Except.ok.inj (hname.symm.trans hhead'.name)).trans hname')
              · cases hlists.symm.trans he
            · exact .inr (.inr (.inr ⟨⟨id, name, enabled, conditions, actions, _⟩,
                ⟨⟨hid, hname, hlists⟩, hparse, henabled, rfl, hpresent.1, hpresent.2, hnew⟩⟩))

/-- Only an accepted body is answered with 201. -/
theorem accepts_of_status {res answer : HttpResponse} {s' : AppState}
    (hrun : (postRules V req res).run s = (.ok answer, s')) (hstatus : answer.status = 201) :
    ∃ body rule text, Accepts V req s body rule ∧ V.dump (answered s body) = .ok text ∧
      answer.body = text ∧ s' = stored s rule := by
  cases hparse : V.parse req.body with
  | error x =>
    rw [postRules, hparse] at hrun
    cases hrun
    cases hstatus
  | ok body =>
    rcases run_postRules_cases res s hparse with ⟨-, x, hthrows⟩ | ⟨-, refusal, hrefused, h400⟩ |
        ⟨-, -, refusal, hrefused, h409⟩ | ⟨rule, haccepts⟩
    · rw [hthrows] at hrun
      cases hrun
    · rw [hrefused] at hrun
      cases hrun
      rw [h400] at hstatus
      cases hstatus
    · rw [hrefused] at hrun
      cases hrun
      rw [h409] at hstatus
      cases hstatus
    · rw [haccepts.run_postRules, App.run_json] at hrun
      cases hdump : V.dump (answered s body) with
      | error x =>
        rw [hdump] at hrun
        cases hrun
      | ok text =>
        rw [hdump] at hrun
        cases hrun
        exact ⟨body, rule, text, haccepts, hdump, rfl, rfl⟩

/-! ## The answer -/

/-- An answer 201 shows the rule that is now stored under the id of the request, which is also what
the list of rules shows. -/
def ReportsStored (V : Vendor) (req : HttpRequest) (res : HttpResponse) (s : AppState) : Prop :=
  ∀ answer s', (postRules V req res).run s = (.ok answer, s') → answer.status = 201 →
    ∃ body id rule rules, V.parse req.body = .ok body ∧
      body.value Json.getString (lit "id") [] = .ok id ∧
      s'.rules.rules.lookup id = some rule ∧
      RuleEngine.listRules s'.rules = .ok rules ∧ rule ∈ rules ∧
      V.dump (ruleToJson rule) = .ok answer.body

/-- What an accepted body is answered with is right: there is no rule under the empty id, and the
body is in the server's own form, with every field and no other; or there is one that has the same
text as the new rule. -/
def AnswerFits (V : Vendor) (s : AppState) (body : Json) (rule : AutomationRule) : Prop :=
  match s.rules.rules.lookup [] with
  | none => ∃ r, body = ruleToJson r
  | some first => ∀ text, V.dump (ruleToJson first) = .ok text →
    V.dump (ruleToJson rule) = .ok text

/-- The server reads its own form of a condition. -/
theorem ofJson_toJson (c : Condition) : Condition.ofJson c.toJson = .ok c := by
  rw [Condition.ofJson, Condition.toJson, Json.atKey_mkObject rfl, Json.atKey_mkObject rfl,
    Json.atKey_mkObject rfl]
  show Except.ok (Condition.mk c.sensorType (.ofString c.op.toText) c.threshold) = _
  rw [ComparisonOp.ofString_toText]

/-- The server reads its own form of an action. -/
theorem readAction_mkObject (a : Action) :
    readAction (.mkObject [(lit "device_id", .string a.deviceId),
      (lit "command", .string a.command), (lit "parameters", a.parameters)]) = .ok a := by
  rw [readAction, Json.value_mkObject, Json.value_mkObject, Json.value_mkObject]
  rfl

private theorem readLists_ruleToJson (r : AutomationRule) :
    readLists (ruleToJson r) = .ok (r.conditions, r.actions) := by
  have hconditions : (r.conditions.map Condition.toJson).mapM Condition.ofJson =
      .ok (r.conditions.map id) := List.mapM_map_of_forall fun c _ => ofJson_toJson c
  have hactions : (r.actions.map fun a : Action => Json.mkObject
      [(lit "device_id", .string a.deviceId), (lit "command", .string a.command),
        (lit "parameters", a.parameters)]).mapM readAction = .ok (r.actions.map id) :=
    List.mapM_map_of_forall fun a _ => readAction_mkObject a
  rw [List.map_id] at hconditions hactions
  rw [readLists, ruleToJson, Json.atKey_mkObject rfl, Json.atKey_mkObject rfl]
  show (do
    let conditions ← (r.conditions.map Condition.toJson).mapM Condition.ofJson
    let actions ← (r.actions.map fun a : Action => Json.mkObject
      [(lit "device_id", .string a.deviceId), (lit "command", .string a.command),
        (lit "parameters", a.parameters)]).mapM readAction
    return (conditions, actions)) = _
  rw [hconditions, hactions]
  rfl

/-- From the server's own form of a rule the rule is read back, whoever created it. -/
theorem ReadsRule.ruleToJson_eq {r : AutomationRule} (h : ReadsRule (ruleToJson r) rule)
    (henabled : (ruleToJson r).value Json.getBool (lit "enabled") true = .ok rule.enabled) :
    ruleToJson rule = ruleToJson r := by
  obtain ⟨hid, hname, hlists⟩ := h
  rw [readLists_ruleToJson] at hlists
  rw [ruleToJson, Json.value_mkObject] at hid hname henabled
  obtain ⟨hconditions, hactions⟩ := Prod.mk.inj (Except.ok.inj hlists)
  have hid' : r.id = rule.id := Except.ok.inj hid
  have hname' : r.name = rule.name := Except.ok.inj hname
  have henabled' : r.enabled = rule.enabled := Except.ok.inj henabled
  rw [ruleToJson, ruleToJson, hid', hname', henabled', hconditions, hactions]

private theorem answerFits_of_reportsStored (hround : V.RoundTrips) (hparses : V.ParsesTextual)
    (hdumps : V.DumpsUtf8) {res : HttpResponse} (h : ReportsStored V req res s)
    (haccepts : Accepts V req s body rule) : AnswerFits V s body rule := by
  -- Whatever text the answer has, it is that of the new rule.
  have hanswer : ∀ text, V.dump (answered s body) = .ok text →
      V.dump (ruleToJson rule) = .ok text := by
    intro text hdump
    obtain ⟨body', id, rule', -, hparse, hid, hlookup, -, -, hbody⟩ :=
      h (res.json 201 text) (stored s rule)
        (by rw [haccepts.run_postRules, App.run_json, hdump]; rfl) rfl
    obtain rfl : body' = body := Except.ok.inj (hparse.symm.trans haccepts.parse)
    obtain rfl : id = rule.id := Except.ok.inj (hid.symm.trans haccepts.id)
    rw [haccepts.lookup_stored] at hlookup
    rwa [← Option.some.inj hlookup] at hbody
  have htextual := hparses _ _ haccepts.parse
  rw [AnswerFits]
  rw [answered] at hanswer
  cases hfirst : s.rules.rules.lookup [] with
  | none =>
    rw [hfirst] at hanswer
    obtain ⟨text, hdump⟩ := hdumps body htextual.utf8
    -- Two values with one text are the same.
    have hbody := hround _ _ htextual hdump
    rw [hround _ _ (haccepts.textual htextual) (hanswer text hdump)] at hbody
    exact ⟨rule, (Except.ok.inj hbody).symm⟩
  | some first =>
    rw [hfirst] at hanswer
    exact hanswer

/-- The answer shows what is stored exactly for bodies in the server's own form, as long as no rule
is stored under the empty id. -/
theorem reportsStored_iff (hround : V.RoundTrips) (hparses : V.ParsesTextual)
    (hdumps : V.DumpsUtf8) (req : HttpRequest) (res : HttpResponse) (s : AppState) :
    ReportsStored V req res s ↔
      ∀ body rule, Accepts V req s body rule → AnswerFits V s body rule := by
  refine ⟨fun h body rule => answerFits_of_reportsStored hround hparses hdumps h,
    fun hfits answer s' hrun hstatus => ?_⟩
  obtain ⟨body, rule, text, haccepts, hdump, rfl, rfl⟩ := accepts_of_status hrun hstatus
  refine ⟨body, rule.id, rule, _, haccepts.parse, haccepts.id, haccepts.lookup_stored, rfl,
    List.mem_map_of_mem (AList.mem_lookup_iff.mp haccepts.lookup_stored), ?_⟩
  have hfit := hfits body rule haccepts
  rw [AnswerFits] at hfit
  rw [answered] at hdump
  cases hfirst : s.rules.rules.lookup [] with
  | none =>
    rw [hfirst] at hfit hdump
    obtain ⟨r, rfl⟩ := hfit
    rwa [haccepts.ruleToJson_eq haccepts.enabled]
  | some first =>
    rw [hfirst] at hfit hdump
    exact hfit _ hdump

/-- A request with the text of a body. -/
def requestOf (body : Json) : HttpRequest := { body := JsonText.dump RealText.showReal body }

/-- The request carries the body. -/
theorem parse_requestOf (h : body.Textual) :
    Vendor.withReals.parse (requestOf body).body = .ok body :=
  Vendor.roundTrips_withReals body _ h (JsonText.dumpChecked_of_utf8 h.utf8)

/-- An application without rules. -/
def fresh : AppState where
  authService.config := {}

/-- A rule with nothing to do. -/
def idleRule : AutomationRule := { id := lit "r-1", name := lit "Idle" }

private theorem textual_idleRule : (ruleToJson idleRule).Textual :=
  textual_ruleToJson rfl rfl (fun _ hc => absurd hc List.not_mem_nil)
    fun _ ha => absurd ha List.not_mem_nil

private theorem accepts_idleRule :
    Accepts Vendor.withReals (requestOf (ruleToJson idleRule)) fresh (ruleToJson idleRule)
      idleRule where
  id := by rw [ruleToJson, Json.value_mkObject]; rfl
  name := by rw [ruleToJson, Json.value_mkObject]; rfl
  lists := readLists_ruleToJson idleRule
  parse := parse_requestOf textual_idleRule
  enabled := by rw [ruleToJson, Json.value_mkObject]; rfl
  createdBy := rfl
  id_ne := by decide
  name_ne := by decide
  new := AList.notMem_empty _

/-- The rule in the server's own form is accepted, and the answer shows it. -/
theorem reportsStored_iff_idleRule :
    Accepts Vendor.withReals (requestOf (ruleToJson idleRule)) fresh (ruleToJson idleRule)
        idleRule ∧
      ReportsStored Vendor.withReals (requestOf (ruleToJson idleRule)) {} fresh := by
  refine ⟨accepts_idleRule, (reportsStored_iff Vendor.roundTrips_withReals
    Vendor.parsesTextual_withReals Vendor.dumpsUtf8_withReals _ _ _).mpr
    fun body rule haccepts => ?_⟩
  obtain rfl : ruleToJson idleRule = body :=
    Except.ok.inj ((parse_requestOf textual_idleRule).symm.trans haccepts.parse)
  exact ⟨idleRule, rfl⟩

/-- A body that leaves out whether the rule is enabled. -/
def withoutEnabled : Json :=
  .mkObject [(lit "id", .string (lit "r-1")), (lit "name", .string (lit "Idle")),
    (lit "conditions", .array []), (lit "actions", .array [])]

/-- The answer is the body, which has no flag, and not the rule that was stored. -/
theorem not_reportsStored_withoutEnabled :
    ¬ ReportsStored Vendor.withReals (requestOf withoutEnabled) {} fresh := by
  have htextual : withoutEnabled.Textual := by
    refine .mkObject fun f hf => ?_
    simp only [List.mem_cons, List.not_mem_nil, or_false] at hf
    rcases hf with rfl | rfl | rfl | rfl
    · exact ⟨rfl, .string rfl⟩
    · exact ⟨rfl, .string rfl⟩
    · exact ⟨rfl, .array fun _ hx => absurd hx List.not_mem_nil⟩
    · exact ⟨rfl, .array fun _ hx => absurd hx List.not_mem_nil⟩
  have haccepts : Accepts Vendor.withReals (requestOf withoutEnabled) fresh withoutEnabled
      idleRule := by
    refine ⟨⟨?_, ?_, ?_⟩, parse_requestOf htextual, ?_, rfl, by decide, by decide,
      AList.notMem_empty _⟩
    · rw [withoutEnabled, Json.value_mkObject]
      rfl
    · rw [withoutEnabled, Json.value_mkObject]
      rfl
    · rw [readLists, withoutEnabled, Json.atKey_mkObject rfl, Json.atKey_mkObject rfl]
      rfl
    · rw [withoutEnabled, Json.value_mkObject]
      rfl
  intro h
  obtain ⟨r, hr⟩ : ∃ r, withoutEnabled = ruleToJson r :=
    answerFits_of_reportsStored Vendor.roundTrips_withReals Vendor.parsesTextual_withReals
      Vendor.dumpsUtf8_withReals h haccepts
  -- The form of a rule always says whether the rule is enabled.
  have hfield : (ruleToJson r).atKey (lit "enabled") = .ok (.boolean r.enabled) :=
    Json.atKey_mkObject rfl
  rw [← hr] at hfield
  cases hfield

end AutomationController

end IotDashboard
