import IotDashboard.Automation.RuleEngine
import IotDashboard.Foundation.Mealy
import Mathlib.Logic.Function.Basic

/-!
# The rule engine refines a map of rules

The purpose of the store is a partial map from ids to rules. Every operation concerns the entry
of one id, and what it does depends on that entry alone.

## Main results

* `RuleRepository.refines_apply`: an operation of the engine is the operation of the map;
* `RuleRepository.evaluate_of_refines`: a reading fires the actions of the rules that it fires;
* `ruleEngine_refines_ruleMap`: both, over whole histories.
-/

namespace IotDashboard

/-! ## The map -/

/-- A partial map from ids to rules. -/
abbrev RuleMap : Type := StdString → Option AutomationRule

/-- The id an operation is about. -/
def EngineOp.target : EngineOp → StdString
  | addRule rule | updateRule rule => rule.id
  | removeRule ruleId | enableRule ruleId | disableRule ruleId => ruleId

/-- The reply of an operation and the entry it leaves, by the entry it finds. -/
def EngineOp.onEntry : EngineOp → Option AutomationRule → Result Unit × Option AutomationRule
  | addRule _, some old => (.error .invalidInput, some old)
  | addRule rule, none => (.ok (), some rule)
  | updateRule _, none | removeRule _, none | enableRule _, none | disableRule _, none =>
    (.error .dataNotFound, none)
  | updateRule rule, some _ => (.ok (), some rule)
  | removeRule _, some _ => (.ok (), none)
  | enableRule _, some old => (.ok (), some { old with enabled := true })
  | disableRule _, some old => (.ok (), some { old with enabled := false })

/-- An operation replaces the entry of its target and no other. -/
def RuleMap.step (m : RuleMap) (op : EngineOp) : Result Unit × RuleMap :=
  ((op.onEntry (m op.target)).1, Function.update m op.target (op.onEntry (m op.target)).2)

/-- A failed operation leaves the map as it was. -/
theorem RuleMap.step_of_error {m : RuleMap} {op : EngineOp} {e : Error}
    (h : (m.step op).1 = .error e) : (m.step op).2 = m := by
  change (op.onEntry (m op.target)).1 = _ at h
  have hentry : (op.onEntry (m op.target)).2 = m op.target := by
    revert h
    cases op <;> cases m _ <;> simp [EngineOp.onEntry]
  rw [step, hentry, Function.update_eq_self]

section Holds

variable {L : Type*} [LinearOrder L] (num : Double → L)

/-- The meaning of an operator in a linear order. -/
def ComparisonOp.Holds : ComparisonOp → L → L → Prop
  | .greaterThan, v, t => t < v
  | .lessThan, v, t => v < t
  | .equal, v, t => v = t
  | .notEqual, v, t => v ≠ t
  | .greaterOrEqual, v, t => t ≤ v
  | .lessOrEqual, v, t => v ≤ t

/-- A condition holds of a reading of its sensor type whose value compares as it says. -/
def Condition.Holds (c : Condition) (reading : SensorReading) : Prop :=
  reading.sensor = c.sensorType ∧ c.op.Holds (num reading.value) (num c.threshold)

/-- A reading fires an enabled rule that has conditions, all of which hold. -/
def AutomationRule.Fires (rule : AutomationRule) (reading : SensorReading) : Prop :=
  rule.enabled ∧ rule.conditions ≠ [] ∧ ∀ c ∈ rule.conditions, c.Holds num reading

/-- No threshold of the rule is a NaN. -/
def AutomationRule.Comparable (rule : AutomationRule) : Prop :=
  ∀ c ∈ rule.conditions, ¬ c.threshold.isNaN

end Holds

/-! ## Refinement -/

namespace RuleRepository

variable {r : RuleRepository} {m : RuleMap}

/-- The store holds the map, every rule under its own id. -/
structure Refines (r : RuleRepository) (m : RuleMap) : Prop where
  lookup : ∀ ruleId, r.rules.lookup ruleId = m ruleId
  filed : ∀ ruleId rule, m ruleId = some rule → rule.id = ruleId

/-- The empty repository stands for the empty map. -/
theorem refines_empty : Refines {} fun _ => none where
  lookup _ := AList.lookup_empty _
  filed _ _ h := by cases h

/-- The repository has the keys of its map. -/
theorem Refines.mem_iff (h : r.Refines m) (ruleId : StdString) :
    ruleId ∈ r.rules ↔ (m ruleId).isSome := by
  rw [← h.lookup, AList.lookup_isSome]

/-- `GetById` answers what the map has. -/
theorem Refines.getById (h : r.Refines m) (ruleId : StdString) :
    r.getById ruleId = (m ruleId).elim (.error .dataNotFound) .ok := by
  rw [RuleRepository.getById, h.lookup]
  cases m ruleId <;> rfl

/-- Writing an entry of the table writes it in the map. -/
theorem Refines.insert (h : r.Refines m) (rule : AutomationRule) :
    Refines { r with rules := r.rules.insert rule.id rule }
      (Function.update m rule.id (some rule)) where
  lookup ruleId := by
    by_cases heq : ruleId = rule.id
    · subst heq
      rw [Function.update_self, AList.lookup_insert]
    · rw [Function.update_of_ne heq, AList.lookup_insert_ne heq, h.lookup]
  filed ruleId rule' hrule := by
    by_cases heq : ruleId = rule.id
    · subst heq
      rw [Function.update_self] at hrule
      rw [Option.some.inj hrule]
    · rw [Function.update_of_ne heq] at hrule
      exact h.filed _ _ hrule

/-- Removing a rule removes it from the map. -/
theorem Refines.erase (h : r.Refines m) (ruleId : StdString) :
    Refines { r with rules := r.rules.erase ruleId } (Function.update m ruleId none) where
  lookup ruleId' := by
    by_cases heq : ruleId' = ruleId
    · subst heq
      rw [Function.update_self, AList.lookup_erase]
    · rw [Function.update_of_ne heq, AList.lookup_erase_ne heq, h.lookup]
  filed ruleId' rule hrule := by
    by_cases heq : ruleId' = ruleId
    · rw [heq, Function.update_self] at hrule
      cases hrule
    · rw [Function.update_of_ne heq] at hrule
      exact h.filed _ _ hrule

/-- `Update` by the entry under the id of the rule. -/
theorem Refines.update (h : r.Refines m) (rule : AutomationRule) :
    (r.update rule).1 = (if (m rule.id).isSome then .ok () else .error .dataNotFound) ∧
      (r.update rule).2.Refines
        (if (m rule.id).isSome then Function.update m rule.id (some rule) else m) := by
  simp only [RuleRepository.update, h.mem_iff]
  cases hentry : (m rule.id).isSome with
  | false => exact ⟨rfl, h⟩
  | true => exact ⟨rfl, h.insert rule⟩

/-- Switching a rule on or off rewrites its entry with the flag changed. -/
theorem Refines.setEnabled (h : r.Refines m) (enabled : Bool) (ruleId : StdString) :
    (RuleEngine.setEnabled enabled ruleId r).1 =
        (m ruleId).elim (.error .dataNotFound) (fun _ => .ok ()) ∧
      (RuleEngine.setEnabled enabled ruleId r).2.Refines
        (Function.update m ruleId
          ((m ruleId).map fun old => { old with enabled := enabled })) := by
  have hget := h.getById ruleId
  cases hentry : m ruleId with
  | none =>
    rw [hentry] at hget
    rw [RuleEngine.setEnabled, hget]
    refine ⟨rfl, ?_⟩
    show Refines r (Function.update m ruleId none)
    rwa [← hentry, Function.update_eq_self]
  | some old =>
    rw [hentry] at hget
    rw [RuleEngine.setEnabled, hget]
    -- `Update` writes under the id of the rule, which is the one it was filed under.
    have hid : old.id = ruleId := h.filed _ _ hentry
    subst hid
    have hupdate := h.update { old with enabled := enabled }
    simp only [hentry, Option.isSome_some, if_true] at hupdate
    exact hupdate

/-- Every operation of the engine is the operation of the map. -/
theorem refines_apply (h : r.Refines m) (op : EngineOp) :
    (op.apply r).1 = (m.step op).1 ∧ (op.apply r).2.Refines (m.step op).2 := by
  -- In the map, an operation that fails puts back the entry that it has found.
  cases op with
  | addRule rule =>
    have hmem := h.mem_iff rule.id
    simp only [EngineOp.apply, RuleEngine.addRule, add, RuleMap.step, EngineOp.target, hmem]
    cases hentry : m rule.id with
    | none => exact ⟨rfl, h.insert rule⟩
    | some old =>
      refine ⟨rfl, ?_⟩
      show Refines r (Function.update m rule.id (some old))
      rwa [← hentry, Function.update_eq_self]
  | updateRule rule =>
    have hupdate := h.update rule
    simp only [EngineOp.apply, RuleEngine.updateRule, RuleMap.step, EngineOp.target]
    cases hentry : m rule.id with
    | none =>
      simp only [hentry] at hupdate
      refine ⟨hupdate.1, ?_⟩
      show Refines _ (Function.update m rule.id none)
      rw [← hentry, Function.update_eq_self]
      exact hupdate.2
    | some old =>
      simp only [hentry] at hupdate
      exact hupdate
  | removeRule ruleId =>
    have hmem := h.mem_iff ruleId
    simp only [EngineOp.apply, RuleEngine.removeRule, remove, RuleMap.step, EngineOp.target, hmem]
    cases hentry : m ruleId with
    | none =>
      refine ⟨rfl, ?_⟩
      show Refines r (Function.update m ruleId none)
      rwa [← hentry, Function.update_eq_self]
    | some old => exact ⟨rfl, h.erase ruleId⟩
  | enableRule ruleId =>
    have hset := h.setEnabled true ruleId
    simp only [EngineOp.apply, RuleEngine.enableRule, RuleMap.step, EngineOp.target]
    cases hentry : m ruleId <;> rw [hentry] at hset <;> exact hset
  | disableRule ruleId =>
    have hset := h.setEnabled false ruleId
    simp only [EngineOp.apply, RuleEngine.disableRule, RuleMap.step, EngineOp.target]
    cases hentry : m ruleId <;> rw [hentry] at hset <;> exact hset

end RuleRepository

/-! ## Evaluation -/

section Evaluation

variable {L : Type*} [LinearOrder L] {num : Double → L}

/-- The switch over the operators compares as the linear order does. -/
theorem ConditionEvaluator.evaluate_iff (hnum : Double.Represents num) {c : Condition}
    {reading : SensorReading} (hv : ¬ reading.value.isNaN) (ht : ¬ c.threshold.isNaN) :
    evaluate c reading ↔ c.Holds num reading := by
  rw [evaluate, Condition.Holds]
  by_cases hsensor : reading.sensor = c.sensorType
  · rw [if_neg (not_not_intro hsensor)]
    simp only [hsensor, true_and]
    cases c.op with
    | greaterThan => exact hnum _ _ ht hv
    | lessThan => exact hnum _ _ hv ht
    | equal => exact hnum.eq_iff hv ht
    | notEqual => simpa [ComparisonOp.Holds] using not_congr (hnum.eq_iff hv ht)
    | greaterOrEqual => exact hnum.le_iff ht hv
    | lessOrEqual => exact hnum.le_iff hv ht
  · rw [if_pos hsensor]
    simp [hsensor]

/-- `EvaluateAll` decides whether a rule fires, its flag apart. -/
theorem AutomationRule.fires_iff (hnum : Double.Represents num) {rule : AutomationRule}
    {reading : SensorReading} (hv : ¬ reading.value.isNaN) (ht : rule.Comparable) :
    rule.Fires num reading ↔
      rule.enabled ∧ ConditionEvaluator.evaluateAll rule.conditions reading := by
  rw [Fires, ConditionEvaluator.evaluateAll]
  have hall : (∀ c ∈ rule.conditions, c.Holds num reading) ↔
      ∀ c ∈ rule.conditions, ConditionEvaluator.evaluate c reading :=
    forall₂_congr fun c hc => (ConditionEvaluator.evaluate_iff hnum hv (ht c hc)).symm
  rw [hall]
  cases rule.conditions with
  | nil => simp
  | cons c cs => simp

/-- The loop of `Evaluate` appends the actions of the rules that `EvaluateAll` lets through. -/
theorem RuleEngine.collect_eq (reading : SensorReading) (rules : List AutomationRule)
    (fired : List Action) :
    collect reading rules fired =
      fired ++ (rules.filter fun rule =>
        ConditionEvaluator.evaluateAll rule.conditions reading).flatMap (·.actions) := by
  induction rules generalizing fired with
  | nil => simp [collect]
  | cons rule rules ih =>
    rw [collect]
    split
    · next h => simp [ih, h]
    · next h => simp [ih, h]

namespace RuleRepository

variable {r : RuleRepository} {m : RuleMap}

/-- The rules of the table are the values of the map. -/
theorem Refines.mem_entries_iff (h : r.Refines m) (rule : AutomationRule) :
    rule ∈ r.rules.entries.map Sigma.snd ↔ m rule.id = some rule := by
  rw [← h.lookup, AList.lookup, List.mem_map]
  constructor
  · rintro ⟨⟨ruleId, rule'⟩, hmem, rfl⟩
    have hlookup := List.mem_dlookup r.rules.nodupKeys hmem
    have hid : rule'.id = ruleId := h.filed _ _ ((h.lookup ruleId).symm.trans hlookup)
    rw [hid]
    exact hlookup
  · intro hlookup
    exact ⟨⟨rule.id, rule⟩, List.of_mem_dlookup hlookup, rfl⟩

/-- No two rules of the table have the same id. -/
theorem Refines.nodup_ids (h : r.Refines m) :
    ((r.rules.entries.map Sigma.snd).map (·.id)).Nodup := by
  have hkeys : (r.rules.entries.map Sigma.snd).map (·.id) = r.rules.keys := by
    rw [AList.keys, List.keys, List.map_map]
    refine List.map_congr_left ?_
    rintro ⟨ruleId, rule⟩ hmem
    exact h.filed _ _ ((h.lookup ruleId).symm.trans (List.mem_dlookup r.rules.nodupKeys hmem))
  rw [hkeys]
  exact r.rules.keys_nodup

/-- A reading fires the actions of exactly the rules that it fires, rule by rule. -/
theorem evaluate_of_refines (hnum : Double.Represents num) (h : r.Refines m)
    {reading : SensorReading} (hv : ¬ reading.value.isNaN)
    (ht : ∀ ruleId rule, m ruleId = some rule → rule.Comparable) :
    ∃ rules : List AutomationRule, (rules.map (·.id)).Nodup ∧
      (∀ rule, rule ∈ rules ↔ m rule.id = some rule ∧ rule.Fires num reading) ∧
      RuleEngine.evaluate reading r = .ok (rules.flatMap (·.actions)) := by
  -- `GetEnabled` filters by the flag, and the loop by the conditions.
  let enabled := (r.rules.entries.map Sigma.snd).filter (·.enabled)
  let fires := fun rule : AutomationRule =>
    ConditionEvaluator.evaluateAll rule.conditions reading
  refine ⟨enabled.filter fires, ?_, fun rule => ?_, ?_⟩
  · have hsub := (List.filter_sublist (p := fires) (l := enabled)).trans List.filter_sublist
    exact h.nodup_ids.sublist (hsub.map _)
  · simp only [enabled, fires, List.mem_filter, h.mem_entries_iff, and_assoc]
    exact and_congr_right fun hstored =>
      (AutomationRule.fires_iff hnum hv (ht _ _ hstored)).symm
  · rw [RuleEngine.evaluate, getEnabled]
    simp only [RuleEngine.collect_eq, List.nil_append]
    rfl

end RuleRepository

end Evaluation

/-! ## Whole histories -/

section Histories

variable {L : Type*} [LinearOrder L] {num : Double → L}

/-- From the empty engine, every history of operations is a history of the map of rules, with the
same replies: the store answers for each id as the map does, files every rule under its own id,
and a reading fires the full action lists of exactly the rules that are enabled, have a condition,
and whose conditions all hold. -/
theorem ruleEngine_refines_ruleMap (hnum : Double.Represents num)
    {tr : List (EngineOp × Result Unit)} {r : RuleRepository}
    (hrun : Mealy.Run EngineOp.apply Mealy.anyInput {} tr r) :
    ∃ m : RuleMap, Mealy.Run RuleMap.step Mealy.anyInput (fun _ => none) tr m ∧
      (∀ ruleId, RuleEngine.getRule ruleId r =
        (m ruleId).elim (.error .dataNotFound) .ok) ∧
      (∀ ruleId rule, m ruleId = some rule → rule.id = ruleId) ∧
      ∀ reading : SensorReading, ¬ reading.value.isNaN →
        (∀ ruleId rule, m ruleId = some rule → rule.Comparable) →
        ∃ rules : List AutomationRule, (rules.map (·.id)).Nodup ∧
          (∀ rule, rule ∈ rules ↔ m rule.id = some rule ∧ rule.Fires num reading) ∧
          RuleEngine.evaluate reading r = .ok (rules.flatMap (·.actions)) := by
  obtain ⟨m, hrun', href⟩ := hrun.simulate (R := RuleRepository.Refines)
    RuleRepository.refines_empty fun _ _ op h => RuleRepository.refines_apply h op
  exact ⟨m, hrun', href.getById, href.filed,
    fun reading hv ht => RuleRepository.evaluate_of_refines hnum href hv ht⟩

end Histories

/-- A rule that fires above thirty. -/
def hotRule : AutomationRule where
  id := StdString.lit "hot"
  name := StdString.lit "hot"
  conditions := [⟨StdString.lit "temperature", .greaterThan, .ofInt 30⟩]

/-- A history with an operation that fails. -/
theorem ruleEngine_refines_ruleMap_addTwice :
    ∃ m : RuleMap, Mealy.Run RuleMap.step Mealy.anyInput (fun _ => none)
        [(.addRule hotRule, .ok ()), (.addRule hotRule, .error .invalidInput)] m ∧
      ∀ ruleId rule, m ruleId = some rule → rule.id = ruleId := by
  have hrun : Mealy.Run EngineOp.apply Mealy.anyInput {}
      [(.addRule hotRule, .ok ()), (.addRule hotRule, .error .invalidInput)] _ :=
    (Mealy.Run.nil.snoc _ trivial).snoc _ trivial
  obtain ⟨m, hrun', -, hfiled, -⟩ := ruleEngine_refines_ruleMap Double.represents_rank hrun
  exact ⟨m, hrun', hfiled⟩

end IotDashboard
