import IotDashboard.Automation.Rules
import IotDashboard.Common.Types
import IotDashboard.Foundation.Interleaving

/-!
# The rule engine

Evaluation of the rules against a sensor reading, and the five operations that change the store.
Each of these is given twice: as a function on the store, and as the calls of `RuleRepository` it
makes. A call holds the mutex of the repository, an operation of the engine does not, so the calls
are the steps of an interleaving.

## Main definitions

* `ConditionEvaluator.evaluate`, `RuleEngine.evaluate`: which actions a reading fires;
* `EngineOp`: a changing operation, with `EngineOp.apply` and `EngineOp.calls`;
* `EngineOp.run_calls`: the calls made alone do what the operation does.
-/

namespace IotDashboard

open Program

namespace ConditionEvaluator

/-- `Evaluate`: false unless the sensor types agree. -/
def evaluate (condition : Condition) (reading : SensorReading) : Bool :=
  if reading.sensor ≠ condition.sensorType then false
  else
    let v := reading.value
    let t := condition.threshold
    match condition.op with
    | .greaterThan => t.lt v
    | .lessThan => v.lt t
    | .equal => v.eq t
    | .notEqual => !v.eq t
    | .greaterOrEqual => t.le v
    | .lessOrEqual => v.le t

/-- `EvaluateAll`: a rule with no conditions never fires. -/
def evaluateAll (conditions : List Condition) (reading : SensorReading) : Bool :=
  if conditions.isEmpty then false else conditions.all (evaluate · reading)

end ConditionEvaluator

/-- The loop of `RuleEngine::Evaluate` over the enabled rules. -/
def RuleEngine.collect (reading : SensorReading) :
    List AutomationRule → List Action → List Action
  | [], fired => fired
  | rule :: rules, fired =>
    if ConditionEvaluator.evaluateAll rule.conditions reading then
      collect reading rules (fired ++ rule.actions)
    else collect reading rules fired

/-- `RuleEngine::Evaluate`. -/
def RuleEngine.evaluate (reading : SensorReading) (r : RuleRepository) : Result (List Action) :=
  match r.getEnabled with
  | .error e => .error e
  | .ok rules => .ok (collect reading rules [])

/-! ## The operations that change the store -/

/-- A changing operation of `RuleEngine` with its argument. -/
inductive EngineOp where
  | addRule (rule : AutomationRule)
  | updateRule (rule : AutomationRule)
  | removeRule (ruleId : StdString)
  | enableRule (ruleId : StdString)
  | disableRule (ruleId : StdString)

/-- The operation as a whole. -/
def EngineOp.apply (r : RuleRepository) : EngineOp → Result Unit × RuleRepository
  | addRule rule => RuleEngine.addRule rule r
  | updateRule rule => RuleEngine.updateRule rule r
  | removeRule ruleId => RuleEngine.removeRule ruleId r
  | enableRule ruleId => RuleEngine.enableRule ruleId r
  | disableRule ruleId => RuleEngine.disableRule ruleId r

/-- The calls of `RuleRepository` that the engine makes to change the store. -/
inductive RuleCall where
  | add (rule : AutomationRule)
  | update (rule : AutomationRule)
  | remove (ruleId : StdString)
  | getById (ruleId : StdString)

/-- What each call returns. -/
abbrev RuleCall.Reply : RuleCall → Type
  | .add _ | .update _ | .remove _ => Result Unit
  | .getById _ => Result AutomationRule

/-- Code that changes the store by calls of the repository. -/
abbrev RuleProgram (α : Type) : Type := Program Empty RuleCall.Reply α

/-- What a call does to the store. -/
def RuleRepository.handle : Handler Empty RuleCall.Reply RuleRepository
  | .add rule => fun r => (.ok (r.add rule).1, (r.add rule).2)
  | .update rule => fun r => (.ok (r.update rule).1, (r.update rule).2)
  | .remove ruleId => fun r => (.ok (r.remove ruleId).1, (r.remove ruleId).2)
  | .getById ruleId => fun r => (.ok (r.getById ruleId), r)

/-- The calls of `EnableRule` and `DisableRule`. -/
def RuleEngine.setEnabledCalls (enabled : Bool) (ruleId : StdString) :
    RuleProgram (Result Unit) :=
  .call (.getById ruleId) fun
    | .error e => .ret (.error e)
    | .ok rule => .call (.update { rule with enabled := enabled }) .ret

/-- The operation as the calls it makes. -/
def EngineOp.calls : EngineOp → RuleProgram (Result Unit)
  | addRule rule => .call (.add rule) .ret
  | updateRule rule => .call (.update rule) .ret
  | removeRule ruleId => .call (.remove ruleId) .ret
  | enableRule ruleId => RuleEngine.setEnabledCalls true ruleId
  | disableRule ruleId => RuleEngine.setEnabledCalls false ruleId

private theorem RuleEngine.run_setEnabledCalls (enabled : Bool) (ruleId : StdString)
    (r : RuleRepository) :
    ((setEnabledCalls enabled ruleId).run RuleRepository.handle).run r =
      (.ok (setEnabled enabled ruleId r).1, (setEnabled enabled ruleId r).2) := by
  have hget : (RuleRepository.handle (.getById ruleId)).run r = (.ok (r.getById ruleId), r) := rfl
  rw [setEnabledCalls, setEnabled, Program.run, Stateful.run_bind_of_ok hget]
  cases r.getById ruleId <;> rfl

/-- Made without interruption, the calls of an operation are the operation. -/
theorem EngineOp.run_calls (op : EngineOp) (r : RuleRepository) :
    (op.calls.run RuleRepository.handle).run r = (.ok (op.apply r).1, (op.apply r).2) := by
  cases op with
  | addRule rule => rfl
  | updateRule rule => rfl
  | removeRule ruleId => rfl
  | enableRule ruleId => exact RuleEngine.run_setEnabledCalls true ruleId r
  | disableRule ruleId => exact RuleEngine.run_setEnabledCalls false ruleId r

end IotDashboard
