import IotDashboard.Common.Error
import IotDashboard.Foundation.Json
import Mathlib.Data.List.AList

/-!
# Automation rules

The rule types with their JSON forms, the in-memory `RuleRepository`, and the rule management of
`RuleEngine`, which passes each call on to the repository.
-/

namespace IotDashboard

open StdString

/-- `automation::ComparisonOp`. -/
inductive ComparisonOp where
  | greaterThan
  | lessThan
  | equal
  | notEqual
  | greaterOrEqual
  | lessOrEqual
deriving DecidableEq, Repr

/-- `automation::Condition`. -/
structure Condition where
  sensorType : StdString
  op : ComparisonOp := .greaterThan
  threshold : Double := .zero
deriving DecidableEq

/-- `core::Action`. -/
structure Action where
  deviceId : StdString
  command : StdString
  parameters : Json

/-- `automation::AutomationRule`. -/
structure AutomationRule where
  id : StdString
  name : StdString
  enabled : Bool := true
  conditions : List Condition := []
  actions : List Action := []
  createdBy : StdString := []

/-- `OpFromString`: every unknown text is `Equal`. -/
def ComparisonOp.ofString (s : StdString) : ComparisonOp :=
  if s = lit ">" then .greaterThan
  else if s = lit "<" then .lessThan
  else if s = lit "==" then .equal
  else if s = lit "!=" then .notEqual
  else if s = lit ">=" then .greaterOrEqual
  else if s = lit "<=" then .lessOrEqual
  else .equal

/-- `OpToString`. -/
def ComparisonOp.toText : ComparisonOp → StdString
  | .greaterThan => lit ">"
  | .lessThan => lit "<"
  | .equal => lit "=="
  | .notEqual => lit "!="
  | .greaterOrEqual => lit ">="
  | .lessOrEqual => lit "<="

@[simp]
theorem ComparisonOp.ofString_toText (op : ComparisonOp) : ofString op.toText = op := by
  cases op <;> decide

/-- The texts of the operators. -/
def ComparisonOp.texts : List StdString :=
  [lit ">", lit "<", lit "==", lit "!=", lit ">=", lit "<="]

/-- The text of an operator is read and printed again. -/
theorem ComparisonOp.toText_ofString {s : StdString} (h : s ∈ texts) :
    (ofString s).toText = s := by
  simp only [texts, List.mem_cons, List.not_mem_nil, or_false] at h
  rcases h with rfl | rfl | rfl | rfl | rfl | rfl <;> rfl

/-- Operators are printed with the known texts. -/
theorem ComparisonOp.toText_mem (op : ComparisonOp) : op.toText ∈ texts := by
  cases op <;> decide

/-- `to_json` of a condition. -/
def Condition.toJson (c : Condition) : Json :=
  .mkObject [(lit "sensor_type", .string c.sensorType), (lit "operator", .string c.op.toText),
    (lit "threshold", .real c.threshold)]

/-- `from_json` of a condition. -/
def Condition.ofJson (j : Json) : Except JsonException Condition := do
  let sensorType ← (← j.atKey (lit "sensor_type")).getString
  let op ← (← j.atKey (lit "operator")).getString
  let threshold ← (← j.atKey (lit "threshold")).getDouble
  return ⟨sensorType, .ofString op, threshold⟩

/-- `RuleRepository`: every rule is filed under its id. -/
structure RuleRepository where
  rules : AList (fun _ : StdString => AutomationRule) := ∅

namespace RuleRepository

variable (r : RuleRepository)

/-- `Add`. -/
def add (rule : AutomationRule) : Result Unit × RuleRepository :=
  if rule.id ∈ r.rules then (.error .invalidInput, r)
  else (.ok (), { r with rules := r.rules.insert rule.id rule })

/-- `Update`. -/
def update (rule : AutomationRule) : Result Unit × RuleRepository :=
  if rule.id ∈ r.rules then (.ok (), { r with rules := r.rules.insert rule.id rule })
  else (.error .dataNotFound, r)

/-- `Remove`. -/
def remove (ruleId : StdString) : Result Unit × RuleRepository :=
  if ruleId ∈ r.rules then (.ok (), { r with rules := r.rules.erase ruleId })
  else (.error .dataNotFound, r)

/-- `GetById`. -/
def getById (ruleId : StdString) : Result AutomationRule :=
  match r.rules.lookup ruleId with
  | none => .error .dataNotFound
  | some rule => .ok rule

/-- `GetAll`, in the order of the table. -/
def getAll : Result (List AutomationRule) := .ok (r.rules.entries.map Sigma.snd)

/-- `GetEnabled`, in the order of the table. -/
def getEnabled : Result (List AutomationRule) :=
  .ok ((r.rules.entries.map Sigma.snd).filter (·.enabled))

end RuleRepository

namespace RuleEngine

/-- `AddRule`. -/
def addRule (rule : AutomationRule) (r : RuleRepository) : Result Unit × RuleRepository :=
  r.add rule

/-- `UpdateRule`. -/
def updateRule (rule : AutomationRule) (r : RuleRepository) : Result Unit × RuleRepository :=
  r.update rule

/-- `RemoveRule`. -/
def removeRule (ruleId : StdString) (r : RuleRepository) : Result Unit × RuleRepository :=
  r.remove ruleId

/-- `EnableRule` and `DisableRule`: the rule is read, changed and written back. -/
def setEnabled (enabled : Bool) (ruleId : StdString) (r : RuleRepository) :
    Result Unit × RuleRepository :=
  match r.getById ruleId with
  | .error e => (.error e, r)
  | .ok rule => r.update { rule with enabled := enabled }

/-- `EnableRule`. -/
def enableRule := setEnabled true

/-- `DisableRule`. -/
def disableRule := setEnabled false

/-- `GetRule`. -/
def getRule (ruleId : StdString) (r : RuleRepository) : Result AutomationRule := r.getById ruleId

/-- `ListRules`. -/
def listRules (r : RuleRepository) : Result (List AutomationRule) := r.getAll

end RuleEngine

end IotDashboard
