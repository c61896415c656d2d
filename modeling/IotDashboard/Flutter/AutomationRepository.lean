import IotDashboard.Foundation.Containers
import IotDashboard.Foundation.Json

/-!
# Automation rules in the app

The rules as the Flutter app has them, and the two conversions of `AutomationRepositoryImpl`. A
`Map<String, dynamic>` is taken up to the order of its entries, like a JSON object of the server;
a cast that fails throws.

## Main results

* `Flutter.AutomationRule.fromJson_fields`: the app reads its own form of a rule back.
-/

namespace IotDashboard

open StdString

namespace Flutter

/-- `Condition`. -/
structure Condition where
  sensorType : StdString
  operator : StdString
  threshold : Double
deriving DecidableEq

/-- A `Map<String, dynamic>`. -/
abbrev DartMap := List (StdString × Json)

/-- `RuleAction`. -/
structure RuleAction where
  deviceId : StdString
  command : StdString
  parameters : DartMap := []

/-- `AutomationRule`. -/
structure AutomationRule where
  id : StdString
  name : StdString
  enabled : Bool
  conditions : List Condition
  actions : List RuleAction

/-! ## Values of unknown type -/

/-- `j[key]`, which is `null` for a key that is not there. -/
def DartMap.get (j : DartMap) (key : String) : Json := (Json.lookup (lit key) j).getD .null

/-- `v as String`. -/
def asString : Json → Option StdString
  | .string s => some s
  | _ => none

/-- `v as bool`. -/
def asBool : Json → Option Bool
  | .boolean b => some b
  | _ => none

/-- `(v as num).toDouble()`. -/
def asDouble : Json → Option Double
  | .number n => some (Double.ofInt n)
  | .real d => some d
  | _ => none

/-- `v as List`. -/
def asList : Json → Option (List Json)
  | .array xs => some xs
  | _ => none

/-- `v as Map<String, dynamic>`. -/
def asMap : Json → Option DartMap
  | .object fields => some fields
  | _ => none

/-- A cast to a nullable type. -/
def orNull {α : Type} (cast : Json → Option α) : Json → Option (Option α)
  | .null => some none
  | v => (cast v).map some

/-! ## The conversions -/

/-- One entry of the conditions in `_fromJson`. -/
def Condition.fromJson (v : Json) : Option Condition := do
  let c ← asMap v
  let sensorType ← asString (c.get "sensor_type")
  let operator ← asString (c.get "operator")
  let threshold ← asDouble (c.get "threshold")
  return { sensorType, operator, threshold }

/-- One entry of the actions in `_fromJson`. -/
def RuleAction.fromJson (v : Json) : Option RuleAction := do
  let a ← asMap v
  let deviceId ← asString (a.get "device_id")
  let command ← asString (a.get "command")
  let parameters := (← orNull asMap (a.get "parameters")).getD []
  return { deviceId, command, parameters }

/-- `_fromJson`. -/
def AutomationRule.fromJson (j : DartMap) : Option AutomationRule := do
  let id ← asString (j.get "id")
  let name ← asString (j.get "name")
  let enabled := (← orNull asBool (j.get "enabled")).getD true
  let conditions ← ((← orNull asList (j.get "conditions")).getD []).mapM Condition.fromJson
  let actions ← ((← orNull asList (j.get "actions")).getD []).mapM RuleAction.fromJson
  return { id, name, enabled, conditions, actions }

/-- One entry of the conditions in `_toJson`. -/
def Condition.toJson (c : Condition) : Json :=
  .mkObject [(lit "sensor_type", .string c.sensorType), (lit "operator", .string c.operator),
    (lit "threshold", .real c.threshold)]

/-- One entry of the actions in `_toJson`. -/
def RuleAction.toJson (a : RuleAction) : Json :=
  .mkObject [(lit "device_id", .string a.deviceId), (lit "command", .string a.command),
    (lit "parameters", .object a.parameters)]

/-- `_toJson`. -/
def AutomationRule.toJson (r : AutomationRule) : Json :=
  .mkObject [(lit "id", .string r.id), (lit "name", .string r.name),
    (lit "enabled", .boolean r.enabled),
    (lit "conditions", .array (r.conditions.map Condition.toJson)),
    (lit "actions", .array (r.actions.map RuleAction.toJson))]

/-- A field of an object is found in the map that Dart makes of it. -/
theorem get_fieldsOf {fields : List (StdString × Json)} {key : String} {v : Json}
    (h : Json.lookup (lit key) fields = some v) :
    DartMap.get (Json.fieldsOf fields) key = v := by
  rw [DartMap.get, Json.lookup_fieldsOf, h]
  rfl

theorem asMap_mkObject (fields : List (StdString × Json)) :
    asMap (.mkObject fields) = some (Json.fieldsOf fields) := rfl

/-! ## The app's own round trip -/

private theorem Condition.fromJson_toJson (c : Condition) : fromJson c.toJson = some c := by
  rw [fromJson, toJson, asMap_mkObject, Option.bind_eq_bind, Option.bind_some,
    get_fieldsOf rfl, get_fieldsOf rfl, get_fieldsOf rfl]
  rfl

private theorem RuleAction.fromJson_toJson (a : RuleAction) : fromJson a.toJson = some a := by
  rw [fromJson, toJson, asMap_mkObject, Option.bind_eq_bind, Option.bind_some,
    get_fieldsOf rfl, get_fieldsOf rfl, get_fieldsOf rfl]
  rfl

/-- The fields of the app's form of a rule. -/
def AutomationRule.fields (r : AutomationRule) : DartMap :=
  Json.fieldsOf [(lit "id", .string r.id), (lit "name", .string r.name),
    (lit "enabled", .boolean r.enabled),
    (lit "conditions", .array (r.conditions.map Condition.toJson)),
    (lit "actions", .array (r.actions.map RuleAction.toJson))]

/-- The app reads its own form of a rule back. -/
theorem AutomationRule.fromJson_fields (r : AutomationRule) : fromJson r.fields = some r := by
  have hconditions : (r.conditions.map Condition.toJson).mapM Condition.fromJson =
      some r.conditions :=
    (List.mapM_map_of_forall (g := fun c => c) fun c _ => c.fromJson_toJson).trans
      (congrArg some (List.map_id' _))
  have hactions : (r.actions.map RuleAction.toJson).mapM RuleAction.fromJson = some r.actions :=
    (List.mapM_map_of_forall (g := fun a => a) fun a _ => a.fromJson_toJson).trans
      (congrArg some (List.map_id' _))
  rw [fromJson, fields, get_fieldsOf rfl, get_fieldsOf rfl, get_fieldsOf rfl, get_fieldsOf rfl,
    get_fieldsOf rfl]
  simp only [asString, asBool, asList, orNull, Option.map_some, Option.getD_some,
    Option.bind_eq_bind, Option.bind_some, hconditions, hactions]
  rfl

end Flutter

end IotDashboard
