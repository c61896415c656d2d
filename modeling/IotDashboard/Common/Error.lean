import IotDashboard.Foundation.Json

/-!
# Error codes, results and exceptions

The two ways in which code of the server fails: by returning an `Error` in a `Result`, or by
throwing. `CxxException` lists the exceptions that code of this repository lets escape from a
function.
-/

namespace IotDashboard

/-- `iot::Error`. -/
inductive Error where
  | success
  | invalidInput
  | invalidConfig
  | fileNotFound
  | internalError
  | deviceNotFound
  | deviceOffline
  | connectionFailed
  | deviceTimeout
  | databaseError
  | dataNotFound
  | dataCorrupted
  | protocolError
  | mqttError
  | modbusError
  | opcuaError
  | authenticationFailed
  | authorizationFailed
  | tokenExpired
  | networkError
  | timeout
  | connectionClosed
deriving DecidableEq, Repr

/-- `iot::Result<T>`. -/
abbrev Result (α : Type) : Type := Except Error α

/-- An exception: one of the JSON library, or a `std::runtime_error`. -/
inductive CxxException where
  | json (e : JsonException)
  | runtimeError
deriving DecidableEq

/-- A JSON operation inside a function that lets its exception escape. -/
def liftJson {α : Type} (r : Except JsonException α) : Except CxxException α :=
  r.mapError .json

@[simp]
theorem liftJson_ok {α : Type} (a : α) : liftJson (.ok a) = .ok a := rfl

@[simp]
theorem liftJson_error {α : Type} (e : JsonException) :
    (liftJson (.error e) : Except CxxException α) = .error (.json e) := rfl

/-- Only the exceptions are wrapped. -/
theorem liftJson_eq_ok_iff {α : Type} {r : Except JsonException α} {a : α} :
    liftJson r = .ok a ↔ r = .ok a := by
  cases r with
  | error e => exact iff_of_false (fun h => by cases h) fun h => by cases h
  | ok b => exact ⟨fun h => by cases h; rfl, fun h => by cases h; rfl⟩

end IotDashboard
