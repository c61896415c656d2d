import IotDashboard.Foundation.StdString

/-!
# Roles and permissions

The role-based access table of `AccessControl`, and the texts under which roles travel in tokens
and headers.
-/

namespace IotDashboard

open StdString

/-- `core::Role`. -/
inductive Role where
  | admin
  | operator
  | viewer
deriving DecidableEq, Repr

/-- `security::Permission`. -/
inductive Permission where
  | read
  | write
  | delete
  | admin
deriving DecidableEq, Repr

/-- `core::UserClaims`. -/
structure UserClaims where
  userId : StdString
  username : StdString
  role : Role
deriving DecidableEq

namespace AccessControl

/-- `CanAccess`. -/
def canAccess (role : Role) (resource : StdString) (permission : Permission) : Bool :=
  match role with
  | .admin => true
  | .operator =>
    if resource = lit "users" then false
    else permission == .read || permission == .write
  | .viewer =>
    if resource = lit "devices" ∨ resource = lit "sensors" ∨ resource = lit "metrics" then
      permission == .read
    else false

/-- `RoleToString`. -/
def roleToString : Role → StdString
  | .admin => lit "Admin"
  | .operator => lit "Operator"
  | .viewer => lit "Viewer"

/-- `RoleFromString`: every unknown text is a viewer. -/
def roleFromString (s : StdString) : Role :=
  if s = lit "Admin" then .admin
  else if s = lit "Operator" then .operator
  else .viewer

@[simp]
theorem roleFromString_roleToString (role : Role) :
    roleFromString (roleToString role) = role := by
  cases role <;> decide

end AccessControl

end IotDashboard
