import IotDashboard.Foundation.StdString
import Mathlib.Data.List.AList

/-!
# HTTP requests and responses

The value types of the HTTP layer. Header names are kept in lower case, so `GetHeader` lowers the
name it is given before it looks it up.
-/

namespace IotDashboard

open StdString

/-- `http::HttpMethod`. -/
inductive HttpMethod where
  | get
  | post
  | put
  | delete
  | patch
  | options
  | head
  | unknown
deriving DecidableEq, Repr

/-- `http::Headers`. -/
abbrev Headers := AList (fun _ : StdString => StdString)

/-- `http::HttpRequest`. -/
structure HttpRequest where
  method : HttpMethod := .unknown
  target : StdString := []
  path : StdString := []
  query : StdString := []
  headers : Headers := ∅
  body : StdString := []
  httpVersion : UInt32 := 11

/-- `http::HttpResponse`. -/
structure HttpResponse where
  status : UInt16 := 200
  headers : Headers := ∅
  body : StdString := []

namespace HttpRequest

variable (req : HttpRequest)

/-- `GetHeader`. -/
def getHeader (key : StdString) : StdString := (req.headers.lookup (toLower key)).getD []

/-- One parameter of a query string: its value, if it has the given name. -/
def paramValue (name token : StdString) : Option StdString :=
  match token.find (byte '=') 0 with
  -- A parameter without a value is skipped.
  | none => none
  | some eq => if token.substr 0 eq = name then some (token.substrFrom (eq + 1)) else none

/-- `GetQueryParam`: the first parameter of that name. -/
def getQueryParam (name : StdString) : StdString :=
  ((req.query.splitOn (byte '&')).findSome? (paramValue name)).getD []

/-- `req.m_headers[key] = value`. -/
def setHeader (key value : StdString) : HttpRequest :=
  { req with headers := req.headers.insert key value }

variable {req}

/-- Setting another header keeps a header. -/
theorem getHeader_setHeader_of_ne {key name value : StdString} (h : toLower name ≠ key) :
    (req.setHeader key value).getHeader name = req.getHeader name := by
  rw [getHeader, getHeader, setHeader, AList.lookup_insert_ne h]

end HttpRequest

namespace HttpResponse

variable (res : HttpResponse)

/-- `res.m_headers[key] = value`. -/
def setHeader (key value : StdString) : HttpResponse :=
  { res with headers := res.headers.insert key value }

/-- `Json`. -/
def json (status : UInt16) (body : StdString) : HttpResponse :=
  { res.setHeader (lit "content-type") (lit "application/json") with status, body }

/-- `NoContent`. -/
def noContent : HttpResponse := { res with status := 204, body := [] }

/-- `Error`. -/
def error (status : UInt16) (code message : StdString) : HttpResponse :=
  res.json status (lit "\x7b\"error\":\"" ++ code ++ lit "\",\"message\":\"" ++ message ++
    lit "\"\x7d")

@[simp]
theorem json_status (status : UInt16) (body : StdString) :
    (res.json status body).status = status := rfl

@[simp]
theorem error_status (status : UInt16) (code message : StdString) :
    (res.error status code message).status = status := rfl

end HttpResponse

end IotDashboard
