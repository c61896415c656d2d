import IotDashboard.Api.QueryParams
import IotDashboard.Flutter.Dashboard
import IotDashboard.Flutter.WebSocketClient

/-!
# The device repository of the app

`DeviceRepositoryImpl` turns the operations on devices into requests, and the answers into results.
A status that is no success becomes a failure with this status; the message of a failure is not
modelled. A cast that fails, or a body that is no JSON, is an exception.

## Main definitions

* `Flutter.dioRequest`: a request as the HTTP library of the app sends it;
* `Flutter.DeviceCall`: the operations, with the request and the result of each.

## Main results

* `Flutter.getQueryParam_dioRequest`: what the server reads of a parameter;
* `Flutter.Device.fromJson_deviceToJson`: the app reads the devices that the server sends.
-/

namespace IotDashboard

open StdString PercentEncoding

namespace Flutter

/-! ## Requests -/

/-- The text of one query parameter. -/
def queryText (param : StdString × StdString) : StdString :=
  encodeQueryComponent param.1 ++ byte '=' :: encodeQueryComponent param.2

/-- A request of the client that `createDio` makes with an access token. -/
def dioRequest (accessToken : StdString) (method : Verb) (path : StdString)
    (queryParameters : List (StdString × StdString)) (body : StdString) : RawRequest where
  method
  target := if queryParameters.isEmpty then path
    else HttpSession.target path (queryParameters.map queryText)
  fields := [(lit "Content-Type", lit "application/json"), (lit "Accept", lit "application/json"),
    (lit "Authorization", lit "Bearer " ++ accessToken)]
  body

section Requests

variable {accessToken path body : StdString} {method : Verb}
  {queryParameters : List (StdString × StdString)}

/-- A request carries its token. -/
theorem lastField_dioRequest : HttpSession.lastField
    (dioRequest accessToken method path queryParameters body) authorization =
      some (bearer ++ accessToken) := by
  have hname : (toLower (lit "Authorization") == authorization) = true := by decide
  simp only [HttpSession.lastField, dioRequest, List.reverse_cons, List.reverse_nil,
    List.nil_append, List.cons_append, List.find?_cons, hname]
  rfl

private theorem find_eq_none {s : StdString} {c : UInt8} (h : c ∉ s) : s.find c 0 = none := by
  rw [StdString.find, List.drop_zero, Option.map_eq_none_iff, List.findIdx?_eq_none_iff]
  intro b hb
  rw [beq_eq_false_iff_ne]
  rintro rfl
  exact h hb

/-- The server reads the path as the app wrote it. -/
theorem path_dioRequest (hpath : byte '?' ∉ path) :
    (HttpSession.beastToApp (dioRequest accessToken method path queryParameters body)).path =
      path := by
  simp only [HttpSession.beastToApp, HttpSession.splitTarget, dioRequest]
  split_ifs
  · rw [find_eq_none hpath]
  · rw [HttpSession.target, find_append_cons hpath]
    exact List.take_left

/-- The library writes a name of unreserved bytes as it is. -/
theorem encodeQueryComponent_eq {name : StdString} (h : ∀ b ∈ name, isUnreserved b = true) :
    encodeQueryComponent name = name :=
  (encodes_encodeQueryComponent name).eq_iff.mpr (verbatim_encodeQueryComponent.mpr h)

private theorem paramValue_queryText {param : StdString × StdString}
    (h : ∀ b ∈ param.1, isUnreserved b = true) (name : StdString) :
    HttpRequest.paramValue name (queryText param) =
      if param.1 = name then some (encodeQueryComponent param.2) else none := by
  have hequals : byte '=' ∉ param.1 := fun hmem => absurd (h _ hmem) (by decide)
  rw [queryText, encodeQueryComponent_eq h, HttpRequest.paramValue_append hequals]

private theorem ampersand_notMem_queryText (param : StdString × StdString) :
    byte '&' ∉ queryText param := by
  have hname := (encodes_encodeQueryComponent param.1).ampersand_notMem
  have hvalue := (encodes_encodeQueryComponent param.2).ampersand_notMem
  simp [queryText, hname, hvalue, show byte '&' ≠ byte '=' by decide]

/-- What the server reads of a parameter is the text that the library has made of it. -/
theorem getQueryParam_dioRequest (hpath : byte '?' ∉ path)
    (hnames : ∀ param ∈ queryParameters, ∀ b ∈ param.1, isUnreserved b = true) (name : StdString) :
    (HttpSession.beastToApp (dioRequest accessToken method path queryParameters
      body)).getQueryParam name =
      ((queryParameters.find? (·.1 = name)).map fun param =>
        encodeQueryComponent param.2).getD [] := by
  -- The server takes the first parameter of the name, and does not decode it.
  have hfind : (queryParameters.map queryText).findSome? (HttpRequest.paramValue name) =
      (queryParameters.find? (·.1 = name)).map fun param => encodeQueryComponent param.2 := by
    induction queryParameters with
    | nil => rfl
    | cons param rest ih =>
      rw [List.map_cons, List.findSome?_cons, paramValue_queryText (hnames _ List.mem_cons_self)]
      by_cases hname : param.1 = name
      · rw [if_pos hname, List.find?_cons_of_pos (by simpa using hname)]
        rfl
      · rw [if_neg hname, List.find?_cons_of_neg (by simpa using hname)]
        exact ih fun param' hmem => hnames param' (List.mem_cons_of_mem _ hmem)
  -- Without parameters there is no question mark.
  cases queryParameters with
  | nil =>
    have hquery : (HttpSession.beastToApp (dioRequest accessToken method path [] body)).query =
        [] := by
      simp only [HttpSession.beastToApp, HttpSession.splitTarget, dioRequest, List.isEmpty_nil,
        if_true]
      rw [find_eq_none hpath]
    rw [HttpRequest.getQueryParam, hquery]
    rfl
  | cons param rest =>
    have hquery : (HttpSession.beastToApp (dioRequest accessToken method path (param :: rest)
        body)).query = [byte '&'].intercalate ((param :: rest).map queryText) :=
      HttpSession.query_target hpath rfl
    rw [HttpRequest.getQueryParam, hquery, List.splitOn_intercalate _ ?_ (by simp), hfind]
    intro text htext
    obtain ⟨param', -, rfl⟩ := List.mem_map.mp htext
    exact ampersand_notMem_queryText param'

end Requests

/-! ## Devices -/

/-- `_fromJson`. -/
def Device.fromJson (j : DartMap) : Option Device := do
  let id ← asString (j.get "id")
  let name ← asString (j.get "name")
  let type ← asString (j.get "type")
  let protocol := (← orNull asString (j.get "protocol")).getD (lit "mqtt")
  let address := (← orNull asString (j.get "address")).getD []
  let online := (← orNull asBool (j.get "online")).getD false
  return { id, name, type, protocol, address, online }

/-- The device of the server as the app has it. -/
def Device.ofServer (d : DeviceInfo) : Device :=
  ⟨d.id, d.name, d.type, d.protocol, d.address, d.isConnected⟩

/-- The app reads the devices that the server sends. -/
theorem Device.fromJson_deviceToJson (d : DeviceInfo) :
    (asMap (DeviceController.deviceToJson d)).bind fromJson = some (ofServer d) := by
  rw [DeviceController.deviceToJson, asMap_mkObject, Option.bind_some, fromJson,
    get_fieldsOf rfl, get_fieldsOf rfl, get_fieldsOf rfl, get_fieldsOf rfl, get_fieldsOf rfl,
    get_fieldsOf rfl]
  rfl

/-! ## Operations -/

/-- An operation of `DeviceRepositoryImpl`. -/
inductive DeviceCall where
  | getDevices (onlineOnly : Option Bool) (type : Option StdString)
  | registerDevice (id name type protocol address : StdString)
  | unregisterDevice (id : StdString)
  | sendCommand (deviceId command : StdString) (parameters : DartMap)

/-- What an operation returns. -/
inductive DeviceAnswer where
  | devices (list : List Device)
  | registered (device : Device)
  | done
  | failure (statusCode : UInt16)

namespace DeviceCall

/-- The data that `registerDevice` posts. -/
def registration (id name type protocol address : StdString) : Json :=
  .mkObject [(lit "id", .string id), (lit "name", .string name), (lit "type", .string type),
    (lit "protocol", .string protocol), (lit "address", .string address)]

/-- The data that `sendCommand` posts. -/
def command (deviceId command : StdString) (parameters : DartMap) : Json :=
  .mkObject [(lit "device_id", .string deviceId), (lit "command", .string command),
    (lit "parameters", .object parameters)]

/-- The query of `getDevices`. -/
def query (onlineOnly : Option Bool) (type : Option StdString) : List (StdString × StdString) :=
  (if onlineOnly == some true then [(lit "online", lit "true")] else []) ++
    (type.map fun type => (lit "type", type)).toList

/-- The request of an operation; data that cannot be encoded throw. -/
def request (J : DartConvert) (accessToken : StdString) : DeviceCall → Option RawRequest
  | getDevices onlineOnly type =>
    some (dioRequest accessToken .get (lit "/devices") (query onlineOnly type) [])
  | registerDevice id name type protocol address =>
    (J.jsonEncode (registration id name type protocol address)).map
      (dioRequest accessToken .post (lit "/devices") [])
  | unregisterDevice id =>
    some (dioRequest accessToken .delete (lit "/devices") [(lit "id", id)] [])
  | sendCommand deviceId name parameters =>
    (J.jsonEncode (command deviceId name parameters)).map
      (dioRequest accessToken .post (lit "/commands") [])

/-- What an operation makes of the response. -/
def answer (J : DartConvert) (call : DeviceCall) (res : HttpResponse) : Option DeviceAnswer :=
  if res.status < 200 ∨ 300 ≤ res.status then some (.failure res.status)
  else
    match call with
    | getDevices _ _ => do
      let data ← asMap (← J.jsonDecode res.body)
      let items ← asList (data.get "devices")
      return .devices (← items.mapM fun v => do Device.fromJson (← asMap v))
    | registerDevice _ _ _ _ _ => do
      let data ← asMap (← J.jsonDecode res.body)
      return .registered (← Device.fromJson data)
    -- Nothing is read of the other answers.
    | unregisterDevice _ => some .done
    | sendCommand _ _ _ => some .done

end DeviceCall

end Flutter

end IotDashboard
