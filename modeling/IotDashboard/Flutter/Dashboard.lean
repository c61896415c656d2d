import IotDashboard.Api.Wiring
import IotDashboard.Flutter.AutomationRepository
import IotDashboard.Foundation.Histories

/-!
# The status of the devices on the dashboard

The dashboard shows the devices of the last fetch, each with the flag that the live status has for
it. But the provider of the live status makes a map with one entry of each message and exposes the
last map, so a message about one device takes back what was learned about the others.

## Main definitions

* `Flutter.StatusMessage`: the messages about the status of a device that the server sends;
* `Flutter.deviceStatusStream`: what the provider exposes after some messages;
* `Flutter.DashboardPage.build`: the devices and the counters of the dashboard;
* `Flutter.ShowsLatest`: the flags are those of the last messages.

## Main results

* `Flutter.deviceStatusStream_eq`: only the last message counts;
* `Flutter.showsLatest_iff`: when the dashboard is right.
-/

namespace IotDashboard

open StdString

/-- The message about a timeout. -/
def Wired.deviceTimeout (deviceId : StdString) : Json :=
  .mkObject [(lit "type", .string (lit "device_status")),
    (lit "data", .mkObject [(lit "device_id", .string deviceId),
      (lit "status", .string (lit "offline"))])]

private theorem Wired.timeoutCallback_eq (V : Vendor) (deviceId : StdString) :
    timeoutCallback V deviceId = (do broadcast (← dump V (deviceTimeout deviceId))) := rfl

namespace Flutter

/-- `Device`. -/
structure Device where
  id : StdString
  name : StdString
  type : StdString
  protocol : StdString
  address : StdString
  online : Bool
deriving DecidableEq

/-- `copyWith(online: …)`. -/
def Device.copyWith (d : Device) (online : Option Bool) : Device :=
  { d with online := online.getD d.online }

/-! ## The messages -/

/-- A message about the status of a device: of a status change, or of a timeout. -/
inductive StatusMessage where
  | status (deviceId : StdString) (online : Bool)
  | timeout (deviceId : StdString)
deriving DecidableEq

namespace StatusMessage

def deviceId : StatusMessage → StdString
  | status deviceId _ => deviceId
  | timeout deviceId => deviceId

def online : StatusMessage → Bool
  | status _ online => online
  | timeout _ => false

/-- The message that the server sends. -/
def toJson : StatusMessage → Json
  | status deviceId online => Wired.deviceStatus deviceId online
  | timeout deviceId => Wired.deviceTimeout deviceId

/-- What the message says. -/
def entry (m : StatusMessage) : StdString × Bool := (m.deviceId, m.online)

end StatusMessage

/-! ## The provider -/

/-- A `Map<String, bool>`. -/
abbrev LiveStatus := List (StdString × Bool)

/-- The function that `deviceStatusStreamProvider` maps over the messages; a cast that fails
throws. -/
def liveStatus (m : DartMap) : Option LiveStatus := do
  let data ← asMap (m.get "data")
  let deviceId ← asString (data.get "device_id")
  let online := (← orNull asBool (data.get "online")).getD false
  return [(deviceId, online)]

/-- What the provider exposes after one more message: the last value of the stream, which an error
leaves in place. -/
def receive (value : Option LiveStatus) (message : Json) : Option LiveStatus :=
  match asMap message with
  | none => value
  | some m =>
    if asString (m.get "type") = some (lit "device_status") then (liveStatus m).or value else value

/-- What `deviceStatusStreamProvider` exposes after the messages. -/
def deviceStatusStream (messages : List StatusMessage) : Option LiveStatus :=
  (messages.map StatusMessage.toJson).foldl receive none

/-- A message with the type and the data of a status message is read as its flag. -/
theorem receive_mkObject (value : Option LiveStatus) {data : List (StdString × Json)}
    {deviceId : StdString} {flag : Option Bool}
    (hid : Json.lookup (lit "device_id") data = some (.string deviceId))
    (hflag : orNull asBool (DartMap.get (Json.fieldsOf data) "online") = some flag) :
    receive value (.mkObject [(lit "type", .string (lit "device_status")),
      (lit "data", .mkObject data)]) = some [(deviceId, flag.getD false)] := by
  have htype : asString (DartMap.get (Json.fieldsOf [(lit "type", .string (lit "device_status")),
      (lit "data", .mkObject data)]) "type") = some (lit "device_status") := by
    rw [get_fieldsOf rfl]
    rfl
  have hlive : liveStatus (Json.fieldsOf [(lit "type", .string (lit "device_status")),
      (lit "data", .mkObject data)]) = some [(deviceId, flag.getD false)] := by
    rw [liveStatus, get_fieldsOf rfl, asMap_mkObject, Option.bind_eq_bind, Option.bind_some,
      get_fieldsOf hid, hflag]
    rfl
  rw [receive, asMap_mkObject]
  dsimp only
  rw [if_pos htype, hlive, Option.some_or]

/-- Both shapes of message are read as what they say. -/
theorem receive_toJson (value : Option LiveStatus) (m : StatusMessage) :
    receive value m.toJson = some [m.entry] := by
  cases m with
  | status deviceId online =>
    have hflag : orNull asBool (DartMap.get (Json.fieldsOf [(lit "device_id", .string deviceId),
        (lit "online", .boolean online)]) "online") = some (some online) := by
      rw [get_fieldsOf rfl]
      rfl
    exact receive_mkObject value rfl hflag
  | timeout deviceId =>
    -- There is no flag, which is read as `null`.
    have hflag : orNull asBool (DartMap.get (Json.fieldsOf [(lit "device_id", .string deviceId),
        (lit "status", .string (lit "offline"))]) "online") = some none := by
      rw [DartMap.get, Json.lookup_fieldsOf]
      rfl
    exact receive_mkObject value rfl hflag

/-- The provider exposes the last message, and nothing of the ones before. -/
theorem deviceStatusStream_eq (messages : List StatusMessage) :
    deviceStatusStream messages = messages.getLast?.map fun m => [m.entry] := by
  induction messages using List.reverseRecOn with
  | nil => rfl
  | append_singleton messages m =>
    rw [deviceStatusStream, List.map_append, List.map_singleton, List.foldl_concat, receive_toJson,
      List.getLast?_concat, Option.map_some]

/-! ## The page -/

/-- What the dashboard shows. -/
structure DashboardPage where
  devices : List Device
  online : ℕ
  offline : ℕ
deriving DecidableEq

/-- `DashboardPage.build` for the fetched devices. -/
def DashboardPage.build (devices : List Device) (wsStatus : Option LiveStatus) : DashboardPage :=
  let liveStatus := wsStatus.getD []
  let updatedDevices := devices.map fun d =>
    if (liveStatus.lookup d.id).isSome then d.copyWith (liveStatus.lookup d.id) else d
  let online := (updatedDevices.filter Device.online).length
  ⟨updatedDevices, online, updatedDevices.length - online⟩

/-- The device with the flag of the last message about it, if there is one. -/
def latest (since : List StatusMessage) (d : Device) : Device :=
  { d with online := ((since.map StatusMessage.entry).mostRecent d.id).getD d.online }

/-- Each device is shown with the flag of the last message about it since the fetch, or else with
the fetched one, and the counters count these flags. The messages before and since the fetch are all
those of the app; the page was opened when some had come, which the provider, as it is disposed of
with the page, has not seen. -/
def ShowsLatest (devices : List Device) (before since : List StatusMessage) (opened : ℕ) : Prop :=
  DashboardPage.build devices (deviceStatusStream ((before ++ since).drop opened)) =
    ⟨devices.map (latest since), (devices.map (latest since)).countP (·.online),
      (devices.map (latest since)).countP (!·.online)⟩

variable {devices : List Device} {before since : List StatusMessage} {opened : ℕ} {d : Device}

/-- The flag that a device is shown with. -/
def shown (last : Option StatusMessage) (d : Device) : Device :=
  match last with
  | none => d
  | some m => if m.deviceId = d.id then { d with online := m.online } else d

/-- The page depends on the last message only. -/
theorem build_deviceStatusStream (messages : List StatusMessage) :
    DashboardPage.build devices (deviceStatusStream messages) =
      ⟨devices.map (shown messages.getLast?),
        (devices.map (shown messages.getLast?)).countP (·.online),
        (devices.map (shown messages.getLast?)).countP (!·.online)⟩ := by
  have hupdated (d : Device) :
      (if (((deviceStatusStream messages).getD []).lookup d.id).isSome then
        d.copyWith (((deviceStatusStream messages).getD []).lookup d.id) else d) =
      shown messages.getLast? d := by
    rw [deviceStatusStream_eq]
    cases messages.getLast? with
    | none => rfl
    | some m =>
      rw [Option.map_some, Option.getD_some, StatusMessage.entry, List.lookup_cons_ite, shown]
      by_cases hid : m.deviceId = d.id
      · rw [if_pos hid, if_pos hid.symm]
        rfl
      · rw [if_neg hid, if_neg (Ne.symm hid)]
        rfl
  rw [DashboardPage.build]
  simp only [hupdated]
  generalize devices.map (shown messages.getLast?) = updated
  have hcount : updated.length = updated.countP (·.online) + updated.countP (!·.online) := by
    simpa using List.length_eq_countP_add_countP Device.online
  rw [← List.countP_eq_length_filter, hcount, Nat.add_sub_cancel_left]

/-- The dashboard is right exactly if it shows the right devices. -/
theorem showsLatest_iff_map : ShowsLatest devices before since opened ↔
    ∀ d ∈ devices, shown ((before ++ since).drop opened).getLast? d = latest since d := by
  rw [ShowsLatest, build_deviceStatusStream, ← List.map_inj_left]
  constructor
  · exact fun h => congrArg DashboardPage.devices h
  · exact fun h => by rw [h]

/-- The last message about a device since the fetch, if there is one, tells the fetched flag. -/
def Unchanged (since : List StatusMessage) (d : Device) : Prop :=
  ∀ online, (since.map StatusMessage.entry).mostRecent d.id = some online → online = d.online

/-- The last message that the page has seen, if there is one, is about the device, and does not come
from before the fetch with another flag; or the device is unchanged. -/
def NothingLost (before since : List StatusMessage) (opened : ℕ) (d : Device) : Prop :=
  match ((before ++ since).drop opened).getLast? with
  | some m => if m.deviceId = d.id then since = [] → m.online = d.online else Unchanged since d
  | none => Unchanged since d

private theorem withOnline_eq_iff {online online' : Bool} :
    ({ d with online } : Device) = { d with online := online' } ↔ online = online' := by
  rw [Device.mk.injEq]
  simp

private theorem eq_latest_iff : d = latest since d ↔ Unchanged since d := by
  rw [latest, Unchanged]
  cases (since.map StatusMessage.entry).mostRecent d.id with
  | none => exact iff_of_true rfl fun _ h => by cases h
  | some flag =>
    have hflag : d = { d with online := flag } ↔ d.online = flag := withOnline_eq_iff
    simpa [eq_comm] using hflag

/-- A device is shown with the right flag exactly if nothing about it is lost. -/
theorem shown_eq_latest_iff :
    shown ((before ++ since).drop opened).getLast? d = latest since d ↔
      NothingLost before since opened d := by
  rw [NothingLost]
  cases hlast : ((before ++ since).drop opened).getLast? with
  | none => exact eq_latest_iff
  | some m =>
    by_cases hid : m.deviceId = d.id
    · have hshown : shown (some m) d = { d with online := m.online } := if_pos hid
      dsimp only
      rw [hshown, if_pos hid]
      cases since using List.reverseRecOn with
      | nil =>
        have hflag : ({ d with online := m.online } : Device) = latest [] d ↔ m.online = d.online :=
          withOnline_eq_iff
        simpa using hflag
      | append_singleton since m' =>
        -- The last message that the page has seen is the last one of all.
        obtain rfl : m' = m := by
          rw [← List.append_assoc, List.getLast?_drop, List.getLast?_concat] at hlast
          split at hlast
          · cases hlast
          · exact Option.some.inj hlast
        have hentry : m'.entry = (m'.deviceId, m'.online) := rfl
        refine iff_of_true ?_ fun h => by simp at h
        rw [latest, List.map_append, List.map_singleton, hentry, List.mostRecent_snoc,
          if_pos hid.symm, Option.getD_some]
    · have hshown : shown (some m) d = d := if_neg hid
      dsimp only
      rw [hshown, if_neg hid]
      exact eq_latest_iff

/-- For every fetched list, all messages before and since the fetch, and whenever the page was
opened: the dashboard shows the latest status of each device, and counts it, exactly when nothing
about a device is lost. -/
theorem showsLatest_iff (devices : List Device) (before since : List StatusMessage)
    (opened : ℕ) :
    ShowsLatest devices before since opened ↔
      ∀ d ∈ devices, NothingLost before since opened d := by
  rw [showsLatest_iff_map]
  exact forall₂_congr fun d _ => shown_eq_latest_iff

/-- A lamp and a pump, which are offline when they are fetched. -/
def lampAndPump : List Device :=
  [⟨lit "d-1", lit "Lamp", lit "light", lit "mqtt", [], false⟩,
    ⟨lit "d-2", lit "Pump", lit "motor", lit "mqtt", [], false⟩]

/-- Both go online, and the lamp is shown offline again. -/
theorem not_showsLatest_both :
    let since : List StatusMessage := [.status (lit "d-1") true, .status (lit "d-2") true]
    ¬ ShowsLatest lampAndPump [] since 0 ∧
      (DashboardPage.build lampAndPump (deviceStatusStream since)).devices.map Device.online =
        [false, true] ∧
      (lampAndPump.map (latest since)).map Device.online = [true, true] := by
  refine ⟨fun h => ?_, by decide, by decide⟩
  have hdevices := congrArg (fun page => page.devices.map Device.online) h
  exact absurd hdevices (by decide)

end Flutter

end IotDashboard
