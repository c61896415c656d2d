import IotDashboard.Api.Wiring
import IotDashboard.Database.SensorQueries
import IotDashboard.Flutter.AutomationRepository

/-!
# Sensor readings in the app

The app fetches the history of a device from `GET /sensors` and gets live readings from the
WebSocket server. The two have different forms: a reading of the history has a time stamp in
seconds, and a live reading has none and is stamped when it arrives.

## Main definitions

* `Flutter.getSensorReadings`: the readings in the data of a response;
* `Flutter.watchSensorReadings`: the live readings of a device.

## Main results

* `Flutter.getSensorReadings_listing`: the app reads the history that the server sends;
* `Flutter.newestFirst_listing`: the history of a query is newest first;
* `Flutter.sensorEvent_sensorData`: the app reads the live readings that the server sends.
-/

namespace IotDashboard

open StdString

namespace Flutter

/-- `SensorReading`. -/
structure SensorReading where
  deviceId : StdString
  sensorType : StdString
  value : Double
  unit : StdString
  /-- In microseconds since the epoch. -/
  timestamp : ℤ
  quality : Option StdString := none
deriving DecidableEq

/-! ## The conversions -/

/-- `((v as num) * 1000).toInt()`. A double that 64 bits do not hold is no date either. -/
def asMilliseconds : Json → Option ℤ
  | .number n => some ((n * 1000).bmod (2 ^ 64))
  | .real d => d.truncMul 1000
  | _ => none

/-- `DateTime.fromMillisecondsSinceEpoch(ms)`, which throws beyond a hundred million days. -/
def fromMillisecondsSinceEpoch (ms : ℤ) : Option ℤ :=
  if ms.natAbs ≤ 8640000000000000 then some (ms * 1000) else none

/-- `_fromJson`. -/
def SensorReading.fromJson (j : DartMap) : Option SensorReading := do
  let deviceId ← asString (j.get "device_id")
  let sensorType ← asString (j.get "sensor_type")
  let value ← asDouble (j.get "value")
  let unit := (← orNull asString (j.get "unit")).getD []
  let timestamp ← fromMillisecondsSinceEpoch (← asMilliseconds (j.get "timestamp"))
  let quality ← orNull asString (j.get "quality")
  return { deviceId, sensorType, value, unit, timestamp, quality }

/-- `_fromWsJson` at the time of the app's clock. -/
def SensorReading.fromWsJson (now : ℤ) (j : DartMap) : Option SensorReading := do
  let deviceId ← asString (j.get "device_id")
  let sensorType ← asString (j.get "sensor_type")
  let value ← asDouble (j.get "value")
  let unit := (← orNull asString (j.get "unit")).getD []
  return { deviceId, sensorType, value, unit, timestamp := now }

/-- The readings that `getSensorReadings` makes of the data of a response. -/
def getSensorReadings (data : DartMap) : Option (List SensorReading) := do
  let items ← asList (data.get "readings")
  items.mapM fun v => do SensorReading.fromJson (← asMap v)

/-- What `watchSensorReadings` emits for a message that arrives. -/
def sensorEvent (deviceId : StdString) (now : ℤ) (m : DartMap) : Option SensorReading :=
  if asString (m.get "type") = some (lit "sensor_data") then do
    let r ← SensorReading.fromWsJson now (← asMap (m.get "data"))
    if r.deviceId = deviceId then some r else none
  else none

/-- The readings that `watchSensorReadings` emits for the messages, with their times of arrival. -/
def watchSensorReadings (deviceId : StdString) (messages : List (ℤ × DartMap)) :
    List SensorReading :=
  messages.filterMap fun m => sensorEvent deviceId m.1 m.2

/-! ## What the server sends -/

/-- The reading of the server as the app has it. -/
def SensorReading.ofServer (r : IotDashboard.SensorReading) : SensorReading where
  deviceId := r.deviceId
  sensorType := r.sensor
  value := r.value
  unit := r.unit
  timestamp := r.timestamp.seconds.toInt * 1000000
  quality := r.quality

/-- A time stamp of the server is a date of the app. -/
theorem fromMillisecondsSinceEpoch_seconds (ts : Timestamp) :
    (asMilliseconds (.number ts.seconds.toInt)).bind fromMillisecondsSinceEpoch =
      some (ts.seconds.toInt * 1000000) := by
  have hseconds : ts.seconds.toInt = ts.toInt.tdiv 1000000000 :=
    Int64.toInt_div_of_ne_right _ _ (by decide)
  have hle := ts.le_toInt
  have hlt := ts.toInt_lt
  have hbound : ts.seconds.toInt.natAbs ≤ 9223372036 := by
    rw [hseconds, Int.natAbs_tdiv]
    show ts.toInt.natAbs / 1000000000 ≤ _
    omega
  have hms : (ts.seconds.toInt * 1000).bmod (2 ^ 64) = ts.seconds.toInt * 1000 :=
    Int.bmod_eq_of_le (by omega) (by omega)
  rw [asMilliseconds, Option.bind_some, hms, fromMillisecondsSinceEpoch, if_pos (by omega)]
  congr 1
  ring

/-- The fields that the app looks up make a reading. -/
theorem SensorReading.fromJson_fieldsOf {fields : List (StdString × Json)}
    {r : IotDashboard.SensorReading}
    (hid : Json.lookup (lit "device_id") fields = some (.string r.deviceId))
    (htype : Json.lookup (lit "sensor_type") fields = some (.string r.sensor))
    (hvalue : Json.lookup (lit "value") fields = some (.real r.value))
    (hunit : Json.lookup (lit "unit") fields = some (.string r.unit))
    (htime : Json.lookup (lit "timestamp") fields = some (.number r.timestamp.seconds.toInt))
    (hquality : orNull asString (DartMap.get (Json.fieldsOf fields) "quality") = some r.quality) :
    fromJson (Json.fieldsOf fields) = some (ofServer r) := by
  have hdate := fromMillisecondsSinceEpoch_seconds r.timestamp
  rw [asMilliseconds, Option.bind_some] at hdate
  rw [fromJson, get_fieldsOf hid, get_fieldsOf htype, get_fieldsOf hvalue, get_fieldsOf hunit,
    get_fieldsOf htime, hquality]
  simp only [asString, asDouble, orNull, asMilliseconds, Option.map_some, Option.getD_some,
    Option.bind_eq_bind, Option.bind_some, hdate]
  rfl

/-- The app reads a reading of the history. -/
theorem SensorReading.fromJson_readingToJson (r : IotDashboard.SensorReading) :
    (asMap (SensorController.readingToJson r)).bind fromJson = some (ofServer r) := by
  rw [SensorController.readingToJson]
  cases hquality : r.quality with
  | none =>
    dsimp only
    rw [asMap_mkObject, Option.bind_some]
    refine fromJson_fieldsOf rfl rfl rfl rfl rfl ?_
    -- There is no such field, which is read as `null`.
    rw [DartMap.get, Json.lookup_fieldsOf, hquality]
    rfl
  | some quality =>
    dsimp only
    rw [asMap_mkObject, Option.bind_some]
    refine fromJson_fieldsOf rfl rfl rfl rfl rfl ?_
    rw [get_fieldsOf rfl, hquality]
    rfl

/-- The app reads the history that the server sends, reading by reading. -/
theorem getSensorReadings_listing (readings : List IotDashboard.SensorReading) :
    getSensorReadings (Json.fieldsOf [
      (lit "readings", .array (readings.map SensorController.readingToJson)),
      (lit "total", .number readings.length)]) = some (readings.map .ofServer) := by
  rw [getSensorReadings, get_fieldsOf rfl, asList, Option.bind_eq_bind, Option.bind_some]
  exact List.mapM_map_of_forall fun r _ => SensorReading.fromJson_readingToJson r

/-- The app reads a live reading of its device that the server sends, and stamps it. -/
theorem sensorEvent_sensorData (deviceId : StdString) (now : ℤ)
    (r : IotDashboard.SensorReading) :
    (asMap (Wired.sensorData r)).bind (sensorEvent deviceId now) =
      if r.deviceId = deviceId then
        some { SensorReading.ofServer r with timestamp := now, quality := none }
      else none := by
  have hread : SensorReading.fromWsJson now (Json.fieldsOf [
      (lit "device_id", .string r.deviceId), (lit "sensor_type", .string r.sensor),
      (lit "value", .real r.value), (lit "unit", .string r.unit)]) =
      some { SensorReading.ofServer r with timestamp := now, quality := none } := by
    rw [SensorReading.fromWsJson, get_fieldsOf rfl, get_fieldsOf rfl, get_fieldsOf rfl,
      get_fieldsOf rfl]
    rfl
  have htype : asString (DartMap.get (Json.fieldsOf [
      (lit "type", .string (lit "sensor_data")), (lit "data", .mkObject [
        (lit "device_id", .string r.deviceId), (lit "sensor_type", .string r.sensor),
        (lit "value", .real r.value), (lit "unit", .string r.unit)])]) "type") =
      some (lit "sensor_data") := by
    rw [get_fieldsOf rfl]
    rfl
  rw [Wired.sensorData, asMap_mkObject, Option.bind_some, sensorEvent, if_pos htype,
    get_fieldsOf rfl, asMap_mkObject, Option.bind_eq_bind, Option.bind_some, hread]
  rfl

/-! ## The order of the readings -/

/-- A live reading has the time of its arrival. -/
theorem sensorEvent_timestamp {deviceId : StdString} {now : ℤ} {m : DartMap} {r : SensorReading}
    (h : sensorEvent deviceId now m = some r) : r.timestamp = now := by
  rw [sensorEvent] at h
  split at h
  · simp only [Option.bind_eq_bind, Option.bind_eq_some_iff] at h
    obtain ⟨data, -, r', hread, h⟩ := h
    split at h
    · cases h
      simp only [SensorReading.fromWsJson, Option.bind_eq_bind, Option.bind_eq_some_iff] at hread
      obtain ⟨_, -, _, -, _, -, _, -, hread⟩ := hread
      cases hread
      rfl
    · cases h
  · cases h

/-- The live readings are in order, as the messages arrive in order. -/
theorem pairwise_watchSensorReadings {deviceId : StdString} {messages : List (ℤ × DartMap)}
    (h : messages.Pairwise fun m m' => m.1 ≤ m'.1) :
    (watchSensorReadings deviceId messages).Pairwise fun a b => a.timestamp ≤ b.timestamp := by
  refine h.filterMap _ fun m m' hle a ha b hb => ?_
  rw [sensorEvent_timestamp ha, sensorEvent_timestamp hb]
  exact hle

/-- Time stamps that came from the clock keep their order through the table and the app. -/
theorem seconds_mono {ts ts' : Timestamp} (h : ts.toUnixMs ≤ ts'.toUnixMs) :
    (Timestamp.fromUnixMs ts.toUnixMs).seconds.toInt ≤
      (Timestamp.fromUnixMs ts'.toUnixMs).seconds.toInt := by
  have hms (ts : Timestamp) : (Timestamp.fromUnixMs ts.toUnixMs).toInt =
      ts.toUnixMs.toInt * 1000000 := by
    have hfactor : (1000000 : Int64).toInt = 1000000 := by decide
    have htrunc : ts.toUnixMs.toInt = ts.toInt.tdiv 1000000 :=
      Int64.toInt_div_of_ne_right _ _ (by decide)
    have hbound : ts.toUnixMs.toInt.natAbs ≤ 9223372036854 := by
      have hle := ts.le_toInt
      have hlt := ts.toInt_lt
      rw [htrunc, Int.natAbs_tdiv]
      show ts.toInt.natAbs / 1000000 ≤ _
      omega
    rw [Timestamp.fromUnixMs, Int64.toInt_mul, hfactor]
    exact Int.bmod_eq_of_le (by omega) (by omega)
  rw [Timestamp.seconds, Timestamp.seconds, Int64.toInt_div_of_ne_right _ _ (by decide),
    Int64.toInt_div_of_ne_right _ _ (by decide), hms, hms]
  refine Int.tdiv_le_tdiv (by decide) ?_
  have hle := Int64.le_iff_toInt_le.mp h
  omega

/-- Limits leave rows out, and keep their order. -/
theorem foldl_limitRows_sublist (bound : List (ReadingClause × SqlParam)) (rows : List ReadingRow) :
    (bound.foldl limitRows rows).Sublist rows := by
  induction bound generalizing rows with
  | nil => exact .refl rows
  | cons b bound ih =>
    refine (ih _).trans ?_
    rw [limitRows.eq_def]
    split
    · split
      · exact .refl rows
      · exact List.take_sublist _ _
    · exact .refl rows

/-- The result of a query is newest first in the app, for rows with time stamps of the clock. -/
theorem newestFirst_listing {t : Tables} {clauses : List ReadingClause}
    {params : List (ℕ × SqlParam)} {rows : List ReadingRow}
    (hclock : ∀ row ∈ t.sensorReadings, ∃ ts : Timestamp, row.timestampMs = ts.toUnixMs)
    (hrows : Selects t clauses params rows) :
    (rows.map fun row => SensorReading.ofServer (SqliteSensorRepository.rowToReading row)).Pairwise
      fun a b => b.timestamp ≤ a.timestamp := by
  obtain ⟨sorted, hperm, hsorted, rfl⟩ := hrows
  have hsublist := foldl_limitRows_sublist
    (clauses.mapIdx fun i clause => (clause, boundParam params (i + 1))) sorted
  rw [List.pairwise_map]
  refine (hsorted.sublist hsublist).imp_of_mem fun {a b} ha hb hle => ?_
  have hclock {row : ReadingRow} (hrow : row ∈ sorted) :
      ∃ ts : Timestamp, row.timestampMs = ts.toUnixMs :=
    hclock row (List.mem_of_mem_filter (hperm.mem_iff.mp hrow))
  obtain ⟨ts, hts⟩ := hclock (hsublist.mem ha)
  obtain ⟨ts', hts'⟩ := hclock (hsublist.mem hb)
  rw [hts, hts'] at hle
  show (Timestamp.fromUnixMs b.timestampMs).seconds.toInt * 1000000 ≤
    (Timestamp.fromUnixMs a.timestampMs).seconds.toInt * 1000000
  rw [hts, hts']
  have hseconds := seconds_mono hle
  omega

end Flutter

end IotDashboard
