import IotDashboard.Flutter.SensorRepository
import IotDashboard.Foundation.Histories

/-!
# The charts of the sensors page

The page has the history of a device, newest first, and a buffer of live readings. It puts them in
the order in which they came, files them under their sensor types and makes a chart of each type.
But a chart gets the first sixty readings of its type, which are the oldest ones. When there are
more, the current value that the chart tells is an old one. Nor does the page look at the time
stamps: those of the history are the server's, and those of live readings are the app's.

## Main definitions

* `Flutter.liveBuffer`: the buffer after some live readings;
* `Flutter.SensorsPage.build`, `Flutter.SensorChart.build`: the charts and what they draw;
* `Flutter.received`: the readings of a type that the page has, as they came;
* `Flutter.ShowsNewest`: the charts show the readings with the latest time stamps, in their order.

## Main results

* `Flutter.liveBuffer_eq`: the buffer has the newest live readings;
* `Flutter.pairwise_received_listing`: the readings that the page has are in order of time;
* `Flutter.readings_of_full_history`: when no live reading is ever shown;
* `Flutter.showsNewest_iff`: when the charts show the newest readings;
* `Flutter.showsNewest_iff_of_ordered`: the same for readings that came in the order of time.
-/

namespace IotDashboard

open StdString

namespace Flutter

/-- `AppConstants.chartMaxDataPoints`. -/
def chartMaxDataPoints : ℕ := 60

/-! ## The live readings -/

/-- What the page does to `_liveBuffer` when a live reading comes. -/
def bufferReading (liveBuffer : List SensorReading) (reading : SensorReading) :
    List SensorReading :=
  let added := liveBuffer ++ [reading]
  if chartMaxDataPoints < added.length then added.tail else added

/-- `_liveBuffer` after the live readings. -/
def liveBuffer (live : List SensorReading) : List SensorReading :=
  live.foldl bufferReading []

/-- The buffer has the newest live readings. -/
theorem liveBuffer_eq (live : List SensorReading) :
    liveBuffer live = live.rtake chartMaxDataPoints := by
  induction live using List.reverseRecOn with
  | nil => rfl
  | append_singleton live reading ih =>
    rw [liveBuffer, List.foldl_concat, ← liveBuffer, ih, List.rtake_concat]
    rfl

/-! ## The charts -/

/-- What a chart draws: its points, and the reading of which it tells the value and the time. -/
structure SensorCard where
  sensorType : StdString
  spots : List (Double × Double)
  latest : SensorReading
deriving DecidableEq

/-- `_SensorChart`. -/
structure SensorChart where
  sensorType : StdString
  readings : List SensorReading
deriving DecidableEq

/-- `_SensorChart.build`, which draws nothing without readings. -/
def SensorChart.build (chart : SensorChart) : Option SensorCard :=
  match chart.readings.getLast? with
  | none => none
  | some latest =>
    let spots := chart.readings.mapIdx fun i r => (Double.ofInt i, r.value)
    some ⟨chart.sensorType, spots, latest⟩

/-- What is under the title of the page. -/
inductive SensorsBody where
  | text (message : StdString)
  | listView (children : List SensorChart)
deriving DecidableEq

def SensorsBody.charts : SensorsBody → List SensorChart
  | text _ => []
  | listView children => children

/-- `_SensorsPageState.build` when the history is there. -/
def SensorsPage.build (history liveBuffer : List SensorReading) : SensorsBody :=
  let allReadings := history.reverse ++ liveBuffer
  let grouped := allReadings.groupOn SensorReading.sensorType
  if grouped.isEmpty then .text (lit "No sensor data yet for this device.")
  else .listView (grouped.map fun e => ⟨e.1, e.2.take chartMaxDataPoints⟩)

/-- The last point of a chart is the reading that it tells. -/
theorem SensorChart.build_eq_some {chart : SensorChart} {latest : SensorReading}
    (h : chart.readings.getLast? = some latest) :
    ∃ card, chart.build = some card ∧ card.latest = latest ∧
      card.spots.getLast?.map Prod.snd = some latest.value := by
  rw [build, h]
  refine ⟨_, rfl, rfl, ?_⟩
  rw [List.getLast?_mapIdx, h]
  rfl

private theorem SensorsPage.charts_build (history liveBuffer : List SensorReading) :
    (build history liveBuffer).charts =
      ((history.reverse ++ liveBuffer).groupOn SensorReading.sensorType).map
        fun e => ⟨e.1, e.2.take chartMaxDataPoints⟩ := by
  rw [build]
  split
  · next hempty =>
    rw [List.isEmpty_iff.mp hempty]
    rfl
  · rfl

/-! ## The readings of a type -/

/-- The readings of a type among the history and the newest live ones, in the order in which they
came. -/
def received (history live : List SensorReading) (sensorType : StdString) : List SensorReading :=
  (history.reverse ++ live.rtake chartMaxDataPoints).filter (·.sensorType = sensorType)

variable {history live : List SensorReading} {sensorType : StdString}

/-- If the history is newest first, and the live readings are in order and come after it, then the
readings that the page has are in order. -/
theorem pairwise_received (hhistory : history.Pairwise fun a b => b.timestamp ≤ a.timestamp)
    (hlive : live.Pairwise fun a b => a.timestamp ≤ b.timestamp)
    (hlater : ∀ a ∈ history, ∀ b ∈ live, a.timestamp ≤ b.timestamp) :
    (received history live sensorType).Pairwise fun a b => a.timestamp ≤ b.timestamp := by
  have hbuffered := List.rtake_sublist chartMaxDataPoints live
  refine List.Pairwise.filter _ (List.pairwise_append.mpr ⟨?_, hlive.sublist hbuffered, ?_⟩)
  · exact List.pairwise_reverse.mpr hhistory
  · intro a ha b hb
    exact hlater a (List.mem_reverse.mp ha) b (hbuffered.mem hb)

/-- So it is for the history that the server reads from its table, and for the messages that arrive
after it. -/
theorem pairwise_received_listing {t : Tables} {clauses : List ReadingClause}
    {params : List (ℕ × SqlParam)} {rows : List ReadingRow} {deviceId : StdString}
    {messages : List (ℤ × DartMap)}
    (hclock : ∀ row ∈ t.sensorReadings, ∃ ts : Timestamp, row.timestampMs = ts.toUnixMs)
    (hrows : Selects t clauses params rows)
    (hhistory : history =
      rows.map fun row => SensorReading.ofServer (SqliteSensorRepository.rowToReading row))
    (hmessages : messages.Pairwise fun m m' => m.1 ≤ m'.1)
    (hlater : ∀ a ∈ history, ∀ b ∈ watchSensorReadings deviceId messages,
      a.timestamp ≤ b.timestamp) :
    (received history (watchSensorReadings deviceId messages) sensorType).Pairwise
      fun a b => a.timestamp ≤ b.timestamp := by
  have hnewest := newestFirst_listing hclock hrows
  exact pairwise_received (hhistory ▸ hnewest) (pairwise_watchSensorReadings hmessages) hlater

/-- There is a chart of each type with readings, and it has the oldest of them. -/
theorem mem_charts_iff {chart : SensorChart} :
    chart ∈ (SensorsPage.build history (liveBuffer live)).charts ↔
      received history live chart.sensorType ≠ [] ∧
        chart.readings = (received history live chart.sensorType).take chartMaxDataPoints := by
  rw [SensorsPage.charts_build, liveBuffer_eq, List.mem_map]
  constructor
  · rintro ⟨⟨sensorType, readings⟩, hmem, rfl⟩
    obtain ⟨hne, rfl⟩ := List.mem_groupOn_iff.mp hmem
    exact ⟨hne, rfl⟩
  · intro ⟨hne, hreadings⟩
    refine ⟨(chart.sensorType, received history live chart.sensorType), ?_, ?_⟩
    · exact List.mem_groupOn_iff.mpr ⟨hne, rfl⟩
    · rw [← hreadings]

/-- When the history has sixty readings of a type, its chart shows the oldest of these, whatever
live readings come. -/
theorem readings_of_full_history {chart : SensorChart}
    (hmem : chart ∈ (SensorsPage.build history (liveBuffer live)).charts)
    (hfull : chartMaxDataPoints ≤ history.countP (·.sensorType = chart.sensorType)) :
    chart.readings =
      (history.reverse.filter (·.sensorType = chart.sensorType)).take chartMaxDataPoints := by
  rw [(mem_charts_iff.mp hmem).2, received, List.filter_append, List.take_append_of_le_length]
  rwa [← List.countP_eq_length_filter, List.countP_reverse]

/-! ## The newest readings -/

/-- The charts show the newest readings: there is one chart of each type that has readings, with
those that have the latest time stamps, in the order of these, and the last point and the value that
it tells are of a reading that none of the type is later than. -/
structure ShowsNewest (history live : List SensorReading) : Prop where
  nodup : ((SensorsPage.build history (liveBuffer live)).charts.map SensorChart.sensorType).Nodup
  sensorTypes : ∀ sensorType, received history live sensorType ≠ [] ↔
    ∃ chart ∈ (SensorsPage.build history (liveBuffer live)).charts, chart.sensorType = sensorType
  readings : ∀ chart ∈ (SensorsPage.build history (liveBuffer live)).charts,
    (received history live chart.sensorType).IsNewest SensorReading.timestamp chartMaxDataPoints
      chart.readings
  latest : ∀ chart ∈ (SensorsPage.build history (liveBuffer live)).charts,
    ∃ card, chart.build = some card ∧ chart.readings.getLast? = some card.latest ∧
      card.spots.getLast?.map Prod.snd = some card.latest.value ∧
      ∀ r ∈ received history live chart.sensorType, r.timestamp ≤ card.latest.timestamp

/-- Each type that has readings has one chart. -/
theorem nodup_charts (history liveBuffer : List SensorReading) :
    ((SensorsPage.build history liveBuffer).charts.map SensorChart.sensorType).Nodup := by
  rw [SensorsPage.charts_build, List.map_map]
  exact List.nodup_groupOn _ _

private theorem received_ne_nil_iff : received history live sensorType ≠ [] ↔
    ∃ chart ∈ (SensorsPage.build history (liveBuffer live)).charts,
      chart.sensorType = sensorType := by
  constructor
  · intro hne
    let readings := (received history live sensorType).take chartMaxDataPoints
    exact ⟨⟨sensorType, readings⟩, mem_charts_iff.mpr ⟨hne, rfl⟩, rfl⟩
  · rintro ⟨chart, hmem, rfl⟩
    exact (mem_charts_iff.mp hmem).1

/-- The charts show the newest readings exactly if the first readings of each type are. -/
theorem showsNewest_iff_take : ShowsNewest history live ↔
    ∀ sensorType, (received history live sensorType).IsNewest SensorReading.timestamp
      chartMaxDataPoints ((received history live sensorType).take chartMaxDataPoints) := by
  constructor
  · intro h sensorType
    by_cases hnil : received history live sensorType = []
    · rw [hnil]
      exact ⟨.nil, rfl, [], .refl _, by simp⟩
    · exact h.readings ⟨sensorType, _⟩ (mem_charts_iff.mpr ⟨hnil, rfl⟩)
  · intro h
    have hreadings (chart : SensorChart)
        (hmem : chart ∈ (SensorsPage.build history (liveBuffer live)).charts) :
        (received history live chart.sensorType).IsNewest SensorReading.timestamp
          chartMaxDataPoints chart.readings := by
      rw [(mem_charts_iff.mp hmem).2]
      exact h chart.sensorType
    refine ⟨nodup_charts _ _, fun _ => received_ne_nil_iff, hreadings, fun chart hmem => ?_⟩
    have hne : chart.readings ≠ [] := by
      have hlength := (hreadings chart hmem).length
      have hpos := List.length_pos_iff.mpr (mem_charts_iff.mp hmem).1
      rw [← List.length_pos_iff, hlength]
      exact Nat.lt_min.mpr ⟨by decide, hpos⟩
    have hlast := List.getLast?_eq_some_getLast hne
    obtain ⟨card, hcard, hlatest, hspot⟩ := SensorChart.build_eq_some hlast
    rw [← hlatest] at hlast hspot
    exact ⟨card, hcard, hlast, hspot, fun r hr => (hreadings chart hmem).le_last hlast hr⟩

/-- For every history and all live readings: the charts show the newest readings exactly when, for
each type, the first sixty readings came in the order of their time stamps, and none that came after
them is later than the very first one. -/
theorem showsNewest_iff (history live : List SensorReading) : ShowsNewest history live ↔
    ∀ sensorType, let readings := received history live sensorType
      ((readings.take chartMaxDataPoints).Pairwise fun a b => a.timestamp ≤ b.timestamp) ∧
        ∀ r ∈ readings.drop chartMaxDataPoints, ∀ first ∈ readings.head?,
          r.timestamp ≤ first.timestamp := by
  rw [showsNewest_iff_take]
  exact forall_congr' fun _ => List.isNewest_take_iff (by decide)

/-- If the readings came in the order of time, then sixty of a type are the limit, unless all of
them are of the same time. -/
theorem showsNewest_iff_of_ordered (hordered : ∀ sensorType,
    (received history live sensorType).Pairwise fun a b => a.timestamp ≤ b.timestamp) :
    ShowsNewest history live ↔
      ∀ sensorType, (received history live sensorType).length ≤ chartMaxDataPoints ∨
        ∀ a ∈ received history live sensorType, ∀ b ∈ received history live sensorType,
          a.timestamp ≤ b.timestamp := by
  rw [showsNewest_iff_take]
  exact forall_congr' fun sensorType =>
    List.isNewest_take_iff_of_pairwise (by decide) (hordered sensorType)

/-- A temperature of the given second. -/
def temperatureAt (n : ℕ) : SensorReading where
  deviceId := lit "d-1"
  sensorType := lit "temperature"
  value := Double.ofInt n
  unit := lit "C"
  timestamp := n * 1000000

/-- After sixty temperatures of the history, a live one is not shown; and one that comes after a
temperature of the history, but is stamped by a clock that is behind, is shown as the latest. -/
theorem not_showsNewest_full :
    let history := (List.range 60).reverse.map temperatureAt
    (¬ ShowsNewest history [temperatureAt 60] ∧
      (SensorsPage.build history (liveBuffer [temperatureAt 60])).charts =
        [⟨lit "temperature", (List.range 60).map temperatureAt⟩]) ∧
    ¬ ShowsNewest [temperatureAt 11] [{ temperatureAt 11 with timestamp := 10900000 }] := by
  intro history
  have hcharts : (SensorsPage.build history (liveBuffer [temperatureAt 60])).charts =
      [⟨lit "temperature", (List.range 60).map temperatureAt⟩] := by decide +kernel
  refine ⟨⟨fun h => ?_, hcharts⟩, fun h => ?_⟩
  · obtain ⟨card, -, hlast, -, hle⟩ := h.latest _ (hcharts ▸ List.mem_singleton_self _)
    have hlatest : temperatureAt 59 = card.latest :=
      Option.some.inj ((show _ = some (temperatureAt 59) by decide +kernel).symm.trans hlast)
    have hmem : temperatureAt 60 ∈ received history [temperatureAt 60] (lit "temperature") := by
      decide +kernel
    have hlate := hle _ hmem
    rw [← hlatest] at hlate
    exact absurd hlate (by decide)
  · have hcharts : (SensorsPage.build [temperatureAt 11]
        (liveBuffer [{ temperatureAt 11 with timestamp := 10900000 }])).charts =
        [⟨lit "temperature",
          [temperatureAt 11, { temperatureAt 11 with timestamp := 10900000 }]⟩] := by
      decide +kernel
    have hsorted := (h.readings _ (hcharts ▸ List.mem_singleton_self _)).sorted
    exact absurd hsorted (by decide)

end Flutter

end IotDashboard
