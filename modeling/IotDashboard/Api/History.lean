import IotDashboard.Api.WiredFrames

/-!
# The history of readings

A reading that a device sends is meant to be stored, so that `GET /sensors` shows it later. But the
sensor callback hands readings to the WebSocket server and to the rule engine only. Nothing in the
wired application adds to the sensor repository, and every history is empty.

## Main definitions

* `Wired.history`: the readings that `GET /sensors` answers with;
* `DeliversReading`: an input with a reading of a stored device;
* `Wired.HistoryComplete`: the history shows the delivered readings, each once.

## Main results

* `Wired.history_complete_iff`: in which runs the history is complete;
* `Wired.reading_lost`: a reading that the history does not show.
-/

namespace IotDashboard

open StdString DeviceManager

/-- What a history is to show of a reading. -/
def SensorReading.content (reading : SensorReading) :
    StdString × Double × StdString × Option StdString :=
  (reading.sensor, reading.value, reading.unit, reading.quality)

/-- The readings of a device that were delivered while it was stored, oldest first. -/
def deliveredTo (deviceId : StdString) (tr : WiredTrace) : List SensorReading :=
  tr.flatMap fun entry =>
    match entry.2 with
    | .delivered readings =>
      (readings.filter fun r => r.1.deviceId = deviceId ∧ r.2 = true).map Prod.fst
    | _ => []

/-- The input is a message with a reading of the device, which is stored. -/
def DeliversReading (V : Vendor) (deviceId : StdString) (w : Wired) : WiredInput → Prop
  | .message now topic payload =>
    decodeTopic topic = some (deviceId, lit "sensors") ∧
      (∃ reading, readSensors V now deviceId payload = .ok reading) ∧ deviceId ∈ w.ids
  | _ => False

namespace Wired

variable {V : Vendor} {w w₀ : Wired} {tr : WiredTrace} {deviceId : StdString}

/-- The readings that `GET /sensors` answers with for the options in its query when no call
fails. -/
def history (w : Wired) (opts : SensorQueryOptions) :
    Except CxxException (Result (List SensorReading)) :=
  (((SqliteSensorRepository.query opts).run Database.handle).run
    { w.app.backend.database with faults := fun _ => false }).1

/-- With a large enough limit, the history of a device shows the readings, each once. -/
def HistoryComplete (w : Wired) (deviceId : StdString) (delivered : List SensorReading) : Prop :=
  ∃ enough : UInt64, ∀ limit, enough ≤ limit → ∃ readings,
    w.history { deviceId, limit } = .ok (.ok readings) ∧
      (readings.map SensorReading.content).Perm (delivered.map SensorReading.content)

private theorem history_eq (w : Wired) (opts : SensorQueryOptions) :
    w.history opts = .ok (.ok ((selectReadings w.tables (SqliteSensorRepository.queryClauses opts)
      ((SqliteSensorRepository.queryValues opts).mapIdx fun i value => (i + 1, value))).map
        SqliteSensorRepository.rowToReading)) :=
  SqliteSensorRepository.run_query opts fun _ => rfl

/-- The answer of `GET /sensors` is made of the history for the options in its query. -/
theorem getSensors_answers {req : HttpRequest} {res : HttpResponse}
    (hreliable : w.app.backend.database.Reliable)
    (hid : (SensorController.queryOptions req).deviceId ≠ []) :
    ∃ readings, w.history (SensorController.queryOptions req) = .ok (.ok readings) ∧
      ((SensorController.getSensors V req res).run w.app).1 =
        (liftJson (V.dump (.mkObject [
          (lit "readings", .array (readings.map SensorController.readingToJson)),
          (lit "total", .number readings.length)]))).map (res.json 200) := by
  refine ⟨_, history_eq w _, ?_⟩
  rcases hquery : (App.sensors (SqliteSensorRepository.query
    (SensorController.queryOptions req))).run w.app with ⟨r, s'⟩
  obtain rfl : r = _ := (congrArg Prod.fst hquery).symm.trans
    (SqliteSensorRepository.run_query (SensorController.queryOptions req) hreliable)
  rw [SensorController.getSensors, if_neg (by simpa using hid), Stateful.run_bind_of_ok hquery]
  exact congrArg Prod.fst (App.run_json V res 200 _ s')

/-! ## Nothing is stored -/

/-- No reading is added to an empty table. -/
def StaysEmpty (t t' : Tables) : Prop := t.sensorReadings = [] → t'.sensorReadings = []

private theorem evolution_staysEmpty : Evolution StaysEmpty where
  refl _ h := h
  trans _ _ _ h h' hempty := h' (h hempty)

private theorem staysEmpty_of_mayStep {i : WiredInput} {write : Write} (h : i.MayStep write) :
    write.Keeps StaysEmpty := by
  intro t t' n happly hempty
  cases h with
  | insert row =>
    rw [Write.apply] at happly
    split at happly
    · cases happly
    · obtain ⟨rfl, -⟩ := Prod.mk.inj (Option.some.inj happly)
      exact hempty
  | delete =>
    obtain ⟨rfl, -⟩ := Prod.mk.inj (Option.some.inj happly)
    exact (congrArg (List.filter _) hempty).trans List.filter_nil
  | update =>
    obtain ⟨rfl, -⟩ := Prod.mk.inj (Option.some.inj happly)
    exact hempty

/-- The table of readings is empty in every state of a run. -/
theorem sensorReadings_of_run {guard : WiredTrace → Wired → WiredInput → Prop}
    (hrun : Mealy.Run (step V) guard w₀ tr w) (hempty : w₀.tables.sensorReadings = []) :
    w.tables.sensorReadings = [] :=
  hrun.invariant (P := fun w => w.tables.sensorReadings = []) hempty fun _ w _ h _ =>
    tables_step evolution_staysEmpty (fun _ => staysEmpty_of_mayStep) w h

/-- Without stored readings every history is empty. -/
theorem history_of_empty (hempty : w.tables.sensorReadings = []) (opts : SensorQueryOptions) :
    w.history opts = .ok (.ok []) := by
  rw [history_eq, selectReadings_of_empty hempty]
  rfl

/-- An empty history is complete if nothing was delivered. -/
theorem historyComplete_of_empty_iff (hempty : w.tables.sensorReadings = [])
    (delivered : List SensorReading) : w.HistoryComplete deviceId delivered ↔ delivered = [] := by
  simp only [HistoryComplete, history_of_empty hempty]
  constructor
  · rintro ⟨enough, hcomplete⟩
    obtain ⟨readings, hreadings, hperm⟩ := hcomplete enough (UInt64.le_refl enough)
    cases hreadings
    simpa using hperm.symm.eq_nil
  · rintro rfl
    exact ⟨0, fun _ _ => ⟨[], rfl, .refl _⟩⟩

/-! ## What is delivered -/

section Delivered

variable {now : Timestamp} {topic payload : StdString} {reading : SensorReading}

private theorem deviceId_of_readSensors (h : readSensors V now deviceId payload = .ok reading) :
    reading.deviceId = deviceId := by
  -- The fields are read one after the other, and each may throw.
  obtain ⟨j, -, h⟩ := Except.exists_of_bind_eq_ok h
  obtain ⟨sensor, -, h⟩ := Except.exists_of_bind_eq_ok h
  obtain ⟨value, -, h⟩ := Except.exists_of_bind_eq_ok h
  obtain ⟨unit, -, h⟩ := Except.exists_of_bind_eq_ok h
  obtain ⟨quality, -, h⟩ := Except.exists_of_bind_eq_ok h
  rw [← Except.ok.inj h]

/-- A sensors message with a reading calls the sensor callback with it, and does nothing else. -/
theorem calls_handleSensorMessage (h : readSensors V now deviceId payload = .ok reading) :
    (handleSensorMessage V now deviceId payload).calls (handle V) w =
      [.sensorCallback reading] := by
  have hprogram : handleSensorMessage V now deviceId payload =
      .call (.sensorCallback reading) fun r => Manager.catchJson (.ofExcept (liftJson r)) := by
    rw [handleSensorMessage, h]
    rfl
  rw [hprogram, Program.calls]
  congr 1
  split
  · next r w' _ => cases r <;> rfl
  · rfl

/-- A sensors message without a reading does nothing. -/
theorem calls_handleSensorMessage_of_error {e : JsonException}
    (h : readSensors V now deviceId payload = .error e) :
    (handleSensorMessage V now deviceId payload).calls (handle V) w = [] := by
  rw [handleSensorMessage, h]
  rfl

/-- Of all messages, those with a reading on a sensors topic deliver it. -/
theorem readings_message : w.readings ((handleMqttMessage V now topic payload).calls (handle V) w) =
    match decodeTopic topic with
    | none => []
    | some (deviceId, subtopic) =>
      if subtopic = lit "sensors" then
        match readSensors V now deviceId payload with
        | .error _ => []
        | .ok reading => [(reading, w.ids.contains reading.deviceId)]
      else [] := by
  -- Handlers that do not call the sensor callback deliver nothing.
  have hnone : ∀ p : Manager Unit,
      p.Within (fun e => ∀ r, e ≠ .sensorCallback r) (fun _ _ => True) →
      w.readings (p.calls (handle V) w) = [] := by
    intro p hp
    refine List.filterMap_eq_nil_iff.mpr fun e he => ?_
    have hcall := Program.of_mem_calls (fun _ _ _ _ _ => trivial) hp he
    cases e with
    | sensorCallback r => exact absurd rfl (hcall r)
    | _ => rfl
  unfold handleMqttMessage
  cases decodeTopic topic with
  | none => rfl
  | some decoded =>
    obtain ⟨deviceId, subtopic⟩ := decoded
    dsimp only
    -- Of the three subtopics only one is for readings.
    by_cases hsensors : subtopic = lit "sensors"
    · subst hsensors
      rw [if_neg (by decide), if_pos rfl, if_pos rfl]
      cases hread : readSensors V now deviceId payload with
      | error e =>
        rw [calls_handleSensorMessage_of_error hread]
        rfl
      | ok reading =>
        rw [calls_handleSensorMessage hread]
        rfl
    · rw [if_neg hsensors, if_neg hsensors]
      apply hnone
      split
      · exact within_handleStatusMessage nofun nofun nofun
      split
      · exact within_handleHeartbeat nofun nofun
      · trivial

end Delivered

/-! ## Runs -/

private theorem deliveredTo_append (tr tr' : WiredTrace) :
    deliveredTo deviceId (tr ++ tr') = deliveredTo deviceId tr ++ deliveredTo deviceId tr' :=
  List.flatMap_append

/-- A step delivers a reading to a stored device exactly if its input is one. -/
theorem deliveredTo_step_iff (w : Wired) (i : WiredInput) :
    deliveredTo deviceId [(i, (step V w i).1)] = [] ↔ ¬ DeliversReading V deviceId w i := by
  cases i with
  | message now topic payload =>
    simp only [step, readings_message, deliveredTo, List.flatMap_cons, List.flatMap_nil,
      List.append_nil, DeliversReading]
    cases hdecode : decodeTopic topic with
    | none => simp
    | some decoded =>
      obtain ⟨id, subtopic⟩ := decoded
      dsimp only
      by_cases hid : id = deviceId
      · subst hid
        by_cases hsensors : subtopic = lit "sensors"
        · subst hsensors
          cases hread : readSensors V now id payload with
          | error e => simp
          | ok reading => simp [deviceId_of_readSensors hread]
        · simp [hsensors]
      · -- A reading of another device is not one of this device.
        have hother : ∀ reading, readSensors V now id payload = .ok reading →
            reading.deviceId ≠ deviceId := fun _ hread =>
          (deviceId_of_readSensors hread).trans_ne hid
        cases hread : readSensors V now id payload with
        | error e => simp [hid]
        | ok reading =>
          by_cases hsensors : subtopic = lit "sensors" <;> simp [hid, hsensors, hother _ hread]
  | request env enableCors bReq => simp [step, deliveredTo, DeliversReading]
  | poll now => simp [step, deliveredTo, DeliversReading]
  | subscribeAll => simp [step, deliveredTo, DeliversReading]
  | connectionLost => simp [step, deliveredTo, DeliversReading]
  | reconnected => simp [step, deliveredTo, DeliversReading]

/-- In a run nothing was delivered exactly if no input was a reading of the stored device. -/
theorem deliveredTo_run_iff (hrun : Mealy.Run (step V) Mealy.anyInput w₀ tr w) :
    deliveredTo deviceId tr = [] ↔
      Mealy.Run (step V) (fun _ w i => ¬ DeliversReading V deviceId w i) w₀ tr w := by
  constructor
  · intro hnone
    induction hrun with
    | nil => exact .nil
    | @snoc tr w i _ _ ih =>
      obtain ⟨hbefore, hstep⟩ := List.append_eq_nil_iff.mp
        ((deliveredTo_append tr _).symm.trans hnone)
      exact (ih hbefore).snoc i ((deliveredTo_step_iff w i).mp hstep)
  · intro hguarded
    refine hguarded.historyInvariant (P := fun tr _ => deliveredTo deviceId tr = []) rfl ?_
    intro tr w i hbefore hstep
    rw [deliveredTo_append, hbefore, (deliveredTo_step_iff w i).mpr hstep, List.append_nil]

/-- In every run from a state without readings, the history of a device is complete exactly if no
message brought a reading of the device while it was stored. -/
theorem history_complete_iff (hrun : Mealy.Run (step V) Mealy.anyInput w₀ tr w)
    (hempty : w₀.tables.sensorReadings = []) (deviceId : StdString) :
    w.HistoryComplete deviceId (deliveredTo deviceId tr) ↔
      Mealy.Run (step V) (fun _ w i => ¬ DeliversReading V deviceId w i) w₀ tr w := by
  rw [historyComplete_of_empty_iff (sensorReadings_of_run hrun hempty)]
  exact deliveredTo_run_iff hrun

/-- A reading of another device leaves the history of the lamp complete. -/
theorem history_complete_other :
    ∃ (tr : WiredTrace) (w : Wired),
      Mealy.Run (step Vendor.reference) Mealy.anyInput (oneLamp 0) tr w ∧ tr.length = 1 ∧
      w.HistoryComplete (lit "d-1") (deliveredTo (lit "d-1") tr) := by
  let input : WiredInput := .message 0 (deviceTopic (lit "d-2") "sensors") (lit "\x7b\x7d")
  have hrun : Mealy.Run (step Vendor.reference) Mealy.anyInput (oneLamp 0) _ _ :=
    Mealy.Run.nil.snoc input trivial
  refine ⟨_, _, hrun, rfl, (history_complete_iff hrun rfl (lit "d-1")).mpr ?_⟩
  refine Mealy.Run.nil.snoc input ?_
  rintro ⟨hdecode, -⟩
  exact absurd hdecode (by decide)

/-- A reading of the lamp is delivered, and the history does not show it. -/
theorem reading_lost :
    ¬ ∀ (w₀ : Wired) (tr : WiredTrace) (w : Wired) (deviceId : StdString),
      Mealy.Run (step Vendor.reference) Mealy.anyInput w₀ tr w →
      w₀.tables.sensorReadings = [] → w.HistoryComplete deviceId (deliveredTo deviceId tr) := by
  intro hcomplete
  -- Every field of a reading has a default.
  let input : WiredInput := .message 0 (deviceTopic (lit "d-1") "sensors") (lit "\x7b\x7d")
  have hrun : Mealy.Run (step Vendor.reference) Mealy.anyInput (oneLamp 0) _ _ :=
    Mealy.Run.nil.snoc input trivial
  have hdelivers : DeliversReading Vendor.reference (lit "d-1") (oneLamp 0) input :=
    ⟨by decide, ⟨_, rfl⟩, List.mem_singleton.mpr rfl⟩
  refine (deliveredTo_step_iff (oneLamp 0) input).mp ?_ hdelivers
  exact (historyComplete_of_empty_iff (sensorReadings_of_run hrun rfl) _).mp
    (hcomplete _ _ _ (lit "d-1") hrun rfl)

end Wired

end IotDashboard
