import IotDashboard.Database.SensorRepository

/-!
# What a query returns

`Query` writes the text of its statement and then binds the values, each by a chain of the same
conditions. The two chains give a clause for each value and a value for each clause, in the same
order; so the statement selects what the options ask for. A limit of `2 ^ 63` or more is bound as a
negative number, which is no limit, but no table has so many rows.

## Main definitions

* `SqliteSensorRepository.querySql`: the text of the statement;
* `Selects`: the results that SQL allows for the statement, which leaves the order of rows with
  equal time stamps open;
* `SqliteSensorRepository.Answers`: what the options ask for.

## Main results

* `SqliteSensorRepository.queryValues_eq`: the values are those of the clauses;
* `SqliteSensorRepository.answers_of_selects`: what SQL selects is what the options ask for;
* `SqliteSensorRepository.query_answers`: the result of a query.
-/

namespace IotDashboard

open StdString

/-! ## Clauses and placeholders -/

/-- The text of a clause. -/
def ReadingClause.sql : ReadingClause → String
  | .deviceId => " WHERE device_id = ?"
  | .sensorType => " AND sensor_type = ?"
  | .timestampFrom => " AND timestamp_ms >= ?"
  | .timestampTo => " AND timestamp_ms <= ?"
  | .limit => " ORDER BY timestamp_ms DESC LIMIT ?"

/-- Every clause has one placeholder. -/
theorem count_sql (clauses : List ReadingClause) :
    (clauses.flatMap fun c => lit c.sql).count (byte '?') = clauses.length := by
  induction clauses with
  | nil => rfl
  | cons c clauses ih =>
    have hone : (lit c.sql).count (byte '?') = 1 := by cases c <;> decide
    rw [List.flatMap_cons, List.count_append, hone, ih, List.length_cons, Nat.add_comm]

/-- Values that are bound in turn stand at the placeholders in turn. -/
theorem boundParam_mapIdx (values : List SqlParam) {k : ℕ} {value : SqlParam}
    (h : values[k]? = some value) :
    boundParam (values.mapIdx fun i value => (i + 1, value)) (k + 1) = value := by
  induction values using List.reverseRecOn with
  | nil => cases h
  | append_singleton values last ih =>
    rw [boundParam, List.mapIdx_concat, List.reverse_append, List.reverse_singleton,
      List.singleton_append]
    rcases Nat.lt_or_ge k values.length with hk | hk
    · rw [List.getElem?_append_left hk] at h
      rw [List.find?_cons_of_neg (by simp; omega)]
      exact ih h
    · obtain ⟨hk', -⟩ := List.getElem?_eq_some_iff.mp h
      have heq : k = values.length := by
        rw [List.length_append, List.length_singleton] at hk'
        omega
      subst heq
      rw [List.getElem?_append_right (le_refl _), Nat.sub_self] at h
      rw [List.find?_cons_of_pos (by simp)]
      exact Option.some.inj h

/-- A result that SQL allows: the rows that meet the clauses, newest first, up to the limit. -/
def Selects (t : Tables) (clauses : List ReadingClause) (params : List (ℕ × SqlParam))
    (rows : List ReadingRow) : Prop :=
  let bound := clauses.mapIdx fun i clause => (clause, boundParam params (i + 1))
  ∃ sorted : List ReadingRow,
    sorted.Perm (t.sensorReadings.filter fun row => bound.all fun b => b.1.matches row b.2) ∧
    (sorted.Pairwise fun a b => b.timestampMs ≤ a.timestampMs) ∧
    rows = bound.foldl limitRows sorted

/-- The result of the model is one of them. -/
theorem selects_selectReadings (t : Tables) (clauses : List ReadingClause)
    (params : List (ℕ × SqlParam)) :
    Selects t clauses params (selectReadings t clauses params) := by
  refine ⟨_, List.mergeSort_perm _ _, ?_, rfl⟩
  have hsorted (rows : List ReadingRow) :
      (rows.mergeSort fun a b => b.timestampMs ≤ a.timestampMs).Pairwise
        fun a b => decide (b.timestampMs ≤ a.timestampMs) := by
    refine List.pairwise_mergeSort (fun a b c hab hbc => ?_) (fun a b => ?_) rows
    · rw [decide_eq_true_eq] at hab hbc ⊢
      exact Int64.le_trans hbc hab
    · simpa using Int64.le_total b.timestampMs a.timestampMs
  exact (hsorted _).imp fun h => by simpa using h

namespace SqliteSensorRepository

variable {d : Database} {opts : SensorQueryOptions}

/-- The text of the statement that `Query` builds. -/
def querySql (opts : SensorQueryOptions) : StdString :=
  lit "SELECT device_id, sensor_type, value, unit, timestamp_ms, quality " ++
    lit "FROM sensor_readings WHERE device_id = ?" ++
    (if opts.sensorType.isEmpty then [] else lit " AND sensor_type = ?") ++
    (if 0 < opts.fromTime.toUnixMs then lit " AND timestamp_ms >= ?" else []) ++
    (if 0 < opts.toTime.toUnixMs then lit " AND timestamp_ms <= ?" else []) ++
    lit " ORDER BY timestamp_ms DESC LIMIT ?;"

/-- The parameters that `Query` binds. -/
def queryParams (opts : SensorQueryOptions) : List (ℕ × SqlParam) :=
  (queryValues opts).mapIdx fun i value => (i + 1, value)

/-- The value that belongs to a clause. -/
def clauseValue (opts : SensorQueryOptions) : ReadingClause → SqlParam
  | .deviceId => .text opts.deviceId
  | .sensorType => .text opts.sensorType
  | .timestampFrom => .integer opts.fromTime.toUnixMs
  | .timestampTo => .integer opts.toTime.toUnixMs
  | .limit => .integer opts.limit.toInt64

/-- The text before the clauses. -/
def querySelect : String :=
  "SELECT device_id, sensor_type, value, unit, timestamp_ms, quality FROM sensor_readings"

/-- The text is that of the clauses. -/
theorem querySql_eq : querySql opts =
    lit querySelect ++ ((queryClauses opts).flatMap fun c => lit c.sql) ++ lit ";" := by
  have hselect : lit "SELECT device_id, sensor_type, value, unit, timestamp_ms, quality " ++
      lit "FROM sensor_readings WHERE device_id = ?" =
      lit querySelect ++ lit " WHERE device_id = ?" := by decide
  have horder : lit " ORDER BY timestamp_ms DESC LIMIT ?;" =
      lit " ORDER BY timestamp_ms DESC LIMIT ?" ++ lit ";" := by decide
  rw [querySql, hselect, horder, queryClauses]
  split_ifs <;> simp [ReadingClause.sql]

/-- The two chains of conditions agree. -/
theorem queryValues_eq : queryValues opts = (queryClauses opts).map (clauseValue opts) := by
  rw [queryValues, queryClauses]
  split_ifs <;> rfl

/-- Each placeholder has the value of its clause. -/
theorem boundParam_queryParams {k : ℕ} {c : ReadingClause}
    (h : (queryClauses opts)[k]? = some c) :
    boundParam (queryParams opts) (k + 1) = clauseValue opts c := by
  apply boundParam_mapIdx
  rw [queryValues_eq, List.getElem?_map, h, Option.map_some]

/-! ## What is selected -/

/-- The options ask for the row. -/
def Wanted (opts : SensorQueryOptions) (row : ReadingRow) : Prop :=
  row.deviceId = opts.deviceId ∧ (opts.sensorType ≠ [] → row.sensorType = opts.sensorType) ∧
    (0 < opts.fromTime.toUnixMs → opts.fromTime.toUnixMs ≤ row.timestampMs) ∧
    (0 < opts.toTime.toUnixMs → row.timestampMs ≤ opts.toTime.toUnixMs)

instance (row : ReadingRow) : Decidable (Wanted opts row) :=
  inferInstanceAs (Decidable (_ ∧ _ ∧ _ ∧ _))

/-- The first of the rows that the options ask for, newest first, as many as the limit. -/
def Answers (opts : SensorQueryOptions) (t : Tables) (rows : List ReadingRow) : Prop :=
  (∃ sorted : List ReadingRow, sorted.Perm (t.sensorReadings.filter (Wanted opts ·)) ∧
    (sorted.Pairwise fun a b => b.timestampMs ≤ a.timestampMs) ∧
    rows = sorted.take opts.limit.toNat) ∧
  rows.length ≤ opts.limit.toNat

/-- The clauses with their values. -/
theorem mapIdx_queryClauses :
    (queryClauses opts).mapIdx (fun i c => (c, boundParam (queryParams opts) (i + 1))) =
      (queryClauses opts).map fun c => (c, clauseValue opts c) := by
  refine List.ext_getElem? fun k => ?_
  rw [List.getElem?_mapIdx, List.getElem?_map]
  cases hk : (queryClauses opts)[k]? with
  | none => rfl
  | some c => rw [Option.map_some, Option.map_some, boundParam_queryParams hk]

/-- The clauses select the rows that the options ask for. -/
theorem all_matches_iff (row : ReadingRow) :
    ((queryClauses opts).map fun c => (c, clauseValue opts c)).all
      (fun b => b.1.matches row b.2) = true ↔ Wanted opts row := by
  rw [queryClauses, Wanted]
  split_ifs <;> simp_all [ReadingClause.matches, clauseValue]

/-- Only the last clause limits the rows. -/
theorem foldl_limitRows (rows : List ReadingRow) :
    ((queryClauses opts).map fun c => (c, clauseValue opts c)).foldl limitRows rows =
      limitRows rows (.limit, .integer opts.limit.toInt64) := by
  rw [queryClauses]
  split_ifs <;> rfl

/-- No table has as many rows as a limit that is bound as a negative number. -/
theorem limitRows_limit {rows : List ReadingRow} (hrows : rows.length ≤ 2 ^ 63) :
    limitRows rows (.limit, .integer opts.limit.toInt64) = rows.take opts.limit.toNat := by
  have hlimit : opts.limit.toInt64.toInt = (opts.limit.toNat : ℤ).bmod (2 ^ 64) :=
    BitVec.toInt_eq_toNat_bmod opts.limit.toBitVec
  have hlt := opts.limit.toNat_lt
  rw [Int.bmod_def] at hlimit
  rw [limitRows]
  by_cases hsmall : opts.limit.toNat < 2 ^ 63
  · have hvalue : opts.limit.toInt64.toInt = opts.limit.toNat := by omega
    have hnonneg : ¬ opts.limit.toInt64 < 0 := by
      rw [Int64.lt_iff_toInt_lt, hvalue, Int64.toInt_zero]
      omega
    rw [if_neg hnonneg, hvalue, Int.toNat_natCast]
  · have hnegative : opts.limit.toInt64 < 0 := by
      rw [Int64.lt_iff_toInt_lt, Int64.toInt_zero]
      omega
    rw [if_pos hnegative, List.take_of_length_le (by omega)]

/-- Every result that SQL allows is what the options ask for. -/
theorem answers_of_selects {t : Tables} {rows : List ReadingRow}
    (hrows : t.sensorReadings.length ≤ 2 ^ 63)
    (h : Selects t (queryClauses opts) (queryParams opts) rows) : Answers opts t rows := by
  obtain ⟨sorted, hperm, hsorted, rfl⟩ := h
  rw [mapIdx_queryClauses] at hperm ⊢
  have hwanted : (t.sensorReadings.filter fun row =>
      ((queryClauses opts).map fun c => (c, clauseValue opts c)).all fun b => b.1.matches row b.2) =
      t.sensorReadings.filter (Wanted opts ·) :=
    List.filter_congr fun row _ =>
      Bool.eq_iff_iff.mpr ((all_matches_iff row).trans decide_eq_true_iff.symm)
  rw [hwanted] at hperm
  have hlength : sorted.length ≤ 2 ^ 63 :=
    hperm.length_eq.trans_le ((List.length_filter_le _ _).trans hrows)
  rw [foldl_limitRows, limitRows_limit hlength]
  exact ⟨⟨sorted, hperm, hsorted, rfl⟩, List.length_take_le _ _⟩

/-- For every table that row numbers can count, and all options: the statement has a placeholder
for each value, bound to the value of its own clause; every result that SQL allows for it is what
the options ask for; and `Query` decodes the rows of such a result. -/
theorem query_answers (opts : SensorQueryOptions) (hreliable : d.Reliable)
    (hrows : d.tables.sensorReadings.length ≤ 2 ^ 63) :
    (querySql opts).count (byte '?') = (queryParams opts).length ∧
    querySql opts =
      lit querySelect ++ ((queryClauses opts).flatMap fun c => lit c.sql) ++ lit ";" ∧
    (∀ k c, (queryClauses opts)[k]? = some c →
      boundParam (queryParams opts) (k + 1) = clauseValue opts c) ∧
    (∀ rows, Selects d.tables (queryClauses opts) (queryParams opts) rows →
      Answers opts d.tables rows) ∧
    ∃ rows, Selects d.tables (queryClauses opts) (queryParams opts) rows ∧
      (((query opts).run Database.handle).run d).1 = .ok (.ok (rows.map rowToReading)) := by
  refine ⟨?_, querySql_eq, fun k c => boundParam_queryParams, fun rows => answers_of_selects hrows,
    _, selects_selectReadings _ _ _, run_query opts hreliable⟩
  have hselect : (lit querySelect).count (byte '?') = 0 := by decide
  have hend : (lit ";").count (byte '?') = 0 := by decide
  rw [querySql_eq, List.count_append, List.count_append, count_sql, hselect, hend, queryParams,
    List.length_mapIdx, queryValues_eq, List.length_map]
  omega

/-- The limit is `2 ^ 63`, which is bound as a negative number. -/
theorem query_answers_largeLimit :
    let d : Database := { tables := readingsAt [1000, 2000] }
    let opts : SensorQueryOptions := { deviceId := lit "t-1", limit := 9223372036854775808 }
    (∀ rows, Selects d.tables (queryClauses opts) (queryParams opts) rows →
      Answers opts d.tables rows) ∧
    ∃ rows, Selects d.tables (queryClauses opts) (queryParams opts) rows ∧
      (((query opts).run Database.handle).run d).1 = .ok (.ok (rows.map rowToReading)) :=
  (query_answers { deviceId := lit "t-1", limit := 9223372036854775808 } (fun _ => rfl)
    (by decide)).2.2.2

end SqliteSensorRepository

end IotDashboard
