import IotDashboard.Database.SensorRepository

/-!
# What a purge deletes

`Purge` turns the days into hours with 32 bits and the hours into nanoseconds with 64. The time
before which it deletes is right as long as the clock, which counts nanoseconds from the epoch, can
express it. The 32-bit product is then exact; the 64-bit one may overflow, but the difference does
not. Beyond that the wrapped time is always a later one, and readings that are too recent are
deleted.

## Main definitions

* `SqliteSensorRepository.PurgesExactly`: the readings that are too old are deleted, and counted.

## Main results

* `SqliteSensorRepository.purgeCutoffMs_eq` and `lt_purgeCutoffMs`: the time before which `Purge`
  deletes;
* `SqliteSensorRepository.purgesExactly_iff`: the retentions for which `Purge` is right.
-/

namespace IotDashboard

namespace SqliteSensorRepository

variable {d : Database} {now : Timestamp} {retentionDays retentionDays' : UInt32}

/-- The time that lies the days back, in nanoseconds since the epoch. -/
def retentionStart (now : Timestamp) (retentionDays : UInt32) : ℤ :=
  now.toInt - retentionDays.toNat * 86400 * 1000000000

/-- The reading is older than the days, to the millisecond. -/
def Expired (now : Timestamp) (retentionDays : UInt32) (row : ReadingRow) : Prop :=
  row.timestampMs.toInt < (retentionStart now retentionDays).tdiv 1000000

instance (row : ReadingRow) : Decidable (Expired now retentionDays row) :=
  inferInstanceAs (Decidable (_ < _))

/-- The readings older than the days are deleted, and no others; their number is returned, if it is
one that the type of the result has. -/
def PurgesExactly (d : Database) (now : Timestamp) (retentionDays : UInt32) : Prop :=
  ∃ (count : UInt32) (d' : Database),
    ((purge now retentionDays).run Database.handle).run d = (.ok (.ok count), d') ∧
    d'.tables.devices = d.tables.devices ∧
    d'.tables.sensorReadings =
      d.tables.sensorReadings.filter (¬ Expired now retentionDays ·) ∧
    (d.tables.sensorReadings.countP (Expired now retentionDays ·) < 2 ^ 32 →
      count.toNat = d.tables.sensorReadings.countP (Expired now retentionDays ·))

/-! ## The cutoff -/

/-- More days lie further back. -/
theorem retentionStart_antitone (h : retentionDays ≤ retentionDays') :
    retentionStart now retentionDays' ≤ retentionStart now retentionDays := by
  have hdays : retentionDays.toNat ≤ retentionDays'.toNat := h
  simp only [retentionStart]
  omega

/-- Where the purges for two retentions are exact, the longer one deletes nothing that the shorter
one keeps. -/
theorem PurgesExactly.sublist {result result' : Except CxxException (Result UInt32)}
    {after after' : Database} (h : PurgesExactly d now retentionDays)
    (h' : PurgesExactly d now retentionDays') (hle : retentionDays ≤ retentionDays')
    (hrun : ((purge now retentionDays).run Database.handle).run d = (result, after))
    (hrun' : ((purge now retentionDays').run Database.handle).run d = (result', after')) :
    after.tables.sensorReadings.Sublist after'.tables.sensorReadings := by
  obtain ⟨_, _, heq, -, hrows, -⟩ := h
  obtain ⟨_, _, heq', -, hrows', -⟩ := h'
  obtain ⟨-, rfl⟩ := Prod.mk.inj (hrun.symm.trans heq)
  obtain ⟨-, rfl⟩ := Prod.mk.inj (hrun'.symm.trans heq')
  rw [hrows, hrows']
  refine List.monotone_filter_right _ fun row hrow => ?_
  simp only [decide_eq_true_eq, Expired, not_lt] at hrow ⊢
  exact (Int.tdiv_le_tdiv (by decide) (retentionStart_antitone hle)).trans hrow

/-- The cast to milliseconds, on either side of the epoch. -/
theorem tdiv_cases (n : ℤ) : 0 ≤ n ∧ n.tdiv 1000000 = n / 1000000 ∨
    n < 0 ∧ n.tdiv 1000000 = -(-n / 1000000) := by
  rcases Int.lt_or_le n 0 with hneg | hnonneg
  · refine .inr ⟨hneg, ?_⟩
    rw [← Int.tdiv_eq_ediv_of_nonneg (by omega), Int.neg_tdiv, neg_neg]
  · exact .inl ⟨hnonneg, Int.tdiv_eq_ediv_of_nonneg hnonneg⟩

/-- The time before which `Purge` deletes, as the arithmetic of C++ gives it: the hours are taken
modulo `2 ^ 32`, and the nanoseconds wrap around. -/
theorem exists_purgeCutoffMs (now : Timestamp) (retentionDays : UInt32) :
    ∃ start k : ℤ, (purgeCutoffMs now retentionDays).toInt = start.tdiv 1000000 ∧
      -2 ^ 63 ≤ start ∧ start < 2 ^ 63 ∧
      start = now.toInt - 24 * retentionDays.toNat % 2 ^ 32 * 3600000000000 + k * 2 ^ 64 := by
  have hhours : (Int64.ofNat (24 * retentionDays).toNat).toInt =
      24 * (retentionDays.toNat : ℤ) % 2 ^ 32 := by
    rw [Int64.toInt_ofNat_of_lt]
    · rw [UInt32.toNat_mul]
      push_cast
      rfl
    · have hlt := (24 * retentionDays).toNat_lt
      omega
  have hfactor : (3600000000000 : Int64).toInt = 3600000000000 := by decide
  have hdivisor : (1000000 : Int64).toInt = 1000000 := by decide
  let difference := now - Int64.ofNat (24 * retentionDays).toNat * 3600000000000
  have hdifference : difference.toInt =
      (now.toInt - 24 * retentionDays.toNat % 2 ^ 32 * 3600000000000).bmod (2 ^ 64) := by
    rw [Int64.toInt_sub, Int64.toInt_mul, Int.sub_bmod_bmod, hhours, hfactor]
  refine ⟨difference.toInt, -Int.bdiv (now.toInt -
    24 * retentionDays.toNat % 2 ^ 32 * 3600000000000) (2 ^ 64), ?_, difference.le_toInt,
    difference.toInt_lt, ?_⟩
  · show (difference / 1000000).toInt = _
    rw [Int64.toInt_div_of_ne_right _ _ (by decide), hdivisor]
  · rw [hdifference, Int.bmod_eq_self_sub_bdiv_mul]
    push_cast
    ring

/-- As long as the clock can express the time, nothing is lost. -/
theorem purgeCutoffMs_eq (h : -2 ^ 63 ≤ retentionStart now retentionDays) :
    (purgeCutoffMs now retentionDays).toInt =
      (retentionStart now retentionDays).tdiv 1000000 := by
  obtain ⟨start, k, hcutoff, hle, hlt, hstart⟩ := exists_purgeCutoffMs now retentionDays
  have hnow := now.toInt_lt
  rw [retentionStart] at h ⊢
  rw [hcutoff]
  -- The hours fit in 32 bits, and both differences are between the bounds.
  have hk : k = 0 := by omega
  congr 1
  omega

/-- Beyond that, the readings before a later time are deleted. -/
theorem lt_purgeCutoffMs (h : retentionStart now retentionDays < -2 ^ 63) :
    (retentionStart now retentionDays).tdiv 1000000 <
      (purgeCutoffMs now retentionDays).toInt := by
  obtain ⟨start, k, hcutoff, hle, hlt, hstart⟩ := exists_purgeCutoffMs now retentionDays
  have hnow := now.toInt_lt
  have hsource := tdiv_cases (retentionStart now retentionDays)
  have htarget := tdiv_cases start
  rw [hcutoff]
  rw [retentionStart] at h hsource ⊢
  omega

/-! ## The purge -/

/-- `Purge` on a connection without failures. -/
theorem run_purge (hreliable : d.Reliable) :
    ((purge now retentionDays).run Database.handle).run d =
      (.ok (.ok (UInt32.ofNat (d.tables.sensorReadings.countP
        (·.timestampMs < purgeCutoffMs now retentionDays)))),
      { (d.tick 1).tick 1 with
        tables := d.tables.deleteReadings (purgeCutoffMs now retentionDays)
        changes := d.tables.sensorReadings.countP
          (·.timestampMs < purgeCutoffMs now retentionDays) }) := by
  have hstep := Database.step_of_apply (Database.reliable_tick hreliable 1)
    (w := .deleteReadings (purgeCutoffMs now retentionDays)) rfl
  simp only [purge, Program.run_bind, Stateful.run_bind, Database.run_new, hreliable 0,
    Bool.false_eq_true, if_false, Database.run_statement_step, Database.run_changes, hstep]
  rfl

/-- Where the cutoff is right, so is the purge. -/
theorem purgesExactly_of_cutoff (hreliable : d.Reliable)
    (h : (purgeCutoffMs now retentionDays).toInt =
      (retentionStart now retentionDays).tdiv 1000000) : PurgesExactly d now retentionDays := by
  have hexpired (row : ReadingRow) : row.timestampMs < purgeCutoffMs now retentionDays ↔
      Expired now retentionDays row := by
    rw [Int64.lt_iff_toInt_lt, h, Expired]
  refine ⟨_, _, run_purge hreliable, rfl, ?_, fun hcount => ?_⟩
  · simp only [Tables.deleteReadings, hexpired]
  · simp only [hexpired]
    exact UInt32.toNat_ofNat_of_lt' hcount

/-- For every retention and every time: the purges of all tables are exact if and only if the time
that lies the days back can be expressed in nanoseconds. -/
theorem purgesExactly_iff (now : Timestamp) (retentionDays : UInt32) :
    (∀ d : Database, d.Reliable → PurgesExactly d now retentionDays) ↔
      -2 ^ 63 ≤ retentionStart now retentionDays := by
  constructor
  · intro h
    by_contra hbeyond
    -- A reading just before the cutoff is deleted, and is too recent.
    have hlate := lt_purgeCutoffMs (Int.not_le.mp hbeyond)
    have hmax := (purgeCutoffMs now retentionDays).toInt_lt
    have hmin : -2 ^ 63 ≤ (purgeCutoffMs now retentionDays).toInt - 1 := by
      have hdays := retentionDays.toNat_lt
      have hnow := now.le_toInt
      have hcast := tdiv_cases (retentionStart now retentionDays)
      simp only [retentionStart] at hcast hlate
      omega
    let ms := Int64.ofInt ((purgeCutoffMs now retentionDays).toInt - 1)
    have hms : ms.toInt = (purgeCutoffMs now retentionDays).toInt - 1 :=
      Int64.toInt_ofInt_of_le hmin (by omega)
    have hreliable : ({ tables := readingsAt [ms] } : Database).Reliable := fun _ => rfl
    obtain ⟨_, _, hrun, -, hrows, -⟩ := h _ hreliable
    obtain ⟨-, rfl⟩ := Prod.mk.inj ((run_purge hreliable).symm.trans hrun)
    have hdeleted : ms < purgeCutoffMs now retentionDays := by
      rw [Int64.lt_iff_toInt_lt, hms]
      omega
    simp [Tables.deleteReadings, readingsAt, Expired, hms, hdeleted] at hrows
    omega
  · intro h d hreliable
    exact purgesExactly_of_cutoff hreliable (purgeCutoffMs_eq h)

/-- The hours of 178956971 days are eight modulo `2 ^ 32`, so a reading is deleted that is ten hours
old, and that a purge for one day keeps. -/
theorem not_purgesExactly_eightHours :
    let d : Database := { tables := readingsAt [1749964000000] }
    ¬ PurgesExactly d 1750000000000000000 178956971 ∧
      (((purge 1750000000000000000 1).run Database.handle).run d).2.tables.sensorReadings =
        d.tables.sensorReadings ∧
      (((purge 1750000000000000000 178956971).run Database.handle).run d).2.tables.sensorReadings =
        [] := by
  refine ⟨?_, by decide, by decide⟩
  rintro ⟨_, _, hrun, -, hrows, -⟩
  rw [run_purge fun _ => rfl] at hrun
  obtain ⟨-, rfl⟩ := Prod.mk.inj hrun
  exact absurd hrows (by decide)

end SqliteSensorRepository

end IotDashboard
