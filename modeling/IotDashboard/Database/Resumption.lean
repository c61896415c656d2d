import IotDashboard.Database.Migrations

/-!
# Migrations that fail half-way

A migration is meant to be applied as a whole together with its version, so that the next start
takes up where this one stopped. Of the five steps of a migration, the outcome of the version
insert is dropped, and an insert that cannot be prepared throws out of the open transaction.

## Main results

* `MigrationManager.allOrNothing_iff`: the exact failure patterns that `Migrate` recovers from;
* `MigrationManager.unrecorded_migration_reapplied`: an insert that fails.
-/

namespace IotDashboard

namespace MigrationManager

open SchemaDatabase

/-- The registered migrations above the version of the database. -/
def pending (migrations : List Migration) (d : SchemaDatabase) : List Migration :=
  migrations.filter fun m => d.version < m.version

/-- What a call of `Migrate` leaves behind. -/
structure AllOrNothing (migrations : List Migration) (d : SchemaDatabase)
    (run : Except CxxException (Result Unit) × SchemaDatabase) : Prop where
  /-- No transaction is left open. -/
  closed : run.2.transaction = none
  /-- The migrations in effect are those up to the current version. -/
  inEffect : ∀ m ∈ migrations, m ∈ run.2.schema.applied ↔ m.version ≤ run.2.version
  /-- The newly applied ones are the first of the pending ones, and none has broken off. -/
  inOrder : ∃ new, new <+: pending migrations d ∧
    run.2.schema.applied = d.schema.applied ++ new ∧
    run.2.schema.interrupted = d.schema.interrupted
  /-- Success is reported exactly when none is pending. -/
  reported : run.1 = .ok (.ok ()) ↔ pending migrations run.2 = []
  /-- A later call without failures applies the remaining ones, and one more changes nothing. -/
  resumes :
    let again := ((migrate migrations).run handle).run run.2.withoutFaults
    again.1 = .ok (.ok ()) ∧
      again.2.schema.applied = run.2.schema.applied ++
        migrations.filter (· ∉ run.2.schema.applied) ∧
      (((migrate migrations).run handle).run again.2).2.schema = again.2.schema

/-- Of `n` attempts, the first `k` get past their `COMMIT`, and the next one, if any, fails before
its insert is prepared or at its `COMMIT`. Each attempt makes five calls that can fail. -/
structure StopsCleanly (faults : ℕ → Bool) (n k : ℕ) : Prop where
  le : k ≤ n
  commits : ∀ i < k, faults (5 * i) = false ∧ faults (5 * i + 1) = false ∧
    faults (5 * i + 2) = false ∧ faults (5 * i + 4) = false
  stops : k = n ∨ faults (5 * k) = true ∨ faults (5 * k + 1) = true ∨
    faults (5 * k + 2) = false ∧ faults (5 * k + 4) = true

/-- After an attempt that commits, the others are as many attempts five calls later. -/
theorem StopsCleanly.tail {faults : ℕ → Bool} {n k : ℕ} (h : StopsCleanly faults (n + 1) (k + 1)) :
    StopsCleanly (fun i => faults (i + 5)) n k where
  le := Nat.le_of_succ_le_succ h.le
  commits i hi := by
    simpa only [Nat.mul_succ, Nat.add_right_comm] using h.commits (i + 1) (Nat.succ_lt_succ hi)
  stops := by
    simpa only [Nat.mul_succ, Nat.add_right_comm, Nat.succ.injEq] using h.stops

/-- One more migration goes through before the clean stop. -/
theorem StopsCleanly.cons {faults : ℕ → Bool} {n k : ℕ}
    (hfirst : faults 0 = false ∧ faults 1 = false ∧ faults 2 = false ∧ faults 4 = false)
    (h : StopsCleanly (fun i => faults (i + 5)) n k) : StopsCleanly faults (n + 1) (k + 1) where
  le := Nat.succ_le_succ h.le
  commits i hi := by
    cases i with
    | zero => exact hfirst
    | succ i =>
      simpa only [Nat.mul_succ, Nat.add_right_comm] using
        h.commits i (Nat.lt_of_succ_lt_succ hi)
  stops := by
    simpa only [Nat.mul_succ, Nat.add_right_comm, Nat.succ.injEq] using h.stops

/-- The database after the first `k` of the migrations, and no other, have been committed. -/
structure Committed (d : SchemaDatabase) (rows : List VersionRow) (ms : List Migration) (k : ℕ)
    (d' : SchemaDatabase) : Prop where
  closed : d'.transaction = none
  applied : d'.schema.applied = d.schema.applied ++ ms.take k
  interrupted : d'.schema.interrupted = d.schema.interrupted
  faults : ∃ n, ∀ i, d'.faults i = d.faults (i + n)
  /-- The versions whose insert succeeded have been added. -/
  versions : ∃ new, d'.schema.versions = some (rows ++ new) ∧
    ∀ v, (∃ row ∈ new, row.version = v) ↔
      ∃ i, ∃ h : i < ms.length, i < k ∧ d.faults (5 * i + 3) = false ∧ v = ms[i].version.toInt64

variable {d : SchemaDatabase} {rows : List VersionRow} {current : Int32} {ms : List Migration}

/-- The loop skips what is not above the current version. -/
theorem applyAll_eq_filter (current : Int32) (migrations : List Migration) :
    applyAll current migrations =
      applyAll current (migrations.filter fun m => current < m.version) := by
  induction migrations with
  | nil => rfl
  | cons m ms ih =>
    by_cases h : m.version ≤ current
    · have hskip : ¬ current < m.version := Int32.not_lt.mpr h
      rw [applyAll, if_pos h, List.filter_cons_of_neg (by simpa using hskip), ih]
    · have hkeep : current < m.version := Int32.not_le.mp h
      rw [applyAll, if_neg h, List.filter_cons_of_pos (by simpa using hkeep), applyAll, if_neg h,
        ih]

/-- The loop on a pending migration. -/
theorem run_applyAll_cons {m : Migration} (h : current < m.version) (d : SchemaDatabase) :
    ((applyAll current (m :: ms)).run handle).run d =
      match ((applyMigration m).run handle).run d with
      | (.ok (.ok ()), d') => ((applyAll current ms).run handle).run d'
      | (.ok (.error e), d') => (.ok (.error e), d')
      | (.error x, d') => (.error x, d') := by
  rw [applyAll, if_neg (Int32.not_le.mpr h), Program.run_bind, Stateful.run_bind]
  rcases ((applyMigration m).run handle).run d with ⟨_ | _ | _, _⟩ <;> rfl

/-- An attempt that fails cleanly has changed nothing. -/
theorem run_applyMigration_of_fails {m : Migration} (ht : d.transaction = none)
    (hrows : d.schema.versions = some rows) (hfails : d.faults 0 = true ∨ d.faults 1 = true ∨
      d.faults 2 = false ∧ d.faults 4 = true) :
    ∃ d', ((applyMigration m).run handle).run d = (.ok (.error .databaseError), d') ∧
      d'.schema = d.schema ∧ d'.transaction = none ∧ ∃ n, ∀ i, d'.faults i = d.faults (i + n) := by
  by_cases hbegin : d.faults 0 = true
  · exact ⟨_, run_applyMigration_of_noBegin (.inl hbegin), rfl, ht, 1, fun _ => rfl⟩
  have hbegin : d.faults 0 = false := Bool.eq_false_iff.mpr hbegin
  by_cases hscript : d.faults 1 = true
  · exact ⟨_, run_applyMigration_of_scriptFails hbegin ht hscript, rfl, ht, 2, fun _ => rfl⟩
  obtain ⟨hprepare, hcommit⟩ := (hfails.resolve_left (by simp [hbegin])).resolve_left hscript
  exact ⟨_, run_applyMigration_of_uncommitted hbegin ht (Bool.eq_false_iff.mpr hscript) hprepare
    hrows hcommit, rfl, ht, 5, fun _ => rfl⟩

/-- What the loop leaves behind when it stops cleanly. The induction is on the migrations; each
one that commits shifts the failures by five. -/
theorem run_applyAll_of_stopsCleanly {k : ℕ} (hms : ∀ m ∈ ms, current < m.version)
    (ht : d.transaction = none) (hrows : d.schema.versions = some rows)
    (hk : StopsCleanly d.faults ms.length k) :
    ∃ d', ((applyAll current ms).run handle).run d =
        (.ok (if k = ms.length then .ok () else .error .databaseError), d') ∧
      Committed d rows ms k d' := by
  -- The loop is followed migration by migration; `k` is how many are committed.
  induction ms generalizing d rows k with
  | nil =>
    obtain rfl : k = 0 := Nat.le_zero.mp hk.le
    refine ⟨d, rfl, ht, (List.append_nil _).symm, rfl, ⟨0, fun _ => rfl⟩, [], ?_, fun v => ?_⟩
    · rw [hrows, List.append_nil]
    · simp
  | cons m ms ih =>
    have hm : current < m.version := hms m List.mem_cons_self
    rw [run_applyAll_cons hm]
    cases k with
    | zero =>
      -- The first migration breaks off, and its transaction is rolled back.
      have hfails := hk.stops.resolve_left (by simp)
      obtain ⟨d', hrun, hschema, ht', hticks⟩ :=
        run_applyMigration_of_fails (m := m) ht hrows hfails
      refine ⟨d', by rw [hrun]; rfl, ht', ?_, ?_, hticks, [], ?_, fun v => ?_⟩
      · rw [hschema, List.take_zero, List.append_nil]
      · rw [hschema]
      · rw [hschema, hrows, List.append_nil]
      · simp
    | succ k =>
      -- The first one is committed, with five calls, and the rest goes on from there.
      obtain ⟨h0, h1, h2, h4⟩ := hk.commits 0 (Nat.succ_pos k)
      have hrun := run_applyMigration_of_committed (m := m) h0 ht h1 h2 hrows h4
      rw [hrun]
      obtain ⟨d', hrest, hcommitted⟩ := ih (d := committed d m rows)
        (fun m' hm' => hms m' (List.mem_cons_of_mem _ hm')) rfl rfl hk.tail
      refine ⟨d', ?_, hcommitted.closed, ?_, ?_, ?_, ?_⟩
      · simp [hrest]
      · rw [hcommitted.applied]
        simp [committed, recorded, tick]
      · rw [hcommitted.interrupted]
        rfl
      · obtain ⟨n, hn⟩ := hcommitted.faults
        exact ⟨n + 5, fun i => hn i⟩
      · obtain ⟨new, hnew, hmem⟩ := hcommitted.versions
        refine ⟨recordVersion (d.faults 3) m (d.clock 0) ++ new, ?_, fun v => ?_⟩
        · rw [hnew, List.append_assoc]
        · -- The row of the version is missing if the statement for it fails.
          have hfirst : (∃ row ∈ recordVersion (d.faults 3) m (d.clock 0), row.version = v) ↔
              d.faults 3 = false ∧ v = m.version.toInt64 := by
            cases d.faults 3 <;> simp [recordVersion, eq_comm]
          simp only [List.mem_append, or_and_right, exists_or, hfirst, hmem]
          constructor
          · rintro (⟨hfault, rfl⟩ | ⟨i, hi, hik, hfault, rfl⟩)
            · exact ⟨0, Nat.succ_pos _, Nat.succ_pos _, hfault, rfl⟩
            · exact ⟨i + 1, Nat.succ_lt_succ hi, Nat.succ_lt_succ hik, hfault, rfl⟩
          · rintro ⟨_ | i, hi, hik, hfault, rfl⟩
            · exact .inl ⟨hfault, rfl⟩
            · exact .inr ⟨i, Nat.lt_of_succ_lt_succ hi, Nat.lt_of_succ_lt_succ hik, hfault, rfl⟩

/-- When the loop does not stop cleanly, it leaves a transaction open. -/
theorem run_applyAll_of_not_stopsCleanly (hms : ∀ m ∈ ms, current < m.version)
    (ht : d.transaction = none) (hrows : d.schema.versions = some rows)
    (hk : ¬ ∃ k, StopsCleanly d.faults ms.length k) :
    (((applyAll current ms).run handle).run d).2.transaction ≠ none := by
  induction ms generalizing d rows with
  | nil => exact absurd ⟨0, le_rfl, by simp, .inl rfl⟩ hk
  | cons m ms ih =>
    have hm : current < m.version := hms m List.mem_cons_self
    have hfirst : ¬ (d.faults 0 = true ∨ d.faults 1 = true ∨
        d.faults 2 = false ∧ d.faults 4 = true) := fun hfails =>
      hk ⟨0, Nat.zero_le _, by simp, .inr hfails⟩
    simp only [not_or, Bool.not_eq_true, not_and] at hfirst
    obtain ⟨h0, h1, h4⟩ := hfirst
    rw [run_applyAll_cons hm]
    cases h2 : d.faults 2 with
    | true =>
      rw [run_applyMigration_of_unprepared h0 ht h1 h2]
      simp [scripted, begun, tick]
    | false =>
      rw [run_applyMigration_of_committed h0 ht h1 h2 hrows (h4 h2)]
      refine ih (d := committed d m rows) (fun m' hm' => hms m' (List.mem_cons_of_mem _ hm')) rfl
        rfl ?_
      rintro ⟨k, hstops⟩
      exact hk ⟨k + 1, hstops.cons ⟨h0, h1, h2, h4 h2⟩⟩

/-! ## The recorded version -/

instance instLawfulOrderMaxInt64 : Std.LawfulOrderMax Int64 where
  max_le_iff a b c := by
    show (if a ≤ b then b else a) ≤ c ↔ _
    split <;> simp only [Int64.le_iff_toInt_le] at * <;> omega
  max_eq_or a b := by
    show (if a ≤ b then b else a) = a ∨ (if a ≤ b then b else a) = b
    split <;> simp

/-- The maximum is a recorded version, and none is larger. -/
theorem maxVersion_eq_some_iff {n : Int64} :
    maxVersion rows = some n ↔
      (∃ row ∈ rows, row.version = n) ∧ ∀ row ∈ rows, row.version ≤ n := by
  rw [maxVersion, List.max?_eq_some_iff]
  simp

private theorem exists_maxVersion (h : rows ≠ []) : ∃ n, maxVersion rows = some n := by
  cases rows with
  | nil => exact absurd rfl h
  | cons row rows => exact ⟨_, rfl⟩

private theorem version_of_versions (h : d.schema.versions = some rows) :
    d.version = match maxVersion rows with
      | some n => n.toInt32
      | none => 0 := by
  rw [version, h]
  rfl

/-- No recorded version is beyond the range of `int`. -/
def VersionsFit (rows : List VersionRow) : Prop :=
  ∀ row ∈ rows, row.version ≤ Int32.maxValue.toInt64

/-- A version that fits below the bound is not lost by the cast. -/
theorem toInt32_lt {n : Int64} {v : Int32} (hn : n ≤ Int32.maxValue.toInt64)
    (h : n.toInt32 < v) : n ≤ v.toInt64 := by
  rw [Int64.le_iff_toInt_le] at hn ⊢
  rw [Int32.lt_iff_toInt_lt, Int64.toInt_toInt32] at h
  rw [Int32.toInt_toInt64] at hn ⊢
  have hmax : Int32.maxValue.toInt = 2147483647 := by decide
  have hv := Int32.le_toInt v
  rw [hmax] at hn
  simp only [Int.bmod_def] at h
  omega

section Recorded

variable {d' : SchemaDatabase} {new : List VersionRow}

/-- Above the current version, the largest of the added versions is the new version. -/
theorem version_append (hrows : d.schema.versions = some rows) (hfit : VersionsFit rows)
    (hrows' : d'.schema.versions = some (rows ++ new)) {v : Int32} (hv : d.version < v)
    (hmem : ∃ row ∈ new, row.version = v.toInt64) (hle : ∀ row ∈ new, row.version ≤ v.toInt64) :
    d'.version = v := by
  have hmax : maxVersion (rows ++ new) = some v.toInt64 := by
    obtain ⟨last, hlast, hversion⟩ := hmem
    refine maxVersion_eq_some_iff.mpr
      ⟨⟨last, List.mem_append_right _ hlast, hversion⟩, fun row hrow => ?_⟩
    rcases List.mem_append.mp hrow with hold | hnew
    · obtain ⟨n, hn⟩ := exists_maxVersion (List.ne_nil_of_mem hold)
      obtain ⟨⟨row', hmem', rfl⟩, hbound⟩ := maxVersion_eq_some_iff.mp hn
      rw [version_of_versions hrows, hn] at hv
      exact Int64.le_trans (hbound row hold) (toInt32_lt (hfit row' hmem') hv)
    · exact hle row hnew
  rw [version_of_versions hrows', hmax]
  exact Int32.toInt32_toInt64 v

/-- A recorded version beyond the range of `int` hides whatever is added. -/
theorem version_append_of_not_fit (hrows : d.schema.versions = some rows)
    (hfit : ¬ VersionsFit rows) (hrows' : d'.schema.versions = some (rows ++ new))
    (hnew : ∀ row ∈ new, ∃ v : Int32, row.version = v.toInt64) : d'.version = d.version := by
  obtain ⟨big, hbig, hlarge⟩ : ∃ row ∈ rows, ¬ row.version ≤ Int32.maxValue.toInt64 := by
    simpa [VersionsFit] using hfit
  obtain ⟨n, hn⟩ := exists_maxVersion (List.ne_nil_of_mem hbig)
  obtain ⟨⟨row', hmem', rfl⟩, hbound⟩ := maxVersion_eq_some_iff.mp hn
  have hmax : maxVersion (rows ++ new) = some row'.version := by
    refine maxVersion_eq_some_iff.mpr
      ⟨⟨row', List.mem_append_left _ hmem', rfl⟩, fun row hrow => ?_⟩
    rcases List.mem_append.mp hrow with hold | hadded
    · exact hbound row hold
    · obtain ⟨v, hv⟩ := hnew row hadded
      have hle := hbound big hbig
      have hv' := Int32.toInt_le v
      rw [Int64.le_iff_toInt_le] at hlarge hle ⊢
      rw [hv, Int32.toInt_toInt64]
      rw [Int32.toInt_toInt64] at hlarge
      omega
  rw [version_of_versions hrows', version_of_versions hrows, hmax, hn]

variable {k : ℕ}

private theorem Committed.new_eq (h : Committed d rows ms k d') :
    ∃ new, d'.schema.versions = some (rows ++ new) ∧
      (∀ row ∈ new, ∃ v : Int32, row.version = v.toInt64) ∧
      ∀ v, (∃ row ∈ new, row.version = v) ↔
        ∃ i, ∃ h : i < ms.length, i < k ∧ d.faults (5 * i + 3) = false ∧
          v = ms[i].version.toInt64 := by
  obtain ⟨new, hnew, hmem⟩ := h.versions
  refine ⟨new, hnew, fun row hrow => ?_, hmem⟩
  obtain ⟨i, hi, -, -, hv⟩ := (hmem row.version).mp ⟨row, hrow, rfl⟩
  exact ⟨ms[i].version, hv⟩

/-- Nothing committed: the version is as before. -/
theorem Committed.version_zero (h : Committed d rows ms 0 d')
    (hrows : d.schema.versions = some rows) : d'.version = d.version := by
  obtain ⟨new, hnew, hmem⟩ := h.versions
  have hnil : new = [] := by
    refine List.eq_nil_iff_forall_not_mem.mpr fun row hrow => ?_
    obtain ⟨i, -, hlt, -⟩ := (hmem row.version).mp ⟨row, hrow, rfl⟩
    exact Nat.not_lt_zero _ hlt
  rw [hnil, List.append_nil] at hnew
  rw [version_of_versions hnew, version_of_versions hrows]

/-- The version is that of the last committed migration when its insert succeeded, and below it
otherwise. -/
theorem Committed.version_succ {j : ℕ} (h : Committed d rows ms (j + 1) d')
    (hrows : d.schema.versions = some rows) (hfit : VersionsFit rows)
    (hms : ∀ m ∈ ms, d.version < m.version) (hasc : ms.Pairwise (·.version < ·.version))
    (hj : j < ms.length) :
    if d.faults (5 * j + 3) = false then d'.version = ms[j].version
    else d'.version < ms[j].version := by
  obtain ⟨new, hnew, hint, hmem⟩ := h.new_eq
  have hbelow : ∀ i (hi : i < ms.length), i < j → ms[i].version < ms[j].version :=
    fun i hi hij => List.pairwise_iff_getElem.mp hasc i j hi hj hij
  have hle64 : ∀ {v w : Int32}, v < w → v.toInt64 ≤ w.toInt64 := by
    intro v w hvw
    rw [Int64.le_iff_toInt_le, Int32.toInt_toInt64, Int32.toInt_toInt64]
    exact Int.le_of_lt (Int32.lt_iff_toInt_lt.mp hvw)
  split
  · next hfault =>
    refine version_append hrows hfit hnew (hms _ (List.getElem_mem hj))
      ((hmem _).mpr ⟨j, hj, Nat.lt_succ_self j, hfault, rfl⟩) fun row hrow => ?_
    obtain ⟨i, hi, hij, -, hv⟩ := (hmem row.version).mp ⟨row, hrow, rfl⟩
    rw [hv]
    rcases Nat.lt_succ_iff_lt_or_eq.mp hij with hlt | rfl
    · exact hle64 (hbelow i hi hlt)
    · exact Int64.le_refl _
  · next hfault =>
    by_cases hnil : new = []
    · rw [hnil, List.append_nil] at hnew
      rw [version_of_versions hnew, ← version_of_versions hrows]
      exact hms _ (List.getElem_mem hj)
    · -- The largest of the added versions is an earlier one.
      obtain ⟨n, hn⟩ := exists_maxVersion hnil
      obtain ⟨hlast, hbound⟩ := maxVersion_eq_some_iff.mp hn
      obtain ⟨i, hi, hij, hrecorded, rfl⟩ := (hmem n).mp hlast
      have hlt : i < j := by
        rcases Nat.lt_succ_iff_lt_or_eq.mp hij with hlt | rfl
        · exact hlt
        · exact absurd hrecorded hfault
      rw [version_append hrows hfit hnew (hms _ (List.getElem_mem hi)) hlast hbound]
      exact hbelow i hi hlt

/-- The insert of the last committed migration has succeeded. -/
def LastRecorded (faults : ℕ → Bool) (k : ℕ) : Prop := ∀ j, k = j + 1 → faults (5 * j + 3) = false

/-- The migrations up to the new version are the committed ones. -/
theorem Committed.le_version_iff (h : Committed d rows ms k d')
    (hrows : d.schema.versions = some rows) (hfit : VersionsFit rows)
    (hms : ∀ m ∈ ms, d.version < m.version) (hasc : ms.Pairwise (·.version < ·.version))
    (hk : k ≤ ms.length) (hlast : LastRecorded d.faults k) {m : Migration} (hm : m ∈ ms) :
    m.version ≤ d'.version ↔ m ∈ ms.take k := by
  obtain ⟨i, hi, rfl⟩ := List.getElem_of_mem hm
  have hbelow := List.pairwise_iff_getElem.mp hasc
  cases k with
  | zero =>
    rw [h.version_zero hrows, List.take_zero]
    exact iff_of_false (Int32.not_le.mpr (hms _ (List.getElem_mem hi))) (List.not_mem_nil)
  | succ j =>
    have hversion := h.version_succ hrows hfit hms hasc hk
    rw [if_pos (hlast j rfl)] at hversion
    rw [hversion, List.mem_take_iff_getElem]
    constructor
    · intro hle
      refine ⟨i, Nat.lt_min.mpr ⟨?_, hi⟩, rfl⟩
      by_contra hji
      exact Int32.not_le.mpr (hbelow j i hk hi (Nat.lt_of_succ_le (Nat.le_of_not_lt hji))) hle
    · rintro ⟨i', hi', heq⟩
      rw [← heq]
      rcases Nat.lt_succ_iff_lt_or_eq.mp (Nat.lt_min.mp hi').1 with hlt | rfl
      · exact Int32.le_of_lt (hbelow i' j _ hk hlt)
      · exact Int32.le_refl _

/-- The versions still fit: what is added are versions of migrations. -/
theorem Committed.versionsFit (h : Committed d rows ms k d') (hfit : VersionsFit rows) :
    VersionsFit (d'.schema.versions.getD []) := by
  obtain ⟨new, hnew, hint, -⟩ := h.new_eq
  rw [hnew]
  intro row hrow
  rcases List.mem_append.mp hrow with hold | hadded
  · exact hfit row hold
  · obtain ⟨v, hv⟩ := hint row hadded
    rw [hv, Int64.le_iff_toInt_le, Int32.toInt_toInt64, Int32.toInt_toInt64]
    exact Int32.toInt_le v

/-- The version never falls. -/
theorem Committed.version_mono (h : Committed d rows ms k d')
    (hrows : d.schema.versions = some rows) (hms : ∀ m ∈ ms, d.version < m.version) :
    d.version ≤ d'.version := by
  obtain ⟨new, hnew, hint, hmem⟩ := h.new_eq
  by_cases hfit : VersionsFit rows
  · by_cases hnil : new = []
    · rw [hnil, List.append_nil] at hnew
      rw [version_of_versions hnew, version_of_versions hrows]
      exact Int32.le_refl _
    · obtain ⟨n, hn⟩ := exists_maxVersion hnil
      obtain ⟨hlargest, hbound⟩ := maxVersion_eq_some_iff.mp hn
      obtain ⟨i, hi, -, -, rfl⟩ := (hmem n).mp hlargest
      have hv := hms _ (List.getElem_mem hi)
      rw [version_append hrows hfit hnew hv hlargest hbound]
      exact Int32.le_of_lt hv
  · rw [version_append_of_not_fit hrows hfit hnew hint]
    exact Int32.le_refl _

end Recorded

/-! ## Whole calls -/

/-- The database after `EnsureVersionTable` and `CurrentVersion`. -/
def prepared (d : SchemaDatabase) : SchemaDatabase := withVersionTable (d.tick 4)

private theorem version_prepared (d : SchemaDatabase) : (prepared d).version = d.version := rfl

private theorem schema_prepared (h : d.schema.versions = some rows) :
    (prepared d).schema = d.schema := by
  have hversions : some (d.schema.versions.getD []) = d.schema.versions := by rw [h]; rfl
  show { d.schema with versions := some (d.schema.versions.getD []) } = d.schema
  rw [hversions]

/-- `Migrate` runs the pending migrations from a database that has the table of versions. -/
theorem run_migrate (migrations : List Migration) (h : ∀ i < 4, d.faults i = false) :
    ((migrate migrations).run handle).run d =
      ((applyAll d.version (pending migrations d)).run handle).run (prepared d) := by
  have hcurrent : (currentVersion.run handle).run (withVersionTable (d.tick 1)) =
      (.ok d.version, prepared d) := by
    rw [run_currentVersion fun i hi => h (i + 1) (Nat.succ_lt_succ hi)]
    rfl
  rw [migrate, Program.run_bind,
    Stateful.run_bind_of_ok (run_ensureVersionTable (h 0 (by decide))), Program.run_bind,
    Stateful.run_bind_of_ok hcurrent, applyAll_eq_filter]
  rfl

private theorem mem_pending {migrations : List Migration} {m : Migration} :
    m ∈ pending migrations d ↔ m ∈ migrations ∧ d.version < m.version := by
  simp [pending]

/-- What is pending after the loop was pending before. -/
theorem Committed.pending_subset {migrations : List Migration} {k : ℕ} {d' : SchemaDatabase}
    (h : Committed (prepared d) (d.schema.versions.getD []) (pending migrations d) k d') :
    pending migrations d' ⊆ pending migrations d := by
  intro m hm
  obtain ⟨hmem, hlt⟩ := mem_pending.mp hm
  have hmono := h.version_mono rfl fun m hm => (mem_pending.mp hm).2
  exact mem_pending.mpr ⟨hmem, Int32.lt_of_le_of_lt hmono hlt⟩

/-- When `Migrate` leaves no transaction open, there was none, and the loop stopped cleanly. -/
theorem stopsCleanly_of_closed {migrations : List Migration} (h : ∀ i < 4, d.faults i = false)
    (hclosed : (((migrate migrations).run handle).run d).2.transaction = none) :
    d.transaction = none ∧
      ∃ k, StopsCleanly (prepared d).faults (pending migrations d).length k := by
  rw [run_migrate migrations h] at hclosed
  have hpending : ∀ m ∈ pending migrations d, d.version < m.version :=
    fun m hm => (mem_pending.mp hm).2
  have ht : d.transaction = none := by
    by_contra hopen
    have hsome : (prepared d).transaction.isSome := Option.isSome_iff_ne_none.mpr hopen
    cases hms : pending migrations d with
    | nil =>
      rw [hms] at hclosed
      exact hopen hclosed
    | cons m ms =>
      rw [hms] at hclosed hpending
      rw [run_applyAll_cons (hpending m List.mem_cons_self),
        run_applyMigration_of_noBegin (.inr hsome)] at hclosed
      exact hopen hclosed
  refine ⟨ht, ?_⟩
  by_contra hk
  exact run_applyAll_of_not_stopsCleanly (d := prepared d) hpending ht rfl hk hclosed

/-- A call in which no step fails, from a database with no transaction open. -/
theorem run_migrate_withoutFaults (migrations : List Migration) (h : ∀ i, d.faults i = false)
    (ht : d.transaction = none) :
    ∃ d', ((migrate migrations).run handle).run d = (.ok (.ok ()), d') ∧
      Committed (prepared d) (d.schema.versions.getD []) (pending migrations d)
        (pending migrations d).length d' := by
  have hstops : StopsCleanly (prepared d).faults (pending migrations d).length
      (pending migrations d).length :=
    ⟨le_rfl, fun i _ => ⟨h _, h _, h _, h _⟩, .inl rfl⟩
  obtain ⟨d', hrun, hcommitted⟩ := run_applyAll_of_stopsCleanly (d := prepared d)
    (fun m hm => (mem_pending.mp hm).2) ht rfl hstops
  rw [if_pos rfl] at hrun
  exact ⟨d', (run_migrate migrations fun i _ => h i).trans hrun, hcommitted⟩

/-- Once every version fits, or nothing is pending, a call in which no step fails leaves nothing
pending, and another one changes nothing. -/
theorem run_migrate_again {migrations : List Migration}
    (hasc : migrations.Pairwise (·.version < ·.version)) (h : ∀ i, d.faults i = false)
    (ht : d.transaction = none)
    (hfit : pending migrations d = [] ∨ VersionsFit (d.schema.versions.getD [])) :
    let again := ((migrate migrations).run handle).run d
    again.1 = .ok (.ok ()) ∧
      again.2.schema.applied = d.schema.applied ++ pending migrations d ∧
      (((migrate migrations).run handle).run again.2).2.schema = again.2.schema := by
  obtain ⟨d', hrun, hcommitted⟩ := run_migrate_withoutFaults migrations h ht
  obtain ⟨n, hfaults⟩ := hcommitted.faults
  obtain ⟨new, hnew, -⟩ := hcommitted.versions
  have hfaults' : ∀ i, d'.faults i = false := fun i => (hfaults i).trans (h _)
  have hdone : pending migrations d' = [] := by
    refine List.eq_nil_iff_forall_not_mem.mpr fun m hm => ?_
    have hpending := hcommitted.pending_subset hm
    refine Int32.not_le.mpr (mem_pending.mp hm).2 ((hcommitted.le_version_iff rfl
      (hfit.resolve_left (List.ne_nil_of_mem hpending)) (fun m hm => (mem_pending.mp hm).2)
      (hasc.filter _) le_rfl (fun _ _ => h _) hpending).mpr ?_)
    rwa [List.take_length]
  simp only [hrun]
  refine ⟨trivial, ?_, ?_⟩
  · rw [hcommitted.applied, List.take_length]
    rfl
  · rw [run_migrate migrations fun i _ => hfaults' i, hdone]
    exact schema_prepared hnew

/-! ## When migrations are all-or-nothing -/

/-- The state and the failures from which `Migrate` recovers. The first four calls create the
table of versions and read it; then each pending migration makes five. -/
structure Recovers (migrations : List Migration) (d : SchemaDatabase) : Prop where
  closed : d.transaction = none
  /-- The registered migrations up to the current version are in effect. -/
  inEffect : ∀ m ∈ migrations, m.version ≤ d.version → m ∈ d.schema.applied
  /-- If any migration is pending, the recorded versions are in the range of `int`. -/
  fits : pending migrations d = [] ∨ VersionsFit (d.schema.versions.getD [])
  /-- The run stops without the preparation of an insert failing, the insert of the last
  committed migration succeeds, and none of the rest was in effect before. -/
  stops : ∃ k, StopsCleanly (fun i => d.faults (i + 4)) (pending migrations d).length k ∧
    LastRecorded (fun i => d.faults (i + 4)) k ∧
    ∀ m ∈ (pending migrations d).drop k, m ∉ d.schema.applied

/-- The first `k` and the rest of an ascending list have nothing in common. -/
theorem not_mem_take_of_mem_drop (hasc : ms.Pairwise (·.version < ·.version)) {k : ℕ}
    {m : Migration} (h : m ∈ ms.drop k) : m ∉ ms.take k := fun h' =>
  have hnodup : ms.Nodup := hasc.imp fun {a b} hlt heq => by
    rw [heq] at hlt
    exact Int32.lt_irrefl hlt
  List.disjoint_take_drop hnodup le_rfl h' h

/-- Recovery, from the conditions on the start. -/
theorem allOrNothing_of_recovers {migrations : List Migration}
    (hasc : migrations.Pairwise (·.version < ·.version)) (h : ∀ i < 4, d.faults i = false)
    (hd : Recovers migrations d) :
    AllOrNothing migrations d (((migrate migrations).run handle).run d) := by
  obtain ⟨ht, heffect, hfit, k, hstops, hlast, hrest⟩ := hd
  have hpending : ∀ m ∈ pending migrations d, d.version < m.version :=
    fun m hm => (mem_pending.mp hm).2
  have hsorted : (pending migrations d).Pairwise (·.version < ·.version) := hasc.filter _
  obtain ⟨d', hloop, hcommitted⟩ :=
    run_applyAll_of_stopsCleanly (d := prepared d) hpending ht rfl hstops
  rw [← run_migrate migrations h] at hloop
  have hmono := hcommitted.version_mono rfl hpending
  have hle : ∀ m ∈ pending migrations d,
      (m.version ≤ d'.version ↔ m ∈ (pending migrations d).take k) := fun m hm =>
    hcommitted.le_version_iff rfl (hfit.resolve_left (List.ne_nil_of_mem hm)) hpending hsorted
      hstops.le hlast hm
  have hineffect : ∀ m ∈ migrations, m ∈ d'.schema.applied ↔ m.version ≤ d'.version := by
    intro m hm
    rw [hcommitted.applied, List.mem_append]
    by_cases hcurrent : m.version ≤ d.version
    · exact iff_of_true (.inl (heffect m hm hcurrent)) (Int32.le_trans hcurrent hmono)
    · have hmem : m ∈ pending migrations d := mem_pending.mpr ⟨hm, Int32.not_le.mp hcurrent⟩
      rw [hle m hmem, or_iff_right_iff_imp]
      intro hold
      by_contra hnot
      have hdrop : m ∈ (pending migrations d).drop k := by
        rw [← List.take_append_drop k (pending migrations d)] at hmem
        exact (List.mem_append.mp hmem).resolve_left hnot
      exact hrest m hdrop hold
  have hpending' : pending migrations d' = migrations.filter (· ∉ d'.schema.applied) := by
    refine List.filter_congr fun m hm => ?_
    rw [decide_eq_decide, hineffect m hm, Int32.not_le]
  have hfit' : pending migrations d' = [] ∨ VersionsFit (d'.schema.versions.getD []) := by
    refine hfit.imp (fun hnone => ?_) hcommitted.versionsFit
    exact List.subset_nil.mp (hnone ▸ hcommitted.pending_subset)
  rw [hloop]
  refine ⟨hcommitted.closed, hineffect, ⟨(pending migrations d).take k, List.take_prefix .., ?_⟩,
    ?_, ?_⟩
  · exact ⟨hcommitted.applied, hcommitted.interrupted⟩
  · by_cases hall : k = (pending migrations d).length
    · refine iff_of_true (by simp [hall]) (List.eq_nil_iff_forall_not_mem.mpr fun m hm => ?_)
      have hbefore := hcommitted.pending_subset hm
      refine Int32.not_le.mpr (mem_pending.mp hm).2 ((hle m hbefore).mpr ?_)
      rwa [hall, List.take_length]
    · -- The migration at which the run stopped is still pending.
      have hlt : k < (pending migrations d).length := Nat.lt_of_le_of_ne hstops.le hall
      have hmem := List.getElem_mem hlt
      have hdrop : (pending migrations d)[k] ∈ (pending migrations d).drop k := by
        rw [List.drop_eq_getElem_cons hlt]
        exact List.mem_cons_self
      have hleft : (pending migrations d)[k] ∈ pending migrations d' :=
        mem_pending.mpr ⟨(mem_pending.mp hmem).1, Int32.not_le.mp
          (mt (hle _ hmem).mp (not_mem_take_of_mem_drop hsorted hdrop))⟩
      exact iff_of_false (by simp [hall]) (List.ne_nil_of_mem hleft)
  · obtain ⟨hok, happlied, hagain⟩ := run_migrate_again (d := d'.withoutFaults) hasc
      (fun _ => rfl) hcommitted.closed hfit'
    refine ⟨hok, ?_, hagain⟩
    rw [happlied, ← hpending']
    rfl

/-- With a recorded version beyond the range of `int`, the version stays hidden: a later call
applies the migrations that are pending, and so does the next. -/
theorem pending_eq_nil_of_not_fit {migrations : List Migration} {k : ℕ} {d' : SchemaDatabase}
    (hcommitted : Committed (prepared d) (d.schema.versions.getD []) (pending migrations d) k d')
    (hlarge : ¬ VersionsFit (d.schema.versions.getD []))
    (hagain : let again := (((migrate migrations).run handle).run d'.withoutFaults).2
      (((migrate migrations).run handle).run again).2.schema = again.schema) :
    pending migrations d = [] := by
  obtain ⟨new, hnew, hint, -⟩ := hcommitted.new_eq
  have hversion := version_append_of_not_fit (d := prepared d) rfl hlarge hnew hint
  obtain ⟨again, hrun', hcommitted'⟩ :=
    run_migrate_withoutFaults (d := d'.withoutFaults) migrations (fun _ => rfl) hcommitted.closed
  obtain ⟨n, hfaults⟩ := hcommitted'.faults
  obtain ⟨new', hnew', hint', -⟩ := hcommitted'.new_eq
  have hlarge' : ¬ VersionsFit (d'.withoutFaults.schema.versions.getD []) := fun hall =>
    hlarge fun row hrow => hall row (by
      show row ∈ d'.schema.versions.getD []
      rw [hnew]
      exact List.mem_append_left _ hrow)
  have hversion' := version_append_of_not_fit (d := prepared d'.withoutFaults) rfl hlarge'
    hnew' hint'
  obtain ⟨last, hrun'', hcommitted''⟩ :=
    run_migrate_withoutFaults (d := again) migrations (fun i => hfaults i) hcommitted'.closed
  simp only [hrun', hrun''] at hagain
  have happlied := hcommitted''.applied
  rw [hagain, List.take_length] at happlied
  rw [← List.self_eq_append_right.mp happlied, pending, pending, hversion', version_prepared]
  exact List.filter_congr fun m _ => by rw [← version_prepared d, ← hversion]; rfl

/-- Recovery needs the conditions on the start. -/
theorem recovers_of_allOrNothing {migrations : List Migration}
    (hasc : migrations.Pairwise (·.version < ·.version)) (h : ∀ i < 4, d.faults i = false)
    (hrun : AllOrNothing migrations d (((migrate migrations).run handle).run d)) :
    Recovers migrations d := by
  obtain ⟨ht, k, hstops⟩ := stopsCleanly_of_closed h hrun.closed
  have hpending : ∀ m ∈ pending migrations d, d.version < m.version :=
    fun m hm => (mem_pending.mp hm).2
  have hsorted : (pending migrations d).Pairwise (·.version < ·.version) := hasc.filter _
  obtain ⟨d', hloop, hcommitted⟩ :=
    run_applyAll_of_stopsCleanly (d := prepared d) hpending ht rfl hstops
  rw [← run_migrate migrations h] at hloop
  rw [hloop] at hrun
  have hmono := hcommitted.version_mono rfl hpending
  have hfit : pending migrations d = [] ∨ VersionsFit (d.schema.versions.getD []) := by
    by_contra hnot
    obtain ⟨hsome, hlarge⟩ := not_or.mp hnot
    exact hsome (pending_eq_nil_of_not_fit hcommitted hlarge hrun.resumes.2.2)
  -- What has been committed is in effect, and so not above the new version.
  have hcommittedLe : ∀ m ∈ (pending migrations d).take k, m.version ≤ d'.version := by
    intro m hm
    refine (hrun.inEffect m (mem_pending.mp (List.mem_of_mem_take hm)).1).mp ?_
    rw [hcommitted.applied]
    exact List.mem_append_right _ hm
  have hlast : LastRecorded (prepared d).faults k := by
    rintro j rfl
    have hj : j < (pending migrations d).length := hstops.le
    have hversion := hcommitted.version_succ rfl
      (hfit.resolve_left (List.ne_nil_of_length_pos (Nat.zero_lt_of_lt hj))) hpending hsorted hj
    by_contra hfault
    rw [if_neg hfault] at hversion
    refine Int32.not_le.mpr hversion (hcommittedLe _ ?_)
    exact List.mem_take_iff_getElem.mpr ⟨j, Nat.lt_min.mpr ⟨Nat.lt_succ_self j, hj⟩, rfl⟩
  refine ⟨ht, fun m hm hle => ?_, hfit, k, hstops, hlast, fun m hm happlied => ?_⟩
  · have heffect := (hrun.inEffect m hm).mpr (Int32.le_trans hle hmono)
    rw [hcommitted.applied] at heffect
    rcases List.mem_append.mp heffect with hold | hnew
    · exact hold
    · exact absurd hle (Int32.not_le.mpr (hpending m (List.mem_of_mem_take hnew)))
  · have hmem := List.mem_of_mem_drop hm
    have hle : m.version ≤ d'.version := by
      refine (hrun.inEffect m (mem_pending.mp hmem).1).mp ?_
      rw [hcommitted.applied]
      exact List.mem_append_left _ happlied
    refine not_mem_take_of_mem_drop hsorted hm ?_
    exact (hcommitted.le_version_iff rfl (hfit.resolve_left (List.ne_nil_of_mem hmem)) hpending
      hsorted hstops.le hlast hmem).mp hle

/-- For every ascending list of registered migrations and every database, `Migrate` is
all-or-nothing and resumable exactly from the states and under the failures that `Recovers`
describes. -/
theorem allOrNothing_iff {migrations : List Migration}
    (hasc : migrations.Pairwise (·.version < ·.version)) (h : ∀ i < 4, d.faults i = false) :
    AllOrNothing migrations d (((migrate migrations).run handle).run d) ↔ Recovers migrations d :=
  ⟨recovers_of_allOrNothing hasc h, allOrNothing_of_recovers hasc h⟩

/-- A migration without statements. -/
def emptyMigration (version : Int32) : Migration := ⟨version, [], []⟩

/-- The second of two migrations cannot begin; the first is kept. -/
theorem allOrNothing_iff_secondFails :
    let migrations := [emptyMigration 1, emptyMigration 2]
    let d : SchemaDatabase := { faults := fun i => i == 9 }
    AllOrNothing migrations d (((migrate migrations).run handle).run d) := by
  refine (allOrNothing_iff (by decide) (by decide)).mpr ⟨rfl, by decide,
    .inr fun row hrow => absurd hrow List.not_mem_nil, 1, ?_⟩
  exact ⟨⟨by decide, by decide, .inr (.inl rfl)⟩, fun j hj => by cases hj; rfl, by decide⟩

/-- Only the insert of the version fails: `Migrate` reports success, the migration is in effect,
and its version is not recorded. -/
theorem unrecorded_migration_reapplied :
    let migrations := [emptyMigration 1]
    let d : SchemaDatabase := { faults := fun i => i == 7 }
    let run := ((migrate migrations).run handle).run d
    run.1 = .ok (.ok ()) ∧ run.2.schema.applied = migrations ∧ run.2.version = 0 ∧
      ¬ AllOrNothing migrations d run := by
  refine ⟨rfl, rfl, rfl, fun h => ?_⟩
  have hversion := (h.inEffect (emptyMigration 1) (by decide)).mp List.mem_cons_self
  revert hversion
  decide

end MigrationManager

end IotDashboard
