import IotDashboard.Devices.HeartbeatMonitor
import IotDashboard.Foundation.Mealy
import Mathlib.Data.List.DropRight

/-!
# One report for each silence

The monitor knows a device by its record: the timeout, when the device was last heard from, and a
mark once its silence was reported. The record is determined by what happened since the device was
last registered or heard from, in whatever order the operations came and whatever the clock read.

## Main definitions

* `MonitorState.step`: the operations of the monitor; a poll is one step with its callbacks;
* `MonitorTrace.Overdue`: the history of a device calls for a report.

## Main results

* `MonitorState.lookup_eq_record`: the record of a device, from its history;
* `MonitorState.callbacks_of_run`: a poll calls back for the devices that are overdue, once for
  each;
* `MonitorState.timeSinceLastSeen_of_run`: what `TimeSinceLastSeen` answers;
* `Timestamp.le_seconds_sub_iff`: what a timeout in whole seconds means for clock readings.
-/

namespace IotDashboard

open StdString

/-- For a positive timeout, and as long as the difference of the readings fits the type of the
clock, the timeout has passed when its nanoseconds have. -/
theorem Timestamp.le_seconds_sub_iff {timeoutSeconds : Int64} {now last : Timestamp}
    (hpositive : 0 < timeoutSeconds) (hlo : -2 ^ 63 ≤ now.toInt - last.toInt)
    (hhi : now.toInt - last.toInt < 2 ^ 63) :
    timeoutSeconds ≤ seconds (now - last) ↔
      timeoutSeconds.toInt * 1000000000 ≤ now.toInt - last.toInt := by
  have hsub : (now - last).toInt = now.toInt - last.toInt := by
    rw [Int64.toInt_sub]
    exact Int.bmod_eq_of_le (by omega) (by omega)
  have hpos : 0 < timeoutSeconds.toInt := Int64.lt_iff_toInt_lt.mp hpositive
  rw [Int64.le_iff_toInt_le, seconds, Int64.toInt_div_of_ne_right _ _ (by decide), hsub]
  show _ ≤ (now.toInt - last.toInt).tdiv 1000000000 ↔ _
  generalize now.toInt - last.toInt = d
  rcases Int.le_total 0 d with h | h
  · rw [Int.tdiv_eq_ediv_of_nonneg h]
    omega
  · -- The clock was set back.
    have hneg : d.tdiv 1000000000 = -(-d).tdiv 1000000000 := by rw [Int.neg_tdiv, neg_neg]
    have hnonneg : 0 ≤ (-d).tdiv 1000000000 := Int.tdiv_nonneg (by omega) (by decide)
    omega

/-- An operation of the monitor, with the reading of the clock. -/
inductive MonitorInput where
  | register (now : Timestamp) (deviceId : StdString) (timeoutSeconds : Int64)
  | unregister (deviceId : StdString)
  | recordHeartbeat (now : Timestamp) (deviceId : StdString)
  | setTimeoutCallback
  | poll (now : Timestamp)
deriving DecidableEq

/-- `HeartbeatMonitor` with its callback, which is not set at first. -/
structure MonitorState where
  monitor : HeartbeatMonitor := {}
  hasCallback : Bool := false

/-- The operations of the monitor, each with the devices that its callbacks are for. -/
abbrev MonitorTrace := List (MonitorInput × List StdString)

/-- One operation, with the devices that the callback is called for. -/
def MonitorState.step (s : MonitorState) : MonitorInput → List StdString × MonitorState
  | .register now deviceId timeoutSeconds =>
    ([], { s with monitor := s.monitor.register now deviceId timeoutSeconds })
  | .unregister deviceId => ([], { s with monitor := s.monitor.unregister deviceId })
  | .recordHeartbeat now deviceId =>
    ([], { s with monitor := s.monitor.recordHeartbeat now deviceId })
  | .setTimeoutCallback => ([], { s with hasCallback := true })
  | .poll now =>
    let (timedOut, monitor) := s.monitor.poll now
    (if s.hasCallback then timedOut else [], { s with monitor })

/-! ## What the history says -/

/-- The device that is registered, with its timeout, or no longer registered. -/
def MonitorInput.registration : MonitorInput → Option (StdString × Option Int64)
  | register _ deviceId timeoutSeconds => some (deviceId, some timeoutSeconds)
  | unregister deviceId => some (deviceId, none)
  | _ => none

/-- The device that was heard from, or was registered, and when. -/
def MonitorInput.reset : MonitorInput → Option (StdString × Timestamp)
  | register now deviceId _ => some (deviceId, now)
  | recordHeartbeat now deviceId => some (deviceId, now)
  | _ => none

namespace MonitorTrace

variable (tr : MonitorTrace) (deviceId : StdString)

/-- The timeout of the device, if it is registered now. -/
def registered : Option Int64 :=
  ((tr.filterMap fun e => e.1.registration).mostRecent deviceId).join

/-- When the device was last registered or heard from. -/
def lastReset : Option Timestamp := (tr.filterMap fun e => e.1.reset).mostRecent deviceId

/-- What happened after the device was last registered or heard from. -/
def sinceReset : MonitorTrace :=
  tr.rtakeWhile fun e => e.1.reset.map Prod.fst ≠ some deviceId

/-- Some poll after that called back for the device. -/
def ReportedSinceReset : Prop := ∃ e ∈ sinceReset tr deviceId, deviceId ∈ e.2

instance : Decidable (ReportedSinceReset tr deviceId) :=
  inferInstanceAs (Decidable (∃ e ∈ sinceReset tr deviceId, deviceId ∈ e.2))

/-- At the given time the device is registered and silent for its timeout, and that was not
reported yet. -/
def Overdue (now : Timestamp) : Prop :=
  ∃ timeoutSeconds last, registered tr deviceId = some timeoutSeconds ∧
    lastReset tr deviceId = some last ∧ timeoutSeconds ≤ Timestamp.seconds (now - last) ∧
    ¬ ReportedSinceReset tr deviceId

variable {tr deviceId}

private theorem registered_snoc (i : MonitorInput) (o : List StdString) :
    registered (tr ++ [(i, o)]) deviceId =
      match i.registration with
      | none => registered tr deviceId
      | some (other, timeout) => if deviceId = other then timeout else registered tr deviceId := by
  rw [registered, List.mostRecent_filterMap_snoc]
  cases i.registration with
  | none => rfl
  | some registration =>
    dsimp only
    split <;> rfl

private theorem lastReset_snoc (i : MonitorInput) (o : List StdString) :
    lastReset (tr ++ [(i, o)]) deviceId =
      match i.reset with
      | none => lastReset tr deviceId
      | some (other, now) => if deviceId = other then some now else lastReset tr deviceId := by
  rw [lastReset, List.mostRecent_filterMap_snoc]
  cases i.reset <;> rfl

private theorem reportedSinceReset_snoc (i : MonitorInput) (o : List StdString) :
    ReportedSinceReset (tr ++ [(i, o)]) deviceId ↔
      i.reset.map Prod.fst ≠ some deviceId ∧ (ReportedSinceReset tr deviceId ∨ deviceId ∈ o) := by
  rw [ReportedSinceReset, sinceReset, List.rtakeWhile_concat]
  by_cases hreset : i.reset.map Prod.fst = some deviceId
  · simp [hreset]
  · simp [hreset, ReportedSinceReset, sinceReset, or_and_right, exists_or]

/-- A registered device was registered at some time. -/
theorem lastReset_isSome (h : (registered tr deviceId).isSome) :
    (lastReset tr deviceId).isSome := by
  induction tr using List.reverseRecOn with
  | nil => cases h
  | append_singleton tr e ih =>
    obtain ⟨i, o⟩ := e
    rw [registered_snoc] at h
    rw [lastReset_snoc]
    cases i with
    | register now other timeoutSeconds =>
      dsimp only [MonitorInput.registration, MonitorInput.reset] at h ⊢
      split
      · rfl
      · next hne => exact ih (by rwa [if_neg hne] at h)
    | unregister other =>
      dsimp only [MonitorInput.registration, MonitorInput.reset] at h ⊢
      split at h
      · cases h
      · exact ih h
    | recordHeartbeat now other =>
      dsimp only [MonitorInput.registration, MonitorInput.reset] at h ⊢
      split
      · rfl
      · exact ih h
    | _ => exact ih h

variable (tr deviceId) in
/-- The record that the history of a device leads to. -/
def record : Option DeviceRecord :=
  (registered tr deviceId).map fun timeoutSeconds =>
    { timeoutSeconds, lastSeen := (lastReset tr deviceId).getD 0,
      timedOut := decide (ReportedSinceReset tr deviceId) }

/-- An operation that does not register, unregister or reset a device can only report it. -/
theorem record_snoc (i : MonitorInput) (o : List StdString)
    (hregistration : i.registration.map Prod.fst ≠ some deviceId)
    (hreset : i.reset.map Prod.fst ≠ some deviceId) :
    record (tr ++ [(i, o)]) deviceId = (record tr deviceId).map fun r =>
      { r with timedOut := r.timedOut || decide (deviceId ∈ o) } := by
  have hregistered : registered (tr ++ [(i, o)]) deviceId = registered tr deviceId := by
    rw [registered_snoc]
    cases hi : i.registration with
    | none => rfl
    | some registration => exact if_neg fun heq => hregistration (by rw [hi, heq]; rfl)
  have hlast : lastReset (tr ++ [(i, o)]) deviceId = lastReset tr deviceId := by
    rw [lastReset_snoc]
    cases hi : i.reset with
    | none => rfl
    | some reset => exact if_neg fun heq => hreset (by rw [hi, heq]; rfl)
  rw [record, record, hregistered, hlast, Option.map_map]
  simp [reportedSinceReset_snoc, hreset, Function.comp_def]

/-- The record is due when the device is overdue. -/
theorem exists_record_due_iff (now : Timestamp) :
    (∃ r, record tr deviceId = some r ∧ r.due now = true) ↔ Overdue tr deviceId now := by
  constructor
  · rintro ⟨r, hrecord, hdue⟩
    obtain ⟨timeoutSeconds, hregistered, rfl⟩ := Option.map_eq_some_iff.mp hrecord
    obtain ⟨last, hlast⟩ : ∃ last, lastReset tr deviceId = some last :=
      Option.isSome_iff_exists.mp (lastReset_isSome (by rw [hregistered]; rfl))
    rw [DeviceRecord.due, Bool.and_eq_true, decide_eq_true_iff, Bool.not_eq_true',
      decide_eq_false_iff_not, hlast] at hdue
    exact ⟨timeoutSeconds, last, hregistered, hlast, hdue⟩
  · rintro ⟨timeoutSeconds, last, hregistered, hlast, hsilent, hnot⟩
    refine ⟨_, Option.map_eq_some_iff.mpr ⟨timeoutSeconds, hregistered, rfl⟩, ?_⟩
    rw [DeviceRecord.due, Bool.and_eq_true, decide_eq_true_iff, Bool.not_eq_true',
      decide_eq_false_iff_not, hlast]
    exact ⟨hsilent, hnot⟩

end MonitorTrace

/-! ## Runs -/

namespace MonitorState

/-- The callback is set before the first poll. -/
def PollsWithCallback (tr : MonitorTrace) (_ : MonitorState) : MonitorInput → Prop
  | .poll _ => .setTimeoutCallback ∈ tr.map Prod.fst
  | _ => True

variable {tr : MonitorTrace} {s : MonitorState}

private theorem hasCallback_of_run {guard : MonitorTrace → MonitorState → MonitorInput → Prop}
    (hrun : Mealy.Run step guard {} tr s) (h : .setTimeoutCallback ∈ tr.map Prod.fst) :
    s.hasCallback = true := by
  revert h
  refine hrun.historyInvariant
    (P := fun tr s => .setTimeoutCallback ∈ tr.map Prod.fst → s.hasCallback = true)
    (fun h => absurd h List.not_mem_nil) fun tr s i ih _ h => ?_
  rw [List.map_append, List.mem_append, List.map_singleton, List.mem_singleton] at h
  cases i with
  | setTimeoutCallback => rfl
  | _ => exact ih (h.resolve_right (by simp))

private theorem fst_step_poll (h : s.hasCallback = true) (now : Timestamp) :
    (step s (.poll now)).1 = (s.monitor.poll now).1 := by
  rw [step, h]
  rfl

private theorem mem_poll_of_mem_step {now : Timestamp} {deviceId : StdString}
    (h : deviceId ∈ (step s (.poll now)).1) : deviceId ∈ (s.monitor.poll now).1 := by
  rw [step] at h
  dsimp only at h
  split at h
  · exact h
  · cases h

/-- The record of every device is the one that its history leads to. -/
theorem lookup_eq_record (hrun : Mealy.Run step PollsWithCallback {} tr s) (deviceId : StdString) :
    s.monitor.devices.lookup deviceId = tr.record deviceId := by
  induction hrun with
  | nil => rfl
  | @snoc tr s i hrun hguard ih =>
    -- Whoever is not concerned keeps the record.
    have hkeeps (r : Option DeviceRecord) :
        (r.map fun r => { r with timedOut := r.timedOut || decide (deviceId ∈ []) }) = r := by
      simp
    cases i with
    | register now other timeoutSeconds =>
      refine (HeartbeatMonitor.lookup_register ..).trans ?_
      by_cases hid : deviceId = other
      · rw [if_pos hid, MonitorTrace.record, MonitorTrace.registered_snoc,
          MonitorTrace.lastReset_snoc]
        simp [MonitorInput.registration, MonitorInput.reset, MonitorTrace.reportedSinceReset_snoc,
          hid]
      · have hne : some other ≠ some deviceId := fun heq => hid (Option.some.inj heq).symm
        rw [if_neg hid, ih, MonitorTrace.record_snoc (.register ..) _ hne hne]
        exact (hkeeps _).symm
    | unregister other =>
      refine (HeartbeatMonitor.lookup_unregister ..).trans ?_
      by_cases hid : deviceId = other
      · rw [if_pos hid, MonitorTrace.record, MonitorTrace.registered_snoc]
        simp [MonitorInput.registration, hid]
      · have hne : some other ≠ some deviceId := fun heq => hid (Option.some.inj heq).symm
        rw [if_neg hid, ih, MonitorTrace.record_snoc (.unregister other) _ hne nofun]
        exact (hkeeps _).symm
    | recordHeartbeat now other =>
      refine (HeartbeatMonitor.lookup_recordHeartbeat ..).trans ?_
      by_cases hid : deviceId = other
      · subst hid
        rw [if_pos rfl, ih, MonitorTrace.record, MonitorTrace.record, MonitorTrace.registered_snoc,
          MonitorTrace.lastReset_snoc]
        simp [MonitorInput.registration, MonitorInput.reset, MonitorTrace.reportedSinceReset_snoc,
          Function.comp_def]
      · have hne : some other ≠ some deviceId := fun heq => hid (Option.some.inj heq).symm
        rw [if_neg hid, ih, MonitorTrace.record_snoc (.recordHeartbeat ..) _ nofun hne]
        exact (hkeeps _).symm
    | setTimeoutCallback =>
      rw [MonitorTrace.record_snoc .setTimeoutCallback _ nofun nofun]
      exact ih.trans (hkeeps _).symm
    | poll now =>
      refine (HeartbeatMonitor.lookup_poll ..).trans ?_
      rw [MonitorTrace.record_snoc (.poll now) _ nofun nofun, ← ih]
      -- What the poll marks is what it calls back for.
      rw [fst_step_poll (hasCallback_of_run hrun hguard)]
      cases hlookup : s.monitor.devices.lookup deviceId with
      | none => rfl
      | some r =>
        have hdue : r.due now = decide (deviceId ∈ (s.monitor.poll now).1) := by
          rw [Bool.eq_iff_iff, decide_eq_true_iff, HeartbeatMonitor.mem_poll_iff, hlookup]
          simp
        rw [Option.map_some, Option.map_some, HeartbeatMonitor.polled, hdue]

/-- A poll calls back for the devices that are overdue, and once for each; a heartbeat of a device
that is not registered changes nothing. -/
theorem callbacks_of_run (hrun : Mealy.Run step PollsWithCallback {} tr s) :
    (∀ now, PollsWithCallback tr s (.poll now) →
      (step s (.poll now)).1.Nodup ∧
      ∀ deviceId, deviceId ∈ (step s (.poll now)).1 ↔ tr.Overdue deviceId now) ∧
    ∀ deviceId, tr.registered deviceId = none → ∀ now,
      deviceId ∉ (step s (.poll now)).1 ∧ (step s (.recordHeartbeat now deviceId)).2 = s := by
  constructor
  · intro now hguard
    rw [fst_step_poll (hasCallback_of_run hrun hguard)]
    refine ⟨HeartbeatMonitor.nodup_poll now, fun deviceId => ?_⟩
    rw [HeartbeatMonitor.mem_poll_iff, lookup_eq_record hrun, MonitorTrace.exists_record_due_iff]
  · intro deviceId hunregistered now
    have hlookup : s.monitor.devices.lookup deviceId = none := by
      rw [lookup_eq_record hrun, MonitorTrace.record, hunregistered, Option.map_none]
    refine ⟨fun hmem => ?_, ?_⟩
    · obtain ⟨record, hrecord, -⟩ :=
        (HeartbeatMonitor.mem_poll_iff now deviceId).mp (mem_poll_of_mem_step hmem)
      rw [hlookup] at hrecord
      cases hrecord
    · rw [step, HeartbeatMonitor.recordHeartbeat_of_lookup_eq_none hlookup]

/-- `TimeSinceLastSeen` answers how long ago the device was last registered or heard from, as long
as it is registered; and when a poll calls back for the device, that is at least its timeout. -/
theorem timeSinceLastSeen_of_run (hrun : Mealy.Run step PollsWithCallback {} tr s)
    (now : Timestamp) (deviceId : StdString) :
    (s.monitor.timeSinceLastSeen now deviceId =
      if (tr.registered deviceId).isSome then
        (tr.lastReset deviceId).map fun last => Timestamp.seconds (now - last)
      else none) ∧
    (deviceId ∈ (step s (.poll now)).1 → ∃ timeoutSeconds elapsed,
      tr.registered deviceId = some timeoutSeconds ∧
      s.monitor.timeSinceLastSeen now deviceId = some elapsed ∧ timeoutSeconds ≤ elapsed) := by
  have hanswer : s.monitor.timeSinceLastSeen now deviceId =
      if (tr.registered deviceId).isSome then
        (tr.lastReset deviceId).map fun last => Timestamp.seconds (now - last)
      else none := by
    rw [HeartbeatMonitor.timeSinceLastSeen, lookup_eq_record hrun, MonitorTrace.record,
      Option.map_map]
    cases hregistered : tr.registered deviceId with
    | none => rfl
    | some timeoutSeconds =>
      obtain ⟨last, hlast⟩ := Option.isSome_iff_exists.mp
        (MonitorTrace.lastReset_isSome (by rw [hregistered]; rfl))
      rw [hlast]
      rfl
  refine ⟨hanswer, fun hmem => ?_⟩
  obtain ⟨record, hlookup, hdue⟩ :=
    (HeartbeatMonitor.mem_poll_iff now deviceId).mp (mem_poll_of_mem_step hmem)
  rw [lookup_eq_record hrun] at hlookup
  obtain ⟨timeoutSeconds, last, hregistered, hlast, hsilent, -⟩ :=
    MonitorTrace.exists_record_due_iff now |>.mp ⟨record, hlookup, hdue⟩
  refine ⟨timeoutSeconds, _, hregistered, ?_, hsilent⟩
  rw [hanswer, hregistered, hlast]
  rfl

/-- The callback is set and a lamp is registered with a timeout of two seconds. -/
def watchedLamp : List MonitorInput := [.setTimeoutCallback, .register 0 (lit "lamp") 2]

/-- After three seconds the lamp is reported. -/
theorem callbacks_of_run_lamp :
    lit "lamp" ∈ (step (Mealy.exec step {} watchedLamp).2 (.poll 3000000000)).1 := by
  have h := callbacks_of_run
    (Mealy.Run.exec (show Mealy.Allowed _ _ _ _ watchedLamp from ⟨trivial, trivial, trivial⟩))
  have hguard : PollsWithCallback (Mealy.exec step {} watchedLamp).1
      (Mealy.exec step {} watchedLamp).2 (.poll 3000000000) := List.mem_cons_self
  exact ((h.1 3000000000 hguard).2 (lit "lamp")).mpr
    ⟨2, 0, by decide, by decide, by decide, by decide⟩

end MonitorState

end IotDashboard
