import IotDashboard.Devices.HeartbeatTimeouts

/-!
# Reports that come too late

A round of the poll loop makes its list of silent devices under the lock, and calls the callback
for each of them after the lock is released. Other threads register, unregister and hear from
devices in between. A report is then stale: the device is gone, or came back.

## Main definitions

* `PollThread.step`: the locked part of a round, one callback, or one operation of another thread;
* `PollThread.Fresh`: the device is still registered and silent as it was when the list was made;
* `PollThread.FreshReports`: every callback that ran was for such a device.

## Main results

* `PollThread.freshReports_iff`: the reports are fresh exactly when no operation concerns a device
  that is still on the list.
-/

namespace IotDashboard

open StdString

/-- A step of the poll thread, or an operation of another thread. -/
inductive PollInput where
  | register (now : Timestamp) (deviceId : StdString) (timeoutSeconds : Int64)
  | unregister (deviceId : StdString)
  | recordHeartbeat (now : Timestamp) (deviceId : StdString)
  | setTimeoutCallback
  /-- The locked part of a round; the clock was read before. -/
  | collect (now : Timestamp)
  /-- The call for the next device on the list. -/
  | callback
deriving DecidableEq

namespace PollInput

/-- The device that an operation concerns. -/
def device : PollInput → Option StdString
  | register _ deviceId _ | unregister deviceId | recordHeartbeat _ deviceId => some deviceId
  | _ => none

/-- The device that is registered, or was heard from. -/
def reset : PollInput → Option StdString
  | register _ deviceId _ | recordHeartbeat _ deviceId => some deviceId
  | _ => none

/-- It makes a new list. -/
def isCollect : PollInput → Bool
  | collect _ => true
  | _ => false

end PollInput

/-- The monitor with the locals of `PollLoop`. -/
structure PollThread where
  monitor : HeartbeatMonitor := {}
  hasCallback : Bool := false
  /-- The devices on the list for which the callback has not been called yet. -/
  pending : List StdString := []

/-- The steps, each with the device that the callback is called for. -/
abbrev PollTrace := List (PollInput × Option StdString)

namespace PollThread

/-- One step, with the device that the callback is called for. -/
def step (s : PollThread) : PollInput → Option StdString × PollThread
  | .register now deviceId timeoutSeconds =>
    (none, { s with monitor := s.monitor.register now deviceId timeoutSeconds })
  | .unregister deviceId => (none, { s with monitor := s.monitor.unregister deviceId })
  | .recordHeartbeat now deviceId =>
    (none, { s with monitor := s.monitor.recordHeartbeat now deviceId })
  | .setTimeoutCallback => (none, { s with hasCallback := true })
  | .collect now =>
    let (timedOut, monitor) := s.monitor.poll now
    -- The callback is copied under the lock too.
    (none, { s with monitor, pending := if s.hasCallback then timedOut else [] })
  | .callback => (s.pending.head?, { s with pending := s.pending.tail })

/-- There is one poll thread: it goes through its list before it makes the next one. -/
def Possible (_ : PollTrace) (s : PollThread) : PollInput → Prop
  | .collect _ => s.pending = []
  | .callback => s.pending ≠ []
  | _ => True

instance decidablePossible (tr : PollTrace) (s : PollThread) : ∀ i, Decidable (Possible tr s i)
  | .collect _ => inferInstanceAs (Decidable (s.pending = []))
  | .callback => inferInstanceAs (Decidable (s.pending ≠ []))
  | .register _ _ _ | .unregister _ | .recordHeartbeat _ _ | .setTimeoutCallback => isTrue trivial

/-- A round that nothing interrupts is a poll. -/
theorem step_collect (s : PollThread) (now : Timestamp) :
    let poll := MonitorState.step ⟨s.monitor, s.hasCallback⟩ (.poll now)
    (s.step (.collect now)).2 = ⟨poll.2.monitor, poll.2.hasCallback, poll.1⟩ := rfl

/-- What happened after the list was made. -/
def sinceCollect (tr : PollTrace) : PollTrace := tr.rtakeWhile fun e => !e.1.isCollect

/-- The device is registered, and was neither heard from nor registered again since the list was
made. -/
def Fresh (tr : PollTrace) (s : PollThread) (deviceId : StdString) : Prop :=
  deviceId ∈ s.monitor.devices ∧ ∀ e ∈ sinceCollect tr, e.1.reset ≠ some deviceId

/-- Every callback was called for a device that was fresh then. -/
def FreshReports (tr : PollTrace) : Prop :=
  tr.EachAfter fun past entry => ∀ deviceId, entry = (.callback, some deviceId) →
    ∀ s, Mealy.Run step Possible {} past s → Fresh past s deviceId

/-- The operation, if it is one, concerns no device that is still on the list. -/
def SparesPending (s : PollThread) (i : PollInput) : Prop :=
  ∀ deviceId ∈ i.device, deviceId ∉ s.pending

instance (s : PollThread) (i : PollInput) : Decidable (SparesPending s i) :=
  inferInstanceAs (Decidable (∀ deviceId ∈ i.device, deviceId ∉ s.pending))

/-- The reports so far were fresh, and so are those that the list holds. -/
def NoneStale (tr : PollTrace) (s : PollThread) : Prop :=
  FreshReports tr ∧ ∀ deviceId ∈ s.pending, Fresh tr s deviceId

variable {tr : PollTrace} {s : PollThread} {deviceId : StdString}

private theorem freshReports_snoc (hrun : Mealy.Run step Possible {} tr s) (i : PollInput) :
    FreshReports (tr ++ [(i, (step s i).1)]) ↔
      FreshReports tr ∧ (i = .callback → ∀ deviceId ∈ (step s i).1, Fresh tr s deviceId) := by
  rw [FreshReports, List.eachAfter_snoc, ← FreshReports]
  refine and_congr_right fun _ => ⟨fun h hi deviceId ho => ?_, fun h deviceId heq s' hrun' => ?_⟩
  · exact h deviceId (Prod.ext hi ho) s hrun
  · obtain ⟨hi, ho⟩ := Prod.mk.inj heq
    rw [← hrun.unique hrun']
    exact h hi deviceId ho

/-- Other threads make a device stale by an operation that concerns it. -/
theorem fresh_snoc {i : PollInput} (hi : i.isCollect = false) (o : Option StdString) :
    Fresh (tr ++ [(i, o)]) (step s i).2 deviceId ↔
      Fresh tr s deviceId ∧ i.device ≠ some deviceId := by
  -- The step goes on with the round that is under way.
  have hsince : sinceCollect (tr ++ [(i, o)]) = sinceCollect tr ++ [(i, o)] :=
    List.rtakeWhile_concat_pos _ _ _ (by rw [hi]; rfl)
  rw [Fresh, hsince, List.forall_mem_append, List.forall_mem_singleton, Fresh]
  cases i with
  | register now other timeoutSeconds =>
    show deviceId ∈ s.monitor.devices.insert other _ ∧ _ ↔ _
    rw [AList.mem_insert]
    simp only [PollInput.reset, PollInput.device, ne_eq, Option.some.injEq]
    by_cases hid : other = deviceId
    · simp [hid]
    · simp [hid, Ne.symm hid]
  | unregister other =>
    show deviceId ∈ s.monitor.devices.erase other ∧ _ ↔ _
    rw [AList.mem_erase]
    simp only [PollInput.reset, PollInput.device, ne_eq, Option.some.injEq]
    by_cases hid : other = deviceId
    · simp [hid]
    · simp [hid, Ne.symm hid]
  | recordHeartbeat now other =>
    -- A heartbeat adds no device.
    have hmem : deviceId ∈ (s.monitor.recordHeartbeat now other).devices ↔
        deviceId ∈ s.monitor.devices := by
      rw [← AList.lookup_isSome, HeartbeatMonitor.lookup_recordHeartbeat, ← AList.lookup_isSome]
      split
      · next heq => rw [heq, Option.isSome_map]
      · rfl
    show deviceId ∈ (s.monitor.recordHeartbeat now other).devices ∧ _ ↔ _
    rw [hmem, and_assoc]
    rfl
  | setTimeoutCallback => simp [step, PollInput.reset, PollInput.device]
  | collect now => cases hi
  | callback => simp [step, PollInput.reset, PollInput.device]

/-- What a round puts on the list is fresh. -/
theorem fresh_collect {now : Timestamp} {o : Option StdString}
    (h : deviceId ∈ (step s (.collect now)).2.pending) :
    Fresh (tr ++ [(.collect now, o)]) (step s (.collect now)).2 deviceId := by
  have hpoll : deviceId ∈ (s.monitor.poll now).1 := by
    rw [step] at h
    dsimp only at h
    split at h
    · exact h
    · cases h
  obtain ⟨record, hlookup, -⟩ := (HeartbeatMonitor.mem_poll_iff now deviceId).mp hpoll
  constructor
  · show deviceId ∈ (s.monitor.poll now).2.devices
    rw [← AList.lookup_isSome, HeartbeatMonitor.lookup_poll, hlookup]
    rfl
  · have hsince : sinceCollect (tr ++ [(.collect now, o)]) = [] :=
      List.rtakeWhile_concat_neg _ _ _ (by simp [PollInput.isCollect])
    rw [hsince]
    exact fun e he => absurd he List.not_mem_nil

/-- An operation of another thread leaves the list as it is. -/
private theorem noneStale_snoc_of_operation (hrun : Mealy.Run step Possible {} tr s)
    {i : PollInput} (hcallback : i ≠ .callback) (hcollect : i.isCollect = false)
    (hpending : (step s i).2.pending = s.pending) :
    NoneStale (tr ++ [(i, (step s i).1)]) (step s i).2 ↔ NoneStale tr s ∧ SparesPending s i := by
  rw [NoneStale, freshReports_snoc hrun, NoneStale, hpending,
    and_iff_left fun h => absurd h hcallback, and_assoc]
  refine and_congr_right fun _ => ?_
  simp only [fresh_snoc hcollect, SparesPending, forall_and]
  refine and_congr_right fun _ => ⟨fun h deviceId hid hmem => h deviceId hmem hid, ?_⟩
  exact fun h deviceId hmem hid => h deviceId hid hmem

/-- A step keeps the reports fresh exactly if it spares the devices on the list. -/
theorem noneStale_snoc (hrun : Mealy.Run step Possible {} tr s) {i : PollInput}
    (hpossible : Possible tr s i) :
    NoneStale (tr ++ [(i, (step s i).1)]) (step s i).2 ↔ NoneStale tr s ∧ SparesPending s i := by
  cases i with
  | collect now =>
    -- The last list is used up.
    have hspares : SparesPending s (.collect now) := fun deviceId h => by cases h
    rw [NoneStale, freshReports_snoc hrun, NoneStale, show s.pending = [] from hpossible,
      and_iff_left hspares]
    refine and_congr (and_iff_left fun h => by cases h) (iff_of_true ?_ ?_)
    · exact fun _ hmem => fresh_collect hmem
    · exact fun _ hmem => absurd hmem List.not_mem_nil
  | callback =>
    have hspares : SparesPending s .callback := fun deviceId h => by cases h
    have hfresh : ∀ deviceId, Fresh (tr ++ [(.callback, (step s .callback).1)])
        (step s .callback).2 deviceId ↔ Fresh tr s deviceId := fun deviceId =>
      (fresh_snoc rfl _).trans (and_iff_left fun h => by cases h)
    -- The device that is reported was the first one on the list.
    obtain ⟨next, rest, hpending⟩ := List.exists_cons_of_ne_nil hpossible
    rw [NoneStale, freshReports_snoc hrun, NoneStale, and_iff_left hspares, and_assoc]
    simp only [hfresh]
    simp [step, hpending]
  | register now deviceId timeoutSeconds =>
    exact noneStale_snoc_of_operation hrun (by simp) rfl rfl
  | unregister deviceId => exact noneStale_snoc_of_operation hrun (by simp) rfl rfl
  | recordHeartbeat now deviceId => exact noneStale_snoc_of_operation hrun (by simp) rfl rfl
  | setTimeoutCallback => exact noneStale_snoc_of_operation hrun (by simp) rfl rfl

/-- No report so far is stale, and none on the list, exactly when every operation spared the
devices that were on the list. -/
theorem noneStale_iff (hrun : Mealy.Run step Possible {} tr s) :
    NoneStale tr s ↔ tr.EachAfter fun past entry =>
      ∀ s', Mealy.Run step Possible {} past s' → SparesPending s' entry.1 :=
  hrun.iff_eachAfter ⟨List.eachAfter_nil, fun _ hmem => absurd hmem List.not_mem_nil⟩
    fun _ _ _ hrun hpossible => noneStale_snoc hrun hpossible

/-- Callbacks only take devices off the list. -/
theorem NoneStale.callbacks (h : NoneStale tr s) (hrun : Mealy.Run step Possible {} tr s)
    {callbacks : PollTrace} (hcallbacks : ∀ e ∈ callbacks, e.1 = .callback) {s' : PollThread}
    (hrun' : Mealy.Run step Possible {} (tr ++ callbacks) s') :
    NoneStale (tr ++ callbacks) s' := by
  rw [noneStale_iff hrun']
  rw [noneStale_iff hrun] at h
  clear hrun'
  induction callbacks using List.reverseRecOn with
  | nil => rwa [List.append_nil]
  | append_singleton callbacks e ih =>
    rw [List.forall_mem_append, List.forall_mem_singleton] at hcallbacks
    rw [← List.append_assoc, List.eachAfter_snoc]
    refine ⟨ih hcallbacks.1, fun s' _ deviceId hdevice => ?_⟩
    rw [hcallbacks.2] at hdevice
    cases hdevice

/-- What is still on the list is reported sooner or later. -/
theorem noneStale_of_freshReports (hrun : Mealy.Run step Possible {} tr s)
    (h : ∀ callbacks s', Mealy.Run step Possible {} (tr ++ callbacks) s' →
      (∀ e ∈ callbacks, e.1 = .callback) → FreshReports (tr ++ callbacks)) : NoneStale tr s := by
  generalize hlist : s.pending = pending
  induction pending generalizing tr s with
  | nil =>
    have hreports := h [] s (by rwa [List.append_nil]) fun e he => absurd he List.not_mem_nil
    rw [List.append_nil] at hreports
    refine ⟨hreports, ?_⟩
    rw [hlist]
    exact fun deviceId hmem => absurd hmem List.not_mem_nil
  | cons next rest ih =>
    have hpossible : Possible tr s .callback := by
      show s.pending ≠ []
      rw [hlist]
      exact List.cons_ne_nil next rest
    refine ((noneStale_snoc hrun hpossible).mp (ih (hrun.snoc .callback hpossible) ?_ ?_)).1
    · intro callbacks s' hrun' hcallbacks
      rw [List.append_assoc] at hrun' ⊢
      refine h _ s' hrun' fun e he => ?_
      rcases List.mem_cons.mp he with rfl | he
      · rfl
      · exact hcallbacks e he
    · simp [step, hlist]

/-- For every run, however many of the callbacks on the list come next: each callback is for a
device that is registered and silent as it was when the list was made, exactly when no operation
concerned a device whose callback was still to come. -/
theorem freshReports_iff (hrun : Mealy.Run step Possible {} tr s) :
    (∀ callbacks s', Mealy.Run step Possible {} (tr ++ callbacks) s' →
      (∀ e ∈ callbacks, e.1 = .callback) → FreshReports (tr ++ callbacks)) ↔
    tr.EachAfter fun past entry =>
      ∀ s', Mealy.Run step Possible {} past s' → SparesPending s' entry.1 := by
  rw [← noneStale_iff hrun]
  exact ⟨noneStale_of_freshReports hrun, fun h callbacks s' hrun' hcallbacks =>
    (h.callbacks hrun hcallbacks hrun').1⟩

/-- A lamp with a timeout of two seconds is on the list of a round. -/
def lampListed : List PollInput :=
  [.setTimeoutCallback, .register 0 (lit "d-1") 2, .collect 2000000000]

/-- It is reported while it is silent, and heard from afterwards. -/
def lampReported : List PollInput :=
  lampListed ++ [.callback, .recordHeartbeat 3000000000 (lit "d-1")]

/-- The report of the lamp is not stale. -/
theorem freshReports_iff_lampReported :
    let r := Mealy.exec step {} lampReported
    Mealy.Run step Possible {} r.1 r.2 ∧ (.callback, some (lit "d-1")) ∈ r.1 ∧
      FreshReports r.1 := by
  have hspares : Mealy.Run step (fun tr s i => Possible tr s i ∧ SparesPending s i) {}
      (Mealy.exec step {} lampReported).1 (Mealy.exec step {} lampReported).2 :=
    Mealy.Run.exec (by decide)
  have hrun : Mealy.Run step Possible {} _ _ := hspares.imp fun _ _ _ h => h.1
  have hreports := (freshReports_iff hrun).mpr fun past entry future htr s hpast =>
    (hspares.eachAfter_guard past entry future htr s hpast).2
  refine ⟨hrun, by decide, ?_⟩
  simpa using hreports [] _ (by simpa using hrun)

/-- It is removed before the callback runs, which is for it nevertheless. -/
theorem not_freshReports_lampRemoved :
    let r := Mealy.exec step {} (lampListed ++ [.unregister (lit "d-1"), .callback])
    Mealy.Run step Possible {} r.1 r.2 ∧ (.callback, some (lit "d-1")) ∈ r.1 ∧
      ¬ FreshReports r.1 := by
  refine ⟨Mealy.Run.exec (by decide), by decide, fun hreports => ?_⟩
  have hpast : Mealy.Run step Possible {}
      (Mealy.exec step {} (lampListed ++ [.unregister (lit "d-1")])).1
      (Mealy.exec step {} (lampListed ++ [.unregister (lit "d-1")])).2 :=
    Mealy.Run.exec (by decide)
  obtain ⟨hregistered, -⟩ := hreports _ (.callback, some (lit "d-1")) [] rfl (lit "d-1") rfl _ hpast
  exact absurd hregistered (by decide)

end PollThread

end IotDashboard
