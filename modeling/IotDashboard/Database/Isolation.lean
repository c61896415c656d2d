import IotDashboard.Database.SharedBatch

/-!
# Device and sensor operations beside each other

Whatever the two operations are, and however their calls mix.

## Main results

* `SharedConnection.isolated_of_undisturbed`: where no count is overwritten before it is read and
  no device write falls into a batch, an interleaving has the outcome of a sequential order;
* `SharedConnection.not_isolated_removeAbsent_and_rollback`: a count that is overwritten, and a
  device write that a batch takes back.
-/

namespace IotDashboard

open Program

/-- The statement of a device operation. -/
def DeviceOp.write : DeviceOp → Write
  | .add device => .insertDevice (SqliteDeviceRepository.bindDevice device)
  | .update device => .updateDevice (SqliteDeviceRepository.bindDevice device)
  | .remove deviceId => .deleteDevice deviceId

/-- What a device operation does after its statement. -/
def DeviceOp.finish : DeviceOp → Sql (Result Unit)
  | .add _ => .ret (.ok ())
  | .update _ | .remove _ => .call .changes fun n =>
    .ret (SqliteDeviceRepository.reportChanges n)

/-- An `Update` or a `Remove` of a device that is not stored. -/
def DeviceOp.Misses (tables : Tables) : DeviceOp → Prop
  | .add _ => False
  | .update device => device.id ∉ tables.ids
  | .remove deviceId => deviceId ∉ tables.ids

private theorem DeviceOp.onDevices_write (op : DeviceOp) : SharedConnection.OnDevices op.write := by
  cases op with
  | add device => exact .insert _
  | update device => exact .update _
  | remove deviceId => exact .delete _

private theorem DeviceOp.reading_finish (op : DeviceOp) : SharedConnection.Reading op.finish := by
  cases op with
  | add device => exact SharedConnection.reading_ret _
  | update device => exact SharedConnection.reading_changes _
  | remove deviceId => exact SharedConnection.reading_changes _

namespace SharedConnection

/-- Prepare, execute, and go on whatever `Step` returns. -/
theorem eq_singleWrite {α : Type} (w : Write) (rest : Bool → Sql α) (finish : Sql α)
    (hrest : ∀ row, rest row = finish) :
    (do SqliteStatement.new; let row ← SqliteStatement.step w; rest row) =
      singleWrite w finish := by
  refine congrArg (Program.call _) ?_
  funext ok
  cases ok
  · rfl
  · refine congrArg (Program.call _) ?_
    funext code
    exact hrest _

/-- A device operation is one statement on the devices. -/
theorem deviceOp_eq (op : DeviceOp) : op.program = singleWrite op.write op.finish := by
  have hreport : ∀ n : ℕ, (if n = 0 then Program.ret (.error .deviceNotFound)
      else .ret (.ok ()) : Sql (Result Unit)) = .ret (SqliteDeviceRepository.reportChanges n) := by
    intro n
    rw [SqliteDeviceRepository.reportChanges]
    split <;> rfl
  cases op with
  | add device =>
    refine eq_singleWrite _ _ _ fun row => ?_
    cases row <;> rfl
  | update device =>
    refine eq_singleWrite _ _ _ fun _ => ?_
    exact congrArg (Program.call _) (funext hreport)
  | remove deviceId =>
    refine eq_singleWrite _ _ _ fun _ => ?_
    exact congrArg (Program.call _) (funext hreport)

private theorem sensorOp_add_eq (reading : SensorReading) :
    (SensorOp.add reading).program =
      singleWrite (.insertReading (SqliteSensorRepository.bindReading reading)) (.ret (.ok ())) :=
  eq_singleWrite _ _ _ fun _ => rfl

private theorem sensorOp_purge_eq (now : Timestamp) (retentionDays : UInt32) :
    (SensorOp.purge now retentionDays).program =
      singleWrite (.deleteReadings (SqliteSensorRepository.purgeCutoffMs now retentionDays))
        (.call .changes fun n => .ret (.ok (UInt32.ofNat n))) :=
  eq_singleWrite _ _ _ fun _ => rfl

/-! ## What one operation does to the devices -/

section Devices

variable {α : Type} {t : Turn} {w : Write} {finish : Sql α} {s s' : SharedConnection}

/-- One statement is prepared or not, and then executed. -/
theorem run_singleWrite (hfinish : Reading finish) (s : SharedConnection) :
    ((singleWrite w finish).run (handle t)).run s =
      let s₁ := s.withFaults t fun i => s.faults t (i + 1)
      if s.faults t 0 then (.error .runtimeError, s₁)
      else (((finish.run (handle t)).run (stepped t w s₁)).1, stepped t w s₁) := by
  rw [← run_advance, advance_singleWrite]
  cases s.faults t 0
  · exact run_prepared hfinish _
  · rfl

private theorem devices_stepped (t : Turn) (w : Write) (s : SharedConnection) :
    (stepped t w s).tables.devices =
      if s.faults t 0 then s.tables.devices
      else ((w.apply s.tables).map fun result => result.1.devices).getD s.tables.devices := by
  have houtcome : (view t s).outcome w = if s.faults t 0 then none else w.apply s.tables := rfl
  cases hstep : (view t s).outcome w with
  | none =>
    rw [stepped, Database.step_of_failure _ hstep]
    rw [hstep] at houtcome
    by_cases hfault : s.faults t 0 = true
    · rw [if_pos hfault]
      rfl
    · rw [if_neg hfault] at houtcome ⊢
      rw [← houtcome]
      rfl
  | some result =>
    rw [stepped, Database.step_of_outcome _ hstep]
    rw [hstep] at houtcome
    by_cases hfault : s.faults t 0 = true
    · rw [if_pos hfault] at houtcome
      cases houtcome
    · rw [if_neg hfault] at houtcome ⊢
      rw [← houtcome]
      rfl

/-- What a device operation makes of the devices depends on them and on its own faults. -/
theorem devices_run_congr (op : DeviceOp) (hdevices : s.tables.devices = s'.tables.devices)
    (hfaults : s.faults t = s'.faults t) :
    ((op.program.run (handle t)).run s).2.tables.devices =
      ((op.program.run (handle t)).run s').2.tables.devices := by
  rw [deviceOp_eq, run_singleWrite op.reading_finish, run_singleWrite op.reading_finish, hfaults]
  cases s'.faults t 0
  · show (stepped t op.write _).tables.devices = (stepped t op.write _).tables.devices
    rw [devices_stepped, devices_stepped]
    simp only [withFaults, Function.update_self, op.onDevices_write.devices_congr hdevices,
      hdevices]
  · exact hdevices

/-- A statement that is not on the devices leaves them alone. -/
theorem devices_run_singleWrite (hfinish : Reading finish)
    (hw : ∀ (tables : Tables) result, w.apply tables = some result →
      result.1.devices = tables.devices) (s : SharedConnection) :
    (((singleWrite w finish).run (handle t)).run s).2.tables.devices = s.tables.devices := by
  rw [run_singleWrite hfinish]
  cases s.faults t 0
  · show (stepped t w _).tables.devices = s.tables.devices
    rw [devices_stepped]
    split
    · rfl
    · cases hresult : w.apply s.tables with
      | none => simp [withFaults, hresult]
      | some result => simpa [withFaults, hresult] using hw _ _ hresult
  · rfl

/-- A sensor operation leaves the devices alone, also when it rolls back. -/
theorem devices_run_sensorOp (op : SensorOp) (s : SharedConnection) :
    ((op.program.run (handle .right)).run s).2.tables.devices = s.tables.devices := by
  cases op with
  | add reading =>
    rw [sensorOp_add_eq]
    refine devices_run_singleWrite (reading_ret _) (fun tables result hresult => ?_) s
    rw [Write.apply] at hresult
    split at hresult
    · rw [← Option.some.inj hresult]
      rfl
    · cases hresult
  | purge now retentionDays =>
    rw [sensorOp_purge_eq]
    refine devices_run_singleWrite (reading_changes _) (fun tables result hresult => ?_) s
    rw [← Option.some.inj hresult]
    rfl
  | addBatch readings =>
    rw [SensorOp.program]
    by_cases hempty : readings = []
    · subst hempty
      rfl
    rw [addBatch_eq hempty]
    -- Without `BEGIN` nothing is stored; with it, a `ROLLBACK` would restore the same devices.
    by_cases hbegin : (view .right s).faults 0 ∨ (view .right s).transaction.isSome
    · have hcall : (handle .right (.execute .begin)).run s =
          (.ok false, put .right ((view .right s).tick 1) s) := by
        rw [run_handle]
        exact congrArg (fun r : Bool × Database => (Except.ok r.1, put .right r.2 s))
          (if_pos hbegin)
      rw [← run_advance, advance_call_of_ok hcall]
      rfl
    · have hcall : (handle .right (.execute .begin)).run s = (.ok true, put .right
          { (view .right s).tick 1 with transaction := some s.tables } s) := by
        rw [run_handle]
        exact congrArg (fun r : Bool × Database => (Except.ok r.1, put .right r.2 s))
          (if_neg hbegin)
      rw [← run_advance, advance_call_of_ok hcall]
      have hbegun : BatchInvariant s.tables.devices (put .right
          { (view .right s).tick 1 with transaction := some s.tables } s) := by
        refine ⟨rfl, ?_⟩
        rintro tables htables
        rw [← Option.some.inj htables]
      exact (run_invariant batchInvariant_handle (InBatch.body readings).all hbegun).stored

/-- Alone, an `Update` or a `Remove` of a device that is not stored says so. -/
theorem run_of_misses {op : DeviceOp} (hmiss : op.Misses s.tables)
    (hprepare : s.faults .left 0 = false) (hstep : s.faults .left 1 = false) :
    ((op.program.run (handle .left)).run s).1 = .ok (.error .deviceNotFound) := by
  let s₁ := s.withFaults .left fun i => s.faults .left (i + 1)
  have hcounted : ∀ tables, op.write.apply s.tables = some (tables, 0) →
      (stepped .left op.write s₁).changes = 0 := by
    intro tables happly
    have houtcome : (view .left s₁).outcome op.write = some (tables, 0) := by
      refine (if_neg ?_).trans happly
      simp [s₁, view, withFaults, hstep]
    rw [stepped, Database.step_of_outcome _ houtcome]
    rfl
  have hreport : ∀ n, n = 0 → SqliteDeviceRepository.reportChanges n = .error .deviceNotFound :=
    fun n hn => if_pos hn
  rw [deviceOp_eq, run_singleWrite op.reading_finish, hprepare]
  cases op with
  | add device => exact hmiss.elim
  | update device =>
    refine congrArg Except.ok (hreport _ (hcounted
      (s.tables.updateDevice (SqliteDeviceRepository.bindDevice device)) ?_))
    exact congrArg (fun n => some (_, n)) (Tables.countP_eq_zero_iff.mpr hmiss)
  | remove deviceId =>
    refine congrArg Except.ok (hreport _ (hcounted (s.tables.deleteDevice deviceId) ?_))
    exact congrArg (fun n => some (_, n)) (Tables.countP_eq_zero_iff.mpr hmiss)

end Devices

/-! ## Any two operations -/

/-- What it is for two operations not to disturb each other: the results and the final tables are
those of a sequential order. -/
def Serializable (deviceOp : DeviceOp) (sensorOp : SensorOp) (start : SharedConnection)
    (f : Except CxxException (Result Unit) × Except CxxException sensorOp.Reply ×
      SharedConnection) : Prop :=
  let c : SqlThreads (Result Unit) sensorOp.Reply := ⟨deviceOp.program, sensorOp.program, start⟩
  outcome f = outcome (c.leftFirst (handle .left) (handle .right)) ∨
    outcome f = outcome (c.rightFirst (handle .left) (handle .right))

/-- The operations do not disturb each other. -/
structure Isolated (deviceOp : DeviceOp) (sensorOp : SensorOp) (start : SharedConnection)
    (f : Except CxxException (Result Unit) × Except CxxException sensorOp.Reply ×
      SharedConnection) : Prop where
  serial : Serializable deviceOp sensorOp start f
  /-- A device that is not stored is not found. -/
  notFound : deviceOp.Misses start.tables → start.faults .left 0 = false →
    start.faults .left 1 = false → f.1 = .ok (.error .deviceNotFound)
  /-- What the device operation does to the devices is not undone. -/
  kept : f.2.2.tables.devices =
    ((deviceOp.program.run (handle .left)).run start).2.tables.devices

/-- The particular cases follow from the sequential order. -/
theorem Serializable.isolated {deviceOp : DeviceOp} {sensorOp : SensorOp}
    {start : SharedConnection} {f : Except CxxException (Result Unit) ×
      Except CxxException sensorOp.Reply × SharedConnection}
    (h : Serializable deviceOp sensorOp start f) : Isolated deviceOp sensorOp start f := by
  let r := ((sensorOp.program.run (handle .right)).run start).2
  have hdevices : r.tables.devices = start.tables.devices := devices_run_sensorOp sensorOp start
  have hfaults : r.faults .left = start.faults .left :=
    (run_frame sensorOp.program .right (fun _ => false) start).2
  refine ⟨h, fun hmiss hprepare hstep => ?_, ?_⟩
  · rcases h with hfirst | hlast
    · refine (congrArg Prod.fst hfirst).trans ?_
      exact run_of_misses hmiss hprepare hstep
    · refine (congrArg Prod.fst hlast).trans ?_
      refine run_of_misses (s := r) ?_ (hfaults ▸ hprepare) (hfaults ▸ hstep)
      have hids : r.tables.ids = start.tables.ids := congrArg (List.map DeviceRow.id) hdevices
      cases deviceOp with
      | add device => exact hmiss
      | update device => exact fun hmem => hmiss (hids ▸ hmem)
      | remove deviceId => exact fun hmem => hmiss (hids ▸ hmem)
  · rcases h with hfirst | hlast
    -- Sensor operations leave the devices alone, so the order does not matter to them.
    · refine (congrArg (fun o => o.2.2.devices) hfirst).trans ?_
      exact devices_run_sensorOp sensorOp _
    · refine (congrArg (fun o => o.2.2.devices) hlast).trans ?_
      exact devices_run_congr deviceOp hdevices hfaults

/-- For every database, every device operation, every sensor operation and every interleaving of
their calls: if no turn disturbs the other thread, the operations do not disturb each other. -/
theorem isolated_of_undisturbed {deviceOp : DeviceOp} {sensorOp : SensorOp}
    {start : SharedConnection} {schedule : List Turn}
    {f : Except CxxException (Result Unit) × Except CxxException sensorOp.Reply ×
      SharedConnection}
    (hobeys : Threads.Obeys (handle .left) (handle .right) (Undisturbed start)
      ⟨deviceOp.program, sensorOp.program, start⟩ schedule)
    (hf : (Threads.exec (handle .left) (handle .right)
      ⟨deviceOp.program, sensorOp.program, start⟩ schedule).result? = some f) :
    Isolated deviceOp sensorOp start f := by
  apply Serializable.isolated
  let c : SqlThreads (Result Unit) sensorOp.Reply := ⟨deviceOp.program, sensorOp.program, start⟩
  have hdevice : Pending deviceOp.write deviceOp.finish c.left := .inl (deviceOp_eq deviceOp)
  have hkeeps : Threads.Obeys (handle .left) (handle .right) (KeepsCounter .left) c schedule :=
    hobeys.imp undisturbed_keepsCounter
  have hsingle : ∀ w finish, Reading finish → sensorOp.program = singleWrite w finish →
      Serializable deviceOp sensorOp start f := by
    intro w finish hfinish hsensor
    exact (serial_of_singleWrites (t := .left) (c := c) deviceOp.reading_finish hfinish
      (.inl hdevice) (.inl (.inl hsensor)) hkeeps hf).imp (congrArg outcome) (congrArg outcome)
  cases sensorOp with
  | add reading => exact hsingle _ _ (reading_ret _) (sensorOp_add_eq reading)
  | purge now retentionDays =>
    exact hsingle _ _ (reading_changes _) (sensorOp_purge_eq now retentionDays)
  | addBatch readings =>
    by_cases hempty : readings = []
    · -- An empty batch makes no call.
      subst hempty
      exact .inl (congrArg outcome (Threads.result_of_right_returned (c := c) rfl hf).1)
    · exact serial_of_batch (c := c) deviceOp.onDevices_write deviceOp.reading_finish
        (.inl hdevice) (addBatch_eq hempty) rfl hobeys hf

/-- A device. -/
def sampleDevice (deviceId : StdString) : DeviceInfo :=
  ⟨deviceId, deviceId, StdString.lit "sensor", StdString.lit "mqtt", [], false, 0⟩

/-- A reading of the device that is stored. -/
def sampleReading : SensorReading :=
  ⟨StdString.lit "d-1", StdString.lit "temperature", .zero, StdString.lit "C", 0, none⟩

/-- One device is stored. -/
def sampleStart : SharedConnection where
  tables := Tables.empty.insertDevice
    (SqliteDeviceRepository.bindDevice (sampleDevice (StdString.lit "d-1"))) List.not_mem_nil

/-- A device that is not stored is removed while a batch is under way, and not found. -/
theorem isolated_of_undisturbed_inBatch :
    ∃ schedule f, (Threads.exec (handle .left) (handle .right)
        ⟨(DeviceOp.remove (StdString.lit "d-2")).program,
          (SensorOp.addBatch [sampleReading]).program, sampleStart⟩ schedule).result? = some f ∧
      Isolated (.remove (StdString.lit "d-2")) (.addBatch [sampleReading]) sampleStart f := by
  let schedule : List Turn := [.right, .left, .right, .left, .left, .right, .right]
  have hobeys : Threads.Obeys (handle .left) (handle .right) (Undisturbed sampleStart)
      ⟨(DeviceOp.remove (StdString.lit "d-2")).program,
        (SensorOp.addBatch [sampleReading]).program, sampleStart⟩ schedule :=
    ⟨nofun, ⟨nofun, fun _ => rfl⟩, nofun, ⟨nofun, fun _ => rfl⟩, ⟨nofun, fun _ => rfl⟩, nofun,
      nofun, trivial⟩
  exact ⟨schedule, _, rfl, isolated_of_undisturbed hobeys rfl⟩

/-- `Remove` of a device that is not stored reports success after the count of an `Add`, and a
device that was added is taken back by the `ROLLBACK` of a batch whose `COMMIT` fails. -/
theorem not_isolated_removeAbsent_and_rollback :
    (¬ ∀ schedule f, (Threads.exec (handle .left) (handle .right)
        ⟨(DeviceOp.remove (StdString.lit "d-2")).program,
          (SensorOp.add sampleReading).program, sampleStart⟩ schedule).result? = some f →
      Isolated (.remove (StdString.lit "d-2")) (.add sampleReading) sampleStart f) ∧
    ¬ ∀ schedule f, (Threads.exec (handle .left) (handle .right)
        ⟨(DeviceOp.add (sampleDevice (StdString.lit "d-2"))).program,
          (SensorOp.addBatch [sampleReading]).program,
          { sampleStart with faults := fun t i => t = .right ∧ i = 3 }⟩ schedule).result? = some f →
      Isolated (.add (sampleDevice (StdString.lit "d-2"))) (.addBatch [sampleReading])
        { sampleStart with faults := fun t i => t = .right ∧ i = 3 } f := by
  constructor
  · intro hisolated
    have habsent : StdString.lit "d-2" ∉ sampleStart.tables.ids := by decide
    have hfound := (hisolated [.left, .left, .right, .right, .left] _ rfl).notFound habsent rfl rfl
    cases hfound
  · intro hisolated
    have hkept := (hisolated [.right, .left, .left, .right, .right, .right, .right] _ rfl).kept
    exact absurd (congrArg List.length hkept) (by decide)

end SharedConnection

end IotDashboard
