import IotDashboard.Api.MessageRaces

/-!
# Messages beside a re-registration

The record that a message writes back may be the one of before a removal, under the id of the device
that was registered after it. Whether the new record stays is decided by the schedule, and by what
of the two records a message leaves alone.

## Main results

* `Reregistration.registered_readBack_iff`, `Reregistration.writtenBack_iff`: which records are what
  was registered;
* `Reregistration.preserved_iff`: on all schedules that are not `Overwritten` the outcome is that of
  a sequential order, and the new record stays.
-/

namespace IotDashboard

open StdString Program

namespace Reregistration

variable {V : Vendor} {x : Reregistration} {change : DeviceInfo → DeviceInfo}

/-! ## The record that stays -/

section Record

variable {t : Tables} {row : DeviceRow}

/-- A message touches the flag and the time stamp only, and the flag the same way when it comes
again. -/
theorem exists_flag (h : x.message.change V x.seen = some change) :
    ∃ flag : Bool → Bool, (∀ b, flag (flag b) = flag b) ∧
      change = fun d => { d with isConnected := flag d.isConnected, lastSeen := x.seen } := by
  cases hmessage : x.message with
  | heartbeat payload =>
    rw [hmessage] at h
    exact ⟨id, fun _ => rfl, (Option.some.inj h).symm⟩
  | status payload =>
    rw [hmessage, DeviceMessage.change] at h
    split at h
    · next online _ => exact ⟨fun _ => online, fun _ => rfl, (Option.some.inj h).symm⟩
    · cases h

/-- The row holds the name, type, protocol and address of the registration. -/
def Registered (x : Reregistration) (row : DeviceRow) : Prop :=
  row.name = x.req.name ∧ row.type = x.req.type ∧ row.protocol = x.req.protocol ∧
    row.address = x.req.address

private theorem stored_reinsert_iff (hid : row.id = x.req.id) :
    x.Stored (t.reinsert row) ↔ x.Registered row := by
  constructor
  · rintro ⟨d, hd, hdid, hregistered⟩
    obtain rfl := Tables.mem_devices_reinsert.mp ⟨hd, hdid.trans hid.symm⟩
    exact hregistered
  · intro hregistered
    exact ⟨row, (Tables.mem_devices_reinsert.mpr rfl).1, hid, hregistered⟩

private theorem stored_reinsert_row : x.Stored (t.reinsert x.row) :=
  (stored_reinsert_iff rfl).mpr ⟨rfl, rfl, rfl, rfl⟩

/-- The new record, after a message has read it and written it back. -/
theorem registered_readBack_iff (hchange : x.message.change V x.seen = some change)
    (hid : x.req.id.NulFree) :
    x.Registered (SqliteDeviceRepository.bindDevice (change
      (SqliteDeviceRepository.rowToDevice x.row))) ↔ (x.req.device x.now).NulFree := by
  obtain ⟨flag, -, rfl⟩ := exists_flag hchange
  show x.req.name.cStr = _ ∧ x.req.type.cStr = _ ∧ x.req.protocol.cStr = _ ∧
    x.req.address.cStr = _ ↔ _
  simp only [cStr_eq_self_iff]
  exact ⟨fun htexts => ⟨hid, htexts⟩, And.right⟩

/-- An old record that is written back stands for the new one, before or after the message,
exactly when the message makes the same of both. -/
theorem writtenBack_iff (hchange : x.message.change V x.seen = some change)
    (hid : row.id.cStr = x.req.id) :
    let written := fun row => SqliteDeviceRepository.bindDevice (change
      (SqliteDeviceRepository.rowToDevice row))
    (written row = x.row ∨ written row = written x.row) ∧ x.Registered (written row) ↔
      change (SqliteDeviceRepository.rowToDevice row) = change (x.req.device x.now) := by
  intro written
  obtain ⟨flag, hflag, rfl⟩ := exists_flag hchange
  have hbit : ∀ a b : Bool, (if a then 1 else 0 : Int64) = (if b then 1 else 0) → a = b := by
    decide
  constructor
  · rintro ⟨hsame, hname, htype, hprotocol, haddress⟩
    have hconnected : flag (SqliteDeviceRepository.rowToDevice row).isConnected = flag false := by
      rcases hsame with hsame | hsame
      -- The new row is not connected; `flag` maps what it has written to itself.
      · have hfalse : flag (SqliteDeviceRepository.rowToDevice row).isConnected = false :=
          hbit _ _ (congrArg DeviceRow.isConnected hsame)
        exact (hflag _).symm.trans (congrArg flag hfalse)
      · exact hbit _ _ (congrArg DeviceRow.isConnected hsame)
    exact DeviceInfo.mk.injEq .. |>.mpr ⟨hid, hname, htype, hprotocol, haddress, hconnected, rfl⟩
  · intro heq
    have hnulFree : (x.req.device x.now).NulFree := by
      obtain ⟨hid, hname, htype, hprotocol, haddress, -⟩ := DeviceInfo.mk.injEq .. |>.mp heq
      obtain ⟨h₁, h₂, h₃, h₄, h₅⟩ := SqliteDeviceRepository.nulFree_rowToDevice row
      exact ⟨hid ▸ h₁, hname ▸ h₂, htype ▸ h₃, hprotocol ▸ h₄, haddress ▸ h₅⟩
    have hnew : written x.row = written row := by
      -- A record that was read holds no NUL byte, so the new one is read back as it is.
      refine congrArg SqliteDeviceRepository.bindDevice (Eq.trans ?_ heq.symm)
      rw [Reregistration.row, SqliteDeviceRepository.rowToDevice_bindDevice.mpr hnulFree]
      rfl
    refine ⟨.inr hnew.symm, ?_⟩
    rw [← hnew]
    exact (registered_readBack_iff hchange hnulFree.1).mpr hnulFree

end Record

/-! ## Main result -/

section Main

variable {t : Tables} {w : Wired} {schedule : List Turn} {c : ManagerThreads}

private theorem overwritten_iff (hchange : x.message.change V x.seen = some change) :
    x.Overwritten V t schedule ↔ x.req.id.NulFree ∧
      (([.left, .right, .right] <+: schedule ∧ ∃ row ∈ t.devices, row.id = x.req.id ∧
          change (SqliteDeviceRepository.rowToDevice row) ≠ change (x.req.device x.now)) ∨
        ([.right, .right] <+: schedule ∧ ¬ (x.req.device x.now).NulFree)) := by
  simp only [Overwritten, hchange, Option.mem_def, Option.some.injEq, exists_eq_left']

/-- The old record is written back after the registration. -/
theorem preserved_of_writtenBack {row : DeviceRow}
    (hchange : x.message.change V x.seen = some change) (hw : Wired.Holds t w)
    (hfind : t.devices.find? (·.id = x.req.id) = some row)
    (hc : Ended x t ((t.reinsert x.row).updateDevice (SqliteDeviceRepository.bindDevice (change
      (SqliteDeviceRepository.rowToDevice row)))) c) :
    x.Serializable V w c ∧ x.Stored c.shared.tables ↔
      ¬ (x.req.id.NulFree ∧
        change (SqliteDeviceRepository.rowToDevice row) ≠ change (x.req.device x.now)) := by
  have hid : row.id = x.req.id := (Tables.find?_eq_some_iff.mp hfind).2
  have hchangeId : ∀ d, (change d).id = d.id := by
    obtain ⟨flag, -, rfl⟩ := exists_flag hchange
    exact fun _ => rfl
  have hwrittenId : ∀ row, (SqliteDeviceRepository.bindDevice (change
      (SqliteDeviceRepository.rowToDevice row))).id = row.id.cStr := fun _ => hchangeId _
  rw [serializable_iff hw hc, hc.shared, effect_of_find? hchange hfind, effect_reinsert hchange]
  by_cases hnul : x.req.id.NulFree
  · -- The record comes back under the id of the new one.
    have hself : ∀ row, row.id = x.req.id → (SqliteDeviceRepository.bindDevice (change
        (SqliteDeviceRepository.rowToDevice row))).id = x.row.id := fun row hid => by
      rw [hwrittenId, hid, cStr_eq_self hnul]
      rfl
    rw [Tables.updateDevice_reinsert_self (hself row hid),
      Tables.updateDevice_reinsert_self (hself x.row rfl),
      Tables.reinsert_updateDevice_self (hself row hid), stored_reinsert_iff (hself row hid),
      Tables.reinsert_inj, Tables.reinsert_inj, or_self_left]
    refine (writtenBack_iff hchange (hid.symm ▸ cStr_eq_self hnul)).trans ?_
    simp [hnul]
  · -- A cut id is that of another row.
    have hne : (SqliteDeviceRepository.bindDevice (change
        (SqliteDeviceRepository.rowToDevice row))).id ≠ x.row.id := by
      rw [hwrittenId, hid]
      exact fun h => hnul (cStr_eq_self_iff.mp h)
    rw [Tables.updateDevice_reinsert_of_ne hne]
    exact iff_of_true ⟨.inl rfl, stored_reinsert_row⟩ fun h => hnul h.1

/-- The new record is read and written back. -/
theorem preserved_of_readBack (hchange : x.message.change V x.seen = some change)
    (hw : Wired.Holds t w) (hc : Ended x t (x.effect V (t.reinsert x.row)) c) :
    x.Serializable V w c ∧ x.Stored c.shared.tables ↔
      ¬ (x.req.id.NulFree ∧ ¬ (x.req.device x.now).NulFree) := by
  have hchangeId : ∀ d, (change d).id = d.id := by
    obtain ⟨flag, -, rfl⟩ := exists_flag hchange
    exact fun _ => rfl
  have hwrittenId : (SqliteDeviceRepository.bindDevice (change
      (SqliteDeviceRepository.rowToDevice x.row))).id = x.row.id.cStr := hchangeId _
  have hserializable := (serializable_iff hw hc).mpr (.inr (.inr rfl))
  rw [hc.shared, and_iff_right hserializable, effect_reinsert hchange]
  by_cases hnul : x.req.id.NulFree
  · have hself := hwrittenId.trans (cStr_eq_self hnul)
    rw [Tables.updateDevice_reinsert_self hself, stored_reinsert_iff hself,
      registered_readBack_iff hchange hnul]
    simp [hnul]
  · have hne := hwrittenId ▸ fun h => hnul (cStr_eq_self_iff.mp h)
    rw [Tables.updateDevice_reinsert_of_ne hne]
    exact iff_of_true stored_reinsert_row fun h => hnul h.1

/-- On a database whose calls do not fail, an interleaving that lets both threads finish has the
outcome of a sequential order, with the new record in place, exactly when the schedule does not
have that record overwritten. -/
theorem preserved_iff (hreliable : w.app.backend.database.Reliable)
    (hc : interleave V (x.race V w) schedule = c)
    (hdone : c.left.outcome?.isSome ∧ c.right.outcome?.isSome) :
    x.Serializable V w c ∧ x.Stored c.shared.tables ↔ ¬ x.Overwritten V w.tables schedule := by
  have hw : Wired.Holds w.tables w := ⟨hreliable, rfl⟩
  -- A message that changes nothing does not write.
  cases hchange : x.message.change V x.seen with
  | none =>
    subst hc
    have hended := ended_of_handled (c := x.race V w) (handling_of_unreadable hchange) hw
      yields_replacing hdone.2
    refine iff_of_true ⟨(serializable_iff hw hended).mpr (.inr (.inl rfl)), ?_⟩ ?_
    · rw [hended.shared]
      exact stored_reinsert_row
    · rintro ⟨-, change, hmem, -⟩
      rw [hchange] at hmem
      cases hmem
  | some change =>
    -- The message has read the old row, or the new one, or the race has done no harm.
    rcases ended_of_change hchange hw hc hdone with
      ⟨row, hfind, hturns, hended⟩ | ⟨hturns, hended⟩ | ⟨hkept, hended⟩
    · rw [preserved_of_writtenBack hchange hw hfind hended, overwritten_iff hchange]
      obtain ⟨hrow, hid⟩ := Tables.find?_eq_some_iff.mp hfind
      refine not_congr (and_congr_right fun _ =>
        ⟨fun hne => .inl ⟨hturns, row, hrow, hid, hne⟩, ?_⟩)
      rintro (⟨-, row', hrow', hid', hne⟩ | ⟨hother, -⟩)
      · obtain rfl := Option.some.inj (hfind.symm.trans
          (Tables.find?_eq_some_iff.mpr ⟨hrow', hid'⟩))
        exact hne
      · obtain ⟨rest, rfl⟩ := hturns
        simp at hother
    · rw [preserved_of_readBack hchange hw hended, overwritten_iff hchange]
      refine not_congr (and_congr_right fun _ => ⟨fun hnul => .inr ⟨hturns, hnul⟩, ?_⟩)
      rintro (⟨hother, -⟩ | ⟨-, hnul⟩)
      · obtain ⟨rest, rfl⟩ := hturns
        simp at hother
      · exact hnul
    · refine iff_of_true ?_ hkept
      rcases hended with hended | hended
      · rw [serializable_iff hw hended, hended.shared]
        exact ⟨.inl rfl, stored_reinsert_row⟩
      · rw [serializable_iff hw hended, hended.shared]
        exact ⟨.inr (.inl rfl), stored_reinsert_row⟩

end Main

/-- A heartbeat of a lamp, and a pump that is registered under its id. -/
def pumpForLamp : Reregistration where
  message := .heartbeat []
  seen := 2000000
  req := ⟨lit "d-1", lit "pump", lit "motor", lit "mqtt", []⟩
  now := 1000000

/-- A heartbeat that comes between the two operations changes nothing. -/
theorem preserved_iff_heartbeatBetween :
    let schedule : List Turn := [.right, .left, .right]
    let c := interleave Vendor.reference
      (pumpForLamp.race Vendor.reference (Wired.oneLamp 0)) schedule
    pumpForLamp.Serializable Vendor.reference (Wired.oneLamp 0) c ∧
        pumpForLamp.Stored c.shared.tables ↔
      ¬ pumpForLamp.Overwritten Vendor.reference (Wired.oneLamp 0).tables schedule :=
  preserved_iff (fun _ => rfl) rfl ⟨rfl, rfl⟩

/-- A heartbeat that is read before the removal and written back after the registration undoes the
registration: both operations report success, and the lamp is stored. -/
theorem not_preserved_heartbeatAround :
    let c := interleave Vendor.reference
      (pumpForLamp.race Vendor.reference (Wired.oneLamp 0)) [.left, .right, .right, .left]
    c.left.outcome? = some (.ok ()) ∧
      c.right.outcome? =
        some (.ok (.ok (), .ok (pumpForLamp.req.device pumpForLamp.now))) ∧
      c.shared.tables.devices.map DeviceRow.name = [lit "lamp"] ∧
      ¬ pumpForLamp.Serializable Vendor.reference (Wired.oneLamp 0) c ∧
      ¬ pumpForLamp.Stored c.shared.tables := by
  intro c
  have hc : Ended pumpForLamp (Wired.oneLamp 0).tables c.shared.tables c := ⟨rfl, rfl, rfl⟩
  have hname : c.shared.tables.devices.map DeviceRow.name = [lit "lamp"] := rfl
  refine ⟨rfl, rfl, hname, fun hserializable => ?_, ?_⟩
  · have hnames := (serializable_iff ⟨fun _ => rfl, rfl⟩ hc).mp hserializable
    rcases hnames with h | h | h <;>
      exact absurd (hname.symm.trans (congrArg (fun t => t.devices.map DeviceRow.name) h))
        (by decide)
  · rintro ⟨row, hrow, -, hrowName, -⟩
    have hmem := List.mem_map_of_mem (f := DeviceRow.name) hrow
    rw [hname, hrowName] at hmem
    exact absurd hmem (by decide)

end Reregistration

end IotDashboard
