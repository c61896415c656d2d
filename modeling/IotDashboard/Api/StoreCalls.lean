import IotDashboard.Api.WiredFrames
import IotDashboard.Foundation.Granularity

/-!
# Calls of the device repository

What the operations of `DeviceManager` make of the store when no call of SQLite fails, and how many
calls of the repository they make. Whoever holds no lock from one call to the next can be
interrupted between them, so both matter where threads interleave.

## Main definitions

* `Wired.Holds`: the store is as given, and no coming call of SQLite fails;
* `Manager.Passive`: the rest of a handler, behind its last call of the repository.

## Main results

* `DeviceManager.single_unregister`, `DeviceManager.single_register`: each of the two operations
  makes one call of the repository;
* `Wired.yields_unregister`, `Wired.yields_register`: what they make of the store.
-/

namespace IotDashboard

open StdString Program

/-- The calls of `IDeviceRepository`. -/
def PortCall.isRepository : PortCall → Bool
  | .getById _ | .getAll | .add _ | .update _ | .remove _ => true
  | _ => false

/-- The calls of `IDeviceRepository`. -/
def ManagerCall.isRepository : ManagerCall → Bool
  | .port e => e.isRepository
  | _ => false

/-! ## How many calls -/

namespace Manager

variable {V : Vendor} {α β : Type} {p : Ports α}

/-- Code that uses the ports only runs on the two adapters. -/
theorem run_ofPorts (p : Ports α) (w : Wired) :
    ((ofPorts p).run (Wired.handle V)).run w = (Wired.devices p).run w := by
  induction p generalizing w with
  | ret a => rfl
  | throw x => rfl
  | call e k ih =>
    -- A port call of the device manager is the call on the backend, and nothing else changes.
    have hcall : (Wired.handle V (.port e)).run w = (((Backend.handle e).run w.app.backend).1,
        { w with app.backend := ((Backend.handle e).run w.app.backend).2 }) := by
      have hperform := @Backend.run_perform w.app.backend e
      rw [Wired.handle, Wired.devices, App.devices, Stateful.run_zoom, Stateful.run_zoom, hperform]
    show ((Wired.handle V (.port e) >>= fun r => (ofPorts (k r)).run (Wired.handle V)).run w) =
      ((Wired.devices (.call e k)).run w)
    rw [Wired.devices, App.devices, Stateful.run_zoom, Stateful.run_zoom, Program.run,
      Stateful.run_bind, Stateful.run_bind, hcall]
    rcases (Backend.handle e).run w.app.backend with ⟨y | r, b⟩
    · rfl
    · exact ih r _

private theorem silent_ofPorts (hp : p.Silent fun e => e.isRepository) :
    (ofPorts p).Silent fun e => e.isRepository := by
  induction p with
  | ret a => trivial
  | throw x => trivial
  | call e k ih => exact ⟨hp.1, fun r _ => ih r (hp.2 r trivial)⟩

/-- One call of the repository through the ports is one of the manager. -/
theorem single_ofPorts (hp : p.Single fun e => e.isRepository) :
    (ofPorts p).Single fun e => e.isRepository := by
  induction p with
  | ret a => exact hp.elim
  | throw x => trivial
  | call e k ih =>
    rw [Single] at hp
    rw [ofPorts, Single]
    split at hp
    · next he => exact (if_pos he).mpr fun r => silent_ofPorts (hp r)
    · next he => exact (if_neg he).mpr fun r => ih r (hp r)

end Manager

namespace DeviceManager

/-- `Unregister` calls the repository once. -/
theorem single_unregister (deviceId : StdString) :
    (unregister deviceId).Single fun e => e.isRepository := by
  have hconnected : Ports.isConnected.Silent fun e => e.isRepository :=
    within_perform Bool.false_ne_true
  have hremove : (Ports.remove deviceId).Single fun e => e.isRepository := single_perform rfl
  refine single_bind hconnected fun connected => ?_
  split
  -- Connected or not, the row is removed; the unsubscriptions do not count.
  · exact single_bind (within_unsubscribeEach (fun _ => Bool.false_ne_true) _) fun _ => hremove
  · exact hremove

/-- `Register` calls the repository once. -/
theorem single_register (now : Timestamp) (req : RegisterDeviceRequest) :
    (register now req).Single fun e => e.isRepository := by
  have hadd : (Ports.add (req.device now)).Single fun e => e.isRepository := single_perform rfl
  refine single_bind_silent hadd fun r => ?_
  cases r with
  | error e => trivial
  | ok =>
    refine within_perform_bind Bool.false_ne_true fun connected _ => ?_
    split
    · exact within_bind (within_subscribeEach (fun _ _ => Bool.false_ne_true) _)
        fun _ => within_pure _
    · trivial

end DeviceManager

/-! ## What the calls do to the store -/

namespace Wired

/-- The database has these contents, and no coming call on it fails. -/
def Holds (t : Tables) (w : Wired) : Prop :=
  w.app.backend.database.Reliable ∧ w.tables = t

variable {V : Vendor} {t : Tables} {deviceId : StdString}

/-- What code of the ports does to the database, it does as code of the device manager. -/
theorem yields_ofPorts {α : Type} {p : Ports α} {a : α} {t' : Tables}
    (h : ∀ b : Backend, b.database.Reliable → b.database.tables = t → ∃ b' : Backend,
      (p.run Backend.handle).run b = (.ok a, b') ∧ b'.database.Reliable ∧
        b'.database.tables = t') :
    (Manager.ofPorts p).Yields (handle V) (Holds t) a (Holds t') := by
  rintro w ⟨hreliable, htables⟩
  obtain ⟨b', hrun, hreliable', htables'⟩ := h w.app.backend hreliable htables
  refine ⟨{ w with app.backend := b' }, ?_, hreliable', htables'⟩
  rw [Manager.run_ofPorts, devices, App.devices, Stateful.run_zoom, Stateful.run_zoom, hrun]

/-- A call of the repository. -/
theorem yields_call {e : PortCall} {p : Sql e.Reply} {a : e.Reply} {t' : Tables}
    (he : Backend.handle e = Backend.onDatabase p)
    (h : ∀ d : Database, d.Reliable → d.tables = t → ∃ d' : Database,
      (p.run Database.handle).run d = (.ok a, d') ∧ d'.Reliable ∧ d'.tables = t') :
    (Program.perform (ManagerCall.port e) : Manager e.Reply).Yields (handle V) (Holds t) a
      (Holds t') := by
  refine yields_ofPorts (p := Program.perform e) fun b hreliable htables => ?_
  obtain ⟨d', hrun, hd'⟩ := h b.database hreliable htables
  refine ⟨{ b with database := d' }, ?_, hd'⟩
  rw [Backend.run_perform, he, Backend.run_onDatabase, hrun]

/-- `GetById` finds what is stored. -/
theorem yields_getById :
    (Manager.getById deviceId).Yields (handle V) (Holds t)
      (match t.devices.find? (·.id = deviceId) with
        | none => .error .deviceNotFound
        | some row => .ok (SqliteDeviceRepository.rowToDevice row)) (Holds t) := by
  refine yields_call (e := .getById deviceId) rfl ?_
  rintro d hreliable rfl
  exact ⟨_, SqliteDeviceRepository.run_getById (hreliable 0) (hreliable 1),
    Database.reliable_tick (Database.reliable_tick hreliable 1) 1, rfl⟩

/-- `Update` stores the record, whatever it reports. -/
theorem yields_update (device : DeviceInfo) :
    ∃ result, (Manager.update device).Yields (handle V) (Holds t) result
      (Holds (t.updateDevice (SqliteDeviceRepository.bindDevice device))) := by
  refine ⟨SqliteDeviceRepository.reportChanges (t.devices.countP
      (·.id = (SqliteDeviceRepository.bindDevice device).id)),
    yields_call (e := .update device) rfl ?_⟩
  rintro d hreliable rfl
  have hreliable' := Database.reliable_tick hreliable 1
  have hrun := @SqliteDeviceRepository.run_update d device (hreliable 0)
  rw [Database.step_of_apply hreliable' rfl] at hrun
  exact ⟨_, hrun, Database.reliable_tick hreliable' 1, rfl⟩

/-- What `Unregister` reports on the contents of the database. -/
def removal (deviceId : StdString) (t : Tables) : Result Unit :=
  if t.ids.contains deviceId then .ok () else .error .deviceNotFound

/-- `Unregister` removes the device. -/
theorem yields_unregister :
    (Manager.ofPorts (DeviceManager.unregister deviceId)).Yields (handle V) (Holds t)
      (removal deviceId t) (Holds (t.deleteDevice deviceId)) := by
  apply yields_ofPorts
  rintro b hreliable rfl
  have hreliable' := Database.reliable_tick hreliable 1
  have hreport : SqliteDeviceRepository.reportChanges
      (b.database.tables.devices.countP (·.id = deviceId)) =
        removal deviceId b.database.tables := by
    rw [SqliteDeviceRepository.reportChanges, removal]
    simp only [Tables.countP_eq_zero_iff, ite_not, List.contains_iff_mem]
  have hrun := Backend.run_unregister deviceId (hreliable 0)
  rw [Database.step_of_apply hreliable' rfl] at hrun
  refine ⟨_, hrun.trans (congrArg (fun r => (Except.ok r, _)) hreport), ?_, rfl⟩
  exact Database.reliable_tick hreliable' 1

/-- `Register` of an id that has been removed. -/
theorem yields_register {now : Timestamp} {req : RegisterDeviceRequest} :
    (Manager.ofPorts (DeviceManager.register now req)).Yields (handle V)
      (Holds (t.deleteDevice req.id)) (.ok (req.device now))
      (Holds (t.reinsert (SqliteDeviceRepository.bindDevice (req.device now)))) := by
  apply yields_ofPorts
  intro b hreliable htables
  have hreliable' := Database.reliable_tick hreliable 1
  have hnew : req.id ∉ (t.deleteDevice req.id).ids := by simp
  have happly : Write.apply (b.database.tick 1).tables
      (.insertDevice (SqliteDeviceRepository.bindDevice (req.device now))) =
        some (t.reinsert (SqliteDeviceRepository.bindDevice (req.device now)), 1) := by
    show Write.apply b.database.tables _ = _
    rw [htables]
    -- `INSERT` finds no row of the id, since it has just been removed.
    exact dif_neg hnew
  refine ⟨_, Backend.run_register now req (hreliable 0), ?_⟩
  simp only [Database.step_of_apply hreliable' happly]
  exact ⟨Database.reliable_tick hreliable' 1, trivial⟩

/-- The status callback calls the WebSocket server only, and all it throws are exceptions of the
JSON library. -/
theorem yields_statusCallback (online : Bool) :
    (Manager.catchJson (Manager.statusCallback deviceId online)).Yields (handle V) (Holds t) ()
      (Holds t) := by
  rintro w ⟨hreliable, htables⟩
  have hcall : ∃ r w', (handle V (.statusCallback deviceId online)).run w = (.ok r, w') ∧
      w'.app = w.app := by
    show ∃ r w', (catching (statusCallback V deviceId online)).run w = (.ok r, w') ∧ _
    rw [catching, statusCallback, dump]
    cases V.dump (deviceStatus deviceId online) with
    | error e => exact ⟨.error e, w, rfl, rfl⟩
    | ok message => exact ⟨.ok (), _, rfl, rfl⟩
  obtain ⟨r, w', hrun, happ⟩ := hcall
  have hholds : Holds t w' := by
    rw [Holds, tables, happ]
    exact ⟨hreliable, htables⟩
  refine ⟨w', ?_, hholds⟩
  show ((handle V (.statusCallback deviceId online) >>= fun r => _).run w) = _
  rw [Stateful.run_bind, hrun]
  cases r with
  | error e => rfl
  | ok u => rfl

end Wired

/-! ## Reading and writing back -/

/-- What a handler does with the record that it has read. -/
def Manager.writeBack (change : DeviceInfo → DeviceInfo) (rest : Manager Unit) :
    Result DeviceInfo → Manager Unit
  | .error _ => rest
  | .ok device => do
    let _ ← Manager.update (change device)
    rest

/-- What a message makes of the store. -/
def Tables.modified (deviceId : StdString) (change : DeviceInfo → DeviceInfo) (t : Tables) :
    Tables :=
  match t.devices.find? (·.id = deviceId) with
  | none => t
  | some row =>
    t.updateDevice (SqliteDeviceRepository.bindDevice (change
      (SqliteDeviceRepository.rowToDevice row)))

/-- What a handler does after the last call of the repository. -/
structure Manager.Passive (V : Vendor) (rest : Manager Unit) : Prop where
  silent : rest.Silent fun e => e.isRepository
  yields : ∀ t, rest.Yields (Wired.handle V) (Wired.Holds t) () (Wired.Holds t)

end IotDashboard
