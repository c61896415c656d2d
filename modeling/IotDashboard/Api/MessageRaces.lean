import IotDashboard.Api.StoreCalls

/-!
# Messages beside a removal and a registration

A heartbeat or status message reads the record of its device, changes it and writes all of it back,
in two calls of the device repository. `DeviceManager` holds no lock from one to the other, so the
device may be removed and registered anew in between.

An interleaving is one of repository calls; the MQTT calls and the callbacks go with the repository
call before or after them.

## Main definitions

* `Reregistration.race`: the thread that handles the message, and the thread that removes the
  device and registers it anew;
* `Reregistration.Serializable`: an outcome of a sequential order;
* `Reregistration.Overwritten`: the schedules on which the new record is not what stays.

## Main results

* `Reregistration.serializable_iff`: the stores that a sequential order leads to;
* `Reregistration.ended_of_change`: where the interleavings of a readable message end.
-/

namespace IotDashboard

open StdString Program

/-- A message of a device about itself. -/
inductive DeviceMessage where
  | heartbeat (payload : StdString)
  | status (payload : StdString)

namespace DeviceMessage

/-- The topic of the message. -/
def topic (deviceId : StdString) : DeviceMessage → StdString
  | heartbeat _ => DeviceManager.deviceTopic deviceId "heartbeat"
  | status _ => DeviceManager.deviceTopic deviceId "status"

/-- The text of the message. -/
def payload : DeviceMessage → StdString
  | heartbeat payload | status payload => payload

/-- What the message changes in the record of its device, if it can be read. -/
def change (V : Vendor) (seen : Timestamp) : DeviceMessage → Option (DeviceInfo → DeviceInfo)
  | heartbeat _ => some fun d => { d with lastSeen := seen }
  | status payload =>
    match DeviceManager.readStatus V payload with
    | .ok online => some fun d => { d with isConnected := online, lastSeen := seen }
    | .error _ => none

end DeviceMessage

/-- A message, and the registration that follows the removal of its device. -/
structure Reregistration where
  message : DeviceMessage
  /-- The time at which the handler of the message reads the clock. -/
  seen : Timestamp
  req : RegisterDeviceRequest
  /-- The time at which `Register` reads the clock. -/
  now : Timestamp

namespace Reregistration

variable (V : Vendor) (x : Reregistration)

/-- The results of `Unregister` and `Register`. -/
abbrev Results : Type := Result Unit × Result DeviceInfo

/-- The handling of the message. -/
def handling : Manager Unit :=
  DeviceManager.handleMqttMessage V x.seen (x.message.topic x.req.id) x.message.payload

/-- `Unregister`. -/
def unregistering : Manager (Result Unit) := .ofPorts (DeviceManager.unregister x.req.id)

/-- `Register`. -/
def registering : Manager (Result DeviceInfo) := .ofPorts (DeviceManager.register x.now x.req)

/-- `Unregister` followed by `Register`. -/
def replacing : Manager Results := do
  let removed ← x.unregistering
  let registered ← x.registering
  return (removed, registered)

/-- The sequential orders: the message is handled before, between or after the two operations. -/
def orders : List (Manager Results) :=
  [do
      x.handling V
      x.replacing,
    do
      let removed ← x.unregistering
      x.handling V
      let registered ← x.registering
      return (removed, registered),
    do
      let results ← x.replacing
      x.handling V
      return results]

/-- The two threads: the message on the left, the operations on the right. -/
abbrev ManagerThreads : Type :=
  Threads CxxException ManagerCall.Reply Unit Results Wired

/-- Both threads before their first call. -/
def race (w : Wired) : ManagerThreads := ⟨x.handling V, x.replacing, w⟩

/-- An interleaving of the calls of `IDeviceRepository`. -/
abbrev interleave (c : ManagerThreads) (schedule : List Turn) : ManagerThreads :=
  c.execAt (fun e => e.isRepository) (Wired.handle V) (Wired.handle V) schedule

/-- The results and the store are those of some sequential order. -/
def Serializable (w : Wired) (c : ManagerThreads) : Prop :=
  ∃ order ∈ x.orders V, ∃ results final,
    (order.run (Wired.handle V)).run w = (.ok results, final) ∧
      c.left.outcome? = some (.ok ()) ∧ c.right.outcome? = some (.ok results) ∧
      c.shared.tables = final.tables

/-- The row that `Register` inserts. -/
def row : DeviceRow := SqliteDeviceRepository.bindDevice (x.req.device x.now)

/-- The device is stored with the name, type, protocol and address that it was registered with. -/
def Stored (t : Tables) : Prop :=
  ∃ row ∈ t.devices, row.id = x.req.id ∧ row.name = x.req.name ∧ row.type = x.req.type ∧
    row.protocol = x.req.protocol ∧ row.address = x.req.address

/-- The message can be read, and either the old record is read before the removal and written back
after the registration, where it is not the new one with the change of the message; or the new
record is read, which does not get past a NUL byte. An id with a NUL byte is cut, too, and then
the record is not written back under it. -/
def Overwritten (t : Tables) (schedule : List Turn) : Prop :=
  x.req.id.NulFree ∧ ∃ change ∈ x.message.change V x.seen,
    ([.left, .right, .right] <+: schedule ∧ ∃ row ∈ t.devices, row.id = x.req.id ∧
        change (SqliteDeviceRepository.rowToDevice row) ≠ change (x.req.device x.now)) ∨
      ([.right, .right] <+: schedule ∧ ¬ (x.req.device x.now).NulFree)

end Reregistration
/-! ## The handling of a message -/

namespace Reregistration

variable {V : Vendor} {x : Reregistration} {change : DeviceInfo → DeviceInfo}

private theorem handling_heartbeat {payload : StdString} (h : x.message = .heartbeat payload) :
    x.handling V = DeviceManager.handleHeartbeat x.seen x.req.id := by
  have hdecode : DeviceManager.decodeTopic (DeviceManager.deviceTopic x.req.id "heartbeat") =
      some (x.req.id, lit "heartbeat") := DeviceManager.decodeTopic_deviceTopic _ (by decide)
  rw [handling, h, DeviceMessage.topic, DeviceManager.handleMqttMessage, hdecode]
  rfl

private theorem handling_status {payload : StdString} (h : x.message = .status payload) :
    x.handling V = DeviceManager.handleStatusMessage V x.seen x.req.id payload := by
  have hdecode : DeviceManager.decodeTopic (DeviceManager.deviceTopic x.req.id "status") =
      some (x.req.id, lit "status") := DeviceManager.decodeTopic_deviceTopic _ (by decide)
  rw [handling, h, DeviceMessage.topic, DeviceManager.handleMqttMessage, hdecode]
  rfl

/-- A message that cannot be read is dropped. -/
theorem handling_of_unreadable (h : x.message.change V x.seen = none) :
    x.handling V = .ret () := by
  cases hmessage : x.message with
  | heartbeat payload =>
    rw [hmessage] at h
    cases h
  | status payload =>
    rw [handling_status hmessage, DeviceManager.handleStatusMessage]
    rw [hmessage, DeviceMessage.change] at h
    split at h
    · cases h
    · next e hread =>
      rw [hread]
      rfl

/-- The other messages read the record, write it back and do not call the repository again. -/
theorem handling_of_change (h : x.message.change V x.seen = some change) :
    ∃ rest : Manager Unit, Manager.Passive V rest ∧
      x.handling V = Manager.getById x.req.id >>= Manager.writeBack change rest := by
  cases hmessage : x.message with
  | heartbeat payload =>
    rw [hmessage] at h
    obtain rfl := Option.some.inj h
    refine ⟨.ret (), ⟨trivial, fun t => yields_pure⟩, ?_⟩
    rw [handling_heartbeat hmessage, DeviceManager.handleHeartbeat, Manager.modify]
    rfl
  | status payload =>
    rw [hmessage, DeviceMessage.change] at h
    split at h
    · next online hread =>
      obtain rfl := Option.some.inj h
      refine ⟨Manager.catchJson (Manager.statusCallback x.req.id online), ⟨?_, fun t =>
        Wired.yields_statusCallback online⟩, ?_⟩
      · refine within_tryCatch (within_perform_bind Bool.false_ne_true fun r _ =>
          within_ofExcept _) fun e => ?_
        cases e <;> trivial
      · rw [handling_status hmessage, DeviceManager.handleStatusMessage, hread]
        refine congrArg (Program.call _) ?_
        funext r
        cases r <;> rfl
    · cases h

/-- What the message makes of the store. -/
def effect (V : Vendor) (x : Reregistration) (t : Tables) : Tables :=
  match x.message.change V x.seen with
  | none => t
  | some change => t.modified x.req.id change

/-- The results of `Unregister` and `Register`, in every order. -/
def results (x : Reregistration) (t : Tables) : Results :=
  (Wired.removal x.req.id t, .ok (x.req.device x.now))

/-- `Register`, after `Unregister` has returned. -/
def afterRemoval (x : Reregistration) (removed : Result Unit) : Manager Results := do
  let registered ← x.registering
  return (removed, registered)

section Sequential

variable {t : Tables}

private theorem effect_deleteDevice :
    x.effect V (t.deleteDevice x.req.id) = t.deleteDevice x.req.id := by
  rw [effect]
  split
  · rfl
  · rw [Tables.modified, Tables.find?_deleteDevice]

/-- What a message makes of the store in which its device has a row. -/
theorem effect_of_find? {row : DeviceRow} (hchange : x.message.change V x.seen = some change)
    (hfind : t.devices.find? (·.id = x.req.id) = some row) :
    x.effect V t = t.updateDevice (SqliteDeviceRepository.bindDevice (change
      (SqliteDeviceRepository.rowToDevice row))) := by
  simp only [effect, hchange, Tables.modified, hfind]

/-- A message that comes after the registration finds the new record. -/
theorem effect_reinsert (hchange : x.message.change V x.seen = some change) :
    x.effect V (t.reinsert x.row) = (t.reinsert x.row).updateDevice
      (SqliteDeviceRepository.bindDevice (change (SqliteDeviceRepository.rowToDevice x.row))) :=
  have hfind : (t.reinsert x.row).devices.find? (·.id = x.row.id) = some x.row :=
    Tables.find?_reinsert
  effect_of_find? hchange hfind

private theorem results_effect : x.results (x.effect V t) = x.results t := by
  have hids : (x.effect V t).ids = t.ids := by
    rw [effect]
    split
    · rfl
    · rw [Tables.modified]
      split
      · rfl
      · exact Tables.ids_updateDevice
  rw [results, results, Wired.removal, Wired.removal, hids]

/-- Writing a record back. -/
theorem yields_writeBack {rest : Manager Unit} (hrest : Manager.Passive V rest)
    (device : DeviceInfo) :
    (Manager.writeBack change rest (.ok device)).Yields (Wired.handle V) (Wired.Holds t) ()
      (Wired.Holds (t.updateDevice (SqliteDeviceRepository.bindDevice (change device)))) := by
  obtain ⟨result, hupdate⟩ := Wired.yields_update (V := V) (t := t) (change device)
  exact hupdate.bind (hrest.yields _)

/-- What a message makes of the store, when nothing comes between its calls. -/
theorem yields_handling :
    (x.handling V).Yields (Wired.handle V) (Wired.Holds t) () (Wired.Holds (x.effect V t)) := by
  cases hchange : x.message.change V x.seen with
  | none =>
    rw [handling_of_unreadable hchange, effect, hchange]
    exact yields_pure
  | some change =>
    obtain ⟨rest, hrest, hhandling⟩ := handling_of_change hchange
    rw [hhandling, effect, hchange]
    refine Wired.yields_getById.bind ?_
    dsimp only
    rw [Tables.modified]
    cases t.devices.find? (·.id = x.req.id) with
    | none => exact hrest.yields t
    | some row => exact yields_writeBack hrest _

private theorem yields_afterRemoval (removed : Result Unit) :
    (x.afterRemoval removed).Yields (Wired.handle V) (Wired.Holds (t.deleteDevice x.req.id))
      (removed, .ok (x.req.device x.now)) (Wired.Holds (t.reinsert x.row)) :=
  Wired.yields_register.bind yields_pure

/-- What the two operations make of the store, when nothing comes between them. -/
theorem yields_replacing :
    x.replacing.Yields (Wired.handle V) (Wired.Holds t) (x.results t)
      (Wired.Holds (t.reinsert x.row)) :=
  Wired.yields_unregister.bind (yields_afterRemoval _)

variable {c : ManagerThreads} {w : Wired}

/-- Both threads are done, with the results of every order, and the store holds `t'`. -/
structure Ended (x : Reregistration) (t t' : Tables) (c : ManagerThreads) : Prop where
  left : c.left.outcome? = some (.ok ())
  right : c.right.outcome? = some (.ok (x.results t))
  shared : c.shared.tables = t'

/-- The three sequential orders leave three stores at most. -/
theorem serializable_iff {t' : Tables} (hw : Wired.Holds t w) (hc : Ended x t t' c) :
    x.Serializable V w c ↔
      t' = (x.effect V t).reinsert x.row ∨ t' = t.reinsert x.row ∨
        t' = x.effect V (t.reinsert x.row) := by
  -- All orders have the same results, so only the stores are compared.
  have horder : ∀ {order : Manager Results} {u : Tables},
      order.Yields (Wired.handle V) (Wired.Holds t) (x.results t) (Wired.Holds u) →
      ((∃ results final, (order.run (Wired.handle V)).run w = (.ok results, final) ∧
        c.left.outcome? = some (.ok ()) ∧ c.right.outcome? = some (.ok results) ∧
        c.shared.tables = final.tables) ↔ t' = u) := by
    intro order u hyields
    obtain ⟨final, hrun, hfinal⟩ := hyields w hw
    rw [hrun, hc.shared]
    constructor
    · rintro ⟨results, final', heq, -, -, htables⟩
      obtain ⟨-, rfl⟩ := Prod.mk.inj heq
      exact htables.trans hfinal.2
    · rintro rfl
      exact ⟨_, final, rfl, hc.left, hc.right, hfinal.2.symm⟩
  have hreplacing : x.replacing.Yields (Wired.handle V) (Wired.Holds (x.effect V t))
      (x.results t) (Wired.Holds ((x.effect V t).reinsert x.row)) := by
    rw [← results_effect (V := V)]
    exact yields_replacing
  -- Between the two operations there is no record to read.
  have hbetween : (x.handling V).Yields (Wired.handle V)
      (Wired.Holds (t.deleteDevice x.req.id)) () (Wired.Holds (t.deleteDevice x.req.id)) := by
    have hhandling := yields_handling (V := V) (x := x) (t := t.deleteDevice x.req.id)
    rwa [effect_deleteDevice] at hhandling
  simp only [Serializable, orders, List.mem_cons, List.not_mem_nil, or_false, exists_eq_or_imp,
    exists_eq_left]
  refine or_congr (horder ?_) (or_congr (horder ?_) (horder ?_))
  · exact yields_handling.bind hreplacing
  · exact Wired.yields_unregister.bind (hbetween.bind (yields_afterRemoval _))
  · exact yields_replacing.bind (yields_handling.bind yields_pure)

end Sequential

/-! ## Turns -/

section Turns

variable {t : Tables} {c : ManagerThreads} {w : Wired} {rest : Manager Unit}

/-- A turn of a thread of the device manager. -/
abbrev managerTurn {α : Type} (V : Vendor) (p : Manager α) (w : Wired) : Manager α × Wired :=
  p.turn (fun e => e.isRepository) (Wired.handle V) w

variable (V) (x) (change)

/-- The first turn of the handler reads the record. -/
theorem turn_read (hrest : Manager.Passive V rest) (hw : Wired.Holds t w) (deviceId : StdString) :
    ∃ w', Wired.Holds t w' ∧
      managerTurn V (Manager.getById deviceId >>= Manager.writeBack change rest) w =
        match t.devices.find? (·.id = deviceId) with
        | none => (.ret (), w')
        | some row =>
          (Manager.writeBack change rest (.ok (SqliteDeviceRepository.rowToDevice row)), w') := by
  have hsingle : (Manager.getById deviceId).Single fun e => e.isRepository := single_perform rfl
  obtain ⟨w₁, hrun, hw₁⟩ := @Wired.yields_getById V t deviceId w hw
  have hturn := turn_bind_of_single hsingle (f := Manager.writeBack change rest) hrun
  cases hfind : t.devices.find? (·.id = deviceId) with
  | none =>
    -- Without a record there is no call left that counts, and the turn ends the handler.
    obtain ⟨w₂, hrest_run, hw₂⟩ := hrest.yields t w₁ hw₁
    rw [hfind] at hturn
    exact ⟨w₂, hw₂, hturn.trans (settle_of_silent hrest.silent hrest_run)⟩
  | some row =>
    rw [hfind] at hturn
    exact ⟨w₁, hw₁, hturn.trans (settle_call (by rfl) _ _)⟩

/-- The second turn writes it back. -/
theorem turn_write (hrest : Manager.Passive V rest) (hw : Wired.Holds t w) (device : DeviceInfo) :
    ∃ w', Wired.Holds (t.updateDevice (SqliteDeviceRepository.bindDevice (change device))) w' ∧
      managerTurn V (Manager.writeBack change rest (.ok device)) w = (.ret (), w') := by
  have hsingle : (Manager.update (change device)).Single fun e => e.isRepository :=
    single_perform rfl
  obtain ⟨result, hupdate⟩ := Wired.yields_update (V := V) (t := t) (change device)
  obtain ⟨w₁, hrun, hw₁⟩ := hupdate w hw
  obtain ⟨w₂, hrest_run, hw₂⟩ := hrest.yields _ w₁ hw₁
  refine ⟨w₂, hw₂, ?_⟩
  exact (turn_bind_of_single hsingle (f := fun _ => rest) hrun).trans
    (settle_of_silent hrest.silent hrest_run)

/-- The first turn of the other thread removes the device. -/
theorem turn_remove (hw : Wired.Holds t w) :
    ∃ w', Wired.Holds (t.deleteDevice x.req.id) w' ∧
      managerTurn V x.replacing w = (x.afterRemoval (Wired.removal x.req.id t), w') := by
  have hsingle := Manager.single_ofPorts (DeviceManager.single_unregister x.req.id)
  obtain ⟨w', hrun, hw'⟩ := @Wired.yields_unregister V t x.req.id w hw
  refine ⟨w', hw', ?_⟩
  exact (turn_bind_of_single hsingle (f := x.afterRemoval) hrun).trans (settle_call (by rfl) _ _)

/-- The second turn registers it anew. -/
theorem turn_register (removed : Result Unit) (hw : Wired.Holds (t.deleteDevice x.req.id) w) :
    ∃ w', Wired.Holds (t.reinsert x.row) w' ∧
      managerTurn V (x.afterRemoval removed) w =
        (.ret (removed, .ok (x.req.device x.now)), w') := by
  have hsingle := Manager.single_ofPorts (DeviceManager.single_register x.now x.req)
  obtain ⟨w', hrun, hw'⟩ := @Wired.yields_register V t x.now x.req w hw
  refine ⟨w', hw', ?_⟩
  exact turn_bind_of_single hsingle
    (f := fun registered => (.ret (removed, registered) : Manager Results)) hrun

variable {V} {x} {schedule : List Turn} {u t' : Tables}

/-- Once the message has been handled, the other thread runs alone. -/
theorem ended_of_handled (hleft : c.left = .ret ()) (hc : Wired.Holds u c.shared)
    (hright : c.right.Yields (Wired.handle V) (Wired.Holds u) (x.results t) (Wired.Holds t'))
    (hdone : (interleave V c schedule).right.outcome?.isSome) :
    Ended x t t' (interleave V c schedule) := by
  obtain ⟨b, hb⟩ := Option.isSome_iff_exists.mp hdone
  obtain ⟨final, hrun, hfinal⟩ := hright c.shared hc
  obtain ⟨hrun', hleft'⟩ := Threads.run_of_execAt_left_returned (congrArg outcome? hleft) hb
  obtain ⟨rfl, hshared⟩ := Prod.mk.inj (hrun'.symm.trans hrun)
  exact ⟨hleft', hb, hshared ▸ hfinal.2⟩

/-- Once the device has been registered anew, the handler runs alone. -/
theorem ended_of_replaced (hright : c.right = .ret (x.results t)) (hc : Wired.Holds u c.shared)
    (hleft : c.left.Yields (Wired.handle V) (Wired.Holds u) () (Wired.Holds t'))
    (hdone : (interleave V c schedule).left.outcome?.isSome) :
    Ended x t t' (interleave V c schedule) := by
  obtain ⟨a, ha⟩ := Option.isSome_iff_exists.mp hdone
  obtain ⟨final, hrun, hfinal⟩ := hleft c.shared hc
  obtain ⟨hrun', hright'⟩ := Threads.run_of_execAt_right_returned (congrArg outcome? hright) ha
  obtain ⟨rfl, hshared⟩ := Prod.mk.inj (hrun'.symm.trans hrun)
  exact ⟨ha, hright', hshared ▸ hfinal.2⟩

end Turns

/-! ## Interleavings -/

section Interleavings

variable {t : Tables} {w : Wired} {schedule : List Turn}

private theorem interleave_left {p p' : Manager Unit} {q : Manager Results} {w' : Wired}
    (h : managerTurn V p w = (p', w')) (schedule : List Turn) :
    interleave V ⟨p, q, w⟩ (.left :: schedule) = interleave V ⟨p', q, w'⟩ schedule := by
  rw [interleave, Threads.execAt_cons, Threads.stepAt]
  exact congrArg (fun turn => interleave V ⟨turn.1, q, turn.2⟩ schedule) h

private theorem interleave_right {p : Manager Unit} {q q' : Manager Results} {w' : Wired}
    (h : managerTurn V q w = (q', w')) (schedule : List Turn) :
    interleave V ⟨p, q, w⟩ (.right :: schedule) = interleave V ⟨p, q', w'⟩ schedule := by
  rw [interleave, Threads.execAt_cons, Threads.stepAt]
  exact congrArg (fun turn => interleave V ⟨p, turn.1, turn.2⟩ schedule) h

private theorem not_overwritten (hleft : ¬ [.left, .right, .right] <+: schedule)
    (hright : ¬ [.right, .right] <+: schedule) : ¬ x.Overwritten V t schedule := by
  rintro ⟨-, change, -, ⟨hturns, -⟩ | ⟨hturns, -⟩⟩
  · exact hleft hturns
  · exact hright hturns

/-- The handler has read a record, and the other thread has not begun. -/
theorem ended_of_read {rest : Manager Unit} (hrest : Manager.Passive V rest)
    (hw : Wired.Holds t w) (device : DeviceInfo) {c : ManagerThreads}
    (hc : interleave V ⟨Manager.writeBack change rest (.ok device), x.replacing, w⟩ schedule = c)
    (hdone : c.left.outcome?.isSome ∧ c.right.outcome?.isSome) :
    let row := SqliteDeviceRepository.bindDevice (change device)
    ([.right, .right] <+: schedule ∧ Ended x t ((t.reinsert x.row).updateDevice row) c) ∨
      (¬ [.right, .right] <+: schedule ∧ Ended x t ((t.updateDevice row).reinsert x.row) c) := by
  intro row
  have hresults : x.results (t.updateDevice row) = x.results t := by
    rw [results, results, Wired.removal, Wired.removal, Tables.ids_updateDevice]
  subst hc
  rcases schedule with _ | ⟨_ | _, schedule⟩
  · cases hdone.2
  · obtain ⟨w₁, hw₁, hwrite⟩ := turn_write V change hrest hw device
    rw [interleave_left hwrite] at hdone ⊢
    exact .inr ⟨by simp, ended_of_handled rfl hw₁ (hresults ▸ yields_replacing) hdone.2⟩
  · obtain ⟨w₁, hw₁, hremove⟩ := turn_remove V x hw
    rw [interleave_right hremove] at hdone ⊢
    rcases schedule with _ | ⟨_ | _, schedule⟩
    · cases hdone.2
    · -- The record is written back to no row, or to the row of a shorter id.
      obtain ⟨w₂, hw₂, hwrite⟩ := turn_write V change hrest hw₁ device
      rw [Tables.updateDevice_deleteDevice] at hw₂
      rw [interleave_left hwrite] at hdone ⊢
      exact .inr ⟨by simp, ended_of_handled rfl hw₂ (yields_afterRemoval _) hdone.2⟩
    · obtain ⟨w₂, hw₂, hregister⟩ := turn_register V x (Wired.removal x.req.id t) hw₁
      rw [interleave_right hregister] at hdone ⊢
      exact .inl ⟨List.prefix_append .., ended_of_replaced rfl hw₂
        (yields_writeBack hrest device) hdone.1⟩

/-- The outcome of an interleaving, by the turns it begins with. -/
theorem ended_of_change (hchange : x.message.change V x.seen = some change)
    (hw : Wired.Holds t w) {c : ManagerThreads} (hc : interleave V (x.race V w) schedule = c)
    (hdone : c.left.outcome?.isSome ∧ c.right.outcome?.isSome) :
    (∃ row, t.devices.find? (·.id = x.req.id) = some row ∧ [.left, .right, .right] <+: schedule ∧
      Ended x t ((t.reinsert x.row).updateDevice (SqliteDeviceRepository.bindDevice (change
        (SqliteDeviceRepository.rowToDevice row)))) c) ∨
    ([.right, .right] <+: schedule ∧ Ended x t (x.effect V (t.reinsert x.row)) c) ∨
    (¬ x.Overwritten V t schedule ∧
      (Ended x t ((x.effect V t).reinsert x.row) c ∨ Ended x t (t.reinsert x.row) c)) := by
  obtain ⟨rest, hrest, hhandling⟩ := handling_of_change hchange
  have heffect := @yields_handling V x
  subst hc
  rw [race, hhandling] at hdone ⊢
  rw [hhandling] at heffect
  -- Three turns at most decide the outcome; after them one thread is alone.
  rcases schedule with _ | ⟨_ | _, schedule⟩
  · cases hdone.1
  · obtain ⟨w₁, hw₁, hread⟩ := turn_read V change hrest hw x.req.id
    cases hfind : t.devices.find? (·.id = x.req.id) with
    | none =>
      rw [hfind] at hread
      rw [interleave_left hread] at hdone ⊢
      refine .inr (.inr ⟨?_, .inr (ended_of_handled rfl hw₁ yields_replacing hdone.2)⟩)
      rintro ⟨-, change, -, ⟨-, row, hrow, hid, -⟩ | ⟨hturns, -⟩⟩
      · exact List.find?_eq_none.mp hfind row hrow (by simpa using hid)
      · simp at hturns
    | some row =>
      rw [hfind] at hread
      rw [interleave_left hread] at hdone ⊢
      rw [effect_of_find? hchange hfind]
      rcases ended_of_read hrest hw₁ _ rfl hdone with ⟨hturns, hended⟩ | ⟨hturns, hended⟩
      · exact .inl ⟨row, rfl, List.cons_prefix_cons.mpr ⟨rfl, hturns⟩, hended⟩
      · refine .inr (.inr ⟨not_overwritten ?_ (by simp), .inl hended⟩)
        exact fun h => hturns (List.cons_prefix_cons.mp h).2
  · obtain ⟨w₁, hw₁, hremove⟩ := turn_remove V x hw
    rw [interleave_right hremove] at hdone ⊢
    rcases schedule with _ | ⟨_ | _, schedule⟩
    · cases hdone.2
    · -- There is no record to read.
      obtain ⟨w₂, hw₂, hread⟩ := turn_read V change hrest hw₁ x.req.id
      rw [Tables.find?_deleteDevice] at hread
      rw [interleave_left hread] at hdone ⊢
      exact .inr (.inr ⟨not_overwritten (by simp) (by simp),
        .inr (ended_of_handled rfl hw₂ (yields_afterRemoval _) hdone.2)⟩)
    · obtain ⟨w₂, hw₂, hregister⟩ := turn_register V x (Wired.removal x.req.id t) hw₁
      rw [interleave_right hregister] at hdone ⊢
      exact .inr (.inl ⟨List.prefix_append .., ended_of_replaced rfl hw₂ heffect hdone.1⟩)

end Interleavings

end Reregistration

end IotDashboard
