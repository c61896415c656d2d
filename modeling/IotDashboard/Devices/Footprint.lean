import IotDashboard.Database.SensorRepository
import IotDashboard.Devices.Backend
import IotDashboard.Devices.Messages

/-!
# What the device manager may write

Every change of the tables comes from a data-modifying statement, and each call of the ports steps
at most one. So a relation that the statements of a program's calls keep is kept by the program,
whichever of the calls of the library fail.

## Main definitions

* `Evolution`: a relation between tables that composes;
* `Write.Keeps`: a statement keeps a relation between the tables before and after;
* `PortCall.write`: the statement that a call steps.

## Main results

* `Backend.respects_run`: a program whose calls keep a relation keeps it;
* `DeviceManager.within_list`, `within_register`, `within_unregister`, `within_sendCommand`,
  `within_subscribeAll`, `within_handleMqttMessage`: the calls of the operations.
-/

namespace IotDashboard

open StdString

/-- A relation between the tables before and after any number of steps. -/
structure Evolution (T : Tables → Tables → Prop) : Prop where
  refl : ∀ t, T t t
  trans : ∀ a b c, T a b → T b c → T a c

/-- Where the statement succeeds, the tables before and after it are related. -/
def Write.Keeps (T : Tables → Tables → Prop) (w : Write) : Prop :=
  ∀ t t' n, w.apply t = some (t', n) → T t t'

/-- The calls of the library that change no table. -/
def SqlCall.Reads : SqlCall → Prop
  | .step _ | .execute _ => False
  | _ => True

/-- A call that changes no table, or that steps the statement. -/
def SqlCall.Steps (w : Option Write) (e : SqlCall) : Prop := e.Reads ∨ ∃ w' ∈ w, e = .step w'

/-- The statement that a call of a port steps. -/
def PortCall.write : PortCall → Option Write
  | .add device => some (.insertDevice (SqliteDeviceRepository.bindDevice device))
  | .update device => some (.updateDevice (SqliteDeviceRepository.bindDevice device))
  | .remove deviceId => some (.deleteDevice deviceId)
  | _ => none

/-- The statement of the call, if there is one, keeps the relation. -/
def PortCall.Keeps (T : Tables → Tables → Prop) (e : PortCall) : Prop :=
  ∀ w ∈ e.write, w.Keeps T

variable {T : Tables → Tables → Prop}

/-! ## Repositories -/

namespace Database

/-- A statement changes the tables as allowed, or not at all. -/
theorem tables_step (E : Evolution T) (d : Database) {w : Write} (hw : w.Keeps T) :
    T d.tables (d.step w).2.tables := by
  cases houtcome : d.outcome w with
  | none =>
    rw [step_of_failure d houtcome]
    exact E.refl d.tables
  | some result =>
    rw [step_of_outcome d houtcome]
    rw [outcome] at houtcome
    split at houtcome
    · cases houtcome
    · exact hw _ _ _ houtcome

/-- So does a call that makes at most this statement. -/
theorem respects_handle (E : Evolution T) {w : Option Write} (hw : ∀ w' ∈ w, w'.Keeps T)
    {e : SqlCall} (he : e.Steps w) : (handle e).Respects fun d d' => T d.tables d'.tables := by
  intro d
  rcases he with he | ⟨w, hmem, rfl⟩
  · cases e with
    | step w => exact he.elim
    | execute command => exact he.elim
    | _ => exact E.refl d.tables
  · exact tables_step E d (hw w hmem)

/-- A repository operation that steps one statement at most keeps what the statement keeps. -/
theorem respects_run (E : Evolution T) {w : Option Write} (hw : ∀ w' ∈ w, w'.Keeps T) {α : Type}
    {p : Sql α} (hp : p.Within (SqlCall.Steps w) fun _ _ => True) :
    (p.run handle).Respects fun d d' => T d.tables d'.tables := by
  refine Program.respects_run ?_ ?_ (fun _ => respects_handle E hw) ?_ hp
  · exact fun d => E.refl d.tables
  · exact fun d d' d'' => E.trans d.tables d'.tables d''.tables
  · exact fun _ _ _ _ _ => trivial

end Database

section Repositories

variable {w : Option Write} {A : (e : SqlCall) → e.Reply → Prop}

private theorem SqliteStatement.within_new : SqliteStatement.new.Within (SqlCall.Steps w) A := by
  refine Program.within_perform_bind (.inl trivial) fun ok _ => ?_
  split <;> trivial

private theorem SqliteStatement.within_step {w : Write} :
    (SqliteStatement.step w).Within (SqlCall.Steps (some w)) A :=
  Program.within_perform_bind (.inr ⟨w, rfl, rfl⟩) fun _ _ => Program.within_pure _

namespace SqliteDeviceRepository

open SqliteStatement

private theorem within_getById (deviceId : StdString) :
    (getById deviceId).Within (SqlCall.Steps none) A := by
  refine Program.within_bind within_new fun _ => ?_
  refine Program.within_perform_bind (.inl trivial) fun row _ => ?_
  cases row <;> trivial

private theorem within_getAll : getAll.Within (SqlCall.Steps none) A :=
  Program.within_bind within_new fun _ =>
    Program.within_perform_bind (.inl trivial) fun _ _ => Program.within_pure _

private theorem within_add (device : DeviceInfo) :
    (add device).Within (SqlCall.Steps (some (.insertDevice (bindDevice device)))) A := by
  refine Program.within_bind within_new fun _ => Program.within_bind within_step fun _ => ?_
  split <;> trivial

private theorem within_update (device : DeviceInfo) :
    (update device).Within (SqlCall.Steps (some (.updateDevice (bindDevice device)))) A := by
  refine Program.within_bind within_new fun _ => Program.within_bind within_step fun _ =>
    Program.within_perform_bind (.inl trivial) fun _ _ => ?_
  split <;> trivial

private theorem within_remove (deviceId : StdString) :
    (remove deviceId).Within (SqlCall.Steps (some (.deleteDevice deviceId))) A := by
  refine Program.within_bind within_new fun _ => Program.within_bind within_step fun _ =>
    Program.within_perform_bind (.inl trivial) fun _ _ => ?_
  split <;> trivial

end SqliteDeviceRepository

/-- `Query` writes nothing. -/
theorem SqliteSensorRepository.within_query (opts : SensorQueryOptions) :
    (query opts).Within (SqlCall.Steps none) A :=
  Program.within_bind SqliteStatement.within_new fun _ =>
    Program.within_perform_bind (.inl trivial) fun _ _ => Program.within_pure _

end Repositories

/-! ## The device manager -/

namespace Backend

/-- The tables of the two states are related. -/
def OnTables (T : Tables → Tables → Prop) (b b' : Backend) : Prop :=
  T b.database.tables b'.database.tables

/-- A call of a port keeps what its statement keeps. -/
theorem respects_handle (E : Evolution T) {e : PortCall} (he : e.Keeps T) :
    (handle e).Respects (OnTables T) := by
  have hsql : ∀ {α : Type} {p : Sql α}, p.Within (SqlCall.Steps e.write) (fun _ _ => True) →
      (onDatabase p).Respects (OnTables T) := fun hp b =>
    Database.respects_run E he hp b.database
  -- The calls of the client leave the database alone.
  cases e with
  | getById deviceId => exact hsql (SqliteDeviceRepository.within_getById deviceId)
  | getAll => exact hsql SqliteDeviceRepository.within_getAll
  | add device => exact hsql (SqliteDeviceRepository.within_add device)
  | update device => exact hsql (SqliteDeviceRepository.within_update device)
  | remove deviceId => exact hsql (SqliteDeviceRepository.within_remove deviceId)
  | _ => exact fun b => E.refl b.database.tables

/-- A program keeps what the statements of its calls keep. -/
theorem respects_run (E : Evolution T) {α : Type} {p : Ports α}
    (hp : p.Within (PortCall.Keeps T) fun _ _ => True) :
    (p.run handle).Respects (OnTables T) := by
  refine Program.respects_run ?_ ?_ (fun _ => respects_handle E) ?_ hp
  · exact fun b => E.refl b.database.tables
  · exact fun b b' b'' => E.trans b.database.tables b'.database.tables b''.database.tables
  · exact fun _ _ _ _ _ => trivial

end Backend

/-- A call that writes nothing keeps everything. -/
theorem PortCall.keeps_of_write_eq_none {e : PortCall} (h : e.write = none) : e.Keeps T := by
  intro w hw
  rw [h] at hw
  cases hw

namespace DeviceManager

variable {A : (e : PortCall) → e.Reply → Prop}

open PortCall (keeps_of_write_eq_none)

/-- Subscribing to topics one by one makes these calls only. -/
theorem within_subscribeEach {Q : PortCall → Prop} (h : ∀ topic qos, Q (.subscribe topic qos))
    (topics : List (StdString × QoS)) : (subscribeEach topics).Within Q A := by
  induction topics with
  | nil => trivial
  | cons topic topics ih => exact Program.within_perform_bind (h topic.1 topic.2) fun _ _ => ih

/-- Unsubscribing from them does. -/
theorem within_unsubscribeEach {Q : PortCall → Prop} (h : ∀ topic, Q (.unsubscribe topic))
    (topics : List (StdString × QoS)) : (unsubscribeEach topics).Within Q A := by
  induction topics with
  | nil => trivial
  | cons topic topics ih => exact Program.within_perform_bind (h topic.1) fun _ _ => ih

/-- `List` writes nothing. -/
theorem within_list (filter : DeviceFilter) : (list filter).Within (PortCall.Keeps T) A := by
  refine Program.within_perform_bind (keeps_of_write_eq_none rfl) fun r _ => ?_
  cases r <;> trivial

/-- `SubscribeAll` writes nothing. -/
theorem within_subscribeAll : subscribeAll.Within (PortCall.Keeps T) A := by
  refine Program.within_perform_bind (keeps_of_write_eq_none rfl) fun r _ => ?_
  cases r with
  | error e => trivial
  | ok devices =>
    exact Program.within_bind (within_subscribeEach (fun _ _ => keeps_of_write_eq_none rfl) _)
      fun _ => Program.within_pure _

/-- A registration steps an insert. -/
theorem within_register {now : Timestamp} {req : RegisterDeviceRequest}
    (h : (Write.insertDevice (SqliteDeviceRepository.bindDevice (req.device now))).Keeps T) :
    (register now req).Within (PortCall.Keeps T) A := by
  refine Program.within_perform_bind (by rintro w ⟨⟩; exact h) fun r _ => ?_
  cases r with
  | error e => trivial
  | ok =>
    refine Program.within_perform_bind (keeps_of_write_eq_none rfl) fun connected _ => ?_
    split
    · exact Program.within_bind (within_subscribeEach (fun _ _ => keeps_of_write_eq_none rfl) _)
        fun _ => Program.within_pure _
    · trivial

/-- A removal steps a delete. -/
theorem within_unregister {deviceId : StdString} (h : (Write.deleteDevice deviceId).Keeps T) :
    (unregister deviceId).Within (PortCall.Keeps T) A := by
  have hremove : (Ports.remove deviceId).Within (PortCall.Keeps T) A :=
    Program.within_perform (by rintro w ⟨⟩; exact h)
  refine Program.within_perform_bind (keeps_of_write_eq_none rfl) fun connected _ => ?_
  split
  · exact Program.within_bind (within_unsubscribeEach (fun _ => keeps_of_write_eq_none rfl) _)
      fun _ => hremove
  · exact hremove

/-- A command changes no table. -/
theorem within_sendCommand (V : Vendor) (deviceId command parametersJson : StdString) :
    (sendCommand V deviceId command parametersJson).Within (PortCall.Keeps T) A := by
  refine Program.within_perform_bind (keeps_of_write_eq_none rfl) fun r _ => ?_
  cases r with
  | error e => trivial
  | ok device =>
    dsimp only
    split
    · trivial
    · exact Program.within_bind (Program.within_ofExcept _) fun _ =>
        Program.within_perform (keeps_of_write_eq_none rfl)

end DeviceManager

/-! ## Messages -/

section Messages

variable {Q : ManagerCall → Prop} {A : (e : ManagerCall) → e.Reply → Prop} {deviceId : StdString}

private theorem Manager.within_modify {change : DeviceInfo → DeviceInfo}
    (hget : Q (.port (.getById deviceId)))
    (hupdate : ∀ device, A (.port (.getById deviceId)) (.ok device) →
      Q (.port (.update (change device)))) :
    (modify deviceId change).Within Q A := by
  refine Program.within_perform_bind hget fun r hr => ?_
  cases r with
  | error e => trivial
  | ok device => exact Program.within_perform_bind (hupdate device hr) fun _ _ => trivial

private theorem Manager.within_catchJson {p : Manager Unit} (hp : p.Within Q A) :
    (catchJson p).Within Q A := by
  refine Program.within_tryCatch hp fun x => ?_
  cases x <;> trivial

namespace DeviceManager

variable {V : Vendor} {now : Timestamp} {topic payload : StdString}

/-- A status message reads its device, writes it back with flag and time stamp, and is reported. -/
theorem within_handleStatusMessage (hget : Q (.port (.getById deviceId)))
    (hupdate : ∀ device online, A (.port (.getById deviceId)) (.ok device) →
      Q (.port (.update { device with isConnected := online, lastSeen := now })))
    (hstatus : ∀ online, Q (.statusCallback deviceId online)) :
    (handleStatusMessage V now deviceId payload).Within Q A := by
  refine Manager.within_catchJson
    (Program.within_bind (Program.within_ofExcept _) fun online => ?_)
  exact Program.within_bind (Manager.within_modify hget fun d hd => hupdate d online hd) fun _ =>
    Program.within_perform_bind (hstatus online) fun _ _ => Program.within_ofExcept _

/-- A sensor message is reported, and that is all. -/
theorem within_handleSensorMessage (hsensor : ∀ reading, Q (.sensorCallback reading)) :
    (handleSensorMessage V now deviceId payload).Within Q A := by
  refine Manager.within_catchJson
    (Program.within_bind (Program.within_ofExcept _) fun reading => ?_)
  exact Program.within_perform_bind (hsensor reading) fun _ _ => Program.within_ofExcept _

/-- A heartbeat reads its device and writes it back with the time stamp. -/
theorem within_handleHeartbeat (hget : Q (.port (.getById deviceId)))
    (hupdate : ∀ device, A (.port (.getById deviceId)) (.ok device) →
      Q (.port (.update { device with lastSeen := now }))) :
    (handleHeartbeat now deviceId).Within Q A :=
  Manager.within_modify hget hupdate

/-- A status or heartbeat message updates the flag and the time stamp of the device that its topic
decodes to, and messages call the callbacks. -/
theorem within_handleMqttMessage
    (hget : ∀ deviceId subtopic, decodeTopic topic = some (deviceId, subtopic) →
      subtopic = lit "status" ∨ subtopic = lit "heartbeat" →
      Q (.port (.getById deviceId)) ∧
      ∀ device online, A (.port (.getById deviceId)) (.ok device) →
        Q (.port (.update { device with isConnected := online, lastSeen := now })))
    (hstatus : ∀ deviceId online, Q (.statusCallback deviceId online))
    (hsensor : ∀ reading, Q (.sensorCallback reading)) :
    (handleMqttMessage V now topic payload).Within Q A := by
  unfold handleMqttMessage
  split
  · trivial
  · next deviceId subtopic hdecode =>
    split
    · next hsubtopic =>
      obtain ⟨hget, hupdate⟩ := hget deviceId subtopic hdecode (.inl hsubtopic)
      exact within_handleStatusMessage hget hupdate (hstatus deviceId)
    split
    · exact within_handleSensorMessage hsensor
    split
    · next hsubtopic =>
      obtain ⟨hget, hupdate⟩ := hget deviceId subtopic hdecode (.inr hsubtopic)
      exact within_handleHeartbeat hget fun d hd => hupdate d d.isConnected hd
    · trivial

end DeviceManager

end Messages

end IotDashboard
