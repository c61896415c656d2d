import IotDashboard.Api.WiredFrames
import IotDashboard.Devices.Commands
import IotDashboard.Foundation.MqttTopic

/-!
# Devices that fall silent

A device that has not been heard from for the configured time is meant to be reported by the
heartbeat monitor and to be offline from then on. But no device is ever registered with the
monitor, and its timeout callback does not touch the repository: nothing is reported, and the
device stays online.

## Main definitions

* `HeardFrom`: a status, sensors or heartbeat message of a device;
* `Silent`: an input that leaves a device silent;
* `TimeoutReported`: some poll called the timeout callback for a device.

## Main results

* `Wired.silence_unnoticed`: no run reports a silent device, and it stays online;
* `Wired.silent_lamp`: a device that is silent for longer than the default timeout.
-/

namespace IotDashboard

open StdString DeviceManager MqttTopic

/-- The input is a status, sensors or heartbeat message of the device. -/
def HeardFrom (deviceId : StdString) : WiredInput → Prop
  | .message _ topic _ => ∃ subtopic ∈ [lit "status", lit "sensors", lit "heartbeat"],
    decodeTopic topic = some (deviceId, subtopic)
  | _ => False

/-- The input is nothing that is heard from the device, and does not ask for its removal. Messages
come on topics that a broker delivers. -/
def Silent (deviceId : StdString) (i : WiredInput) : Prop :=
  ¬ HeardFrom deviceId i ∧
    match i with
    | .message _ topic _ => IsTopicName topic
    | .request _ _ bReq =>
      let req := HttpSession.beastToApp bReq
      ¬ (req.method = .delete ∧ req.path = lit "/devices" ∧
        req.getQueryParam (lit "id") = deviceId)
    | _ => True

/-- Some poll called the timeout callback for the device. -/
def TimeoutReported (deviceId : StdString) (tr : WiredTrace) : Prop :=
  ∃ entry ∈ tr, ∃ ids, entry.2 = .timedOut ids ∧ deviceId ∈ ids

/-- The default of `m_heartbeatTimeoutSeconds`. -/
def heartbeatTimeoutSeconds : Int64 := 300

/-- If the device was online, it still is. -/
def KeepsOnline (deviceId : StdString) (t t' : Tables) : Prop :=
  t.Online deviceId → t'.Online deviceId

namespace Wired

variable {V : Vendor} {w w₀ w₁ : Wired} {tr tr₁ : WiredTrace} {deviceId : StdString}

/-! ## The monitor -/

/-- Nothing is ever registered with the monitor. -/
theorem monitor_of_run {guard : WiredTrace → Wired → WiredInput → Prop}
    (hrun : Mealy.Run (step V) guard w₀ tr w) (hinitial : w₀.monitor.devices = ∅) :
    w.monitor.devices = ∅ := by
  refine hrun.invariant (P := fun w => w.monitor.devices = ∅) hinitial fun _ w i h _ => ?_
  rw [monitor_step]
  cases i with
  | poll now =>
    show (w.monitor.poll now).2.devices = ∅
    rw [HeartbeatMonitor.poll_of_empty h]
    exact h
  | _ => exact h

/-- So no poll reports a device. -/
theorem not_timeoutReported_of_run {guard : WiredTrace → Wired → WiredInput → Prop}
    (hrun : Mealy.Run (step V) guard w₀ tr w) (hinitial : w₀.monitor.devices = ∅) :
    ¬ TimeoutReported deviceId tr := by
  rintro ⟨⟨i, o⟩, hentry, ids, rfl, hid⟩
  obtain ⟨pre, post, htr⟩ := List.append_of_mem hentry
  obtain ⟨w', hbefore, -, houtput⟩ := hrun.guard_of_append htr
  -- The monitor was empty when the poll took place.
  cases i with
  | poll now =>
    have hempty := monitor_of_run hbefore hinitial
    rw [step, HeartbeatMonitor.poll_of_empty hempty] at houtput
    cases houtput
    cases hid
  | _ => cases houtput

/-! ## The store -/

private theorem evolution_keepsOnline (deviceId : StdString) :
    Evolution (KeepsOnline deviceId) where
  refl _ h := h
  trans _ _ _ h h' honline := h' (h honline)

/-- What a silent input may step is about other devices. -/
theorem keepsOnline_of_mayStep {i : WiredInput} (hsilent : Silent deviceId i) {write : Write}
    (h : i.MayStep write) : write.Keeps (KeepsOnline deviceId) := by
  rintro t t' n happly ⟨row, hrow, hid, honline⟩
  cases h with
  | insert new =>
    rw [Write.apply] at happly
    split at happly
    · cases happly
    · obtain ⟨rfl, -⟩ := Prod.mk.inj (Option.some.inj happly)
      exact ⟨row, List.mem_append_left _ hrow, hid, honline⟩
  | @delete env enableCors bReq hmethod hpath =>
    obtain ⟨rfl, -⟩ := Prod.mk.inj (Option.some.inj happly)
    have hother : deviceId ≠ (HttpSession.beastToApp bReq).getQueryParam (lit "id") :=
      fun heq => hsilent.2 ⟨hmethod, hpath, heq.symm⟩
    exact ⟨row, List.mem_filter.mpr ⟨hrow, by simpa [hid] using hother⟩, hid, honline⟩
  | @update now topic payload other subtopic device hdecode hsubtopic hdevice =>
    obtain ⟨rfl, -⟩ := Prod.mk.inj (Option.some.inj happly)
    -- A topic that a broker delivers has no NUL byte, so the id is written as it was read.
    have hother : device.id ≠ deviceId := by
      have hnul : other.NulFree := by
        have htopic := hsilent.2.2.2
        rw [(decodeTopic_eq_some_iff.mp hdecode).1, NulFree] at htopic
        simp only [List.mem_append, not_or] at htopic
        exact htopic.1.1.2
      rw [hdevice, cStr_eq_self hnul]
      rintro rfl
      rcases hsubtopic with rfl | rfl
      · exact hsilent.1 ⟨_, by simp, hdecode⟩
      · exact hsilent.1 ⟨_, by simp, hdecode⟩
    refine ⟨row, List.mem_map.mpr ⟨row, hrow, if_neg ?_⟩, hid, honline⟩
    exact hid.trans_ne hother.symm

/-- A device that is silent stays online. -/
theorem online_of_silent (hrun : Mealy.Run (step V) (fun _ _ i => Silent deviceId i) w₁ tr w)
    (honline : w₁.tables.Online deviceId) : w.tables.Online deviceId :=
  hrun.invariant (P := fun w => w.tables.Online deviceId) honline fun _ w _ h hsilent =>
    tables_step (evolution_keepsOnline deviceId) (fun _ => keepsOnline_of_mayStep hsilent) w h

/-- After any run of the application, whatever happens next, the timeout callback is not called for
a device; and while an online device is silent, it stays online and is sent commands. -/
theorem silence_unnoticed (hinitial : w₀.monitor.devices = ∅)
    (hrun : Mealy.Run (step V) Mealy.anyInput w₀ tr₁ w₁) (deviceId : StdString) :
    (∀ tr w, Mealy.Run (step V) Mealy.anyInput w₁ tr w → ¬ TimeoutReported deviceId tr) ∧
    (w₁.tables.Online deviceId →
      ∀ tr w, Mealy.Run (step V) (fun _ _ i => Silent deviceId i) w₁ tr w →
        w.tables.Online deviceId ∧
        (w.app.backend.database.Reliable → ∀ command params payload,
          buildCommandJson V command params = .ok payload →
          Backend.published (sendCommand V deviceId command params) w.app.backend =
            [⟨buildCommandTopic deviceId, payload, .atLeastOnce, false⟩])) := by
  refine ⟨fun tr w hafter => not_timeoutReported_of_run hafter (monitor_of_run hrun hinitial), ?_⟩
  intro honline tr w hsilent
  have hstill := online_of_silent hsilent honline
  exact ⟨hstill, fun hreliable command params payload hpayload =>
    (Backend.sendCommand_of_online hreliable hstill hpayload).2⟩

/-- The heartbeat of the lamp. -/
def lampHeartbeat : WiredInput := .message 0 (deviceTopic (lit "d-1") "heartbeat") []

private theorem run_lampHeartbeat : Mealy.Run (step Vendor.reference) Mealy.anyInput (oneLamp 1)
    [(lampHeartbeat, (step Vendor.reference (oneLamp 1) lampHeartbeat).1)]
    (step Vendor.reference (oneLamp 1) lampHeartbeat).2 :=
  Mealy.Run.nil.snoc lampHeartbeat trivial

private theorem online_lampHeartbeat :
    (step Vendor.reference (oneLamp 1) lampHeartbeat).2.tables.Online (lit "d-1") := by
  decide

/-- The lamp sends a heartbeat and falls silent; a poll passes over it, and it stays online. -/
theorem silence_unnoticed_lamp :
    ∃ w : Wired, Mealy.Run (step Vendor.reference) (fun _ _ i => Silent (lit "d-1") i)
        (step Vendor.reference (oneLamp 1) lampHeartbeat).2
        [(.poll 301000000000, .timedOut [])] w ∧
      w.tables.Online (lit "d-1") := by
  have hpoll : Silent (lit "d-1") (.poll 301000000000) := ⟨id, trivial⟩
  have hrun : Mealy.Run (step Vendor.reference) (fun _ _ i => Silent (lit "d-1") i)
      (step Vendor.reference (oneLamp 1) lampHeartbeat).2 _ _ := Mealy.Run.nil.snoc _ hpoll
  exact ⟨_, hrun, ((silence_unnoticed rfl run_lampHeartbeat (lit "d-1")).2 online_lampHeartbeat
    _ _ hrun).1⟩

/-- The lamp is silent for longer than the default timeout and is not reported. -/
theorem silent_lamp :
    ¬ ∀ (w₀ w₁ w₂ : Wired) (tr₁ tr₂ : WiredTrace) (deviceId topic payload : StdString)
        (seen now : Timestamp) (o₁ o₂ : WiredOutput),
      w₀.monitor.devices = ∅ →
      Mealy.Run (step Vendor.reference) Mealy.anyInput w₀
        (tr₁ ++ [(.message seen topic payload, o₁)]) w₁ →
      HeardFrom deviceId (.message seen topic payload) → w₁.tables.Online deviceId →
      Mealy.Run (step Vendor.reference) (fun _ _ i => Silent deviceId i) w₁
        (tr₂ ++ [(.poll now, o₂)]) w₂ →
      heartbeatTimeoutSeconds < Timestamp.seconds (now - seen) →
      TimeoutReported deviceId (tr₂ ++ [(.poll now, o₂)]) ∧ ¬ w₂.tables.Online deviceId := by
  intro hnoticed
  have hrun : Mealy.Run (step Vendor.reference) (fun _ _ i => Silent (lit "d-1") i)
      (step Vendor.reference (oneLamp 1) lampHeartbeat).2 _ _ :=
    Mealy.Run.nil.snoc (.poll 301000000000) ⟨id, trivial⟩
  have hreported := hnoticed _ _ _ [] [] (lit "d-1") _ _ 0 301000000000 _ _ rfl run_lampHeartbeat
    ⟨lit "heartbeat", by simp, by decide⟩ online_lampHeartbeat hrun (by decide)
  exact not_timeoutReported_of_run hrun (monitor_of_run run_lampHeartbeat rfl) hreported.1

end Wired

end IotDashboard
