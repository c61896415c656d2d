import IotDashboard.Devices.Subscriptions
import IotDashboard.Foundation.MqttTopic

/-!
# Devices on the broker

The id of a device is spliced into its topics as it is. The subscriptions made for a device are
meant to let through only what the device itself sends, and its commands are meant to reach no
other device; this is so exactly for ids that hold neither a wildcard nor a NUL byte. A slash does
no harm, since topics are decoded from their last one.

## Main results

* `DeviceManager.isolated_iff`: the exact condition on an id;
* `DeviceManager.not_isolated_plus`: a device whose id is `+`;
* `Backend.received_from_stored`: while ids hold no wildcard, what the broker delivers to the
  backend decodes to a stored device.
-/

namespace IotDashboard

open StdString MqttTopic

namespace DeviceManager

variable {deviceId topic filter : StdString} {subtopic : String}

/-- The filters that the broker holds after a device was registered: Paho reads them as C
strings. -/
def filters (deviceId : StdString) : List StdString := (deviceTopics deviceId).map (·.1.cStr)

/-- The topic to which the commands of a device go. -/
def commandTopic (deviceId : StdString) : StdString := (buildCommandTopic deviceId).cStr

/-- The device has its topics to itself. -/
structure Isolated (deviceId : StdString) : Prop where
  /-- What the filters let through decodes back to the device. -/
  decodes : ∀ filter ∈ filters deviceId, ∀ topic, IsTopicName topic →
    filterMatches filter topic = true → (decodeTopic topic).map Prod.fst = some deviceId
  /-- Commands can be published. -/
  legal : IsTopicName (commandTopic deviceId)
  /-- No other device subscribes to the command topic. -/
  unshared : ∀ other, other ≠ deviceId → buildCommandTopic other ≠ commandTopic deviceId

private theorem literal_deviceTopic_iff (hsubtopic : Literal (lit subtopic)) :
    Literal (deviceTopic deviceId subtopic) ↔ Literal deviceId := by
  have hliteral : Literal (lit "devices/") ∧ Literal (lit "/") := by decide
  simp only [deviceTopic, literal_append, hliteral, hsubtopic, true_and, and_true]

private theorem nulFree_deviceTopic_iff (hsubtopic : (lit subtopic).NulFree) :
    (deviceTopic deviceId subtopic).NulFree ↔ deviceId.NulFree := by
  have hnul : (0 : UInt8) ∉ lit "devices/" ∧ (0 : UInt8) ∉ lit "/" := by decide
  rw [NulFree] at hsubtopic
  simp only [NulFree, deviceTopic, List.mem_append, hnul, hsubtopic, false_or, or_false]

/-- With a NUL byte in the id, a topic ends there. -/
theorem cStr_deviceTopic_of_nul (hnul : ¬ deviceId.NulFree) :
    (deviceTopic deviceId subtopic).cStr = lit "devices/" ++ deviceId.cStr := by
  have hprefix : (lit "devices/").NulFree := by decide
  rw [deviceTopic, List.append_assoc, List.append_assoc, cStr_append_of_nulFree hprefix,
    cStr_append_of_not_nulFree hnul]

/-- The filters of an id without wildcards and NUL bytes are the topics themselves, and match
nothing else. -/
theorem decode_of_filterMatches (hliteral : Literal deviceId) (hnul : deviceId.NulFree)
    (hfilter : filter ∈ filters deviceId) (hmatch : filterMatches filter topic = true) :
    (decodeTopic topic).map Prod.fst = some deviceId := by
  rw [filters, Backend.map_cStr_deviceTopics hnul] at hfilter
  obtain ⟨subtopic, rfl, hslash, hsubtopic⟩ := Backend.eq_deviceTopic_of_mem hfilter
  rw [filterMatches_iff_eq ((literal_deviceTopic_iff hsubtopic).mpr hliteral)] at hmatch
  rw [hmatch, decodeTopic_deviceTopic deviceId hslash]
  rfl

/-- For every id: the device has its topics to itself exactly if the id holds neither a wildcard
character nor a NUL byte. -/
theorem isolated_iff (deviceId : StdString) :
    Isolated deviceId ↔ Literal deviceId ∧ deviceId.NulFree := by
  have hcommands : Literal (lit "commands") ∧ (lit "commands").NulFree := by decide
  constructor
  · rintro ⟨hdecodes, hlegal, -⟩
    by_cases hnul : deviceId.NulFree
    · rw [commandTopic, buildCommandTopic,
        cStr_eq_self ((nulFree_deviceTopic_iff hcommands.2).mpr hnul)] at hlegal
      exact ⟨(literal_deviceTopic_iff hcommands.1).mp hlegal.2.1, hnul⟩
    · -- The filters and the command topic are all the same text, which is a topic of no device.
      exfalso
      have hfilter : commandTopic deviceId ∈ filters deviceId := by
        refine List.mem_map.mpr
          ⟨(deviceTopic deviceId "status", .atLeastOnce), List.mem_cons_self, ?_⟩
        rw [commandTopic, buildCommandTopic, cStr_deviceTopic_of_nul hnul,
          cStr_deviceTopic_of_nul hnul]
      have hdecode := hdecodes _ hfilter _ hlegal ((filterMatches_iff_eq hlegal.2.1).mpr rfl)
      obtain ⟨⟨id, subtopic⟩, htopic, rfl⟩ := Option.map_eq_some_iff.mp hdecode
      obtain ⟨htopic, -⟩ := decodeTopic_eq_some_iff.mp htopic
      have hfree := hlegal.2.2
      rw [htopic, NulFree] at hfree
      simp only [List.mem_append, not_or] at hfree
      exact hnul hfree.1.1.2
  · rintro ⟨hliteral, hnul⟩
    have hcommand : commandTopic deviceId = deviceTopic deviceId "commands" :=
      cStr_eq_self ((nulFree_deviceTopic_iff hcommands.2).mpr hnul)
    refine ⟨fun filter hfilter topic _ => decode_of_filterMatches hliteral hnul hfilter, ?_, ?_⟩
    · rw [hcommand]
      refine ⟨by simp [deviceTopic, lit], (literal_deviceTopic_iff hcommands.1).mpr hliteral,
        (nulFree_deviceTopic_iff hcommands.2).mpr hnul⟩
    · intro other hother heq
      rw [hcommand] at heq
      refine hother ?_
      have hdecode : decodeTopic (deviceTopic other "commands") = some (other, lit "commands") :=
        decodeTopic_deviceTopic other (by decide)
      rw [show deviceTopic other "commands" = _ from heq,
        decodeTopic_deviceTopic deviceId (by decide)] at hdecode
      exact (Prod.mk.inj (Option.some.inj hdecode)).1.symm

/-- The id `+` is not empty, but its filters let through what every other device sends. -/
theorem not_isolated_plus : ¬ ∀ deviceId, deviceId ≠ [] → Isolated deviceId := by
  intro hisolated
  have hdecode := (hisolated (lit "+") (by decide)).decodes (deviceTopic (lit "+") "status")
    (by decide) (deviceTopic (lit "d-2") "status")
  have htopic : IsTopicName (deviceTopic (lit "d-2") "status") := ⟨by decide, by decide, by decide⟩
  have hmatch : filterMatches (deviceTopic (lit "+") "status") (deviceTopic (lit "d-2") "status") =
      true := by decide +kernel
  exact absurd (hdecode htopic hmatch) (by decide)

end DeviceManager

namespace Backend

open DeviceManager

variable {b b₀ : Backend} {tr : BackendTrace}

/-- An online registration adds the filters of the device to those of the broker. -/
theorem held_register (now : Timestamp) (req : RegisterDeviceRequest)
    (hprepare : b.database.faults 0 = false) (hreliable : b.mqtt.Reliable)
    (hconnected : b.mqtt.connected = true) :
    (((register now req).run handle).run b).2.mqtt.held =
      b.mqtt.held ∪ { filter | filter ∈ filters req.id } := by
  rw [run_register now req hprepare, if_pos hconnected]
  exact (MqttClient.subscribeEach_of_online _ hreliable hconnected).2.2.2

/-- In runs that keep track of the stored devices: as long as their ids hold no wildcard, whatever
the broker delivers to the backend decodes to one of them. -/
theorem received_from_stored (hinitial : Initial b₀) (hrun : Run KeepsTrack b₀ tr b)
    (hliteral : ∀ id ∈ b.database.tables.ids, Literal id) {filter topic : StdString}
    (hfilter : filter ∈ b.mqtt.held) (hmatch : filterMatches filter topic = true) :
    ∃ id ∈ b.database.tables.ids, (decodeTopic topic).map Prod.fst = some id := by
  have hb := tracked_of_run hinitial hrun
  obtain ⟨id, hid, hwanted⟩ := hb.held_subset hfilter
  refine ⟨id, hid, decode_of_filterMatches (hliteral id hid) (hb.nulFree id hid) ?_ hmatch⟩
  rw [filters, map_cStr_deviceTopics (hb.nulFree id hid)]
  exact hwanted

end Backend

end IotDashboard
