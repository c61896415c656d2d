import IotDashboard.Devices.Backend
import IotDashboard.Foundation.Mealy
import IotDashboard.Foundation.MqttTopic

/-!
# Subscriptions follow the device store

The device manager and the MQTT client as one machine: registrations, removals, `SubscribeAll`,
and the loss and return of the connection, in any order. The topics subscribed to are meant to be
those of the stored devices whenever the client is online and `SubscribeAll` has run.

The code keeps the two in step only by what it does at each call. A device that is registered or
removed while the client is offline is passed over, and no later step makes up for it.

## Main definitions

* `Backend.wanted`: the topics of the stored devices;
* `KeepsTrack`: the condition on a call under which nothing is passed over.

## Main results

* `Backend.subscriptions_eq_wanted`: in runs whose calls all meet the condition, the client's
  table and the broker's session hold exactly the wanted topics;
* `Backend.offline_registration_not_subscribed`: a device registered offline.
-/

namespace IotDashboard

open StdString DeviceManager

/-- What can happen to the device manager and the MQTT client. -/
inductive BackendCall where
  | register (now : Timestamp) (req : RegisterDeviceRequest)
  | unregister (deviceId : StdString)
  | subscribeAll
  | connectionLost
  | reconnected

/-- What a call returns. -/
inductive BackendReply where
  | device (r : Except CxxException (Result DeviceInfo))
  | done (r : Except CxxException (Result Unit))
  | none

/-- A recorded history, oldest first. -/
abbrev BackendTrace := List (BackendCall × BackendReply)

namespace Backend

/-- One call. -/
def step (b : Backend) : BackendCall → BackendReply × Backend
  | .register now req =>
    let r := ((register now req).run handle).run b
    (.device r.1, r.2)
  | .unregister deviceId =>
    let r := ((unregister deviceId).run handle).run b
    (.done r.1, r.2)
  | .subscribeAll =>
    let r := (subscribeAll.run handle).run b
    (.done r.1, r.2)
  | .connectionLost => (.none, { b with mqtt := b.mqtt.onConnectionLost })
  | .reconnected => (.none, { b with mqtt := b.mqtt.reconnect })

/-- The topics of one device. -/
def topicsOf (id : StdString) : Set StdString := { topic | topic ∈ (deviceTopics id).map Prod.fst }

/-- The topics of the stored devices. -/
def wanted (b : Backend) : Set StdString :=
  { topic | ∃ id ∈ b.database.tables.ids, topic ∈ topicsOf id }

/-- The initial `SubscribeAll` has run. -/
def SubscribedAll (tr : BackendTrace) : Prop := ∃ r, (.subscribeAll, r) ∈ tr

/-- The condition on a call: it is made online, or there is nothing that the code would have to
make up for later. -/
def KeepsTrack (tr : BackendTrace) (b : Backend) : BackendCall → Prop
  | .register _ req => req.id.NulFree ∧
      (b.mqtt.connected = true ∨ req.id ∈ b.database.tables.ids ∨ ¬ SubscribedAll tr)
  | .unregister deviceId => deviceId.NulFree ∧ (b.mqtt.connected = true ∨
      ∀ topic ∈ topicsOf deviceId, topic ∉ b.mqtt.table ∧ topic ∉ b.mqtt.held)
  | .subscribeAll => b.mqtt.connected = true ∨
      ∀ topic ∈ b.wanted, topic ∈ b.mqtt.table ∧ topic ∈ b.mqtt.held
  | .connectionLost => True
  | .reconnected => True

/-- A backend before its first call: the library calls succeed, the client has no subscriptions,
and a session that the broker kept from before is about stored devices. -/
structure Initial (b : Backend) : Prop where
  databaseReliable : b.database.Reliable
  mqttReliable : b.mqtt.Reliable
  nulFree : ∀ id ∈ b.database.tables.ids, id.NulFree
  table_eq : b.mqtt.table = ∅
  held_subset : b.mqtt.held ⊆ b.wanted

/-- The invariant of the runs, by whether `SubscribeAll` has run. -/
structure Tracked (subscribedAll : Prop) (b : Backend) : Prop where
  databaseReliable : b.database.Reliable
  mqttReliable : b.mqtt.Reliable
  nulFree : ∀ id ∈ b.database.tables.ids, id.NulFree
  table_subset : b.mqtt.table ⊆ b.wanted
  held_subset : b.mqtt.held ⊆ b.wanted
  wanted_subset : subscribedAll → b.wanted ⊆ b.mqtt.table ∧ b.wanted ⊆ b.mqtt.held

/-! ## Topics -/

section Topics

variable {id id' topic : StdString}

/-- The subtopics hold no slash and no wildcard. -/
theorem eq_deviceTopic_of_mem (h : topic ∈ topicsOf id) :
    ∃ subtopic, topic = deviceTopic id subtopic ∧ byte '/' ∉ lit subtopic ∧
      MqttTopic.Literal (lit subtopic) := by
  simp only [topicsOf, Set.mem_ofPred_eq, deviceTopics, List.map_cons, List.map_nil,
    List.mem_cons, List.not_mem_nil, or_false] at h
  rcases h with rfl | rfl | rfl
  · exact ⟨_, rfl, by decide⟩
  · exact ⟨_, rfl, by decide⟩
  · exact ⟨_, rfl, by decide⟩

/-- A topic belongs to one device only. -/
theorem id_eq_of_mem_topicsOf (h : topic ∈ topicsOf id)
    (h' : topic ∈ topicsOf id') : id = id' := by
  obtain ⟨subtopic, rfl, hslash, -⟩ := eq_deviceTopic_of_mem h
  obtain ⟨subtopic', heq, hslash', -⟩ := eq_deviceTopic_of_mem h'
  -- An id may hold slashes, but the topic decodes from the last one.
  have hdecode := decodeTopic_deviceTopic id hslash
  rw [heq, decodeTopic_deviceTopic id' hslash'] at hdecode
  exact (Prod.mk.inj (Option.some.inj hdecode)).1.symm

/-- The topics of a NUL-free id are NUL-free. -/
theorem nulFree_of_mem_topicsOf (hid : id.NulFree)
    (h : topic ∈ topicsOf id) : topic.NulFree := by
  have hlit : ∀ s ∈ [lit "devices/", lit "/", lit "status", lit "sensors", lit "heartbeat"],
      s.NulFree := by decide
  simp only [topicsOf, Set.mem_ofPred_eq, deviceTopics, List.map_cons, List.map_nil,
    List.mem_cons, List.not_mem_nil, or_false, deviceTopic] at h
  have happend : ∀ sub, (lit sub).NulFree →
      (lit "devices/" ++ id ++ lit "/" ++ lit sub).NulFree := by
    intro sub hsub
    simp only [NulFree, List.mem_append, not_or]
    exact ⟨⟨⟨hlit _ (by simp), hid⟩, hlit _ (by simp)⟩, hsub⟩
  rcases h with rfl | rfl | rfl
  · exact happend _ (hlit _ (by simp))
  · exact happend _ (hlit _ (by simp))
  · exact happend _ (hlit _ (by simp))

/-- As C strings the topics of a NUL-free id are themselves. -/
theorem map_cStr_deviceTopics (hid : id.NulFree) :
    (deviceTopics id).map (·.1.cStr) = (deviceTopics id).map Prod.fst := by
  refine List.map_congr_left fun t ht => cStr_eq_self ?_
  exact nulFree_of_mem_topicsOf hid (List.mem_map_of_mem ht)

/-- A NUL-free set of topics is its own image as C strings. -/
theorem image_cStr_eq_self {topics : Set StdString} (h : ∀ t ∈ topics, t.NulFree) :
    cStr '' topics = topics := by
  ext t
  constructor
  · rintro ⟨t, ht, rfl⟩
    rwa [cStr_eq_self (h t ht)]
  · exact fun ht => ⟨t, ht, cStr_eq_self (h t ht)⟩

end Topics

/-! ## One call -/

section Step

variable {b : Backend} {subscribedAll : Prop}

/-- The wanted topics after a device was added. -/
private lemma wanted_insert {b' : Backend} {deviceId : StdString}
    (h : ∀ id, id ∈ b'.database.tables.ids ↔ id ∈ b.database.tables.ids ∨ id = deviceId) :
    b'.wanted = b.wanted ∪ topicsOf deviceId := by
  ext topic
  simp only [wanted, Set.mem_ofPred_eq, Set.mem_union, h]
  constructor
  · rintro ⟨id, hid | rfl, htopic⟩
    · exact .inl ⟨id, hid, htopic⟩
    · exact .inr htopic
  · rintro (⟨id, hid, htopic⟩ | htopic)
    · exact ⟨id, .inl hid, htopic⟩
    · exact ⟨deviceId, .inr rfl, htopic⟩

/-- The wanted topics after a device was removed. -/
private lemma wanted_delete {b' : Backend} {deviceId : StdString}
    (h : ∀ id, id ∈ b'.database.tables.ids ↔ id ∈ b.database.tables.ids ∧ id ≠ deviceId) :
    b'.wanted = b.wanted \ topicsOf deviceId := by
  ext topic
  simp only [wanted, Set.mem_ofPred_eq, Set.mem_sdiff, h]
  -- No topic of the removed device is kept on behalf of another one.
  constructor
  · rintro ⟨id, ⟨hid, hne⟩, htopic⟩
    exact ⟨⟨id, hid, htopic⟩, fun hremoved => hne (id_eq_of_mem_topicsOf htopic hremoved)⟩
  · rintro ⟨⟨id, hid, htopic⟩, hkept⟩
    refine ⟨id, ⟨hid, ?_⟩, htopic⟩
    rintro rfl
    exact hkept htopic

/-- A call that changes the two sides and the wanted topics alike, and respects inclusions. -/
private lemma tracked_of_monotone {b' : Backend} {change : Set StdString → Set StdString}
    (hb : Tracked subscribedAll b)
    (hchange : ∀ {topics topics'}, topics ⊆ topics' → change topics ⊆ change topics')
    (hdatabaseReliable : b'.database.Reliable) (hmqttReliable : b'.mqtt.Reliable)
    (hnulFree : ∀ id ∈ b'.database.tables.ids, id.NulFree)
    (htable : b'.mqtt.table = change b.mqtt.table) (hheld : b'.mqtt.held = change b.mqtt.held)
    (hwanted : b'.wanted = change b.wanted) : Tracked subscribedAll b' where
  databaseReliable := hdatabaseReliable
  mqttReliable := hmqttReliable
  nulFree := hnulFree
  table_subset := by
    rw [htable, hwanted]
    exact hchange hb.table_subset
  held_subset := by
    rw [hheld, hwanted]
    exact hchange hb.held_subset
  wanted_subset hall := by
    rw [htable, hheld, hwanted]
    exact ⟨hchange (hb.wanted_subset hall).1, hchange (hb.wanted_subset hall).2⟩

/-- Registering a device online, or one that is stored already, or before `SubscribeAll`. -/
private lemma tracked_register {b' : Backend} {row : DeviceRow} (hb : Tracked subscribedAll b)
    (hid : row.id.NulFree)
    (hguard : b.mqtt.connected = true ∨ row.id ∈ b.database.tables.ids ∨ ¬ subscribedAll)
    (hdatabase : b'.database = ((b.database.tick 1).step (.insertDevice row)).2)
    (hmqtt : b'.mqtt =
      if b.mqtt.connected then b.mqtt.subscribeEach (deviceTopics row.id) else b.mqtt) :
    Tracked subscribedAll b' := by
  have hreliable := Database.reliable_tick hb.databaseReliable 1
  -- A duplicate id is refused by the table and reported as added, but the ids come out the same.
  have hids : ∀ id, id ∈ b'.database.tables.ids ↔ id ∈ b.database.tables.ids ∨ id = row.id := by
    intro id
    rw [hdatabase]
    exact Database.mem_ids_step_insertDevice hreliable
  have hwanted := wanted_insert hids
  have hdatabaseReliable : b'.database.Reliable := by
    rw [hdatabase]
    exact Database.reliable_step hreliable _
  have hnulFree : ∀ id ∈ b'.database.tables.ids, id.NulFree := by
    intro id hmem
    rcases (hids id).mp hmem with hmem | rfl
    · exact hb.nulFree id hmem
    · exact hid
  by_cases honline : b.mqtt.connected = true
  · -- Online, the new topics reach both sides.
    obtain ⟨hmqttReliable, -, htable, hheld⟩ :=
      MqttClient.subscribeEach_of_online (deviceTopics row.id) hb.mqttReliable honline
    rw [map_cStr_deviceTopics hid] at hheld
    rw [if_pos honline] at hmqtt
    rw [← hmqtt] at hmqttReliable htable hheld
    exact tracked_of_monotone hb (Set.union_subset_union_left _) hdatabaseReliable hmqttReliable
      hnulFree htable hheld hwanted
  · -- Offline, there are no new topics, or `SubscribeAll` is still to come.
    rw [if_neg honline] at hmqtt
    -- The two sides stay as they are while the store grows.
    have hgrows : b.wanted ⊆ b'.wanted := by
      rw [hwanted]
      exact Set.subset_union_left
    refine ⟨hdatabaseReliable, by rw [hmqtt]; exact hb.mqttReliable, hnulFree, ?_, ?_,
      fun hall => ?_⟩
    · rw [hmqtt]
      exact hb.table_subset.trans hgrows
    · rw [hmqtt]
      exact hb.held_subset.trans hgrows
    · -- With `SubscribeAll` behind us, the id was stored before, so nothing new is wanted.
      have hstored : row.id ∈ b.database.tables.ids :=
        (hguard.resolve_left honline).resolve_right (not_not_intro hall)
      have hsame : b'.wanted = b.wanted := by
        rw [hwanted, Set.union_eq_left]
        exact fun topic htopic => ⟨row.id, hstored, htopic⟩
      rw [hsame, hmqtt]
      exact hb.wanted_subset hall

/-- Removing a device online, or one whose topics neither side has. -/
private lemma tracked_unregister {b' : Backend} {deviceId : StdString}
    (hb : Tracked subscribedAll b) (hid : deviceId.NulFree)
    (hguard : b.mqtt.connected = true ∨
      ∀ topic ∈ topicsOf deviceId, topic ∉ b.mqtt.table ∧ topic ∉ b.mqtt.held)
    (hdatabase : b'.database = ((b.database.tick 1).step (.deleteDevice deviceId)).2)
    (hmqtt : b'.mqtt =
      if b.mqtt.connected then b.mqtt.unsubscribeEach (deviceTopics deviceId) else b.mqtt) :
    Tracked subscribedAll b' := by
  have hreliable := Database.reliable_tick hb.databaseReliable 1
  have hids : ∀ id, id ∈ b'.database.tables.ids ↔ id ∈ b.database.tables.ids ∧ id ≠ deviceId := by
    intro id
    rw [hdatabase]
    exact Database.mem_ids_step_deleteDevice hreliable
  have hwanted := wanted_delete hids
  have hdatabaseReliable : b'.database.Reliable := by
    rw [hdatabase]
    exact Database.reliable_step hreliable _
  have hnulFree : ∀ id ∈ b'.database.tables.ids, id.NulFree := fun id hmem =>
    hb.nulFree id ((hids id).mp hmem).1
  by_cases honline : b.mqtt.connected = true
  · -- Online, the topics leave both sides.
    obtain ⟨hmqttReliable, -, htable, hheld⟩ :=
      MqttClient.unsubscribeEach_of_online (deviceTopics deviceId) hb.mqttReliable honline
    rw [map_cStr_deviceTopics hid] at hheld
    rw [if_pos honline] at hmqtt
    rw [← hmqtt] at hmqttReliable htable hheld
    exact tracked_of_monotone hb Set.sdiff_subset_sdiff_left hdatabaseReliable hmqttReliable
      hnulFree htable hheld hwanted
  · -- Offline, neither side had them.
    have habsent := hguard.resolve_left honline
    rw [if_neg honline] at hmqtt
    -- The two sides stay as they are while the store shrinks.
    have hshrinks : b'.wanted ⊆ b.wanted := by
      rw [hwanted]
      exact Set.sdiff_subset
    refine ⟨hdatabaseReliable, by rw [hmqtt]; exact hb.mqttReliable, hnulFree, ?_, ?_,
      fun hall => ?_⟩
    · rw [hmqtt, hwanted]
      exact fun topic htopic => ⟨hb.table_subset htopic, fun h => (habsent topic h).1 htopic⟩
    · rw [hmqtt, hwanted]
      exact fun topic htopic => ⟨hb.held_subset htopic, fun h => (habsent topic h).2 htopic⟩
    · rw [hmqtt]
      exact ⟨hshrinks.trans (hb.wanted_subset hall).1, hshrinks.trans (hb.wanted_subset hall).2⟩

/-- The topics of wanted devices are NUL-free. -/
private lemma nulFree_of_mem_wanted (hb : Tracked subscribedAll b) :
    ∀ topic ∈ b.wanted, topic.NulFree := by
  rintro topic ⟨id, hid, htopic⟩
  exact nulFree_of_mem_topicsOf (hb.nulFree id hid) htopic

/-- The topics that `SubscribeAll` goes through are the wanted ones. -/
private lemma topics_of_rows (hb : Tracked subscribedAll b) :
    { topic | topic ∈ (((selectDevices b.database.tables).map
        SqliteDeviceRepository.rowToDevice).flatMap fun d => deviceTopics d.id).map Prod.fst } =
      b.wanted := by
  have hrows : ∀ row, row ∈ selectDevices b.database.tables ↔ row ∈ b.database.tables.devices :=
    fun row => List.mem_mergeSort
  -- Ids are read back as C strings, which is harmless for NUL-free ids.
  have hid : ∀ row ∈ b.database.tables.devices,
      (SqliteDeviceRepository.rowToDevice row).id = row.id := fun row hrow =>
    cStr_eq_self (hb.nulFree _ (List.mem_map_of_mem hrow))
  ext topic
  constructor
  · intro h
    obtain ⟨entry, hentry, rfl⟩ := List.mem_map.mp h
    obtain ⟨device, hdevice, hentry⟩ := List.mem_flatMap.mp hentry
    obtain ⟨row, hrow, rfl⟩ := List.mem_map.mp hdevice
    rw [hrows] at hrow
    rw [hid row hrow] at hentry
    exact ⟨row.id, List.mem_map_of_mem hrow, List.mem_map_of_mem hentry⟩
  · rintro ⟨id, hstored, htopic⟩
    obtain ⟨row, hrow, rfl⟩ := List.mem_map.mp hstored
    obtain ⟨entry, hentry, rfl⟩ := List.mem_map.mp htopic
    refine List.mem_map_of_mem (List.mem_flatMap.mpr
      ⟨_, List.mem_map_of_mem ((hrows row).mpr hrow), ?_⟩)
    rw [hid row hrow]
    exact hentry

/-- `SubscribeAll` online, or when every wanted topic is subscribed already. -/
private lemma tracked_subscribeAll {b' : Backend} {topics : List (StdString × QoS)} {n m : ℕ}
    (hb : Tracked subscribedAll b)
    (hguard : b.mqtt.connected = true ∨
      ∀ topic ∈ b.wanted, topic ∈ b.mqtt.table ∧ topic ∈ b.mqtt.held)
    (htopics : { topic | topic ∈ topics.map Prod.fst } = b.wanted)
    (hdatabase : b'.database = (b.database.tick n).tick m)
    (hmqtt : b'.mqtt = b.mqtt.subscribeEach topics) : Tracked True b' := by
  -- The statement reads the tables only.
  have htables : b'.database.tables = b.database.tables := by rw [hdatabase]; rfl
  have hwanted : b'.wanted = b.wanted := by rw [wanted, wanted, htables]
  have hdatabaseReliable : b'.database.Reliable := by
    rw [hdatabase]
    exact Database.reliable_tick (Database.reliable_tick hb.databaseReliable n) m
  have hnulFree : ∀ id ∈ b'.database.tables.ids, id.NulFree := by
    rw [htables]
    exact hb.nulFree
  by_cases honline : b.mqtt.connected = true
  · obtain ⟨hmqttReliable, -, htable, hheld⟩ :=
      MqttClient.subscribeEach_of_online topics hb.mqttReliable honline
    have himage : { topic | topic ∈ topics.map (·.1.cStr) } = b.wanted := by
      rw [← image_cStr_eq_self (nulFree_of_mem_wanted hb), ← htopics]
      ext topic
      simp
    rw [← hmqtt] at hmqttReliable htable hheld
    -- Both sides held wanted topics only, so adding all the wanted ones gives exactly these.
    rw [htopics, Set.union_eq_right.mpr hb.table_subset] at htable
    rw [himage, Set.union_eq_right.mpr hb.held_subset] at hheld
    refine ⟨hdatabaseReliable, hmqttReliable, hnulFree, ?_, ?_, fun _ => ⟨?_, ?_⟩⟩
    · exact (htable.trans hwanted.symm).subset
    · exact (hheld.trans hwanted.symm).subset
    · exact (htable.trans hwanted.symm).superset
    · exact (hheld.trans hwanted.symm).superset
  · -- Offline every call is refused, but there is nothing left to subscribe to.
    have hsubscribed := hguard.resolve_left honline
    rw [MqttClient.subscribeEach_of_offline topics honline] at hmqtt
    refine ⟨hdatabaseReliable, by rw [hmqtt]; exact hb.mqttReliable, hnulFree, ?_, ?_,
      fun _ => ⟨?_, ?_⟩⟩ <;> rw [hmqtt, hwanted]
    · exact hb.table_subset
    · exact hb.held_subset
    · exact fun topic htopic => (hsubscribed topic htopic).1
    · exact fun topic htopic => (hsubscribed topic htopic).2

/-- The return of the connection. -/
private lemma tracked_reconnected (hb : Tracked subscribedAll b) :
    Tracked subscribedAll { b with mqtt := b.mqtt.reconnect } := by
  obtain ⟨hreliable, -, htable, hheld⟩ := MqttClient.reconnect_spec hb.mqttReliable
  -- The table holds topics of stored devices, so Paho sees them uncut.
  have hnulFree : ∀ topic ∈ b.mqtt.table, topic.NulFree := fun topic htopic =>
    nulFree_of_mem_wanted hb topic (hb.table_subset htopic)
  rw [image_cStr_eq_self hnulFree] at hheld
  refine ⟨hb.databaseReliable, hreliable, hb.nulFree, ?_, ?_, fun hall => ⟨?_, ?_⟩⟩
  · exact htable.subset.trans hb.table_subset
  · -- What the broker kept of an earlier session is wanted too.
    rw [hheld]
    refine Set.union_subset ?_ hb.table_subset
    split
    · exact Set.empty_subset _
    · exact hb.held_subset
  · exact (hb.wanted_subset hall).1.trans htable.superset
  · rw [hheld]
    exact (hb.wanted_subset hall).1.trans Set.subset_union_right

/-- What one call preserves. -/
theorem tracked_step {tr : BackendTrace} {b : Backend} {call : BackendCall}
    (hb : Tracked (SubscribedAll tr) b) (hguard : KeepsTrack tr b call) :
    Tracked (SubscribedAll (tr ++ [(call, (b.step call).1)])) (b.step call).2 := by
  have happend : SubscribedAll (tr ++ [(call, (b.step call).1)]) ↔
      SubscribedAll tr ∨ call = .subscribeAll := by
    simp [SubscribedAll, exists_or, eq_comm (a := call)]
  rw [happend]
  -- Only `SubscribeAll` changes whether it has run; the other calls keep what holds for the tables.
  cases call with
  | register now req =>
    have hstep := congrArg Prod.snd (run_register now req (hb.databaseReliable 0))
    simp only [reduceCtorEq, or_false]
    exact tracked_register hb hguard.1 hguard.2 (congrArg Backend.database hstep)
      (congrArg Backend.mqtt hstep)
  | unregister deviceId =>
    have hstep := congrArg Prod.snd (run_unregister deviceId (hb.databaseReliable 0))
    simp only [reduceCtorEq, or_false]
    exact tracked_unregister hb hguard.1 hguard.2 (congrArg Backend.database hstep)
      (congrArg Backend.mqtt hstep)
  | subscribeAll =>
    have hstep := congrArg Prod.snd (run_subscribeAll hb.databaseReliable)
    simp only [or_true]
    exact tracked_subscribeAll hb hguard (topics_of_rows hb) (congrArg Backend.database hstep)
      (congrArg Backend.mqtt hstep)
  | connectionLost =>
    -- Neither the store nor a side changes, only the flag.
    simp only [reduceCtorEq, or_false]
    exact ⟨hb.databaseReliable, hb.mqttReliable, hb.nulFree, hb.table_subset, hb.held_subset,
      hb.wanted_subset⟩
  | reconnected =>
    simp only [reduceCtorEq, or_false]
    exact tracked_reconnected hb

end Step

/-! ## Runs -/

variable {tr : BackendTrace} {b b₀ : Backend}

/-- The runs from a backend. -/
abbrev Run (guard : BackendTrace → Backend → BackendCall → Prop) (b₀ : Backend) :
    BackendTrace → Backend → Prop :=
  Mealy.Run step guard b₀

/-- The invariant holds at the end of every run. -/
theorem tracked_of_run (hinitial : b₀.Initial) (hrun : Run KeepsTrack b₀ tr b) :
    Tracked (SubscribedAll tr) b := by
  refine hrun.historyInvariant (P := fun tr b => Tracked (SubscribedAll tr) b) ?_ ?_
  · have hnone : ¬ SubscribedAll [] := by simp [SubscribedAll]
    exact ⟨hinitial.databaseReliable, hinitial.mqttReliable, hinitial.nulFree,
      by simp [hinitial.table_eq], hinitial.held_subset, fun hall => absurd hall hnone⟩
  · intro tr b call hb hguard
    exact tracked_step hb hguard

/-- From the initial `SubscribeAll` on, the client's table and the broker's session hold exactly the
topics of the stored devices. -/
theorem subscriptions_eq_wanted (hinitial : b₀.Initial) (hrun : Run KeepsTrack b₀ tr b)
    (hall : SubscribedAll tr) : b.mqtt.table = b.wanted ∧ b.mqtt.held = b.wanted := by
  have hb := tracked_of_run hinitial hrun
  exact ⟨hb.table_subset.antisymm (hb.wanted_subset hall).1,
    hb.held_subset.antisymm (hb.wanted_subset hall).2⟩

/-- The registration of a device. -/
def sampleRequest : RegisterDeviceRequest :=
  ⟨lit "d-1", lit "Thermometer", lit "sensor", lit "mqtt", []⟩

/-- Nothing is stored and nothing is subscribed. -/
theorem initial_empty : Initial {} :=
  ⟨fun _ => rfl, fun _ => rfl, by simp [Tables.ids, Tables.empty], by simp [MqttClient.table],
    by simp [MqttClient.held]⟩

/-- A client that is online over an empty store. -/
def onlineBackend : Backend := { mqtt := { connected := true } }

/-- Connecting and subscribing to everything, with nothing stored. -/
private lemma run_onlineBackend (guard : BackendTrace → Backend → BackendCall → Prop)
    (hconnect : guard [] {} .reconnected)
    (hsubscribe : guard [(.reconnected, .none)] onlineBackend .subscribeAll) :
    Run guard {} [(.reconnected, .none), (.subscribeAll, .done (.ok (.ok ())))] onlineBackend := by
  have hstart : Run guard {} [] {} := .nil
  have hconnected : Run guard {} [(.reconnected, .none)] onlineBackend :=
    hstart.snoc BackendCall.reconnected hconnect
  have hstep : onlineBackend.step .subscribeAll = (.done (.ok (.ok ())), onlineBackend) := by
    have hrows : selectDevices onlineBackend.database.tables = [] := List.mergeSort_nil
    rw [step, run_subscribeAll fun _ => rfl, hrows]
    rfl
  have hall := hconnected.snoc BackendCall.subscribeAll hsubscribe
  rw [hstep] at hall
  exact hall

/-- Connecting, subscribing to everything and registering a device. -/
theorem subscriptions_eq_wanted_sample :
    ∃ tr b, Run KeepsTrack {} tr b ∧ lit "d-1" ∈ b.database.tables.ids ∧
      b.mqtt.table = b.wanted ∧ b.mqtt.held = b.wanted := by
  have hrun := (run_onlineBackend KeepsTrack trivial (.inl rfl)).snoc
    (BackendCall.register 0 sampleRequest) ⟨by decide, .inl rfl⟩
  refine ⟨_, _, hrun, by decide +kernel, subscriptions_eq_wanted initial_empty hrun ?_⟩
  exact ⟨.done (.ok (.ok ())), by simp⟩

/-- A device registered while the client was offline has no subscription after the reconnect. -/
theorem offline_registration_not_subscribed :
    ¬ ∀ b₀ tr b, Initial b₀ → Run Mealy.anyInput b₀ tr b → b.mqtt.connected = true →
      SubscribedAll tr → b.mqtt.table = b.wanted ∧ b.mqtt.held = b.wanted := by
  intro htracked
  have hlost := (run_onlineBackend Mealy.anyInput trivial trivial).snoc
    BackendCall.connectionLost trivial
  have hregistered := hlost.snoc (BackendCall.register 0 sampleRequest) trivial
  have hrun := hregistered.snoc BackendCall.reconnected trivial
  obtain ⟨htable, -⟩ := htracked {} _ _ initial_empty hrun rfl
    ⟨.done (.ok (.ok ())), by simp⟩
  -- The topic is wanted, but the table is still empty.
  have hwanted := Set.ext_iff.mp htable (deviceTopic (lit "d-1") "status")
  have hsubscribed := hwanted.mpr ⟨lit "d-1", by decide +kernel, List.mem_cons_self⟩
  rw [MqttClient.table, Set.mem_ofPred_eq] at hsubscribed
  exact absurd hsubscribed (by decide +kernel)

end Backend

end IotDashboard
