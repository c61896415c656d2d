import IotDashboard.Api.PubSub

/-!
# The table of topics

`Unsubscribe` removes the entry of a topic with its last id; `OnSessionDisconnected` leaves an
entry without ids behind, and `Subscribe` does not ask whether the id belongs to a connected
session.

## Main definitions

* `WsServer.TopicTable`: the entries are not empty and hold ids of connected sessions only;
* `WsServer.KeepsTable`: the steps that keep it so.

## Main results

* `WsServer.topicTable_iff`: all states of a run are so exactly when all steps are of that kind.
-/

namespace IotDashboard

open StdString

namespace WsServer

/-- Every entry has ids, and every id is that of a connected session. -/
structure TopicTable (s : WsServer) : Prop where
  nonempty : ∀ topic ids, s.topics.lookup topic = some ids → ids.keys ≠ []
  connected : ∀ topic ids, s.topics.lookup topic = some ids → ∀ id ∈ ids, id ∈ s.sessions
  empty : s.sessions.keys = [] → s.topics.keys = []

/-- A subscription is for a connected session, and a session that is disconnected is not the only
one in the entry of a topic. -/
def KeepsTable (V : Vendor) (s : WsServer) : WsInput → Prop
  | .call (.subscribe id _) => id ∈ s.sessions
  | .completion id (.read (.text payload)) =>
    (∃ topic, .subscribe id topic ∈ webSocketHandler V ⟨id, payload⟩) → id ∈ s.sessions
  | .completion id (.read .closed) =>
    ∀ topic ids, s.topics.lookup topic = some ids → ids.keys ≠ [id]
  | .completion id (.read .error) =>
    ∀ topic ids, s.topics.lookup topic = some ids → ids.keys ≠ [id]
  | .completion id (.write _ false) =>
    ∀ topic ids, s.topics.lookup topic = some ids → ids.keys ≠ [id]
  | _ => True

variable {V : Vendor} {tr : Trace} {s s' : WsServer} {id : ConnectionId} {topic : StdString}
  {i : WsInput}

/-- With nobody connected an entry would have no ids. -/
theorem TopicTable.of_entries
    (hnonempty : ∀ topic ids, s.topics.lookup topic = some ids → ids.keys ≠ [])
    (hconnected : ∀ topic ids, s.topics.lookup topic = some ids → ∀ id ∈ ids, id ∈ s.sessions) :
    s.TopicTable := by
  refine ⟨hnonempty, hconnected, fun hnone => ?_⟩
  rw [List.eq_nil_iff_forall_not_mem]
  intro topic htopic
  obtain ⟨ids, hids⟩ := Option.isSome_iff_exists.mp (AList.lookup_isSome.mpr htopic)
  obtain ⟨id, hid⟩ := List.exists_mem_of_ne_nil _ (hnonempty topic ids hids)
  have hsession : id ∈ s.sessions.keys := hconnected topic ids hids id hid
  rw [hnone] at hsession
  exact List.not_mem_nil hsession

private theorem topicTable_init : TopicTable {} :=
  .of_entries (fun topic ids h => by simp at h) fun topic ids h => by simp at h

/-- More sessions do no harm. -/
theorem TopicTable.mono (h : s.TopicTable) (htopics : s'.topics = s.topics)
    (hsessions : ∀ id ∈ s.sessions, id ∈ s'.sessions) : s'.TopicTable := by
  refine .of_entries ?_ ?_
  · rw [htopics]
    exact h.nonempty
  · rw [htopics]
    exact fun topic ids hids id hid => hsessions id (h.connected topic ids hids id hid)

private theorem topicTable_subscribe_iff (h : s.TopicTable) :
    (s.subscribe id topic).TopicTable ↔ id ∈ s.sessions := by
  have hself : (s.subscribe id topic).topics.lookup topic =
      some (((s.topics.lookup topic).getD ∅).insert id ()) := AList.lookup_insert _
  have hother {t : StdString} (ht : t ≠ topic) :
      (s.subscribe id topic).topics.lookup t = s.topics.lookup t := AList.lookup_insert_ne ht
  constructor
  -- The new id is in the entry, so it has to be connected.
  · exact fun hnext => hnext.connected topic _ hself id ((AList.mem_insert _).mpr (.inl rfl))
  · intro hid
    refine .of_entries ?_ ?_
    · intro t ids hids
      by_cases ht : t = topic
      · subst ht
        obtain rfl := Option.some.inj (hself.symm.trans hids)
        rw [AList.keys_insert]
        exact List.cons_ne_nil _ _
      · exact h.nonempty t ids ((hother ht).symm.trans hids)
    · intro t ids hids c hc
      by_cases ht : t = topic
      · subst ht
        obtain rfl := Option.some.inj (hself.symm.trans hids)
        -- The ids of the entry are the new one and those that were there.
        rcases (AList.mem_insert _).mp hc with rfl | hc
        · exact hid
        · rcases hold : s.topics.lookup t with _ | old
          · rw [hold] at hc
            exact absurd hc (AList.notMem_empty c)
          · rw [hold] at hc
            exact h.connected t old hold c hc
      · exact h.connected t ids ((hother ht).symm.trans hids) c hc

/-- Unsubscribing keeps the table in order. -/
theorem TopicTable.unsubscribe (h : s.TopicTable) (id : ConnectionId) (topic : StdString) :
    (s.unsubscribe id topic).TopicTable := by
  rw [WsServer.unsubscribe]
  rcases hids : s.topics.lookup topic with _ | ids
  · exact h
  · dsimp only
    split
    -- The last id goes, and the entry with it; the other entries are as before.
    next =>
      refine .of_entries (fun t ids' ht => ?_) fun t ids' ht => ?_
      all_goals
        have hne : t ≠ topic := by
          rintro rfl
          rw [AList.lookup_erase] at ht
          exact Option.some_ne_none _ ht.symm
        rw [AList.lookup_erase_ne hne] at ht
      · exact h.nonempty t ids' ht
      · exact h.connected t ids' ht
    next hnonempty =>
      refine .of_entries (fun t ids' ht => ?_) fun t ids' ht c hc => ?_
      all_goals by_cases hne : t = topic
      · subst hne
        rw [AList.lookup_insert] at ht
        obtain rfl := Option.some.inj ht
        exact fun hnil => hnonempty (List.isEmpty_iff.mpr hnil)
      · rw [AList.lookup_insert_ne hne] at ht
        exact h.nonempty t ids' ht
      · subst hne
        rw [AList.lookup_insert] at ht
        obtain rfl := Option.some.inj ht
        exact h.connected t ids hids c (AList.mem_erase.mp hc).2
      · rw [AList.lookup_insert_ne hne] at ht
        exact h.connected t ids' ht c hc

/-- The entry of a topic whose only session leaves stays, without ids. -/
theorem topicTable_onSessionDisconnected_iff (h : s.TopicTable) :
    (s.onSessionDisconnected id).2.TopicTable ↔
      ∀ topic ids, s.topics.lookup topic = some ids → ids.keys ≠ [id] := by
  have hlookup (t : StdString) : (s.onSessionDisconnected id).2.topics.lookup t =
      (s.topics.lookup t).map fun ids => ids.erase id := AList.lookup_mapValues _ _ t
  constructor
  -- An entry with the leaving id only is left with no ids.
  · intro hnext topic ids hids hone
    refine hnext.nonempty topic (ids.erase id) ?_ ?_
    · rw [hlookup, hids]
      rfl
    · rw [AList.keys_erase, hone, List.erase_cons_head]
  · intro hkeep
    refine .of_entries ?_ ?_
    all_goals
      intro t ids' ht
      rw [hlookup] at ht
      obtain ⟨ids, hids, rfl⟩ := Option.map_eq_some_iff.mp ht
    · rw [AList.keys_erase, ne_eq, List.erase_eq_nil_iff, not_or]
      exact ⟨h.nonempty t ids hids, hkeep t ids hids⟩
    · intro c hc
      obtain ⟨hne, hc⟩ := AList.mem_erase.mp hc
      exact AList.mem_erase.mpr ⟨hne, h.connected t ids hids c hc⟩

private theorem topicTable_apply_iff (h : s.TopicTable) (op : WsOperation) :
    (s.apply op).TopicTable ↔ KeepsTable V s (.call op) := by
  have hkeep (hop : op.change = none) : (s.apply op).TopicTable :=
    h.mono (topics_apply_of_change hop) fun id hid => by rwa [sessions_apply]
  cases op with
  | send id message => exact iff_of_true (hkeep rfl) trivial
  | broadcast message => exact iff_of_true (hkeep rfl) trivial
  | broadcastToTopic topic message => exact iff_of_true (hkeep rfl) trivial
  | subscribe id topic => exact topicTable_subscribe_iff h
  | unsubscribe id topic => exact iff_of_true (h.unsubscribe id topic) trivial

private theorem topicTable_text_iff (h : s.TopicTable) (id : ConnectionId) (payload : StdString) :
    ((webSocketHandler V ⟨id, payload⟩).foldl apply s).TopicTable ↔
      KeepsTable V s (.completion id (.read (.text payload))) := by
  rw [KeepsTable]
  obtain hops | ⟨topic, hops⟩ | ⟨topic, hops⟩ | ⟨message, hops⟩ :=
    webSocketHandler_cases V ⟨id, payload⟩
  · rw [hops]
    exact iff_of_true h fun ⟨topic, hmem⟩ => absurd hmem List.not_mem_nil
  -- The handler makes one call.
  all_goals
    rw [hops, List.foldl_cons, List.foldl_nil, topicTable_apply_iff (V := V) h]
    simp [KeepsTable]

private theorem topicTable_step_iff (h : s.TopicTable) (i : WsInput) :
    (s.step (webSocketHandler V) i).2.TopicTable ↔ KeepsTable V s i := by
  have hsame (s' : WsServer) (htopics : s'.topics = s.topics)
      (hsessions : s'.sessions = s.sessions) :
      s'.TopicTable := h.mono htopics fun id hid => by rwa [hsessions]
  have hfinished (op : WsSession.Operation) (id : ConnectionId) :
      (s.modifySession id (.finish op)).TopicTable := hsame _ rfl rfl
  rcases i with _ | ⟨id, (_ | _) | (_ | _ | payload | _) | _ | ⟨message, _ | _⟩⟩ | op
  · exact iff_of_true (hsame _ rfl rfl) trivial
  · exact iff_of_true (hsame _ rfl rfl) trivial
  -- A handshake that succeeds adds a session.
  · refine iff_of_true (h.mono rfl fun c hc => ?_) trivial
    exact (AList.mem_insert _).mpr (.inr hc)
  · exact topicTable_onSessionDisconnected_iff (hfinished .read id)
  · exact topicTable_onSessionDisconnected_iff (hfinished .read id)
  -- After the calls the session reads again, which is not the table's business.
  · have htext := topicTable_text_iff (V := V) (hfinished .read id) id payload
    refine Iff.trans ⟨fun hnext => ?_, fun hnext => ?_⟩ htext
    · exact hnext.mono rfl fun _ hc => hc
    · exact hnext.mono rfl fun _ hc => hc
  · exact iff_of_true (hsame _ rfl rfl) trivial
  · exact iff_of_true (hsame _ rfl rfl) trivial
  · exact topicTable_onSessionDisconnected_iff (hfinished (.write message) id)
  · exact iff_of_true (hsame _ rfl rfl) trivial
  · exact topicTable_apply_iff h op

/-- In all states of a run the table is as it should be exactly when every step, in the state it
was taken in, subscribes a connected session only and disconnects none that a topic has as its
only one. -/
theorem topicTable_iff (hrun : Mealy.Run (step (webSocketHandler V)) Possible {} tr s) :
    Mealy.Always (step (webSocketHandler V)) Possible {} TopicTable tr ↔
      tr.EachAfter fun past entry => ∀ s',
        Mealy.Run (step (webSocketHandler V)) Possible {} past s' → KeepsTable V s' entry.1 :=
  hrun.always_iff topicTable_init fun _ i h => topicTable_step_iff h i

/-- Two clients are connected, and the first one subscribes to a topic. -/
def twoClients : List WsInput :=
  [.socket, .completion 1 (.accept true), .socket, .completion 2 (.accept true),
    .call (.subscribe 1 (lit "alerts"))]

theorem topicTable_iff_twoClients :
    let step := step (webSocketHandler Vendor.reference)
    let tr := (Mealy.exec step {} twoClients).1
    Mealy.Always step Possible {} TopicTable tr ↔
      tr.EachAfter fun past entry => ∀ s',
        Mealy.Run step Possible {} past s' → KeepsTable Vendor.reference s' entry.1 :=
  topicTable_iff (Mealy.Run.exec (show Mealy.Allowed _ _ _ _ twoClients by decide))

/-- A client subscribes and goes. -/
def leavingClient : List WsInput :=
  [.socket, .completion 1 (.accept true), .call (.subscribe 1 (lit "alerts")),
    .completion 1 (.read .closed)]

/-- Nobody is connected, and the topic still has an entry; a subscription that comes after the
disconnect files the id of a session that is gone. -/
theorem not_topicTable_leavingClient :
    let step := step (webSocketHandler Vendor.reference)
    let r := Mealy.exec step {} leavingClient
    let r' := Mealy.exec step {} (leavingClient ++ [.call (.subscribe 1 (lit "alerts"))])
    Mealy.Run step Possible {} r.1 r.2 ∧ Mealy.Run step Possible {} r'.1 r'.2 ∧
      r.2.sessions.keys = [] ∧ r.2.topics.keys = [lit "alerts"] ∧ ¬ r.2.TopicTable ∧
      r'.2.Subscribed 1 (lit "alerts") ∧ 1 ∉ r'.2.sessions ∧ ¬ r'.2.TopicTable := by
  refine ⟨Mealy.Run.exec (by decide), Mealy.Run.exec (by decide), rfl, rfl, fun h => ?_,
    by decide, by decide, fun h => ?_⟩
  · exact List.cons_ne_nil _ _ (h.empty rfl)
  · exact List.cons_ne_nil _ _ (h.empty rfl)

end WsServer

end IotDashboard
