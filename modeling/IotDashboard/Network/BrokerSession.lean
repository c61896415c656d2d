import IotDashboard.Foundation.Mealy
import IotDashboard.Network.MqttClient

/-!
# The client's table and the broker's session

Without a clean session the broker keeps what a client is subscribed to while the client is away.
`MqttClient` keeps a table of its own and hands it to the broker again in `OnConnected`. An
`Unsubscribe` that does not reach the broker is forgotten by the table only, and `OnConnected`
takes nothing away from the broker.

## Main definitions

* `MqttClient.step`: a call, a loss of the connection, or a new connection;
* `MqttClient.Agrees`: the broker's session is the table, and the table is what the calls say.

## Main results

* `MqttClient.agrees_iff`: at every point of a run the two agree while the client is connected and
  once it is connected again, exactly when nothing is left behind by the calls of the run.
-/

namespace IotDashboard

open StdString

/-- What happens to a client. -/
inductive MqttInput where
  | subscribe (topic : StdString) (qos : QoS)
  | unsubscribe (topic : StdString)
  | connectionLost
  /-- A connection is opened, and `OnConnected` runs. -/
  | connected
deriving DecidableEq

namespace MqttClient

/-- One call or event, with the result of the call. -/
def step (c : MqttClient) : MqttInput → Option (Result Unit) × MqttClient
  | .subscribe topic qos => (some (c.subscribe topic qos).1, (c.subscribe topic qos).2)
  | .unsubscribe topic => (some (c.unsubscribe topic).1, (c.unsubscribe topic).2)
  | .connectionLost => (none, c.onConnectionLost)
  | .connected => (none, c.reconnect)

/-- A recorded history, oldest first. -/
abbrev Trace := List (MqttInput × Option (Result Unit))

/-- A new client that does not ask for a clean session; the library and the broker's session are
as they may be. -/
def start (paho : Paho) : MqttClient := { paho }

/-- What a successful call says about a topic. -/
def effect? : MqttInput × Option (Result Unit) → Option (StdString × Option QoS)
  | (.subscribe topic qos, some (.ok ())) => some (topic, some qos)
  | (.unsubscribe topic, some (.ok ())) => some (topic, none)
  | _ => none

/-- The quality of service of the last successful call about a topic, if that was `Subscribe`. -/
def requested (tr : Trace) (topic : StdString) : Option QoS :=
  ((tr.filterMap effect?).mostRecent topic).join

/-- The table holds the topics whose last successful call was `Subscribe`, and the broker holds
the table. -/
structure Agrees (tr : Trace) (c : MqttClient) : Prop where
  table : ∀ topic, c.subscriptions.lookup topic = requested tr topic
  session : ∀ topic, c.paho.session.lookup topic = c.subscriptions.lookup topic

/-- Table and session agree while the client is connected, and will when `OnConnected` runs the
next time. -/
structure AgreesOnceConnected (tr : Trace) (c : MqttClient) : Prop where
  now : c.connected = true → c.Agrees tr
  next : c.reconnect.Agrees tr

/-- The client is connected, and the library will not refuse its call. -/
def Reaches (c : MqttClient) : Prop := c.connected = true ∧ c.paho.refusals 0 = false

instance (c : MqttClient) : Decidable c.Reaches := inferInstanceAs (Decidable (_ ∧ _))

/-- The call leaves nothing behind: a new topic holds no NUL byte, and a topic of the table is
taken away from the broker as well, and no other. -/
def LeavesNothing (c : MqttClient) : MqttInput → Prop
  | .subscribe topic _ => c.Reaches → topic.NulFree
  | .unsubscribe topic =>
    if c.Reaches then topic.NulFree ∨ topic.cStr ∉ c.paho.session else topic ∉ c.subscriptions
  | .connectionLost | .connected => True

variable {c : MqttClient} {tr : Trace} {topic : StdString} {qos : QoS}

/-! ## What one call does -/

private theorem subscribe_of_reaches (h : c.Reaches) (topic : StdString) (qos : QoS) :
    c.subscribe topic qos = (.ok (), { c with
      subscriptions := c.subscriptions.insert topic qos
      paho := { c.paho.tick with session := c.paho.session.insert topic.cStr qos } }) := by
  rw [subscribe, if_neg (not_not.mpr h.1), Paho.subscribe, h.2]
  rfl

/-- A call that does not get through changes neither side. -/
theorem subscribe_of_not_reaches (h : ¬ c.Reaches) (topic : StdString) (qos : QoS) :
    ∃ e paho, c.subscribe topic qos = (.error e, { c with paho }) ∧
      paho.session = c.paho.session := by
  by_cases hconnected : c.connected = true
  · have hrefused : c.paho.refusals 0 = true := by
      rw [← Bool.not_eq_false]
      exact fun hrefusal => h ⟨hconnected, hrefusal⟩
    refine ⟨.mqttError, c.paho.tick, ?_, rfl⟩
    rw [subscribe, if_neg (not_not.mpr hconnected), Paho.subscribe, hrefused]
    rfl
  · exact ⟨.connectionFailed, c.paho, by rw [subscribe, if_pos hconnected], rfl⟩

private theorem unsubscribe_of_reaches (h : c.Reaches) (topic : StdString) :
    c.unsubscribe topic = (.ok (), { c with
      subscriptions := c.subscriptions.erase topic
      paho := { c.paho.tick with session := c.paho.session.erase topic.cStr } }) := by
  rw [unsubscribe, Paho.unsubscribe, h.1, h.2]
  rfl

/-- The table forgets the topic in any case. -/
theorem unsubscribe_of_not_reaches (h : ¬ c.Reaches) (topic : StdString) :
    c.unsubscribe topic = (.ok (), { c with
      subscriptions := c.subscriptions.erase topic, paho := c.paho.tick }) := by
  have hrefused : (c.paho.refusals 0 || !c.connected) = true := by
    rw [Bool.or_eq_true, Bool.not_eq_true']
    by_contra hnone
    rw [not_or, Bool.not_eq_true, Bool.not_eq_false] at hnone
    exact h ⟨hnone.2, hnone.1⟩
  rw [unsubscribe, Paho.unsubscribe, hrefused]
  rfl

private theorem reconnect_of_keepsSession (h : c.cleanSession = false) :
    c.reconnect = { c with
      connected := true, paho := resubscribe c.paho c.subscriptions.entries } := by
  rw [reconnect, if_neg (by simp [h])]
  rfl

private theorem lookup_erase_of_notMem {subscriptions : Subscriptions} (h : topic ∉ subscriptions)
    (t : StdString) : (subscriptions.erase topic).lookup t = subscriptions.lookup t := by
  by_cases ht : t = topic
  · rw [ht, AList.lookup_erase, AList.lookup_eq_none.mpr h]
  · exact AList.lookup_erase_ne ht

/-! ## Subscribing again -/

section Resubscribe

variable {p : Paho} {entries : List (Sigma fun _ : StdString => QoS)}

/-- What the broker holds already is not changed by handing it over again. -/
theorem lookup_session_resubscribe
    (h : ∀ e ∈ entries, p.session.lookup e.1.cStr = some e.2) (topic : StdString) :
    (resubscribe p entries).session.lookup topic = p.session.lookup topic := by
  induction entries generalizing p with
  | nil => rfl
  | cons entry entries ih =>
    -- The call is refused, or writes what is there.
    have hsame : ∀ t, (p.subscribe entry.1 entry.2).2.session.lookup t = p.session.lookup t := by
      intro t
      rw [Paho.subscribe]
      split
      · rfl
      · by_cases ht : t = entry.1.cStr
        · rw [ht, AList.lookup_insert, h entry List.mem_cons_self]
        · exact AList.lookup_insert_ne ht
    refine (ih fun e he => ?_).trans (hsame topic)
    rw [hsame]
    exact h e (List.mem_cons_of_mem _ he)

/-- Nothing that the broker holds is taken away. -/
theorem mem_session_resubscribe_of_mem (h : topic ∈ p.session) :
    topic ∈ (resubscribe p entries).session := by
  induction entries generalizing p with
  | nil => exact h
  | cons entry entries ih =>
    refine ih ?_
    show topic ∈ (p.subscribe entry.1 entry.2).2.session
    rw [Paho.subscribe]
    split
    · exact h
    · exact (AList.mem_insert _).mpr (.inr h)

end Resubscribe

/-! ## Agreement -/

private theorem requested_snoc (tr : Trace) (entry : MqttInput × Option (Result Unit))
    (topic : StdString) :
    requested (tr ++ [entry]) topic =
      match effect? entry with
      | some (written, qos) => if topic = written then qos else requested tr topic
      | none => requested tr topic := by
  rw [requested, List.filterMap_append]
  cases heffect : effect? entry with
  | none => simp [heffect, requested]
  | some write =>
    obtain ⟨written, qos⟩ := write
    rw [List.filterMap_cons_some heffect, List.filterMap_nil, List.mostRecent_snoc]
    dsimp only
    split
    · rfl
    · rfl

/-- The invariant: table and session agree, and can be told apart by their texts. -/
structure Synced (tr : Trace) (c : MqttClient) : Prop extends c.Agrees tr where
  cleanSession : c.cleanSession = false
  nulFree : ∀ topic ∈ c.subscriptions, topic.NulFree

/-- The table follows the successful calls, whatever becomes of them. -/
theorem requested_step (h : ∀ topic, c.subscriptions.lookup topic = requested tr topic)
    (i : MqttInput) (topic : StdString) :
    (c.step i).2.subscriptions.lookup topic = requested (tr ++ [(i, (c.step i).1)]) topic := by
  rw [requested_snoc]
  cases i with
  | subscribe topic' qos =>
    by_cases hreaches : c.Reaches
    · rw [step, subscribe_of_reaches hreaches]
      simp only [effect?]
      by_cases ht : topic = topic'
      · rw [if_pos ht, ht, AList.lookup_insert]
      · rw [if_neg ht, AList.lookup_insert_ne ht, h]
    · obtain ⟨e, paho, hcall, -⟩ := subscribe_of_not_reaches hreaches topic' qos
      rw [step, hcall]
      exact h topic
  | unsubscribe topic' =>
    have hcall : c.unsubscribe topic' = (.ok (), (c.unsubscribe topic').2) := rfl
    have htable : (c.unsubscribe topic').2.subscriptions = c.subscriptions.erase topic' := rfl
    rw [step, hcall, htable]
    simp only [effect?]
    by_cases ht : topic = topic'
    · rw [if_pos ht, ht, AList.lookup_erase]
    · rw [if_neg ht, AList.lookup_erase_ne ht, h]
  | connectionLost => exact h topic
  | connected =>
    have htable : c.reconnect.subscriptions = c.subscriptions := by
      rw [reconnect]
      split <;> rfl
    rw [step, htable]
    exact h topic

/-- The broker is handed what it holds already. -/
theorem Synced.reconnect (h : c.Synced tr) :
    c.reconnect.Agrees tr ∧ c.reconnect.cleanSession = false ∧
      c.reconnect.subscriptions = c.subscriptions := by
  rw [reconnect_of_keepsSession h.cleanSession]
  refine ⟨⟨h.table, fun topic => ?_⟩, h.cleanSession, rfl⟩
  refine (lookup_session_resubscribe (fun e he => ?_) topic).trans (h.session topic)
  have hmem : e.1 ∈ c.subscriptions := AList.mem_keys.mpr (List.mem_map_of_mem he)
  rw [cStr_eq_self (h.nulFree _ hmem), h.session]
  exact AList.mem_lookup_iff.mpr he

private theorem Synced.agreesOnceConnected (h : c.Synced tr) : c.AgreesOnceConnected tr :=
  ⟨fun _ => h.toAgrees, h.reconnect.1⟩

/-- From agreement, a call that leaves nothing behind keeps it. -/
theorem Synced.step (h : c.Synced tr) {i : MqttInput} (hi : c.LeavesNothing i) :
    Synced (tr ++ [(i, (c.step i).1)]) (c.step i).2 := by
  have htable := requested_step h.table i
  cases i with
  | subscribe topic qos =>
    by_cases hreaches : c.Reaches
    · have hnul := hi hreaches
      rw [MqttClient.step, subscribe_of_reaches hreaches] at htable ⊢
      refine ⟨⟨htable, fun t => ?_⟩, h.cleanSession, fun t ht => ?_⟩
      · show AList.lookup t (c.paho.session.insert topic.cStr qos) =
          AList.lookup t (c.subscriptions.insert topic qos)
        rw [cStr_eq_self hnul]
        by_cases ht : t = topic
        · rw [ht, AList.lookup_insert, AList.lookup_insert]
        · rw [AList.lookup_insert_ne ht, AList.lookup_insert_ne ht, h.session]
      · rcases (AList.mem_insert _).mp ht with rfl | ht
        · exact hnul
        · exact h.nulFree t ht
    · obtain ⟨e, paho, hcall, hsession⟩ := subscribe_of_not_reaches hreaches topic qos
      rw [MqttClient.step, hcall] at htable ⊢
      refine ⟨⟨htable, fun t => ?_⟩, h.cleanSession, h.nulFree⟩
      show paho.session.lookup t = _
      rw [hsession]
      exact h.session t
  | unsubscribe topic =>
    have hnulFree : ∀ t ∈ c.subscriptions.erase topic, t.NulFree := fun t ht =>
      h.nulFree t (AList.mem_erase.mp ht).2
    by_cases hreaches : c.Reaches
    · rw [LeavesNothing, if_pos hreaches] at hi
      rw [MqttClient.step, unsubscribe_of_reaches hreaches] at htable ⊢
      refine ⟨⟨htable, fun t => ?_⟩, h.cleanSession, hnulFree⟩
      show AList.lookup t (c.paho.session.erase topic.cStr) =
        AList.lookup t (c.subscriptions.erase topic)
      by_cases hnul : topic.NulFree
      · rw [cStr_eq_self hnul]
        by_cases ht : t = topic
        · rw [ht, AList.lookup_erase, AList.lookup_erase]
        · rw [AList.lookup_erase_ne ht, AList.lookup_erase_ne ht, h.session]
      · -- Neither side holds what is taken away from it.
        have hother : topic.cStr ∉ c.paho.session := hi.resolve_left hnul
        have hnone : topic ∉ c.subscriptions := fun hmem => hnul (h.nulFree topic hmem)
        rw [lookup_erase_of_notMem hother, lookup_erase_of_notMem hnone, h.session]
    · rw [LeavesNothing, if_neg hreaches] at hi
      rw [MqttClient.step, unsubscribe_of_not_reaches hreaches] at htable ⊢
      refine ⟨⟨htable, fun t => ?_⟩, h.cleanSession, hnulFree⟩
      show c.paho.session.lookup t = AList.lookup t (c.subscriptions.erase topic)
      rw [lookup_erase_of_notMem hi, h.session]
  | connectionLost => exact ⟨⟨htable, h.session⟩, h.cleanSession, h.nulFree⟩
  | connected =>
    obtain ⟨hagrees, hclean, hsubscriptions⟩ := h.reconnect
    exact ⟨⟨htable, hagrees.session⟩, hclean, fun t ht => h.nulFree t (hsubscriptions ▸ ht)⟩

/-- What is left behind on one side stays there when `OnConnected` runs. -/
theorem not_agrees_reconnect (hclean : c.cleanSession = false) (hsession : topic ∈ c.paho.session)
    (htable : topic ∉ c.subscriptions) : ¬ c.reconnect.Agrees tr := by
  rw [reconnect_of_keepsSession hclean]
  intro h
  have hmem : topic ∈ (resubscribe c.paho c.subscriptions.entries).session :=
    mem_session_resubscribe_of_mem hsession
  have hsame := h.session topic
  rw [← AList.lookup_isSome, hsame, AList.lookup_isSome] at hmem
  exact htable hmem

/-- From agreement, the next point agrees exactly when the call leaves nothing behind. -/
theorem Synced.agreesOnceConnected_step_iff (h : c.Synced tr) (i : MqttInput) :
    AgreesOnceConnected (tr ++ [(i, (c.step i).1)]) (c.step i).2 ↔ c.LeavesNothing i := by
  refine ⟨fun hagrees => ?_, fun hi => (h.step hi).agreesOnceConnected⟩
  have hmem {t : StdString} : t ∈ c.paho.session ↔ t ∈ c.subscriptions := by
    rw [← AList.lookup_isSome, h.session, AList.lookup_isSome]
  cases i with
  | subscribe topic qos =>
    intro hreaches
    rw [MqttClient.step, subscribe_of_reaches hreaches] at hagrees
    have hsession : AList.lookup topic (c.paho.session.insert topic.cStr qos) =
        AList.lookup topic (c.subscriptions.insert topic qos) :=
      (hagrees.now hreaches.1).session topic
    by_contra hnul
    -- The broker gets the text before the first NUL byte, so it would have held the topic before.
    have hne : topic ≠ topic.cStr := fun heq => hnul (cStr_eq_self_iff.mp heq.symm)
    rw [AList.lookup_insert, AList.lookup_insert_ne hne] at hsession
    exact hnul (h.nulFree topic (hmem.mp (AList.lookup_isSome.mp (by simp [hsession]))))
  | unsubscribe topic =>
    by_cases hreaches : c.Reaches
    · rw [LeavesNothing, if_pos hreaches]
      rw [MqttClient.step, unsubscribe_of_reaches hreaches] at hagrees
      have hsession : AList.lookup topic.cStr (c.paho.session.erase topic.cStr) =
          AList.lookup topic.cStr (c.subscriptions.erase topic) :=
        (hagrees.now hreaches.1).session topic.cStr
      refine or_iff_not_imp_left.mpr fun hnul hheld => ?_
      -- Another topic was taken away from the broker.
      have hne : topic.cStr ≠ topic := fun heq => hnul (cStr_eq_self_iff.mp heq)
      rw [AList.lookup_erase, AList.lookup_erase_ne hne, ← h.session] at hsession
      exact AList.lookup_eq_none.mp hsession.symm hheld
    · rw [LeavesNothing, if_neg hreaches]
      rw [MqttClient.step, unsubscribe_of_not_reaches hreaches] at hagrees
      intro hin
      have hgone : topic ∉ c.subscriptions.erase topic := fun herased =>
        (AList.mem_erase.mp herased).1 rfl
      exact not_agrees_reconnect
        (c := { c with subscriptions := c.subscriptions.erase topic, paho := c.paho.tick })
        h.cleanSession (hmem.mpr hin) hgone hagrees.next
  | connectionLost => trivial
  | connected => trivial

private theorem synced_start {paho : Paho} (hempty : paho.session = ∅) :
    (start paho).Synced [] where
  table _ := AList.lookup_empty _
  session topic := by
    show paho.session.lookup topic = _
    rw [hempty]
    rfl
  cleanSession := rfl
  nulFree topic h := absurd h (AList.notMem_empty topic)

variable {paho : Paho}

/-- As long as every point so far agreed, the invariant holds. -/
theorem synced_of_throughout (hempty : paho.session = ∅)
    (hrun : Mealy.Run step Mealy.anyInput (start paho) tr c)
    (h : Mealy.Throughout step Mealy.anyInput (start paho) AgreesOnceConnected tr) :
    c.Synced tr := by
  induction hrun with
  | nil => exact synced_start hempty
  | snoc i hrun hany ih =>
    rw [Mealy.throughout_snoc hrun hany] at h
    have hsynced := ih h.1
    exact hsynced.step ((hsynced.agreesOnceConnected_step_iff i).mp h.2)

/-- At every point of a run table and session agree while the client is connected, and will once it
is connected again, exactly when the broker held nothing at the start and every call leaves nothing
behind. -/
theorem agrees_iff (hrun : Mealy.Run step Mealy.anyInput (start paho) tr c) :
    Mealy.Throughout step Mealy.anyInput (start paho) AgreesOnceConnected tr ↔
      paho.session = ∅ ∧ tr.EachAfter fun past entry => ∀ c',
        Mealy.Run step Mealy.anyInput (start paho) past c' → c'.LeavesNothing entry.1 := by
  by_cases hempty : paho.session = ∅
  · rw [and_iff_right hempty]
    refine hrun.iff_eachAfter
      (P := fun tr _ => Mealy.Throughout step Mealy.anyInput (start paho) AgreesOnceConnected tr)
      (C := fun _ c i => c.LeavesNothing i) ?_ fun tr c i hrun hany => ?_
    · exact Mealy.throughout_nil.mpr (synced_start hempty).agreesOnceConnected
    · rw [Mealy.throughout_snoc hrun hany]
      exact and_congr_right fun h =>
        (synced_of_throughout hempty hrun h).agreesOnceConnected_step_iff i
  · refine iff_of_false (fun h => hempty ?_) fun h => hempty h.1
    -- Before the first call the table is empty.
    have hstart : AgreesOnceConnected [] (start paho) := h [] tr (start paho) rfl .nil
    refine AList.ext (List.eq_nil_iff_forall_not_mem.mpr fun e he => ?_)
    have hheld : e.1 ∈ (start paho).paho.session := AList.mem_keys.mpr (List.mem_map_of_mem he)
    exact not_agrees_reconnect rfl hheld (AList.notMem_empty _) hstart.next

/-- A topic that is subscribed to, given up and asked for again, with a loss in between. -/
def changedMind : List MqttInput :=
  [.connected, .subscribe (lit "sensors") .atLeastOnce, .unsubscribe (lit "sensors"),
    .connectionLost, .connected, .subscribe (lit "sensors") .exactlyOnce]

theorem agrees_iff_changedMind :
    let tr := (Mealy.exec step (start {}) changedMind).1
    Mealy.Throughout step Mealy.anyInput (start {}) AgreesOnceConnected tr ↔
      ({} : Paho).session = ∅ ∧ tr.EachAfter fun past entry => ∀ c',
        Mealy.Run step Mealy.anyInput (start {}) past c' → c'.LeavesNothing entry.1 :=
  agrees_iff (Mealy.Run.exec (Mealy.allowed_anyInput changedMind))

/-- A topic that is given up while the connection is lost. -/
def givenUpOffline : List MqttInput :=
  [.connected, .subscribe (lit "devices/d-1/status") .atLeastOnce, .connectionLost,
    .unsubscribe (lit "devices/d-1/status"), .connected]

/-- The client is connected again, its table is empty, and the broker still has the topic. -/
theorem not_agrees_givenUpOffline :
    let r := Mealy.exec step (start {}) givenUpOffline
    Mealy.Run step Mealy.anyInput (start {}) r.1 r.2 ∧ r.2.connected = true ∧
      r.2.subscriptions.lookup (lit "devices/d-1/status") = none ∧
      r.2.paho.session.lookup (lit "devices/d-1/status") = some .atLeastOnce ∧
      ¬ r.2.Agrees r.1 := by
  refine ⟨Mealy.Run.exec (Mealy.allowed_anyInput _), rfl, by decide, by decide, fun h => ?_⟩
  have hsame := h.session (lit "devices/d-1/status")
  exact absurd hsame (by decide)

end MqttClient

end IotDashboard
