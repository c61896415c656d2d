import IotDashboard.Common.Error
import IotDashboard.Foundation.StdString
import Mathlib.Data.List.AList

/-!
# MQTT client

`MqttClient` over the Paho library: `subscriptions` is the table the client keeps in order to
subscribe again after a reconnect, and `Paho.session` is what the broker holds for this client.
The two differ while the client is offline, and without `cleanSession` the broker's side survives
a connection. Topics reach Paho as C strings.

## Main results

* `MqttClient.subscribeEach_of_online` and `MqttClient.unsubscribeEach_of_online`: online, both
  sides change alike;
* `MqttClient.reconnect_spec`: after a reconnect the broker holds the table, and without
  `cleanSession` also what it held before.
-/

namespace IotDashboard

open StdString

/-- `core::QoS`. -/
inductive QoS where
  | atMostOnce
  | atLeastOnce
  | exactlyOnce
deriving DecidableEq, Repr

/-- A set of topic filters, each with a quality of service. -/
abbrev Subscriptions := AList (fun _ : StdString => QoS)

/-- A published message. -/
structure MqttMessage where
  topic : StdString
  payload : StdString
  qos : QoS
  retain : Bool
deriving DecidableEq

/-- The library and the broker behind it: the broker's session of this client, the messages handed
over, and which of the coming calls are refused. -/
structure Paho where
  session : Subscriptions := ∅
  sent : List MqttMessage := []
  refusals : ℕ → Bool := fun _ => false

/-- `MqttClient`. -/
structure MqttClient where
  cleanSession : Bool := false
  connected : Bool := false
  subscriptions : Subscriptions := ∅
  paho : Paho := {}

namespace Paho

variable (p : Paho)

/-- The library after one call that can be refused. -/
def tick : Paho := { p with refusals := fun i => p.refusals (i + 1) }

/-- `MQTTAsync_subscribe` on an open connection: whether it returns `MQTTASYNC_SUCCESS`. -/
def subscribe (topic : StdString) (qos : QoS) : Bool × Paho :=
  if p.refusals 0 then (false, p.tick)
  else (true, { p.tick with session := p.session.insert topic.cStr qos })

/-- `MQTTAsync_unsubscribe`, which reaches the broker only on an open connection. -/
def unsubscribe (online : Bool) (topic : StdString) : Paho :=
  if p.refusals 0 || !online then p.tick
  else { p.tick with session := p.session.erase topic.cStr }

/-- `MQTTAsync_sendMessage` on an open connection. -/
def sendMessage (topic payload : StdString) (qos : QoS) (retain : Bool) : Bool × Paho :=
  if p.refusals 0 then (false, p.tick)
  else (true, { p.tick with sent := p.sent ++ [⟨topic.cStr, payload, qos, retain⟩] })

end Paho

namespace MqttClient

variable (c : MqttClient)

/-- `Subscribe`. -/
def subscribe (topic : StdString) (qos : QoS) : Result Unit × MqttClient :=
  if ¬ c.connected then (.error .connectionFailed, c)
  else
    match c.paho.subscribe topic qos with
    -- A refused call leaves the table alone.
    | (false, paho) => (.error .mqttError, { c with paho })
    | (true, paho) =>
      (.ok (), { c with paho, subscriptions := c.subscriptions.insert topic qos })

/-- `Unsubscribe`. -/
def unsubscribe (topic : StdString) : Result Unit × MqttClient :=
  -- The result of the call is dropped, and the flag is not asked.
  (.ok (), { c with
    paho := c.paho.unsubscribe c.connected topic
    subscriptions := c.subscriptions.erase topic })

/-- `Publish`. -/
def publish (topic payload : StdString) (qos : QoS) (retain : Bool) : Result Unit × MqttClient :=
  if ¬ c.connected then (.error .connectionFailed, c)
  else
    match c.paho.sendMessage topic payload qos retain with
    | (false, paho) => (.error .mqttError, { c with paho })
    | (true, paho) => (.ok (), { c with paho })

/-- The loop of `ResubscribeAll`, which drops the results of the calls. -/
def resubscribe (paho : Paho) (table : List (Sigma fun _ : StdString => QoS)) : Paho :=
  table.foldl (fun paho entry => (paho.subscribe entry.1 entry.2).2) paho

/-- `ResubscribeAll`. -/
def resubscribeAll : MqttClient :=
  { c with paho := resubscribe c.paho c.subscriptions.entries }

/-- `OnConnected`. -/
def onConnected : MqttClient := { c with connected := true }.resubscribeAll

/-- `OnConnectionLost`. -/
def onConnectionLost : MqttClient := { c with connected := false }

/-- The broker opens a connection, starting over if the client asked for a clean session, and Paho
calls `OnConnected`. -/
def reconnect : MqttClient :=
  onConnected (if c.cleanSession then { c with paho := { c.paho with session := ∅ } } else c)

/-- Several `Subscribe` calls whose results are dropped. -/
def subscribeEach (topics : List (StdString × QoS)) : MqttClient :=
  topics.foldl (fun c topic => (c.subscribe topic.1 topic.2).2) c

/-- Several `Unsubscribe` calls whose results are dropped. -/
def unsubscribeEach (topics : List (StdString × QoS)) : MqttClient :=
  topics.foldl (fun c topic => (c.unsubscribe topic.1).2) c

/-! ## What the operations do to the two sides -/

/-- No call of the library is refused. -/
def Reliable : Prop := ∀ i, c.paho.refusals i = false

variable {c} {topic other : StdString} {qos : QoS}

/-- What a subscription that is not refused changes. -/
theorem subscribe_of_online (topic : StdString) (qos : QoS) (hreliable : c.Reliable)
    (h : c.connected = true) :
    (c.subscribe topic qos).2 = { c with
      subscriptions := c.subscriptions.insert topic qos
      paho := { c.paho.tick with session := c.paho.session.insert topic.cStr qos } } := by
  simp [subscribe, Paho.subscribe, h, hreliable 0]

/-- What the end of a subscription changes on an open connection. -/
theorem unsubscribe_of_online (topic : StdString) (hreliable : c.Reliable)
    (h : c.connected = true) :
    (c.unsubscribe topic).2 = { c with
      subscriptions := c.subscriptions.erase topic
      paho := { c.paho.tick with session := c.paho.session.erase topic.cStr } } := by
  simp [unsubscribe, Paho.unsubscribe, h, hreliable 0]

/-- The topics of the client's own table. -/
def table (c : MqttClient) : Set StdString := { topic | topic ∈ c.subscriptions }

/-- The topics that the broker holds for the client. -/
def held (c : MqttClient) : Set StdString := { topic | topic ∈ c.paho.session }

/-- Subscriptions on an open connection reach both sides. -/
theorem subscribeEach_of_online (topics : List (StdString × QoS)) (hreliable : c.Reliable)
    (h : c.connected = true) :
    (c.subscribeEach topics).Reliable ∧ (c.subscribeEach topics).connected = true ∧
      (c.subscribeEach topics).table = c.table ∪ { topic | topic ∈ topics.map Prod.fst } ∧
      (c.subscribeEach topics).held = c.held ∪ { topic | topic ∈ topics.map (·.1.cStr) } := by
  -- The client stays online and reliable, so the induction hypothesis applies to what is left.
  induction topics generalizing c with
  | nil => simp [subscribeEach, hreliable, h]
  | cons topic topics ih =>
    have hnext := subscribe_of_online topic.1 topic.2 hreliable h
    obtain ⟨ihreliable, ihconnected, ihtable, ihheld⟩ := ih (c := (c.subscribe topic.1 topic.2).2)
      (by rw [hnext]; exact fun i => hreliable (i + 1)) (by rw [hnext]; exact h)
    refine ⟨ihreliable, ihconnected, ihtable.trans ?_, ihheld.trans ?_⟩
    · ext t
      rw [hnext]
      simp [table, or_assoc, or_left_comm]
    · ext t
      rw [hnext]
      simp [held, or_assoc, or_left_comm]

/-- Offline, subscriptions are refused and change nothing. -/
theorem subscribeEach_of_offline (topics : List (StdString × QoS)) (h : ¬ c.connected = true) :
    c.subscribeEach topics = c := by
  have hrefused : ∀ topic qos, (c.subscribe topic qos).2 = c := by
    intro topic qos
    rw [subscribe, if_pos h]
  induction topics with
  | nil => rfl
  | cons topic topics ih =>
    rw [subscribeEach, List.foldl_cons, hrefused]
    exact ih

/-- The end of subscriptions on an open connection reaches both sides. -/
theorem unsubscribeEach_of_online (topics : List (StdString × QoS)) (hreliable : c.Reliable)
    (h : c.connected = true) :
    (c.unsubscribeEach topics).Reliable ∧ (c.unsubscribeEach topics).connected = true ∧
      (c.unsubscribeEach topics).table = c.table \ { topic | topic ∈ topics.map Prod.fst } ∧
      (c.unsubscribeEach topics).held = c.held \ { topic | topic ∈ topics.map (·.1.cStr) } := by
  -- As for subscribing; a later topic may well be equal to an earlier one.
  induction topics generalizing c with
  | nil => simp [unsubscribeEach, hreliable, h]
  | cons topic topics ih =>
    have hnext := unsubscribe_of_online topic.1 hreliable h
    obtain ⟨ihreliable, ihconnected, ihtable, ihheld⟩ := ih (c := (c.unsubscribe topic.1).2)
      (by rw [hnext]; exact fun i => hreliable (i + 1)) (by rw [hnext]; exact h)
    refine ⟨ihreliable, ihconnected, ihtable.trans ?_, ihheld.trans ?_⟩
    · ext t
      rw [hnext]
      simp [table]
      tauto
    · ext t
      rw [hnext]
      simp [held]
      tauto

/-- What `ResubscribeAll` makes of the broker's side. -/
theorem mem_session_resubscribe {p : Paho} (hreliable : ∀ i, p.refusals i = false)
    (entries : List (Sigma fun _ : StdString => QoS)) :
    (∀ i, (resubscribe p entries).refusals i = false) ∧
      ∀ t, t ∈ (resubscribe p entries).session ↔
        t ∈ p.session ∨ t ∈ entries.map (·.1.cStr) := by
  induction entries generalizing p with
  | nil => simp [resubscribe, hreliable]
  | cons entry entries ih =>
    have hnext : (p.subscribe entry.1 entry.2).2 =
        { p.tick with session := p.session.insert entry.1.cStr entry.2 } := by
      simp [Paho.subscribe, hreliable 0]
    obtain ⟨ihreliable, ihsession⟩ := ih (p := (p.subscribe entry.1 entry.2).2)
      (by rw [hnext]; exact fun i => hreliable (i + 1))
    refine ⟨ihreliable, fun t => (ihsession t).trans ?_⟩
    rw [hnext]
    simp [or_assoc, or_left_comm]

/-- The topics that `ResubscribeAll` goes through are those of the table. -/
theorem mem_map_entries_iff {t : StdString} :
    t ∈ c.subscriptions.entries.map (·.1.cStr) ↔ t ∈ cStr '' c.table := by
  have hkeys : c.subscriptions.entries.map (·.1.cStr) = c.subscriptions.keys.map cStr := by
    simp [AList.keys, List.keys]
  rw [hkeys, List.mem_map]
  exact Iff.rfl

/-- After a reconnect the broker holds the client's table, and besides it what an earlier session
left behind. -/
theorem reconnect_spec (hreliable : c.Reliable) :
    c.reconnect.Reliable ∧ c.reconnect.connected = true ∧ c.reconnect.table = c.table ∧
      c.reconnect.held = (if c.cleanSession then ∅ else c.held) ∪ cStr '' c.table := by
  by_cases hclean : c.cleanSession = true
  · -- The broker starts from nothing.
    obtain ⟨hcalls, hsession⟩ := mem_session_resubscribe (p := { c.paho with session := ∅ })
      hreliable c.subscriptions.entries
    rw [reconnect, if_pos hclean, if_pos hclean]
    refine ⟨hcalls, rfl, rfl, Set.ext fun t => (hsession t).trans ?_⟩
    rw [mem_map_entries_iff]
    simp
  · -- The broker resumes the session that it kept.
    obtain ⟨hcalls, hsession⟩ := mem_session_resubscribe (p := c.paho)
      hreliable c.subscriptions.entries
    rw [reconnect, if_neg hclean, if_neg hclean]
    refine ⟨hcalls, rfl, rfl, Set.ext fun t => (hsession t).trans ?_⟩
    rw [mem_map_entries_iff]
    rfl

end MqttClient

end IotDashboard
