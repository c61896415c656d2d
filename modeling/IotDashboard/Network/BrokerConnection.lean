import IotDashboard.Foundation.Mealy
import IotDashboard.Network.MqttClient

/-!
# Opening the connection to the broker

`MqttClient::Connect` waits on one pair of flags, which `OnConnectSuccess` and `OnConnectFailure`
set; the flag that the other calls ask is set by `OnConnected`. The library invokes the callbacks
one after the other on a thread of its own. For a connection that comes about after a call of
`MQTTAsync_connect` it invokes both `OnConnectSuccess` and `OnConnected`, in either order, and for
one that it opens again by itself `OnConnected` only. A call that timed out leaves its attempt
under way.

## Main results

* `BrokerConnection.connected_iff_online`: what the client's own flag says, in terms of the
  callbacks that were invoked.
-/

namespace IotDashboard

open StdString

/-- The callbacks that concern the connection. -/
inductive PahoCallback where
  | onConnected
  | onConnectionLost
  | onConnectSuccess
  | onConnectFailure
deriving DecidableEq

/-- How far the call of `Connect` is. -/
inductive ConnectCall where
  /-- No call is being made. -/
  | none
  /-- The two flags are reset, and the call of the library is next. -/
  | starting
  /-- In `m_cv.wait_for`. -/
  | waiting
deriving DecidableEq

/-- The client, the helpers of its `Connect`, and the library. -/
structure BrokerConnection where
  client : MqttClient := {}
  connectDone : Bool := false
  connectSuccess : Bool := false
  call : ConnectCall := .none
  /-- The calls of `MQTTAsync_connect` that the broker has not answered. -/
  attempts : ℕ := 0
  /-- The callbacks that the library is going to invoke, in order. -/
  callbacks : List PahoCallback := []

/-- What can happen next. -/
inductive BrokerInput where
  /-- `Connect` is called and resets its flags. -/
  | connect
  /-- It calls `MQTTAsync_connect`, which takes the attempt on or not. -/
  | attempt (taken : Bool)
  /-- The wait ends because the attempt is done. -/
  | wake
  /-- The wait ends because of its time limit. -/
  | timeout
  | disconnect
  | subscribe (topic : StdString) (qos : QoS)
  /-- The broker answers an attempt; `successFirst` is the order of the two callbacks. -/
  | accepted (successFirst : Bool)
  | refused
  /-- The library opens the connection again. -/
  | reopened
  | lost
  /-- The library invokes the next callback. -/
  | callback
deriving DecidableEq

/-- What a step shows. -/
inductive BrokerEvent where
  /-- `Connect` returns. -/
  | returned (result : Result Unit)
  | disconnected
  | subscribed (result : Result Unit)
  | invoked (callback : PahoCallback)

/-- What an event says about the connection that `Connect` reported. -/
def BrokerEvent.success : BrokerEvent → Option Bool
  | .returned (.ok ()) => some true
  | .disconnected | .invoked .onConnectionLost => some false
  | _ => none

/-- What an event says about the calls of `OnConnected`. -/
def BrokerEvent.online : BrokerEvent → Option Bool
  | .invoked .onConnected => some true
  | .disconnected | .invoked .onConnectionLost => some false
  | _ => none

/-- `Disconnect`; its call of the library comes back before the connection is closed. -/
def MqttClient.disconnect (c : MqttClient) : MqttClient :=
  if ¬ c.connected then c else { c with connected := false }

/-- The broker's side of a new connection. -/
def MqttClient.brokerOpens (c : MqttClient) : MqttClient :=
  if c.cleanSession then { c with paho := { c.paho with session := ∅ } } else c

@[simp]
theorem MqttClient.connected_disconnect {c : MqttClient} : c.disconnect.connected = false := by
  cases h : c.connected <;> simp [disconnect, h]

private theorem MqttClient.connected_subscribe {c : MqttClient} (topic : StdString) (qos : QoS) :
    (c.subscribe topic qos).2.connected = c.connected := by
  rw [subscribe]
  split
  · rfl
  · split <;> rfl

private theorem MqttClient.connected_brokerOpens {c : MqttClient} :
    c.brokerOpens.connected = c.connected := by
  rw [brokerOpens]
  split <;> rfl

namespace BrokerConnection

/-- `Connect` returns. -/
def returns (b : BrokerConnection) (result : Result Unit) :
    Option BrokerEvent × BrokerConnection :=
  (some (.returned result), { b with call := .none })

/-- The body of a callback. -/
def invoke (b : BrokerConnection) : PahoCallback → BrokerConnection
  | .onConnected => { b with client := b.client.onConnected }
  | .onConnectionLost => { b with client := b.client.onConnectionLost }
  | .onConnectSuccess => { b with connectDone := true, connectSuccess := true }
  | .onConnectFailure => { b with connectDone := true, connectSuccess := false }

/-- One step of the caller, of the network or of the library's thread. -/
def step (b : BrokerConnection) : BrokerInput → Option BrokerEvent × BrokerConnection
  | .connect => (none, { b with connectDone := false, connectSuccess := false, call := .starting })
  | .attempt true => (none, { b with call := .waiting, attempts := b.attempts + 1 })
  | .attempt false => b.returns (.error .connectionFailed)
  | .wake => b.returns (if b.connectSuccess then .ok () else .error .connectionFailed)
  | .timeout => b.returns (.error .timeout)
  | .disconnect => (some .disconnected, { b with client := b.client.disconnect })
  | .subscribe topic qos =>
    (some (.subscribed (b.client.subscribe topic qos).1),
      { b with client := (b.client.subscribe topic qos).2 })
  | .accepted successFirst => (none, { b with
      client := b.client.brokerOpens
      attempts := b.attempts - 1
      callbacks := b.callbacks ++ if successFirst then [.onConnectSuccess, .onConnected]
        else [.onConnected, .onConnectSuccess] })
  -- A refused attempt is never followed by `OnConnected`.
  | .refused => (none, { b with
      attempts := b.attempts - 1, callbacks := b.callbacks ++ [.onConnectFailure] })
  | .reopened => (none, { b with
      client := b.client.brokerOpens, callbacks := b.callbacks ++ [.onConnected] })
  | .lost => (none, { b with callbacks := b.callbacks ++ [.onConnectionLost] })
  | .callback =>
    match b.callbacks with
    | [] => (none, b)
    | cb :: rest => (some (.invoked cb), { b.invoke cb with callbacks := rest })

/-- The history of a connection. -/
abbrev Trace := List (BrokerInput × Option BrokerEvent)

/-- The steps that are possible. One thread calls `Connect`; the other calls may come at any
time. -/
def Possible (_ : Trace) (b : BrokerConnection) : BrokerInput → Prop
  | .connect => b.call = .none
  | .attempt _ => b.call = .starting
  | .wake => b.call = .waiting ∧ b.connectDone = true
  | .timeout => b.call = .waiting ∧ b.connectDone = false
  | .accepted _ | .refused => b.attempts ≠ 0
  | .callback => b.callbacks ≠ []
  | .disconnect | .subscribe .. | .reopened | .lost => True

instance decidablePossible (tr : Trace) (b : BrokerConnection) :
    ∀ i, Decidable (Possible tr b i)
  | .connect | .attempt _ | .callback => by unfold Possible; infer_instance
  | .wake | .timeout => by unfold Possible; infer_instance
  | .accepted _ | .refused => by unfold Possible; infer_instance
  | .disconnect | .subscribe .. | .reopened | .lost => isTrue trivial

/-- A new client; the broker and the library behind it are as they may be. -/
def start (cleanSession : Bool) (paho : Paho) : BrokerConnection where
  client := { cleanSession, paho }

/-! ## What the history says -/

/-- The last event that decides a question, by the answer it gives. -/
def decided (answer : BrokerEvent → Option Bool) (tr : Trace) : Option Bool :=
  (tr.filterMap fun entry => entry.2.bind answer).getLast?

/-- The last answer decides. -/
theorem decided_snoc (answer : BrokerEvent → Option Bool) (tr : Trace)
    (entry : BrokerInput × Option BrokerEvent) :
    decided answer (tr ++ [entry]) = (entry.2.bind answer).or (decided answer tr) := by
  rw [decided, List.filterMap_append]
  rcases h : entry.2.bind answer with _ | b <;> simp [h, decided]

/-- `Connect` returned success, and since then the connection was neither lost nor given up. -/
def Succeeded (tr : Trace) : Prop := decided BrokerEvent.success tr = some true

/-- `OnConnected` was invoked, and since then neither `OnConnectionLost` nor `Disconnect`. -/
def Online (tr : Trace) : Prop := decided BrokerEvent.online tr = some true

instance decidableSucceeded (tr : Trace) : Decidable (Succeeded tr) :=
  inferInstanceAs (Decidable (_ = _))

instance decidableOnline (tr : Trace) : Decidable (Online tr) :=
  inferInstanceAs (Decidable (_ = _))

/-- The client's flag after one step: an event decides it or leaves it as it was. -/
theorem connected_step {tr : Trace} {b : BrokerConnection} {i : BrokerInput}
    (hpossible : Possible tr b i) :
    (b.step i).2.client.connected =
      (((b.step i).1.bind BrokerEvent.online).getD b.client.connected) := by
  cases i with
  | attempt taken => cases taken <;> rfl
  | wake => cases h : b.connectSuccess <;> simp [step, returns, h, BrokerEvent.online]
  | disconnect => simp [step, BrokerEvent.online]
  | subscribe topic qos => exact MqttClient.connected_subscribe topic qos
  | accepted successFirst => exact MqttClient.connected_brokerOpens
  | reopened => exact MqttClient.connected_brokerOpens
  | callback =>
    obtain ⟨cb, rest, hcallbacks⟩ := List.exists_cons_of_ne_nil hpossible
    cases cb <;> simp only [step, hcallbacks] <;> rfl
  | connect | timeout | refused | lost => rfl

/-- The client's flag is set exactly when `OnConnected` was invoked and neither a loss nor a
call of `Disconnect` came after it. -/
theorem connected_iff_online {cleanSession : Bool} {paho : Paho} {tr : Trace}
    {b : BrokerConnection} (hrun : Mealy.Run step Possible (start cleanSession paho) tr b) :
    b.client.connected = true ↔ Online tr := by
  have hflag : b.client.connected = (decided BrokerEvent.online tr).getD false := by
    -- Stated as an equation, so that a step that decides nothing carries it over.
    refine hrun.historyInvariant
      (P := fun tr b => b.client.connected = (decided BrokerEvent.online tr).getD false) rfl ?_
    intro tr b i ih hpossible
    rw [connected_step hpossible, decided_snoc, ih]
    rcases (b.step i).1.bind BrokerEvent.online with _ | answer <;> rfl
  rw [hflag, Online]
  rcases decided BrokerEvent.online tr with _ | answer <;> simp

end BrokerConnection

end IotDashboard
