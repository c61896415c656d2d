import IotDashboard.Common.Vendor
import IotDashboard.Foundation.Stateful
import IotDashboard.Network.SessionLifecycle

/-!
# Publishing and subscribing

`WireWebSocketHandlers` turns the text messages of the clients into calls of the server. Whatever
happened before, the table of topics and the table of sessions agree with a relation that knows
neither tables nor callbacks: a connected session receives a topic when the most recent call or text
that was about the topic asked for a subscription. What a text asks for is told by its bytes.

## Main definitions

* `webSocketHandler`: the installed message callback;
* `subscriptionRequest`: what a text asks for;
* `WsServer.changes`: the subscriptions and cancellations of a history, as the callback makes them;
* `WsServer.requests`: those that the calls and the texts of a history ask for.

## Main results

* `webSocketHandler_eq`: the callback does what a text asks for;
* `WsServer.subscribed_iff_mostRecent`: the table of topics;
* `WsServer.delivery_refines`: who receives what.
-/

namespace IotDashboard

open StdString

/-- The calls that a message asks for. -/
def webSocketRequest (V : Vendor) (msg : WsMessage) : Except JsonException (List WsOperation) := do
  let j ← V.parse msg.payload
  let type ← j.value Json.getString (lit "type") []
  -- An empty topic is ignored.
  if type = lit "subscribe" then
    let topic ← j.value Json.getString (lit "topic") []
    return if ¬ topic.isEmpty then [.subscribe msg.connectionId topic] else []
  else if type = lit "unsubscribe" then
    let topic ← j.value Json.getString (lit "topic") []
    return if ¬ topic.isEmpty then [.unsubscribe msg.connectionId topic] else []
  else if type = lit "ping" then
    return [.send msg.connectionId (lit "\x7b\"type\":\"pong\"\x7d")]
  else return []

/-- The callback that `WireWebSocketHandlers` installs; malformed messages are ignored. -/
def webSocketHandler (V : Vendor) (msg : WsMessage) : List WsOperation :=
  match webSocketRequest V msg with
  | .error _ => []
  | .ok ops => ops

/-- What a call changes in the subscription of an id to a topic. -/
def WsOperation.change : WsOperation → Option ((ConnectionId × StdString) × Bool)
  | subscribe id topic => some ((id, topic), true)
  | unsubscribe id topic => some ((id, topic), false)
  | _ => none

/-- The subscriptions and cancellations that an input brings about. -/
def WsInput.changes (onMessage : WsMessage → List WsOperation) :
    WsInput → List ((ConnectionId × StdString) × Bool)
  | .call op => op.change.toList
  | .completion id (.read (.text payload)) => (onMessage ⟨id, payload⟩).filterMap WsOperation.change
  | _ => []

/-! ## What a text asks for -/

/-- The text under a key of a payload, if that is an object which has one. -/
def memberText (V : Vendor) (payload key : StdString) : Option StdString :=
  match V.parse payload with
  | .ok (.object fields) =>
    match Json.lookup key fields with
    | some (.string text) => some text
    | _ => none
  | _ => none

/-- The topic that a payload asks to be subscribed to (`true`) or unsubscribed from (`false`). An
empty topic is none. -/
def subscriptionRequest (V : Vendor) (payload : StdString) : Option (StdString × Bool) :=
  match memberText V payload (lit "type"), memberText V payload (lit "topic") with
  | some type, some topic =>
    if topic = [] then none
    else if type = lit "subscribe" then some (topic, true)
    else if type = lit "unsubscribe" then some (topic, false)
    else none
  | _, _ => none

/-- The payload asks for an answer. -/
def IsPing (V : Vendor) (payload : StdString) : Prop :=
  memberText V payload (lit "type") = some (lit "ping")

instance (V : Vendor) (payload : StdString) : Decidable (IsPing V payload) :=
  inferInstanceAs (Decidable (_ = _))

/-- The answer to a ping. -/
def pong : StdString := lit "\x7b\"type\":\"pong\"\x7d"

/-- The call of an id that carries out a request. -/
def WsOperation.ofRequest (id : ConnectionId) : StdString × Bool → WsOperation
  | (topic, true) => .subscribe id topic
  | (topic, false) => .unsubscribe id topic

@[simp]
theorem WsOperation.change_ofRequest (id : ConnectionId) (request : StdString × Bool) :
    (ofRequest id request).change = some ((id, request.1), request.2) := by
  obtain ⟨topic, _ | _⟩ := request <;> rfl

/-- The subscriptions and cancellations that an input asks for. -/
def WsInput.requests (V : Vendor) : WsInput → List ((ConnectionId × StdString) × Bool)
  | .call op => op.change.toList
  | .completion id (.read (.text payload)) =>
    (subscriptionRequest V payload).toList.map fun request => ((id, request.1), request.2)
  | _ => []

section Requests

variable {V : Vendor} {msg : WsMessage} {payload key text type : StdString}
  {fields : List (StdString × Json)}

private theorem memberText_eq_some_iff : memberText V payload key = some text ↔
    ∃ fields, V.parse payload = .ok (.object fields) ∧
      Json.lookup key fields = some (.string text) := by
  rw [memberText]
  constructor
  · intro h
    split at h
    · next fields hparse =>
      split at h
      · next text' hlookup => exact ⟨fields, hparse, Option.some.inj h ▸ hlookup⟩
      · cases h
    · cases h
  · rintro ⟨fields, hparse, hlookup⟩
    rw [hparse]
    dsimp only
    rw [hlookup]

/-- A text with a request is no ping. -/
theorem not_isPing_of_request {request : StdString × Bool}
    (h : subscriptionRequest V payload = some request) : ¬ IsPing V payload := by
  intro hping
  have htype : memberText V payload (lit "type") = some (lit "ping") := hping
  rcases htopic : memberText V payload (lit "topic") with _ | topic
  · simp [subscriptionRequest, htype, htopic] at h
  · have hne : lit "ping" ≠ lit "subscribe" ∧ lit "ping" ≠ lit "unsubscribe" := by decide
    simp [subscriptionRequest, htype, htopic, hne] at h

/-- The call about the topic of a text, if it has one. -/
def onTopic (op : StdString → WsOperation) : Option StdString → List WsOperation
  | some topic => if topic = [] then [] else [op topic]
  | none => []

/-- The callback takes a missing topic for an empty one, and a topic that is no text is an error. -/
theorem webSocketHandler_of_topic (hparse : V.parse msg.payload = .ok (.object fields))
    {op : StdString → WsOperation}
    (hrequest : webSocketRequest V msg =
      (Json.object fields).value Json.getString (lit "topic") [] >>= fun topic =>
        return if ¬ topic.isEmpty then [op topic] else []) :
    webSocketHandler V msg = onTopic op (memberText V msg.payload (lit "topic")) := by
  rw [webSocketHandler, hrequest, memberText, hparse, Json.value]
  dsimp only
  rcases Json.lookup (lit "topic") fields with _ | _ | _ | _ | _ | topic | _ | _ <;> try rfl
  cases topic <;> rfl

/-- The callback ignores a text whose type is no text. -/
theorem webSocketHandler_of_untyped (htype : memberText V msg.payload (lit "type") = none) :
    webSocketHandler V msg = [] := by
  rw [memberText] at htype
  rw [webSocketHandler, webSocketRequest]
  rcases hparse : V.parse msg.payload with e | j
  · rfl
  rw [hparse] at htype
  dsimp only [bind, Except.bind] at htype ⊢
  cases j with
  | object fields =>
    rw [Json.value]
    rcases hlookup : Json.lookup (lit "type") fields with _ | _ | _ | _ | _ | type | _ | _ <;>
      try rfl
    simp [hlookup] at htype
  | _ => rfl

/-- What the callback goes on to do is decided by the type. -/
theorem webSocketRequest_of_type (hparse : V.parse msg.payload = .ok (.object fields))
    (htype : Json.lookup (lit "type") fields = some (.string type)) :
    webSocketRequest V msg =
      if type = lit "subscribe" then
        (Json.object fields).value Json.getString (lit "topic") [] >>= fun topic =>
          return if ¬ topic.isEmpty then [.subscribe msg.connectionId topic] else []
      else if type = lit "unsubscribe" then
        (Json.object fields).value Json.getString (lit "topic") [] >>= fun topic =>
          return if ¬ topic.isEmpty then [.unsubscribe msg.connectionId topic] else []
      else if type = lit "ping" then return [.send msg.connectionId pong]
      else return [] := by
  have hvalue : (Json.object fields).value Json.getString (lit "type") [] = .ok type := by
    rw [Json.value, htype]
    rfl
  rw [webSocketRequest, hparse]
  dsimp only [bind, Except.bind]
  rw [hvalue]
  rfl

/-- The installed callback does what the text asks for: it subscribes, unsubscribes or answers its
sender, and nothing else. -/
theorem webSocketHandler_eq (V : Vendor) (msg : WsMessage) :
    webSocketHandler V msg =
      (subscriptionRequest V msg.payload).toList.map (.ofRequest msg.connectionId) ++
        if IsPing V msg.payload then [.send msg.connectionId pong] else [] := by
  rcases htype : memberText V msg.payload (lit "type") with _ | type
  · have hping : ¬ IsPing V msg.payload := by simp [IsPing, htype]
    rw [webSocketHandler_of_untyped htype, if_neg hping, subscriptionRequest, htype]
    rfl
  · have hping : IsPing V msg.payload ↔ type = lit "ping" := by simp [IsPing, htype]
    obtain ⟨fields, hparse, hlookup⟩ := memberText_eq_some_iff.mp htype
    have hrequest := webSocketRequest_of_type hparse hlookup
    have hcalls : (subscriptionRequest V msg.payload).toList.map
        (WsOperation.ofRequest msg.connectionId) =
          if type = lit "subscribe" then
            onTopic (.subscribe msg.connectionId) (memberText V msg.payload (lit "topic"))
          else if type = lit "unsubscribe" then
            onTopic (.unsubscribe msg.connectionId) (memberText V msg.payload (lit "topic"))
          else [] := by
      rw [subscriptionRequest, htype]
      rcases memberText V msg.payload (lit "topic") with _ | topic
      · simp [onTopic]
      · dsimp only
        rw [onTopic, onTopic]
        split_ifs <;> rfl
    rw [if_congr hping rfl rfl, hcalls]
    by_cases hsubscribe : type = lit "subscribe"
    · rw [if_pos hsubscribe] at hrequest ⊢
      rw [webSocketHandler_of_topic hparse hrequest, hsubscribe, if_neg (by decide),
        List.append_nil]
    rw [if_neg hsubscribe] at hrequest ⊢
    by_cases hunsubscribe : type = lit "unsubscribe"
    · rw [if_pos hunsubscribe] at hrequest ⊢
      rw [webSocketHandler_of_topic hparse hrequest, hunsubscribe, if_neg (by decide),
        List.append_nil]
    rw [if_neg hunsubscribe] at hrequest ⊢
    rw [webSocketHandler, hrequest]
    split_ifs <;> rfl

/-- What an input changes is what it asks for. -/
theorem WsInput.changes_webSocketHandler (i : WsInput) :
    i.changes (webSocketHandler V) = i.requests V := by
  rcases i with _ | ⟨id, (_ | _) | (_ | _ | payload | _) | _ | ⟨_, _ | _⟩⟩ | op
  case completion.read.text =>
    have hping : (if IsPing V payload then [WsOperation.send id pong] else []).filterMap
        WsOperation.change = [] := by
      split_ifs <;> rfl
    rw [changes, requests, webSocketHandler_eq, List.filterMap_append, hping, List.append_nil]
    cases subscriptionRequest V payload <;> simp
  all_goals rfl

end Requests

namespace WsServer

/-- The subscriptions and cancellations of a history, oldest first. -/
def changes (onMessage : WsMessage → List WsOperation) (tr : Trace) :
    List ((ConnectionId × StdString) × Bool) :=
  tr.flatMap fun entry => entry.1.changes onMessage

/-- The subscriptions and cancellations that a history asks for, oldest first. -/
def requests (V : Vendor) (tr : Trace) : List ((ConnectionId × StdString) × Bool) :=
  tr.flatMap fun entry => entry.1.requests V

/-- The callback changes what was asked for. -/
theorem changes_eq_requests (V : Vendor) (tr : Trace) :
    changes (webSocketHandler V) tr = requests V tr :=
  congrArg (tr.flatMap ·) (funext fun entry => entry.1.changes_webSocketHandler)

/-- The session was reported as connected and not as disconnected since. -/
def Connected (tr : Trace) (c : ConnectionId) : Prop :=
  .onConnect c ∈ callbacks tr ∧ .onDisconnect c ∉ callbacks tr

instance decidableConnected (tr : Trace) (c : ConnectionId) : Decidable (Connected tr c) :=
  inferInstanceAs (Decidable (_ ∧ _))

/-- What is published under the topic reaches the session. -/
def Receives (s : WsServer) (c : ConnectionId) (topic : StdString) : Prop :=
  c ∈ s.sessions ∧ s.Subscribed c topic

variable {onMessage : WsMessage → List WsOperation} {V : Vendor} {tr : Trace} {s s' : WsServer}
  {c c' : ConnectionId} {t topic message : StdString} {i : WsInput}

/-- A step adds the changes that it makes. -/
@[simp]
theorem changes_snoc (fired : List WsCallback) :
    changes onMessage (tr ++ [(i, fired)]) = changes onMessage tr ++ i.changes onMessage := by
  simp [changes]

/-! ## The table of topics -/

/-- An operation that changes no subscription leaves the table as it is. -/
theorem topics_apply_of_change {op : WsOperation} (hop : op.change = none) :
    (s.apply op).topics = s.topics := by
  cases op with
  | send id message =>
    rw [apply, send]
    split <;> rfl
  | broadcast message => rfl
  | broadcastToTopic topic message =>
    rw [apply, broadcastToTopic]
    split <;> rfl
  | subscribe id topic => simp [WsOperation.change] at hop
  | unsubscribe id topic => simp [WsOperation.change] at hop

/-- A call changes the table as it changes the relation. -/
theorem subscribed_apply_iff {history : List ((ConnectionId × StdString) × Bool)}
    (h : s.Subscribed c t ↔ history.mostRecent (c, t) = some true) (op : WsOperation) :
    (s.apply op).Subscribed c t ↔
      (history ++ op.change.toList).mostRecent (c, t) = some true := by
  -- The calls that send change neither the table nor the history.
  have hkeep (hop : op.change = none) : (s.apply op).Subscribed c t ↔
      (history ++ op.change.toList).mostRecent (c, t) = some true := by
    rw [hop, Option.toList_none, List.append_nil, Subscribed, topics_apply_of_change hop]
    exact h
  cases op with
  | send id message => exact hkeep rfl
  | broadcast message => exact hkeep rfl
  | broadcastToTopic topic message => exact hkeep rfl
  | subscribe id topic =>
    rw [apply, subscribed_subscribe, WsOperation.change, Option.toList_some,
      List.mostRecent_snoc, h]
    simp only [Prod.mk.injEq]
    by_cases hkey : c = id ∧ t = topic <;> simp [hkey]
  | unsubscribe id topic =>
    rw [apply, subscribed_unsubscribe, WsOperation.change, Option.toList_some,
      List.mostRecent_snoc, h]
    simp only [Prod.mk.injEq]
    by_cases hkey : c = id ∧ t = topic <;> simp [hkey]

private theorem subscribed_foldl_apply_iff {history : List ((ConnectionId × StdString) × Bool)}
    (h : s.Subscribed c t ↔ history.mostRecent (c, t) = some true) (ops : List WsOperation) :
    (ops.foldl apply s).Subscribed c t ↔
      (history ++ ops.filterMap WsOperation.change).mostRecent (c, t) = some true := by
  -- Each call adds its change to the history, so the history is generalized too.
  induction ops generalizing s history with
  | nil => simpa using h
  | cons op ops ih =>
    rw [List.foldl_cons, ih (subscribed_apply_iff h op), List.filterMap_cons, List.append_assoc]
    cases op.change <;> rfl

/-- One step, for a session that is not disconnected by it. -/
theorem subscribed_step_iff (h : s.Subscribed c t ↔
      (changes onMessage tr).mostRecent (c, t) = some true)
    (hdisconnect : .onDisconnect c ∉ i.callbacks) :
    (s.step onMessage i).2.Subscribed c t ↔
      (changes onMessage tr ++ i.changes onMessage).mostRecent (c, t) = some true := by
  have hkeep (s' : WsServer) (htopics : s'.topics = s.topics) : s'.Subscribed c t ↔
      (changes onMessage tr ++ []).mostRecent (c, t) = some true := by
    rw [List.append_nil, Subscribed, htopics]
    exact h
  -- A step keeps the table, or erases the id of another session from it.
  have herase (s' : WsServer) (htopics : s'.topics = s.topics) (id : ConnectionId) (hid : c ≠ id) :
      (s'.onSessionDisconnected id).2.Subscribed c t ↔
        (changes onMessage tr ++ []).mostRecent (c, t) = some true := by
    rw [subscribed_onSessionDisconnected, and_iff_right hid]
    exact hkeep s' htopics
  rcases i with _ | ⟨id, (_ | _) | (_ | _ | payload | _) | _ | ⟨_, _ | _⟩⟩ | op
  case completion.read.text =>
    exact subscribed_foldl_apply_iff (s := s.modifySession id (.finish .read)) h _
  case call => exact subscribed_apply_iff h op
  all_goals
    first
    | exact hkeep _ rfl
    | exact herase _ rfl id fun heq => hdisconnect (heq ▸ List.mem_singleton_self _)

/-- The table of topics agrees with the most recent operations, for every session that has not
been disconnected. -/
theorem subscribed_iff_mostRecent (hrun : Mealy.Run (step onMessage) Possible {} tr s)
    (hdisconnect : .onDisconnect c ∉ callbacks tr) :
    s.Subscribed c t ↔ (changes onMessage tr).mostRecent (c, t) = some true := by
  revert hdisconnect
  refine hrun.historyInvariant (P := fun tr s => .onDisconnect c ∉ callbacks tr →
    (s.Subscribed c t ↔ (changes onMessage tr).mostRecent (c, t) = some true)) ?_ ?_
  · exact fun _ => iff_of_false (AList.notMem_empty c) (by simp [changes])
  · intro tr s i ih _ hdisconnect
    rw [callbacks_snoc, List.mem_append, not_or, fst_step] at hdisconnect
    rw [changes_snoc]
    exact subscribed_step_iff (ih hdisconnect.1) hdisconnect.2

/-! ## Delivery -/

private theorem writeQueue_send (session : WsSession) (message : StdString) :
    (session.send message).writeQueue = session.writeQueue ++ [message] := by
  rw [WsSession.send]
  dsimp only
  split <;> rfl

/-- A call puts messages at the end of the queues. -/
theorem writeQueue_apply (op : WsOperation) :
    ((s.apply op).objects c).writeQueue = (s.objects c).writeQueue ++ s.delivered op c := by
  rw [objects_apply]
  generalize s.delivered op c = messages
  -- From the end, where `Send` puts its message.
  induction messages using List.reverseRecOn with
  | nil => simp
  | append_singleton messages message ih =>
    rw [WsSession.sendAll_append, WsSession.sendAll_singleton, writeQueue_send, ih,
      List.append_assoc]

/-- A message leads to one call at most, which is about the session that sent it. -/
theorem webSocketHandler_cases (V : Vendor) (msg : WsMessage) :
    webSocketHandler V msg = [] ∨
      (∃ topic, webSocketHandler V msg = [.subscribe msg.connectionId topic]) ∨
      (∃ topic, webSocketHandler V msg = [.unsubscribe msg.connectionId topic]) ∨
      ∃ message, webSocketHandler V msg = [.send msg.connectionId message] := by
  rw [webSocketHandler_eq]
  rcases hrequest : subscriptionRequest V msg.payload with _ | ⟨topic, _ | _⟩
  · by_cases hping : IsPing V msg.payload
    · rw [if_pos hping]
      exact .inr (.inr (.inr ⟨_, rfl⟩))
    · rw [if_neg hping]
      exact .inl rfl
  · rw [if_neg (not_isPing_of_request hrequest)]
    exact .inr (.inr (.inl ⟨topic, rfl⟩))
  · rw [if_neg (not_isPing_of_request hrequest)]
    exact .inr (.inl ⟨topic, rfl⟩)

private theorem subscribed_apply_of_ne {op : WsOperation} {id : ConnectionId} (hc : c ≠ id)
    (hop : ∀ k v, op.change = some (k, v) → k.1 = id) :
    (s.apply op).Subscribed c t ↔ s.Subscribed c t := by
  cases op with
  | send id message => rw [Subscribed, topics_apply_of_change rfl, Subscribed]
  | broadcast message => rfl
  | broadcastToTopic topic message => rw [Subscribed, topics_apply_of_change rfl, Subscribed]
  | subscribe id topic =>
    obtain rfl := hop _ _ rfl
    rw [apply, subscribed_subscribe]
    simp [hc]
  | unsubscribe id topic =>
    obtain rfl := hop _ _ rfl
    rw [apply, subscribed_unsubscribe]
    simp [hc]

/-- A message changes subscriptions of its own session only. -/
theorem key_of_mem_changes {payload : StdString} {e : (ConnectionId × StdString) × Bool}
    (he : e ∈ WsInput.changes (webSocketHandler V) (.completion c (.read (.text payload)))) :
    e.1.1 = c := by
  rw [WsInput.changes] at he
  obtain h | ⟨topic, h⟩ | ⟨topic, h⟩ | ⟨message, h⟩ := webSocketHandler_cases V ⟨c, payload⟩
  · rw [h] at he
    exact absurd he List.not_mem_nil
  · rw [h] at he
    obtain rfl := List.mem_singleton.mp he
    rfl
  · rw [h] at he
    obtain rfl := List.mem_singleton.mp he
    rfl
  · rw [h] at he
    exact absurd he List.not_mem_nil

/-- Ids are never allotted again. -/
theorem nextId_le_step (i : WsInput) : s.nextId ≤ (s.step onMessage i).2.nextId := by
  rcases i with _ | ⟨id, (_ | _) | (_ | _ | payload | _) | _ | ⟨_, _ | _⟩⟩ | op
  case socket => exact Nat.le_succ _
  case completion.read.text =>
    show _ ≤ ((onMessage ⟨id, payload⟩).foldl apply (s.modifySession id _)).nextId
    rw [nextId_foldl_apply]
    rfl
  case call => exact (sessions_nextId_apply op).2.ge
  all_goals exact le_rfl

/-- A text message of one session changes nothing for another. -/
theorem receives_text_iff (hc : c' ≠ c) (payload : StdString) :
    (s.step (webSocketHandler V) (.completion c (.read (.text payload)))).2.Receives c' t ↔
      s.Receives c' t := by
  let s₁ := s.modifySession c (.finish .read)
  have hsessions : c' ∈ ((webSocketHandler V ⟨c, payload⟩).foldl apply s₁).sessions ↔
      c' ∈ s.sessions := by
    rw [sessions_foldl_apply]
    rfl
  have hsubscribed : ((webSocketHandler V ⟨c, payload⟩).foldl apply s₁).Subscribed c' t ↔
      s.Subscribed c' t := by
    obtain h | ⟨topic, h⟩ | ⟨topic, h⟩ | ⟨message, h⟩ := webSocketHandler_cases V ⟨c, payload⟩
    · rw [h]
      rfl
    -- The one call is about the session that sent the message.
    all_goals
      rw [h, List.foldl_cons, List.foldl_nil]
      refine subscribed_apply_of_ne (s := s₁) hc fun k v hk => ?_
      simp only [WsOperation.change, Option.some.injEq, Prod.mk.injEq, reduceCtorEq] at hk
    · exact hk.1 ▸ rfl
    · exact hk.1 ▸ rfl
  exact and_congr hsessions hsubscribed

/-- Publishing under a topic reaches exactly the connected sessions whose most recent request about
the topic, by a call or by a text that they sent, was for a subscription, once each; a broadcast
reaches the connected sessions once each; and what one client sends never changes what another
receives. -/
theorem delivery_refines (hrun : Mealy.Run (step (webSocketHandler V)) Possible {} tr s) :
    (∀ topic message c, ((s.broadcastToTopic topic message).objects c).writeQueue =
      (s.objects c).writeQueue ++ if Connected tr c ∧
        (requests V tr).mostRecent (c, topic) = some true then [message] else []) ∧
    (∀ message c, ((s.broadcast message).objects c).writeQueue =
      (s.objects c).writeQueue ++ if Connected tr c then [message] else []) ∧
    ∀ c payload c' topic, c' ≠ c →
      ((s.step (webSocketHandler V) (.completion c (.read (.text payload)))).2.Receives c' topic ↔
        s.Receives c' topic) := by
  refine ⟨fun topic message c => ?_, fun message c => ?_, fun c payload c' topic hc => ?_⟩
  · have hreceives : c ∈ s.sessions ∧ s.Subscribed c topic ↔ Connected tr c ∧
        (requests V tr).mostRecent (c, topic) = some true := by
      rw [(tracks_of_run hrun c).mem_sessions, ← changes_eq_requests]
      exact and_congr_right fun hconnected => subscribed_iff_mostRecent hrun hconnected.2
    show ((s.apply (.broadcastToTopic topic message)).objects c).writeQueue = _
    rw [writeQueue_apply, delivered, if_congr hreceives rfl rfl]
  · show ((s.apply (.broadcast message)).objects c).writeQueue = _
    rw [writeQueue_apply, delivered, if_congr (tracks_of_run hrun c).mem_sessions rfl rfl]
    rfl
  · exact receives_text_iff hc payload

/-- Two clients are connected and ask for a topic, and the second one gives it up again. -/
def twoAskingClients : List WsInput :=
  [.socket, .completion 1 (.accept true), .socket, .completion 2 (.accept true),
    .completion 1 (.read (.text (lit "\x7b\"type\":\"subscribe\",\"topic\":\"alerts\"\x7d"))),
    .completion 2 (.read (.text (lit "\x7b\"type\":\"subscribe\",\"topic\":\"alerts\"\x7d"))),
    .completion 2 (.read (.text (lit "\x7b\"type\":\"unsubscribe\",\"topic\":\"alerts\"\x7d")))]

theorem delivery_refines_twoAskingClients :
    let s := (Mealy.exec (step (webSocketHandler Vendor.reference)) {} twoAskingClients).2
    ((s.broadcastToTopic (lit "alerts") (lit "fire")).objects 1).writeQueue = [lit "fire"] ∧
      ((s.broadcastToTopic (lit "alerts") (lit "fire")).objects 2).writeQueue = [] := by
  have hallowed : Mealy.Allowed (step (webSocketHandler Vendor.reference)) Possible [] {}
      twoAskingClients := by
    refine ⟨?_, ?_, ?_, ?_, ?_, ?_, ?_, trivial⟩ <;> decide +kernel
  obtain ⟨h, -⟩ := delivery_refines (V := Vendor.reference) (Mealy.Run.exec hallowed)
  have hrequests : requests Vendor.reference
      (Mealy.exec (step (webSocketHandler Vendor.reference)) {} twoAskingClients).1 =
        [((1, lit "alerts"), true), ((2, lit "alerts"), true), ((2, lit "alerts"), false)] := by
    decide +kernel
  have hconnected : Connected
      (Mealy.exec (step (webSocketHandler Vendor.reference)) {} twoAskingClients).1 1 := by
    decide +kernel
  have hqueues : ∀ c ∈ [1, 2], ((Mealy.exec (step (webSocketHandler Vendor.reference)) {}
      twoAskingClients).2.objects c).writeQueue = [] := by
    decide +kernel
  constructor
  · rw [h, hrequests, if_pos ⟨hconnected, by decide⟩, hqueues 1 (by decide)]
    rfl
  · rw [h, hrequests, if_neg (fun h => absurd h.2 (by decide)), hqueues 2 (by decide)]
    rfl

end WsServer

end IotDashboard
