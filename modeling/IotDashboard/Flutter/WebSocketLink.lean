import IotDashboard.Api.PubSub
import IotDashboard.Flutter.WebSocketClient
import Mathlib.Data.List.ReduceOption

/-!
# The client and the server

The app's client and the server, joined by channels. What the client sends on a channel waits
until the session at the other end reads it; what the session has read the server has carried out.

## Main definitions

* `WebSocketLink.step`: a step of the client, of the server, or of the network between them;
* `WebSocketLink.Restored`: the server has exactly the subscriptions that the app asked for;
* `WebSocketLink.Current`: the operations since the channel was opened are carried out or wait.

## Main results

* `WebSocketLink.changes_of_carries`: the server does what a message of the client says.
-/

namespace IotDashboard

open StdString

/-- What the app prints the server reads back, for well-formed values without fractions. -/
structure DartConvert.Matches (J : DartConvert) (V : Vendor) : Prop where
  encodes : ∀ j : Json, j.Utf8 → j.Canonical → ∃ text, J.jsonEncode j = some text
  parses : ∀ (j : Json) text, j.Utf8 → j.Canonical → J.jsonEncode j = some text →
    V.parse text = .ok j

/-- The client, the server, and the channels between them. -/
structure WebSocketLink where
  client : WebSocketClient := {}
  server : WsServer := {}
  /-- The session at the other end of a channel. -/
  connection : ChannelId → Option ConnectionId := fun _ => none
  /-- What was sent on a channel and not yet read. -/
  outbox : ChannelId → List StdString := fun _ => []

inductive LinkInput where
  /-- A call, an event or a timer at the client. -/
  | client (input : ClientInput)
  /-- The server accepts the socket of a channel. -/
  | accept (channel : ChannelId)
  /-- The session reads the next message of a channel. -/
  | deliver (channel : ChannelId)
  /-- Anything else at the server. -/
  | server (input : WsInput)
deriving DecidableEq

structure LinkOutput where
  effects : List ClientEffect := []
  server : WsServer.Trace := []

/-- What a call of the app asks for. -/
def ClientInput.wish : ClientInput → Option (StdString × Bool)
  | subscribe topic => some (topic, true)
  | unsubscribe topic => some (topic, false)
  | _ => none

def LinkInput.wish : LinkInput → Option (StdString × Bool)
  | client input => input.wish
  | _ => none

/-- The effect opens a channel. -/
def ClientEffect.opens : ClientEffect → Bool
  | openChannel _ => true
  | _ => false

namespace WebSocketLink

section Step

variable (J : DartConvert) (V : Vendor)

/-- A message that is sent waits on its channel. -/
def push (outbox : ChannelId → List StdString) : ClientEffect → ChannelId → List StdString
  | .send channel text => Function.update outbox channel (outbox channel ++ [text])
  | _ => outbox

/-- A step of the server. -/
def serve (l : WebSocketLink) (i : WsInput) : LinkOutput × WebSocketLink :=
  let r := l.server.step (webSocketHandler V) i
  ({ server := [(i, r.1)] }, { l with server := r.2 })

/-- One step; nothing is delivered where nothing waits. -/
def step (l : WebSocketLink) : LinkInput → LinkOutput × WebSocketLink
  | .client input =>
    let r := l.client.step J input
    ({ effects := r.1 }, { l with client := r.2, outbox := r.1.foldl push l.outbox })
  | .accept channel =>
    serve V { l with
      connection := Function.update l.connection channel (some l.server.nextId) } .socket
  | .deliver channel =>
    -- A channel that was not accepted has nobody to read from it.
    match l.connection channel, l.outbox channel with
    | some id, text :: rest =>
      serve V { l with outbox := Function.update l.outbox channel rest }
        (.completion id (.read (.text text)))
    | _, _ => ({}, l)
  | .server input => serve V l input

end Step

/-- A recorded history, oldest first. -/
abbrev Trace := List (LinkInput × LinkOutput)

/-- What happened at the server. -/
def serverTrace (tr : Trace) : WsServer.Trace := tr.flatMap fun entry => entry.2.server

/-- What the app asked for, oldest first. -/
def wishes (tr : Trace) : List (StdString × Bool) := tr.filterMap fun entry => entry.1.wish

/-- What the app asked for after the last channel was opened. -/
def sinceOpened (tr : Trace) : List (StdString × Bool) :=
  tr.foldl (fun ops entry =>
    -- A `connect` is no wish, so nothing is lost where the list starts anew.
    if entry.2.effects.any ClientEffect.opens then [] else ops ++ entry.1.wish.toList) []

/-- What can happen next. A channel is accepted once and after it was opened, only messages that
wait are read from it, topics of the app are well-formed strings, and subscriptions reach the
server by messages only. -/
def Possible (tr : Trace) (l : WebSocketLink) : LinkInput → Prop
  | .client input => WebSocketClient.Possible [] l.client input ∧
    ∀ op ∈ input.wish, StdString.isUtf8 op.1 = true
  | .accept channel => l.connection channel = none ∧
    ∃ entry ∈ tr, ∃ effect ∈ entry.2.effects, effect = .openChannel channel
  | .deliver channel => l.outbox channel ≠ [] ∧
    ∃ id ∈ l.connection channel, .read ∈ (l.server.objects id).outstanding
  | .server input => WsServer.Possible [] l.server input ∧
    match input with
    | .completion id (.read (.text _)) => ∀ channel, l.connection channel ≠ some id
    | .call op => op.change = none
    | _ => True

/-- The channel of the client has a connected session at the other end, which has read what was
sent. -/
structure Delivered (l : WebSocketLink) (channel : ChannelId) (id : ConnectionId) : Prop where
  current : l.client.channel = some channel
  connection : l.connection channel = some id
  connected : id ∈ l.server.sessions
  outbox : l.outbox channel = []

/-- The subscriptions of the session are the topics that the app has subscribed and not
unsubscribed since. -/
def Restored (tr : Trace) (l : WebSocketLink) : Prop :=
  ∀ channel id, l.Delivered channel id →
    ∀ topic, l.server.Subscribed id topic ↔ (wishes tr).mostRecent topic = some true

/-- Every topic that the app wants is not empty and was subscribed after the channel was opened. -/
def Repeated (tr : Trace) (l : WebSocketLink) : Prop :=
  ∀ channel id, l.Delivered channel id → ∀ topic, (wishes tr).mostRecent topic = some true →
    topic ≠ [] ∧ (sinceOpened tr).mostRecent topic = some true

variable {J : DartConvert} {V : Vendor} {tr : Trace} {l : WebSocketLink} {i : LinkInput}
  {o : LinkOutput}

/-- A step adds its own steps of the server. -/
@[simp]
theorem serverTrace_snoc : serverTrace (tr ++ [(i, o)]) = serverTrace tr ++ o.server := by
  simp [serverTrace]

@[simp]
theorem wishes_snoc : wishes (tr ++ [(i, o)]) = wishes tr ++ i.wish.toList := by
  cases hi : i.wish <;> simp [wishes, hi]

/-- A new channel begins with no operations. -/
@[simp]
theorem sinceOpened_snoc : sinceOpened (tr ++ [(i, o)]) =
    if o.effects.any ClientEffect.opens then [] else sinceOpened tr ++ i.wish.toList := by
  simp [sinceOpened]

/-- What was asked for since is the end of what was asked for. -/
theorem sinceOpened_suffix (tr : Trace) : sinceOpened tr <:+ wishes tr := by
  induction tr using List.reverseRecOn with
  | nil => exact List.suffix_rfl
  | append_singleton tr entry ih =>
    obtain ⟨i, o⟩ := entry
    rw [sinceOpened_snoc, wishes_snoc]
    split
    · exact List.nil_suffix
    -- Both lists grow by the same wish.
    · obtain ⟨before, hbefore⟩ := ih
      rw [← hbefore, List.append_assoc]
      exact List.suffix_append _ _

/-! ## Messages of the client -/

/-- The message of an operation on a topic, or a ping. -/
def messageOf : Option (StdString × Bool) → Json
  | some (topic, true) => WebSocketClient.topicMessage (lit "subscribe") topic
  | some (topic, false) => WebSocketClient.topicMessage (lit "unsubscribe") topic
  | none => WebSocketClient.pingMessage

/-- The text is that of the message. -/
def Carries (J : DartConvert) (text : StdString) (op : Option (StdString × Bool)) : Prop :=
  (∀ o ∈ op, StdString.isUtf8 o.1 = true) ∧ J.jsonEncode (messageOf op) = some text

/-- What operations change for an id; the server ignores empty topics. -/
def changesFor (id : ConnectionId) (ops : List (StdString × Bool)) :
    List ((ConnectionId × StdString) × Bool) :=
  (ops.filter fun op => op.1 ≠ []).map fun op => ((id, op.1), op.2)

private theorem changesFor_append (id : ConnectionId) (ops ops' : List (StdString × Bool)) :
    changesFor id (ops ++ ops') = changesFor id ops ++ changesFor id ops' := by
  simp [changesFor]

/-- The last operation on a topic decides, as long as the topic is not empty. -/
theorem mostRecent_changesFor (id : ConnectionId) (ops : List (StdString × Bool))
    (topic : StdString) : (changesFor id ops).mostRecent (id, topic) = some true ↔
      topic ≠ [] ∧ ops.mostRecent topic = some true := by
  have hinj : Function.Injective fun topic : StdString => (id, topic) := fun _ _ h =>
    (Prod.mk.inj h).2
  rw [changesFor, List.mostRecent_map hinj]
  by_cases htopic : topic = []
  -- The filter takes out the empty topic and leaves the others as they are.
  · rw [List.mostRecent_filter_of_false (fun t => t ≠ []) _ (by simp [htopic])]
    simp [htopic]
  · rw [List.mostRecent_filter (fun t => t ≠ []) _ (by simp [htopic])]
    simp [htopic]

private theorem topicMessage_ok {type topic : StdString} (htype : type.isUtf8 = true)
    (htopic : topic.isUtf8 = true) :
    (WebSocketClient.topicMessage type topic).Utf8 ∧
      (WebSocketClient.topicMessage type topic).Canonical := by
  refine ⟨Json.utf8_mkObject fun f hf => ?_, Json.canonical_mkObject fun f hf => ?_⟩
  all_goals
    simp only [List.mem_cons, List.not_mem_nil, or_false] at hf
    rcases hf with rfl | rfl
  · exact ⟨rfl, .string htype⟩
  · exact ⟨rfl, .string htopic⟩
  · exact .string type
  · exact .string topic

/-- The messages can be printed and are read back. -/
theorem messageOf_ok {op : Option (StdString × Bool)} (h : ∀ o ∈ op, StdString.isUtf8 o.1 = true) :
    (messageOf op).Utf8 ∧ (messageOf op).Canonical := by
  rcases op with _ | ⟨topic, _ | _⟩
  · refine ⟨Json.utf8_mkObject fun f hf => ?_, Json.canonical_mkObject fun f hf => ?_⟩
    · obtain rfl := List.mem_singleton.mp hf
      exact ⟨rfl, .string rfl⟩
    · obtain rfl := List.mem_singleton.mp hf
      exact .string _
  · exact topicMessage_ok rfl (h _ rfl)
  · exact topicMessage_ok rfl (h _ rfl)

/-- The server does what the message says. -/
theorem changes_of_carries (hJ : J.Matches V) {text : StdString}
    {op : Option (StdString × Bool)} (h : Carries J text op) (id : ConnectionId) :
    (webSocketHandler V ⟨id, text⟩).filterMap WsOperation.change = changesFor id op.toList := by
  obtain ⟨hutf8, hcanonical⟩ := messageOf_ok h.1
  have hparse := hJ.parses _ _ hutf8 hcanonical h.2
  rcases op with _ | ⟨topic, v⟩
  -- A ping is answered and changes nothing.
  · have hhandler : webSocketHandler V ⟨id, text⟩ =
        [.send id (lit "\x7b\"type\":\"pong\"\x7d")] := by
      rw [webSocketHandler, webSocketRequest, hparse]
      rfl
    rw [hhandler]
    rfl
  · have hhandler : webSocketHandler V ⟨id, text⟩ = if topic = [] then [] else
        [if v then .subscribe id topic else .unsubscribe id topic] := by
      cases v <;> cases topic <;>
      · rw [webSocketHandler, webSocketRequest, hparse]
        rfl
    rw [hhandler]
    cases v <;> cases topic <;> rfl

/-! ## The current channel -/

/-- The operations since the channel was opened are those that the session has read, which the
server has carried out, and those that wait. -/
def Current (J : DartConvert) (changes : List ((ConnectionId × StdString) × Bool))
    (since : List (StdString × Bool)) (outbox : List StdString)
    (connection : Option ConnectionId) : Prop :=
  ∃ delivered pending, List.Forall₂ (Carries J) outbox pending ∧
    since = delivered ++ pending.reduceOption ∧
    match connection with
    | none => delivered = []
    | some id => changes.filter (fun e => e.1.1 = id) = changesFor id delivered

section Current

variable {changes new : List ((ConnectionId × StdString) × Bool)}
  {since : List (StdString × Bool)} {outbox : List StdString} {connection : Option ConnectionId}
  {id : ConnectionId}

/-- Nothing was asked for since a channel was opened. -/
theorem current_opened : Current J changes [] [] none := ⟨[], [], .nil, rfl, rfl⟩

/-- What the client sends waits. -/
theorem Current.sends (h : Current J changes since outbox connection) {text : StdString}
    {op : Option (StdString × Bool)} (htext : Carries J text op) :
    Current J changes (since ++ op.toList) (outbox ++ [text]) connection := by
  obtain ⟨delivered, pending, houtbox, hsince, hconnection⟩ := h
  refine ⟨delivered, pending ++ [op], ?_, ?_, hconnection⟩
  · exact List.rel_append houtbox (.cons htext .nil)
  · rw [hsince, List.append_assoc, List.reduceOption_append]
    cases op <;> rfl

/-- The session begins with no subscription. -/
theorem Current.accept (h : Current J changes since outbox none)
    (hid : ∀ e ∈ changes, e.1.1 ≠ id) : Current J changes since outbox (some id) := by
  obtain ⟨delivered, pending, houtbox, hsince, rfl⟩ := h
  refine ⟨[], pending, houtbox, hsince, ?_⟩
  show changes.filter (fun e => e.1.1 = id) = []
  rw [List.filter_eq_nil_iff]
  intro e he
  simpa using hid e he

/-- What the session reads the server carries out. -/
theorem Current.deliver (hJ : J.Matches V) {text : StdString}
    (h : Current J changes since (text :: outbox) (some id)) :
    Current J (changes ++ (webSocketHandler V ⟨id, text⟩).filterMap WsOperation.change) since
      outbox (some id) := by
  obtain ⟨delivered, pending, houtbox, hsince, hchanges⟩ := h
  obtain ⟨op, pending, htext, hrest, rfl⟩ := List.forall₂_cons_left_iff.mp houtbox
  refine ⟨delivered ++ op.toList, pending, hrest, ?_, ?_⟩
  · rw [hsince, List.append_assoc]
    cases op <;> rfl
  -- The message moves from what waits to what the server has carried out.
  · have hall : ∀ e ∈ changesFor id op.toList, e.1.1 = id := by
      intro e he
      obtain ⟨o, -, rfl⟩ := List.mem_map.mp he
      rfl
    show (changes ++ _).filter (fun e => e.1.1 = id) = _
    rw [List.filter_append, hchanges, changes_of_carries hJ htext, changesFor_append]
    congr 1
    exact List.filter_eq_self.mpr fun e he => by simpa using hall e he

/-- What other sessions do does not matter. -/
theorem Current.other (h : Current J changes since outbox connection)
    (hnew : ∀ e ∈ new, connection ≠ some e.1.1) :
    Current J (changes ++ new) since outbox connection := by
  obtain ⟨delivered, pending, houtbox, hsince, hconnection⟩ := h
  refine ⟨delivered, pending, houtbox, hsince, ?_⟩
  -- The new changes are filtered out, as they are about other sessions.
  cases connection with
  | none => exact hconnection
  | some id =>
    show (changes ++ new).filter (fun e => e.1.1 = id) = _
    have hnone : new.filter (fun e => e.1.1 = id) = [] := by
      rw [List.filter_eq_nil_iff]
      intro e he heq
      exact hnew e he (congrArg some (of_decide_eq_true heq).symm)
    rw [List.filter_append, hnone, List.append_nil]
    exact hconnection

end Current

end WebSocketLink

end IotDashboard
