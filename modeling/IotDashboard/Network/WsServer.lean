import IotDashboard.Foundation.Containers
import IotDashboard.Foundation.Mealy
import IotDashboard.Foundation.StdString

/-!
# WebSocket server

The server keeps the connected sessions under their ids and, for each topic, the set of the ids
subscribed to it. A session reads and writes by asynchronous operations: it starts them, and
their completion handlers run later on its strand, in any order. The operations that a session
has outstanding are part of its state, so that a run can be restricted to completions of
operations that were started.

The calls that lock `m_sessionsMutex` and the completion handlers are the atomic steps. The ids
are natural numbers; the wrap of `m_nextId` after `2 ^ 64` connections is not modelled.

## Main definitions

* `WsSession`: a session with its write queue;
* `WsServer`: the server with all its sessions;
* `WsServer.step`: one accepted socket, completion or call;
* `WsServer.Possible`: only operations that were started complete.
-/

namespace IotDashboard

abbrev ConnectionId := ℕ

structure WsMessage where
  connectionId : ConnectionId
  payload : StdString
deriving DecidableEq

/-- An asynchronous operation of a session, or a function posted to its strand. -/
inductive WsSession.Operation where
  | accept
  | read
  | doWrite
  | write (message : StdString)
deriving DecidableEq

/-- A session. -/
structure WsSession where
  writeQueue : List StdString := []
  writing : Bool := false
  /-- What was started and has not completed. -/
  outstanding : List WsSession.Operation := []
deriving DecidableEq

namespace WsSession

/-- Start an operation. -/
def start (op : Operation) (session : WsSession) : WsSession :=
  { session with outstanding := session.outstanding ++ [op] }

/-- An operation completes. -/
def finish (op : Operation) (session : WsSession) : WsSession :=
  { session with outstanding := session.outstanding.erase op }

/-- `Send`. -/
def send (message : StdString) (session : WsSession) : WsSession :=
  let queued := { session with writeQueue := session.writeQueue ++ [message] }
  if ¬ session.writing then start .doWrite { queued with writing := true } else queued

/-- Several messages are sent one after the other. -/
def sendAll (messages : List StdString) (session : WsSession) : WsSession :=
  messages.foldl (fun session message => session.send message) session

@[simp]
theorem sendAll_nil (session : WsSession) : session.sendAll [] = session := rfl

@[simp]
theorem sendAll_singleton (message : StdString) (session : WsSession) :
    session.sendAll [message] = session.send message := rfl

/-- Messages are sent one after the other. -/
theorem sendAll_append (messages messages' : List StdString) (session : WsSession) :
    session.sendAll (messages ++ messages') = (session.sendAll messages).sendAll messages' :=
  List.foldl_append

/-- `DoRead`. -/
def doRead (session : WsSession) : WsSession := session.start .read

/-- `DoWrite`. -/
def doWrite (session : WsSession) : WsSession :=
  match session.writeQueue with
  | [] => { session with writing := false }
  | message :: rest => start (.write message) { session with writeQueue := rest }

/-- `OnWrite` without an error. -/
def onWritten (session : WsSession) : WsSession :=
  if session.writeQueue.isEmpty then { session with writing := false } else session.doWrite

end WsSession

/-- A callback of the server's consumer that fires. -/
inductive WsCallback where
  | onConnect (id : ConnectionId)
  | onDisconnect (id : ConnectionId)
  | onMessage (msg : WsMessage)
deriving DecidableEq

/-- A call of the public interface. -/
inductive WsOperation where
  | send (id : ConnectionId) (message : StdString)
  | broadcast (message : StdString)
  | broadcastToTopic (topic message : StdString)
  | subscribe (id : ConnectionId) (topic : StdString)
  | unsubscribe (id : ConnectionId) (topic : StdString)
deriving DecidableEq

/-- A set of ids. -/
abbrev IdSet := AList fun _ : ConnectionId => Unit

/-- The server with every session that was created; a session outlives its entry in
`m_sessions`. -/
structure WsServer where
  nextId : ConnectionId := 1
  objects : ConnectionId → WsSession := fun _ => {}
  /-- The keys of `m_sessions`; the value is the session of that id. -/
  sessions : IdSet := ∅
  topics : AList (fun _ : StdString => IdSet) := ∅

/-- What the read of a session completed with. -/
inductive ReadResult where
  | closed
  | error
  | text (payload : StdString)
  | binary
deriving DecidableEq

/-- A completion with its result. -/
inductive Completion where
  | accept (succeeded : Bool)
  | read (result : ReadResult)
  | doWrite
  | write (message : StdString) (succeeded : Bool)
deriving DecidableEq

/-- The operation that completes. -/
def Completion.operation : Completion → WsSession.Operation
  | accept _ => .accept
  | read _ => .read
  | doWrite => .doWrite
  | write message _ => .write message

/-- What can happen at the server. -/
inductive WsInput where
  /-- A socket is accepted. -/
  | socket
  /-- A handler of a session runs on its strand. -/
  | completion (id : ConnectionId) (completion : Completion)
  | call (op : WsOperation)
deriving DecidableEq

namespace WsServer

/-- Change the session of an id. -/
def modifySession (s : WsServer) (id : ConnectionId) (f : WsSession → WsSession) : WsServer :=
  { s with objects := Function.update s.objects id (f (s.objects id)) }

/-! ## Messaging -/

/-- `Send`. -/
def send (s : WsServer) (id : ConnectionId) (message : StdString) : WsServer :=
  if id ∈ s.sessions then s.modifySession id (.send message) else s

/-- `Broadcast`. -/
def broadcast (s : WsServer) (message : StdString) : WsServer :=
  { s with objects := s.sessions.keys.visit (fun _ => .send message) s.objects }

/-- `BroadcastToTopic`. -/
def broadcastToTopic (s : WsServer) (topic message : StdString) : WsServer :=
  match s.topics.lookup topic with
  | none => s
  | some ids =>
    -- The set of a topic may hold ids that are not connected any more.
    let push (id : ConnectionId) (session : WsSession) : WsSession :=
      if id ∈ s.sessions then session.send message else session
    { s with objects := ids.keys.visit push s.objects }

/-! ## Topics -/

/-- `Subscribe`; `operator[]` files an empty set under a new topic first. -/
def subscribe (s : WsServer) (id : ConnectionId) (topic : StdString) : WsServer :=
  let ids := (s.topics.lookup topic).getD ∅
  { s with topics := s.topics.insert topic (ids.insert id ()) }

/-- `Unsubscribe`. -/
def unsubscribe (s : WsServer) (id : ConnectionId) (topic : StdString) : WsServer :=
  match s.topics.lookup topic with
  | none => s
  | some ids =>
    let ids' := ids.erase id
    -- The entry of a topic goes with its last id.
    if ids'.keys.isEmpty then { s with topics := s.topics.erase topic }
    else { s with topics := s.topics.insert topic ids' }

/-- A call. -/
def apply (s : WsServer) : WsOperation → WsServer
  | .send id message => s.send id message
  | .broadcast message => s.broadcast message
  | .broadcastToTopic topic message => s.broadcastToTopic topic message
  | .subscribe id topic => s.subscribe id topic
  | .unsubscribe id topic => s.unsubscribe id topic

/-- `ConnectionCount`. -/
def connectionCount (s : WsServer) : ℕ := s.sessions.keys.length

/-! ## Session lifecycle -/

/-- `OnSessionConnected`. -/
def onSessionConnected (s : WsServer) (id : ConnectionId) : List WsCallback × WsServer :=
  ([.onConnect id], { s with sessions := s.sessions.insert id () })

/-- `OnSessionDisconnected`. -/
def onSessionDisconnected (s : WsServer) (id : ConnectionId) : List WsCallback × WsServer :=
  -- Entries are kept even if the id was their last one.
  ([.onDisconnect id], { s with
    sessions := s.sessions.erase id
    topics := s.topics.mapValues fun _ ids => ids.erase id })

section Handlers

/- The message callback makes calls of the public interface. -/
variable (onMessage : WsMessage → List WsOperation)

/-- `OnSessionMessage`. -/
def onSessionMessage (s : WsServer) (id : ConnectionId) (payload : StdString) :
    List WsCallback × WsServer :=
  ([.onMessage ⟨id, payload⟩], (onMessage ⟨id, payload⟩).foldl apply s)

/-! ## Completion handlers of a session -/

/-- `OnAccept`. -/
def onAccept (s : WsServer) (id : ConnectionId) (succeeded : Bool) : List WsCallback × WsServer :=
  if ¬ succeeded then ([], s)
  else
    let r := s.onSessionConnected id
    (r.1, r.2.modifySession id .doRead)

/-- `OnRead`. -/
def onRead (s : WsServer) (id : ConnectionId) : ReadResult → List WsCallback × WsServer
  | .closed => s.onSessionDisconnected id
  | .error => s.onSessionDisconnected id
  -- The callback runs before the next read is started.
  | .text payload =>
    let r := s.onSessionMessage onMessage id payload
    (r.1, r.2.modifySession id .doRead)
  | .binary => ([], s.modifySession id .doRead)

/-- `OnWrite`. -/
def onWrite (s : WsServer) (id : ConnectionId) (succeeded : Bool) : List WsCallback × WsServer :=
  if ¬ succeeded then s.onSessionDisconnected id
  else ([], s.modifySession id .onWritten)

/-- The handler of a completion. -/
def onCompletion (s : WsServer) (id : ConnectionId) : Completion → List WsCallback × WsServer
  | .accept succeeded => s.onAccept id succeeded
  | .read result => s.onRead onMessage id result
  | .doWrite => ([], s.modifySession id .doWrite)
  | .write _ succeeded => s.onWrite id succeeded

/-- The handler of the accept loop: a new session with the next id starts its handshake. -/
def onSocket (s : WsServer) : WsServer :=
  { s with nextId := s.nextId + 1 }.modifySession s.nextId (fun _ => .start .accept {})

/-- One accepted socket, completion or call, with the callbacks that fire. -/
def step (s : WsServer) : WsInput → List WsCallback × WsServer
  | .socket => ([], s.onSocket)
  | .completion id completion =>
    (s.modifySession id (.finish completion.operation)).onCompletion onMessage id completion
  | .call op => ([], s.apply op)

end Handlers

/-- A recorded history, oldest first. -/
abbrev Trace := List (WsInput × List WsCallback)

/-- Only an operation that is outstanding completes. -/
def Possible (_ : Trace) (s : WsServer) : WsInput → Prop
  | .completion id completion => completion.operation ∈ (s.objects id).outstanding
  | _ => True

instance decidablePossible (tr : Trace) (s : WsServer) : ∀ i, Decidable (Possible tr s i)
  | .socket => isTrue trivial
  | .completion id completion =>
    inferInstanceAs (Decidable (completion.operation ∈ (s.objects id).outstanding))
  | .call _ => isTrue trivial

/-- The callbacks that fired, oldest first. -/
def callbacks (tr : Trace) : List WsCallback := tr.flatMap (·.2)

@[simp]
theorem callbacks_snoc (tr : Trace) (i : WsInput) (fired : List WsCallback) :
    callbacks (tr ++ [(i, fired)]) = callbacks tr ++ fired := by
  simp [callbacks]

/-! ## What the operations do -/

/-- The id is in the set of the topic. -/
def Subscribed (s : WsServer) (id : ConnectionId) (topic : StdString) : Prop :=
  id ∈ (s.topics.lookup topic).getD ∅

instance (s : WsServer) (id : ConnectionId) (topic : StdString) :
    Decidable (s.Subscribed id topic) :=
  inferInstanceAs (Decidable (id ∈ (s.topics.lookup topic).getD ∅))

/-- The messages that a call puts on the queue of a session. -/
def delivered (s : WsServer) (op : WsOperation) (c : ConnectionId) : List StdString :=
  match op with
  | .send id message => if c = id ∧ c ∈ s.sessions then [message] else []
  | .broadcast message => if c ∈ s.sessions then [message] else []
  | .broadcastToTopic topic message =>
    if c ∈ s.sessions ∧ s.Subscribed c topic then [message] else []
  | .subscribe _ _ | .unsubscribe _ _ => []

variable {s : WsServer} {id c : ConnectionId} {topic t message : StdString}

/-- A modification is about one session. -/
theorem objects_modifySession (f : WsSession → WsSession) :
    (s.modifySession id f).objects c = if c = id then f (s.objects c) else s.objects c := by
  show Function.update s.objects id (f (s.objects id)) c = _
  by_cases hc : c = id
  · subst hc
    rw [if_pos rfl, Function.update_self]
  · rw [if_neg hc, Function.update_of_ne hc]

@[simp]
theorem objects_modifySession_self (f : WsSession → WsSession) :
    (s.modifySession id f).objects id = f (s.objects id) := by
  rw [objects_modifySession, if_pos rfl]

/-- All other sessions stay as they are. -/
theorem objects_modifySession_of_ne (hc : c ≠ id) (f : WsSession → WsSession) :
    (s.modifySession id f).objects c = s.objects c := by
  rw [objects_modifySession, if_neg hc]

@[simp]
theorem sessions_modifySession (f : WsSession → WsSession) :
    (s.modifySession id f).sessions = s.sessions := rfl

@[simp]
theorem topics_modifySession (f : WsSession → WsSession) :
    (s.modifySession id f).topics = s.topics := rfl

@[simp]
theorem subscribed_modifySession (f : WsSession → WsSession) :
    (s.modifySession id f).Subscribed c t ↔ s.Subscribed c t := Iff.rfl

@[simp]
theorem nextId_modifySession (f : WsSession → WsSession) :
    (s.modifySession id f).nextId = s.nextId := rfl

/-- A subscription is added, and none is lost. -/
theorem subscribed_subscribe :
    (s.subscribe id topic).Subscribed c t ↔ (c = id ∧ t = topic) ∨ s.Subscribed c t := by
  rw [Subscribed, subscribe]
  by_cases ht : t = topic
  · subst ht
    rw [AList.lookup_insert, Option.getD_some, AList.mem_insert, Subscribed]
    simp only [and_true]
  · rw [AList.lookup_insert_ne ht, Subscribed]
    simp only [ht, and_false, false_or]

/-- A subscription is removed, and all others are kept. -/
theorem subscribed_unsubscribe :
    (s.unsubscribe id topic).Subscribed c t ↔ ¬ (c = id ∧ t = topic) ∧ s.Subscribed c t := by
  rw [unsubscribe]
  rcases hids : s.topics.lookup topic with _ | ids
  · have hnot : ¬ s.Subscribed c topic := by simp [Subscribed, hids]
    refine ⟨fun h => ⟨fun heq => hnot (heq.2 ▸ h), h⟩, And.right⟩
  · by_cases ht : t = topic
    · subst ht
      have hc : s.Subscribed c t ↔ c ∈ ids := by rw [Subscribed, hids, Option.getD_some]
      rw [hc, and_iff_left rfl, ← ne_eq, ← AList.mem_erase]
      dsimp only
      split
      next hempty =>
        -- The entry goes when the last id goes.
        have hnil : c ∉ ids.erase id := by
          rw [AList.mem_keys, List.isEmpty_iff.mp hempty]
          exact List.not_mem_nil
        rw [Subscribed, AList.lookup_erase]
        exact iff_of_false (AList.notMem_empty c) hnil
      next => rw [Subscribed, AList.lookup_insert, Option.getD_some]
    · have hlookup : ∀ ids', (s.topics.erase topic).lookup t = s.topics.lookup t ∧
          (s.topics.insert topic ids').lookup t = s.topics.lookup t := fun _ =>
        ⟨AList.lookup_erase_ne ht, AList.lookup_insert_ne ht⟩
      dsimp only
      split <;> simp [Subscribed, ht, hlookup]

/-- A session that is disconnected loses its subscriptions, and no other one does. -/
theorem subscribed_onSessionDisconnected :
    (s.onSessionDisconnected id).2.Subscribed c t ↔ c ≠ id ∧ s.Subscribed c t := by
  rw [Subscribed, onSessionDisconnected, AList.lookup_mapValues, Subscribed]
  cases s.topics.lookup t with
  | none => simp
  | some ids => exact AList.mem_erase

/-- A call connects and disconnects nobody. -/
theorem sessions_nextId_apply (op : WsOperation) :
    (s.apply op).sessions = s.sessions ∧ (s.apply op).nextId = s.nextId := by
  cases op with
  | send id message =>
    rw [apply, send]
    split <;> exact ⟨rfl, rfl⟩
  | broadcast message => exact ⟨rfl, rfl⟩
  | broadcastToTopic topic message =>
    rw [apply, broadcastToTopic]
    split <;> exact ⟨rfl, rfl⟩
  | subscribe id topic => exact ⟨rfl, rfl⟩
  | unsubscribe id topic =>
    rw [apply, unsubscribe]
    split
    · exact ⟨rfl, rfl⟩
    · dsimp only
      split <;> exact ⟨rfl, rfl⟩

@[simp]
theorem sessions_apply (op : WsOperation) : (s.apply op).sessions = s.sessions :=
  (sessions_nextId_apply op).1

@[simp]
theorem sessions_foldl_apply (ops : List WsOperation) :
    (ops.foldl apply s).sessions = s.sessions := by
  induction ops generalizing s with
  | nil => rfl
  | cons op ops ih => rw [List.foldl_cons, ih, sessions_apply]

@[simp]
theorem nextId_foldl_apply (ops : List WsOperation) :
    (ops.foldl apply s).nextId = s.nextId := by
  induction ops generalizing s with
  | nil => rfl
  | cons op ops ih => rw [List.foldl_cons, ih, (sessions_nextId_apply op).2]

/-- A call puts messages on queues and does nothing else to a session. -/
theorem objects_apply (op : WsOperation) :
    (s.apply op).objects c = (s.objects c).sendAll (s.delivered op c) := by
  -- Calls for one connection, for all of them, and for those with a topic.
  cases op with
  | send id message =>
    rw [apply, send, delivered]
    by_cases hid : id ∈ s.sessions
    · rw [if_pos hid, objects_modifySession]
      by_cases hc : c = id
      · rw [if_pos hc, if_pos ⟨hc, hc ▸ hid⟩]
        rfl
      · rw [if_neg hc, if_neg fun h => hc h.1]
        rfl
    · have hnot : ¬ (c = id ∧ c ∈ s.sessions) := fun h => hid (h.1 ▸ h.2)
      rw [if_neg hid, if_neg hnot]
      rfl
  | broadcast message =>
    show s.sessions.keys.visit _ s.objects c = _
    rw [List.visit_apply s.sessions.keys_nodup, delivered]
    simp only [← AList.mem_keys]
    split <;> rfl
  | broadcastToTopic topic message =>
    rw [apply, broadcastToTopic, delivered]
    rcases hids : s.topics.lookup topic with _ | ids
    · simp [Subscribed, hids]
    · have hc : s.Subscribed c topic ↔ c ∈ ids := by rw [Subscribed, hids, Option.getD_some]
      dsimp only
      rw [List.visit_apply ids.keys_nodup]
      simp only [← AList.mem_keys, hc]
      by_cases hmem : c ∈ s.sessions <;> by_cases hid : c ∈ ids <;> simp [hmem, hid]
  | subscribe id topic => rfl
  | unsubscribe id topic =>
    rw [apply, unsubscribe]
    split
    · rfl
    · dsimp only
      split <;> rfl

/-- Nothing is put on the queue of a session that is not connected. -/
theorem delivered_of_notMem (hc : c ∉ s.sessions) (op : WsOperation) : s.delivered op c = [] := by
  cases op <;> simp [delivered, hc]

/-- Calls put messages on queues, of connected sessions only. -/
theorem objects_foldl_apply (ops : List WsOperation) :
    ∃ messages, (ops.foldl apply s).objects c = (s.objects c).sendAll messages ∧
      (c ∉ s.sessions → messages = []) := by
  induction ops generalizing s with
  | nil => exact ⟨[], rfl, fun _ => rfl⟩
  | cons op ops ih =>
    obtain ⟨messages, hobject, hnone⟩ := ih (s := s.apply op)
    refine ⟨s.delivered op c ++ messages, ?_, fun hc => ?_⟩
    · rw [List.foldl_cons, hobject, objects_apply, WsSession.sendAll_append]
    · rw [delivered_of_notMem hc, hnone (by rwa [sessions_apply]), List.append_nil]

end WsServer

end IotDashboard
