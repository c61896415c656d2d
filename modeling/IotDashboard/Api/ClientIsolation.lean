import IotDashboard.Api.PubSub
import IotDashboard.Foundation.Noninterference

/-!
# Clients do not disturb each other

A client of the WebSocket server is served as if the other clients had connected and then stayed
silent: whatever they send, however their reads and writes complete, and in whatever order their
handlers run, the session of the client, its subscriptions and its callbacks are those of the run
in which none of that happened.

## Main definitions

* `WsInput.concerns`: the inputs that may change something for a client;
* `WsServer.observer`: what there is to see of a client.

## Main results

* `WsServer.unwinds`: the two conditions on one step of the server;
* `WsServer.clients_isolated`: the isolation of clients in whole runs.
-/

namespace IotDashboard

open StdString

/-- The session of which a callback tells. -/
def WsCallback.session : WsCallback → ConnectionId
  | onConnect id => id
  | onDisconnect id => id
  | onMessage msg => msg.connectionId

/-- A call is about the session, or about all of them. -/
def WsOperation.concerns (c : ConnectionId) : WsOperation → Bool
  | send id _ => id == c
  | broadcast _ => true
  | broadcastToTopic _ _ => true
  | subscribe id _ => id == c
  | unsubscribe id _ => id == c

/-- The inputs that may change something for a session. An accepted socket takes the next id. -/
def WsInput.concerns (c : ConnectionId) : WsInput → Bool
  | socket => true
  | completion id _ => id == c
  | call op => op.concerns c

namespace WsServer

/-- The servers agree on a session. -/
structure SameFor (c : ConnectionId) (s s' : WsServer) : Prop where
  nextId : s.nextId = s'.nextId
  object : s.objects c = s'.objects c
  mem_sessions : c ∈ s.sessions ↔ c ∈ s'.sessions
  subscribed : ∀ topic, s.Subscribed c topic ↔ s'.Subscribed c topic

/-- What there is to see of a session: its part of the state, and the callbacks about it. -/
def observer (c : ConnectionId) : Mealy.Observer WsServer WsInput (List WsCallback) WsCallback where
  Same := SameFor c
  concerns := WsInput.concerns c
  sees entry := entry.2.filter fun callback => callback.session == c

variable {V : Vendor} {onMessage : WsMessage → List WsOperation} {tr : Trace} {s s' t : WsServer}
  {c id : ConnectionId} {topic : StdString}

theorem SameFor.refl (c : ConnectionId) (s : WsServer) : SameFor c s s :=
  ⟨rfl, rfl, Iff.rfl, fun _ => Iff.rfl⟩

/-- What looks the same twice looks the same. -/
theorem SameFor.trans (h : SameFor c s s') (h' : SameFor c s' t) : SameFor c s t :=
  ⟨h.nextId.trans h'.nextId, h.object.trans h'.object, h.mem_sessions.trans h'.mem_sessions,
    fun topic => (h.subscribed topic).trans (h'.subscribed topic)⟩

/-- Looking the same goes both ways. -/
theorem SameFor.symm (h : SameFor c s s') : SameFor c s' s :=
  ⟨h.nextId.symm, h.object.symm, h.mem_sessions.symm, fun topic => (h.subscribed topic).symm⟩

/-! ## What another session does -/

/-- A client does not see what is done to another session. -/
theorem sameFor_modifySession_of_ne (hid : c ≠ id) (f : WsSession → WsSession) :
    SameFor c (s.modifySession id f) s :=
  ⟨rfl, objects_modifySession_of_ne hid f, Iff.rfl, fun _ => Iff.rfl⟩

private theorem sameFor_onSessionConnected_of_ne (hid : c ≠ id) :
    SameFor c (s.onSessionConnected id).2 s := by
  refine ⟨rfl, rfl, ?_, fun _ => Iff.rfl⟩
  show c ∈ s.sessions.insert id () ↔ _
  rw [AList.mem_insert, or_iff_right hid]

private theorem sameFor_onSessionDisconnected_of_ne (hid : c ≠ id) :
    SameFor c (s.onSessionDisconnected id).2 s := by
  refine ⟨rfl, rfl, ?_, fun topic => ?_⟩
  · show c ∈ s.sessions.erase id ↔ _
    rw [AList.mem_erase, and_iff_right hid]
  · rw [subscribed_onSessionDisconnected, and_iff_right hid]

/-- A call that is not about the session changes nothing for it. -/
theorem sameFor_apply_of_concerns {op : WsOperation} (hop : op.concerns c = false) :
    SameFor c (s.apply op) s := by
  have hdelivered : s.delivered op c = [] := by
    cases op with
    | send id message =>
      rw [delivered, if_neg fun h => ?_]
      exact absurd h.1.symm (beq_eq_false_iff_ne.mp hop)
    | broadcast message => cases hop
    | broadcastToTopic topic message => cases hop
    | subscribe id topic => rfl
    | unsubscribe id topic => rfl
  refine ⟨(sessions_nextId_apply op).2, ?_, ?_, fun topic => ?_⟩
  · rw [objects_apply, hdelivered, WsSession.sendAll_nil]
  · rw [sessions_apply]
  · cases op with
    | send id message => rw [Subscribed, topics_apply_of_change rfl, Subscribed]
    | broadcast message => cases hop
    | broadcastToTopic topic message => cases hop
    | subscribe id other =>
      rw [apply, subscribed_subscribe]
      simp [(beq_eq_false_iff_ne.mp hop).symm]
    | unsubscribe id other =>
      rw [apply, subscribed_unsubscribe]
      simp [(beq_eq_false_iff_ne.mp hop).symm]

/-- The calls that a message of another session asks for change nothing. -/
theorem sameFor_foldl_apply {ops : List WsOperation} (hops : ∀ op ∈ ops, op.concerns c = false) :
    SameFor c (ops.foldl apply s) s := by
  induction ops generalizing s with
  | nil => exact .refl c s
  | cons op ops ih =>
    have hop := sameFor_apply_of_concerns (s := s) (hops op List.mem_cons_self)
    exact (ih fun op' hmem => hops op' (List.mem_cons_of_mem _ hmem)).trans hop

/-- A message asks for calls about its sender only. -/
theorem concerns_of_mem_webSocketHandler {msg : WsMessage} {op : WsOperation}
    (hc : c ≠ msg.connectionId) (hop : op ∈ webSocketHandler V msg) : op.concerns c = false := by
  obtain h | ⟨topic, h⟩ | ⟨topic, h⟩ | ⟨message, h⟩ := webSocketHandler_cases V msg
  · rw [h] at hop
    exact absurd hop List.not_mem_nil
  all_goals
    rw [h, List.mem_singleton] at hop
    subst hop
    exact beq_eq_false_iff_ne.mpr hc.symm

/-- The handler of a completion at another session changes nothing. -/
theorem sameFor_onCompletion_of_ne (hid : c ≠ id) (completion : Completion) :
    SameFor c (s.onCompletion (webSocketHandler V) id completion).2 s := by
  rcases completion with (_ | _) | (_ | _ | payload | _) | _ | ⟨message, _ | _⟩
  case accept.true =>
    exact (sameFor_modifySession_of_ne hid _).trans (sameFor_onSessionConnected_of_ne hid)
  case read.text =>
    exact (sameFor_modifySession_of_ne hid _).trans
      (sameFor_foldl_apply fun op hop => concerns_of_mem_webSocketHandler hid hop)
  all_goals
    first
    | exact .refl c s
    | exact sameFor_modifySession_of_ne hid _
    | exact sameFor_onSessionDisconnected_of_ne hid

/-! ## What concerns the session -/

/-- What is done to its own session it sees in both servers alike. -/
theorem SameFor.modifySession (h : SameFor c s t) (f : WsSession → WsSession) :
    SameFor c (s.modifySession c f) (t.modifySession c f) := by
  refine ⟨h.nextId, ?_, h.mem_sessions, h.subscribed⟩
  rw [objects_modifySession_self, objects_modifySession_self, h.object]

/-- It sees new sessions in both servers alike. -/
theorem SameFor.onSessionConnected (h : SameFor c s t) (id : ConnectionId) :
    SameFor c (s.onSessionConnected id).2 (t.onSessionConnected id).2 := by
  refine ⟨h.nextId, h.object, ?_, h.subscribed⟩
  show c ∈ s.sessions.insert id () ↔ c ∈ t.sessions.insert id ()
  rw [AList.mem_insert, AList.mem_insert, h.mem_sessions]

/-- It sees the end of a session in both servers alike. -/
theorem SameFor.onSessionDisconnected (h : SameFor c s t) (id : ConnectionId) :
    SameFor c (s.onSessionDisconnected id).2 (t.onSessionDisconnected id).2 := by
  refine ⟨h.nextId, h.object, ?_, fun topic => ?_⟩
  · show c ∈ s.sessions.erase id ↔ c ∈ t.sessions.erase id
    rw [AList.mem_erase, AList.mem_erase, h.mem_sessions]
  · rw [subscribed_onSessionDisconnected, subscribed_onSessionDisconnected, h.subscribed]

/-- A call puts the same messages on the queue. -/
theorem SameFor.delivered (h : SameFor c s t) (op : WsOperation) :
    s.delivered op c = t.delivered op c := by
  cases op <;> simp [WsServer.delivered, h.mem_sessions, h.subscribed]

/-- It sees an operation in both servers alike. -/
theorem SameFor.apply (h : SameFor c s t) (op : WsOperation) :
    SameFor c (s.apply op) (t.apply op) := by
  refine ⟨?_, ?_, ?_, fun topic => ?_⟩
  · rw [(sessions_nextId_apply op).2, (sessions_nextId_apply op).2, h.nextId]
  · rw [objects_apply, objects_apply, h.object, h.delivered]
  · rw [sessions_apply, sessions_apply, h.mem_sessions]
  · cases op with
    | subscribe id other =>
      rw [WsServer.apply, WsServer.apply, subscribed_subscribe, subscribed_subscribe, h.subscribed]
    | unsubscribe id other =>
      rw [WsServer.apply, WsServer.apply, subscribed_unsubscribe, subscribed_unsubscribe,
        h.subscribed]
    | _ =>
      rw [Subscribed, topics_apply_of_change rfl, ← Subscribed, h.subscribed, Subscribed,
        Subscribed, topics_apply_of_change rfl]

private theorem SameFor.foldl_apply (h : SameFor c s t) (ops : List WsOperation) :
    SameFor c (ops.foldl WsServer.apply s) (ops.foldl WsServer.apply t) := by
  induction ops generalizing s t with
  | nil => exact h
  | cons op ops ih => exact ih (h.apply op)

/-- The handler of a completion at the session does the same in both servers. -/
theorem SameFor.onCompletion (h : SameFor c s t) (completion : Completion) :
    SameFor c (s.onCompletion onMessage c completion).2
      (t.onCompletion onMessage c completion).2 := by
  rcases completion with (_ | _) | (_ | _ | payload | _) | _ | ⟨message, _ | _⟩
  case accept.true => exact (h.onSessionConnected c).modifySession _
  case read.text => exact (h.foldl_apply _).modifySession _
  all_goals
    first
    | exact h
    | exact h.modifySession _
    | exact h.onSessionDisconnected c

/-- It sees a new socket in both servers alike. -/
theorem SameFor.onSocket (h : SameFor c s t) : SameFor c s.onSocket t.onSocket := by
  refine ⟨congrArg (· + 1) h.nextId, ?_, h.mem_sessions, h.subscribed⟩
  rw [WsServer.onSocket, WsServer.onSocket, objects_modifySession, objects_modifySession,
    h.nextId]
  dsimp only
  rw [h.object]

/-! ## Runs -/

/-- Callbacks are about the session whose handler runs. -/
theorem session_of_mem_callbacks {completion : Completion} {callback : WsCallback}
    (hmem : callback ∈ (WsInput.completion id completion).callbacks) : callback.session = id := by
  rcases completion with (_ | _) | (_ | _ | payload | _) | _ | ⟨message, _ | _⟩ <;>
    first
    | exact absurd hmem List.not_mem_nil
    | exact (List.mem_singleton.mp hmem).symm ▸ rfl

/-- What the other sessions do shows nothing; what concerns the session shows the same. -/
theorem unwinds (V : Vendor) (c : ConnectionId) :
    (observer c).Unwinds (step (webSocketHandler V)) (Possible []) where
  hidden {s t i} hsame _ hi := by
    cases i with
    | socket => cases hi
    | call op => exact ⟨rfl, (sameFor_apply_of_concerns hi).trans hsame⟩
    | completion id completion =>
      -- A completion of another connection calls nothing back here.
      have hid : c ≠ id := (beq_eq_false_iff_ne.mp hi).symm
      refine ⟨?_, ?_⟩
      · show List.filter _ _ = []
        rw [fst_step, List.filter_eq_nil_iff]
        intro callback hmem
        rw [session_of_mem_callbacks hmem, beq_iff_eq]
        exact hid.symm
      · exact ((sameFor_onCompletion_of_ne hid completion).trans
          (sameFor_modifySession_of_ne hid _)).trans hsame
  seen {s t i} hsame hpossible hi := by
    refine ⟨?_, ?_, ?_⟩
    · cases i with
      -- Sockets and calls are always possible; a completion needs its operation.
      | socket => trivial
      | call op => trivial
      | completion id completion =>
        obtain rfl : id = c := beq_iff_eq.mp hi
        show completion.operation ∈ (t.objects id).outstanding
        rw [← hsame.object]
        exact hpossible
    · show List.filter _ _ = List.filter _ _
      rw [fst_step, fst_step]
    · cases i with
      | socket => exact SameFor.onSocket hsame
      | call op => exact SameFor.apply hsame op
      | completion id completion =>
        obtain rfl : id = c := beq_iff_eq.mp hi
        exact SameFor.onCompletion (SameFor.modifySession hsame _) completion

/-- In every run, a client sees what it would see had the other clients connected and then done
nothing; so in two runs that differ in the other clients only, it sees the same. -/
theorem clients_isolated (hrun : Mealy.Run (step (webSocketHandler V)) Possible {} tr s)
    (c : ConnectionId) :
    (∃ tr' s', Mealy.Run (step (webSocketHandler V)) Possible {} tr' s' ∧
      tr'.map Prod.fst = (tr.map Prod.fst).filter (WsInput.concerns c) ∧
      (observer c).view tr' = (observer c).view tr ∧ SameFor c s s') ∧
    ∀ tr' s', Mealy.Run (step (webSocketHandler V)) Possible {} tr' s' →
      (tr'.map Prod.fst).filter (WsInput.concerns c) =
        (tr.map Prod.fst).filter (WsInput.concerns c) →
      (observer c).view tr' = (observer c).view tr ∧ SameFor c s s' := by
  -- The condition on completions does not look at the history.
  have hpossible {tr s} (hrun : Mealy.Run (step (webSocketHandler V)) Possible {} tr s) :
      Mealy.Run (step (webSocketHandler V)) (fun _ => Possible []) {} tr s :=
    hrun.imp fun _ _ _ h => h
  refine ⟨?_, fun tr' s' hrun' hinputs => ?_⟩
  · obtain ⟨tr', s', hrun', hinputs, hview, hsame⟩ :=
      (hpossible hrun).purge (unwinds V c) (SameFor.refl c {})
    exact ⟨tr', s', hrun'.imp fun _ _ _ h => h, hinputs, hview, hsame⟩
  · obtain ⟨hview, t, hsame, hsame'⟩ := (hpossible hrun).noninterference (hpossible hrun')
      (unwinds V c) (SameFor.refl c {}) hinputs.symm
    exact ⟨hview.symm, hsame.trans hsame'.symm⟩

/-- Of two clients, the second one subscribes and is sent something. -/
def busyNeighbour : List WsInput :=
  [.socket, .completion 1 (.accept true), .socket, .completion 2 (.accept true),
    .call (.subscribe 2 (lit "alerts")), .call (.broadcastToTopic (lit "alerts") (lit "fire"))]

/-- Without the inputs of the second client there is a run that looks the same to the first. -/
theorem clients_isolated_busyNeighbour :
    let run := Mealy.exec (step (webSocketHandler Vendor.reference)) {} busyNeighbour
    ∃ tr' s', tr'.map Prod.fst = [WsInput.socket, .completion 1 (.accept true), .socket,
        .call (.broadcastToTopic (lit "alerts") (lit "fire"))] ∧
      (observer 1).view tr' = (observer 1).view run.1 ∧ SameFor 1 run.2 s' := by
  obtain ⟨tr', s', -, hinputs, hview, hsame⟩ := (clients_isolated (V := Vendor.reference)
    (Mealy.Run.exec (show Mealy.Allowed _ _ _ _ busyNeighbour by decide)) 1).1
  exact ⟨tr', s', hinputs.trans (by decide), hview, hsame⟩

end WsServer

end IotDashboard
