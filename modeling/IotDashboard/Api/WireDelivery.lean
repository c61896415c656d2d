import IotDashboard.Api.ClientIsolation

/-!
# What is handed to a client's socket

Over a whole run, the messages with which the server calls `async_write` for a client are determined
by the publications and by what the client asked for, with no mention of queues, flags or callbacks:
the messages that were addressed to the client when they were published, in that order, none left
out, repeated or added. What is still to be handed on waits on the queue or is being written.

This is about the messages of the calls. Which bytes the socket finds when it gets to read one is a
matter of the storage that `DoWrite` has for it.

## Main definitions

* `WsServer.mail`: what was addressed to a client;
* `WsServer.completed` and `WsServer.succeeded`: the messages of the writes that are done, and of
  those that were done without an error.

## Main results

* `WsServer.accounted_of_run`: done, being written and queued make up what was addressed;
* `WsServer.handed_of_run`: the writes that succeed are the beginning of it, and all of it once
  nothing of the write chain is outstanding.
-/

namespace IotDashboard

open StdString

namespace WsSession

/-- The message that an operation writes. -/
def Operation.message? : Operation → Option StdString
  | write message => some message
  | _ => none

/-- What is being written. -/
def inFlight (session : WsSession) : List StdString :=
  session.outstanding.filterMap Operation.message?

/-- What is to be written yet. -/
def pending (session : WsSession) : List StdString := session.inFlight ++ session.writeQueue

variable {session : WsSession} {op : Operation} {message : StdString}

private theorem message?_of_isWrite (hop : op.isWrite = false) : op.message? = none := by
  cases op with
  | write message => cases hop
  | _ => rfl

/-- An operation that writes nothing comes and goes. -/
theorem inFlight_start (hop : op.message? = none) :
    (session.start op).inFlight = session.inFlight := by
  simp [inFlight, start, hop]

private theorem filterMap_message?_erase (hop : op.message? = none) (ops : List Operation) :
    (ops.erase op).filterMap Operation.message? = ops.filterMap Operation.message? := by
  induction ops with
  | nil => rfl
  | cons other ops ih =>
    rw [List.erase_cons]
    split
    · next heq =>
      rw [List.filterMap_cons_none (by rw [beq_iff_eq.mp heq, hop])]
    · rw [List.filterMap_cons, List.filterMap_cons, ih]

private theorem pending_finish (hop : op.message? = none) :
    (session.finish op).pending = session.pending := by
  rw [pending, inFlight, finish, filterMap_message?_erase hop, pending, inFlight]

/-- The write that completes was the only one. -/
theorem filterMap_message?_of_mem {ops : List Operation}
    (hone : ops.countP Operation.isWrite ≤ 1) (hmem : .write message ∈ ops) :
    ops.filterMap Operation.message? = [message] ∧
      (ops.erase (.write message)).filterMap Operation.message? = [] := by
  -- Behind or before the one operation of the write chain no message is written.
  have hnone {ops : List Operation} (h : ops.countP Operation.isWrite = 0) :
      ops.filterMap Operation.message? = [] := by
    rw [List.filterMap_eq_nil_iff]
    intro op hop
    exact message?_of_isWrite (by simpa using List.countP_eq_zero.mp h op hop)
  induction ops with
  | nil => cases hmem
  | cons op ops ih =>
    by_cases hop : op.isWrite = true
    · rw [List.countP_cons_of_pos hop] at hone
      have hzero : ops.countP Operation.isWrite = 0 := by omega
      rcases List.mem_cons.mp hmem with rfl | hmem
      · have hmessage : (Operation.write message).message? = some message := rfl
        rw [List.erase_cons_head, List.filterMap_cons_some hmessage, hnone hzero]
        exact ⟨rfl, rfl⟩
      · exact absurd rfl (List.countP_eq_zero.mp hzero _ hmem)
    · rw [List.countP_cons_of_neg hop] at hone
      have hsilent := message?_of_isWrite (Bool.not_eq_true _ ▸ hop)
      have hne : op ≠ .write message := by
        rintro rfl
        exact hop rfl
      have hmem' : .write message ∈ ops := (List.mem_cons.mp hmem).resolve_left hne.symm
      rw [List.erase_cons_tail (by simpa using hne), List.filterMap_cons_none hsilent,
        List.filterMap_cons_none hsilent]
      exact ih hone hmem'

private theorem pending_finish_write (hone : session.outstanding.countP Operation.isWrite ≤ 1)
    (hmem : .write message ∈ session.outstanding) :
    message :: (session.finish (.write message)).pending = session.pending := by
  obtain ⟨hbefore, hafter⟩ := filterMap_message?_of_mem hone hmem
  rw [pending, inFlight, finish, hafter, pending, inFlight, hbefore]
  rfl

private theorem pending_send : (session.send message).pending = session.pending ++ [message] := by
  by_cases hwriting : session.writing <;>
    simp [send, hwriting, pending, inFlight, start, Operation.message?]

private theorem pending_sendAll (messages : List StdString) :
    (session.sendAll messages).pending = session.pending ++ messages := by
  induction messages generalizing session with
  | nil => simp
  | cons message messages ih =>
    show ((session.send message).sendAll messages).pending = _
    rw [ih, pending_send, List.append_assoc, List.singleton_append]

private theorem pending_doRead : session.doRead.pending = session.pending := by
  rw [pending, doRead, inFlight_start rfl]
  rfl

/-- A message is taken from the queue and written. -/
theorem pending_doWrite : session.doWrite.pending = session.pending := by
  rw [doWrite]
  split
  · rfl
  · next message rest hqueue =>
    simp [pending, inFlight, start, Operation.message?, hqueue]

private theorem pending_onWritten : session.onWritten.pending = session.pending := by
  rw [onWritten]
  split
  · rfl
  · exact pending_doWrite

/-- A session that does not write has nothing to write. -/
def Drained (session : WsSession) : Prop := session.writing = false → session.writeQueue = []

private theorem drained_send : (session.send message).Drained := by
  intro hwriting
  by_cases h : session.writing <;> simp [send, h, start] at hwriting

/-- Sending to a drained session leaves it drained. -/
theorem Drained.sendAll (h : session.Drained) (messages : List StdString) :
    (session.sendAll messages).Drained := by
  induction messages generalizing session with
  | nil => exact h
  | cons message messages ih => exact ih drained_send

/-- The next write leaves it drained. -/
theorem Drained.doWrite (h : session.Drained) : session.doWrite.Drained := by
  rw [WsSession.doWrite]
  split
  · next hqueue => exact fun _ => hqueue
  · next message rest hqueue =>
    intro hwriting
    rw [h hwriting] at hqueue
    cases hqueue

/-- A write that is done leaves it drained. -/
theorem Drained.onWritten (h : session.Drained) : session.onWritten.Drained := by
  rw [WsSession.onWritten]
  split
  · next hempty => exact fun _ => List.isEmpty_iff.mp hempty
  · exact h.doWrite

end WsSession

/-- The messages whose write completes at the session. -/
def WsInput.completed (c : ConnectionId) : WsInput → List StdString
  | .completion id (.write message _) => if id = c then [message] else []
  | _ => []

/-- The messages whose write completes without an error. -/
def WsInput.succeeded (c : ConnectionId) : WsInput → List StdString
  | .completion id (.write message true) => if id = c then [message] else []
  | _ => []

namespace WsServer

/-- The messages of a history whose write completed at the session. -/
def completed (tr : Trace) (c : ConnectionId) : List StdString :=
  tr.flatMap fun entry => entry.1.completed c

/-- Those whose write completed without an error. -/
def succeeded (tr : Trace) (c : ConnectionId) : List StdString :=
  tr.flatMap fun entry => entry.1.succeeded c

/-! ## What is addressed to a client -/

/-- What a call publishes to the session, after the history. -/
def addressed (V : Vendor) (past : Trace) (c : ConnectionId) : WsOperation → List StdString
  | .send id message => if c = id ∧ Connected past c then [message] else []
  | .broadcast message => if Connected past c then [message] else []
  | .broadcastToTopic topic message =>
    if Connected past c ∧ (requests V past).mostRecent (c, topic) = some true then [message] else []
  | .subscribe _ _ | .unsubscribe _ _ => []

/-- What an input publishes to the session, after the history. A text publishes the answer to a
ping, to its sender. -/
def addressedBy (V : Vendor) (past : Trace) (c : ConnectionId) : WsInput → List StdString
  | .call op => addressed V past c op
  | .completion id (.read (.text payload)) =>
    if IsPing V payload ∧ c = id ∧ Connected past c then [pong] else []
  | _ => []

/-- Everything that a history published to the session, oldest first. -/
def mail (V : Vendor) (tr : Trace) (c : ConnectionId) : List StdString :=
  tr.collectAfter fun past entry => addressedBy V past c entry.1

variable {V : Vendor} {onMessage : WsMessage → List WsOperation} {tr : Trace} {s s' : WsServer}
  {c id : ConnectionId} {i : WsInput} {fired : List WsCallback}

@[simp]
theorem completed_snoc : completed (tr ++ [(i, fired)]) c = completed tr c ++ i.completed c := by
  simp [completed]

@[simp]
theorem succeeded_snoc : succeeded (tr ++ [(i, fired)]) c = succeeded tr c ++ i.succeeded c := by
  simp [succeeded]

@[simp]
theorem mail_snoc : mail V (tr ++ [(i, fired)]) c = mail V tr c ++ addressedBy V tr c i :=
  List.collectAfter_snoc _ tr (i, fired)

/-- Nothing is addressed to a session that is not connected. -/
theorem addressedBy_of_not_connected (hc : ¬ Connected tr c) : addressedBy V tr c i = [] := by
  have hop (op : WsOperation) : addressed V tr c op = [] := by
    cases op <;> simp [addressed, hc]
  rcases i with _ | ⟨id, (_ | _) | (_ | _ | payload | _) | _ | ⟨_, _ | _⟩⟩ | op
  case completion.read.text => exact if_neg fun h => hc h.2.2
  case call => exact hop op
  all_goals rfl

/-- What the callback publishes when it reads a text. -/
theorem flatMap_addressed_webSocketHandler (payload : StdString) :
    (webSocketHandler V ⟨id, payload⟩).flatMap (addressed V tr c) =
      addressedBy V tr c (.completion id (.read (.text payload))) := by
  have hrequest : ((subscriptionRequest V payload).toList.map (.ofRequest id)).flatMap
      (addressed V tr c) = [] := by
    rcases subscriptionRequest V payload with _ | ⟨topic, _ | _⟩ <;> rfl
  rw [webSocketHandler_eq, List.flatMap_append, hrequest, List.nil_append, addressedBy]
  by_cases hping : IsPing V payload
  · rw [if_pos hping, List.flatMap_singleton, addressed]
    exact if_congr (and_iff_right hping).symm rfl rfl
  · rw [if_neg hping, if_neg fun h => hping h.1]
    rfl

/-- A session that never connected has no mail. -/
theorem mail_of_not_onConnect (hc : .onConnect c ∉ callbacks tr) : mail V tr c = [] := by
  induction tr using List.reverseRecOn with
  | nil => rfl
  | append_singleton tr e ih =>
    obtain ⟨i, fired⟩ := e
    rw [callbacks_snoc, List.mem_append, not_or] at hc
    rw [mail_snoc, ih hc.1, addressedBy_of_not_connected fun h => hc.1 h.1]
    rfl

/-- What the tables say is what the history says. -/
theorem delivered_eq_addressed (hrun : Mealy.Run (step (webSocketHandler V)) Possible {} tr s)
    (op : WsOperation) : s.delivered op c = addressed V tr c op := by
  have hmem : c ∈ s.sessions ↔ Connected tr c := (tracks_of_run hrun c).mem_sessions
  cases op with
  | send id message => simp only [delivered, addressed, hmem]
  | broadcast message => simp only [delivered, addressed, hmem]
  | broadcastToTopic topic message =>
    have hboth : c ∈ s.sessions ∧ s.Subscribed c topic ↔ Connected tr c ∧
        (requests V tr).mostRecent (c, topic) = some true := by
      rw [hmem, ← changes_eq_requests]
      exact and_congr_right fun hc => subscribed_iff_mostRecent hrun hc.2
    simp only [delivered, addressed, hboth]
  | subscribe id topic => rfl
  | unsubscribe id topic => rfl

/-! ## One step -/

/-- The messages of a history are done with, being written, or on the queue. -/
structure Accounted (V : Vendor) (tr : Trace) (s : WsServer) (c : ConnectionId) : Prop where
  messages : completed tr c ++ (s.objects c).pending = mail V tr c
  drained : (s.objects c).Drained

/-- A step that completes no write of the session and puts messages on its queue. -/
theorem Accounted.sends (h : Accounted V tr s c) (hcompleted : i.completed c = [])
    (hpending : (s'.objects c).pending =
      (s.objects c).pending ++ addressedBy V tr c i)
    (hdrained : (s'.objects c).Drained) : Accounted V (tr ++ [(i, fired)]) s' c := by
  refine ⟨?_, hdrained⟩
  rw [completed_snoc, hcompleted, List.append_nil, hpending, mail_snoc, ← h.messages,
    List.append_assoc]

private theorem accounted_socket (hrun : Mealy.Run (step (webSocketHandler V)) Possible {} tr s)
    (h : Accounted V tr s c) : Accounted V (tr ++ [(.socket, fired)]) s.onSocket c := by
  by_cases hc : c = s.nextId
  · -- The id is new, so nothing was addressed to it.
    have hmail : mail V tr c = [] :=
      mail_of_not_onConnect ((tracks_of_run hrun c).fresh hc.ge).2
    have hpending : (s.objects c).pending = [] :=
      (List.append_eq_nil_iff.mp (h.messages.trans hmail)).2
    have hobject : s.onSocket.objects c = .start .accept {} := by
      rw [onSocket, objects_modifySession, if_pos hc]
    refine h.sends rfl ?_ ?_
    · rw [hobject, hpending]
      rfl
    · rw [hobject]
      exact fun _ => rfl
  · have hobject : s.onSocket.objects c = s.objects c := by
      rw [onSocket, objects_modifySession, if_neg hc]
    refine h.sends rfl ?_ ?_
    · rw [hobject]
      exact (List.append_nil _).symm
    · rw [hobject]
      exact h.drained

private theorem accounted_call (hrun : Mealy.Run (step (webSocketHandler V)) Possible {} tr s)
    (h : Accounted V tr s c) (op : WsOperation) :
    Accounted V (tr ++ [(.call op, fired)]) (s.apply op) c := by
  refine h.sends rfl ?_ ?_
  · rw [objects_apply, WsSession.pending_sendAll, delivered_eq_addressed hrun, addressedBy]
  · rw [objects_apply]
    exact h.drained.sendAll _

/-- What another session does neither writes nor addresses anything. -/
theorem accounted_other (h : Accounted V tr s c) (hid : c ≠ id) (completion : Completion) :
    Accounted V (tr ++ [(.completion id completion, fired)])
      (s.step (webSocketHandler V) (.completion id completion)).2 c := by
  have hsame : SameFor c (s.step (webSocketHandler V) (.completion id completion)).2 s :=
    (sameFor_onCompletion_of_ne hid completion).trans (sameFor_modifySession_of_ne hid _)
  have hcompleted : (WsInput.completion id completion).completed c = [] := by
    cases completion with
    | write message succeeded => exact if_neg hid.symm
    | _ => rfl
  have haddressed : addressedBy V tr c (.completion id completion) = [] := by
    rcases completion with (_ | _) | (_ | _ | payload | _) | _ | ⟨_, _ | _⟩
    case read.text => exact if_neg fun h => hid h.2.1
    all_goals rfl
  refine h.sends hcompleted ?_ ?_
  · rw [hsame.object, haddressed, List.append_nil]
  · rw [hsame.object]
    exact h.drained

/-- The calls that a text message asks for put on the queue of its sender what they address. -/
theorem objects_foldl_webSocketHandler
    (hrun : Mealy.Run (step (webSocketHandler V)) Possible {} tr s) (payload : StdString)
    (f : WsSession → WsSession) :
    ((webSocketHandler V ⟨c, payload⟩).foldl apply (s.modifySession c f)).objects c =
      (f (s.objects c)).sendAll
        (addressedBy V tr c (.completion c (.read (.text payload)))) := by
  have hone (op : WsOperation) : ((s.modifySession c f).apply op).objects c =
      (f (s.objects c)).sendAll (addressed V tr c op) := by
    have hdelivered : (s.modifySession c f).delivered op c = s.delivered op c := by
      cases op <;> rfl
    rw [objects_apply, objects_modifySession_self, hdelivered, delivered_eq_addressed hrun]
  rw [← flatMap_addressed_webSocketHandler]
  obtain h | ⟨topic, h⟩ | ⟨topic, h⟩ | ⟨message, h⟩ := webSocketHandler_cases V ⟨c, payload⟩
  · rw [h]
    exact objects_modifySession_self f
  all_goals
    rw [h, List.flatMap_singleton, List.foldl_cons, List.foldl_nil]
    exact hone _

/-- An operation that writes nothing completes at the session. -/
theorem Accounted.silent (h : Accounted V tr s c) {op : WsSession.Operation}
    (hsilent : op.message? = none) (hcompleted : i.completed c = []) {f : WsSession → WsSession}
    (hobject : s'.objects c = f ((s.objects c).finish op))
    (hpending : ∀ session, (f session).pending =
      session.pending ++ addressedBy V tr c i)
    (hdrained : ∀ session, session.Drained → (f session).Drained) :
    Accounted V (tr ++ [(i, fired)]) s' c := by
  refine h.sends hcompleted ?_ ?_
  · rw [hobject, hpending, WsSession.pending_finish hsilent]
  · rw [hobject]
    exact hdrained _ h.drained

/-- A write completes at the session: its message is done with. -/
theorem Accounted.writes (h : Accounted V tr s c) {message : StdString} {succeeded : Bool}
    (hone : (s.objects c).outstanding.countP WsSession.Operation.isWrite ≤ 1)
    (hop : .write message ∈ (s.objects c).outstanding) {f : WsSession → WsSession}
    (hobject : s'.objects c = f ((s.objects c).finish (.write message)))
    (hpending : ∀ session, (f session).pending = session.pending)
    (hdrained : ∀ session, session.Drained → (f session).Drained) :
    Accounted V (tr ++ [(.completion c (.write message succeeded), fired)]) s' c := by
  constructor
  · have hmail : addressedBy V tr c
        (.completion c (.write message succeeded)) = [] := rfl
    rw [completed_snoc, WsInput.completed, if_pos rfl, hobject, hpending, mail_snoc, hmail,
      List.append_nil, ← h.messages, ← WsSession.pending_finish_write hone hop, List.append_assoc,
      List.singleton_append]
  · rw [hobject]
    exact hdrained _ h.drained

/-- A completion at the session itself. -/
theorem accounted_self (hrun : Mealy.Run (step (webSocketHandler V)) Possible {} tr s)
    (h : Accounted V tr s c) {completion : Completion}
    (hop : completion.operation ∈ (s.objects c).outstanding) :
    Accounted V (tr ++ [(.completion c completion, fired)])
      (s.step (webSocketHandler V) (.completion c completion)).2 c := by
  have hfinished : (s.modifySession c (.finish completion.operation)).objects c =
      (s.objects c).finish completion.operation := objects_modifySession_self _
  have hthen (f : WsSession → WsSession) : ((s.modifySession c (.finish completion.operation))
      |>.modifySession c f).objects c = f ((s.objects c).finish completion.operation) :=
    (objects_modifySession_self f).trans (congrArg f hfinished)
  have hnothing (session : WsSession) : session.pending = session.pending ++ [] :=
    (List.append_nil _).symm
  rcases completion with (_ | _) | (_ | _ | payload | _) | _ | ⟨message, succeeded⟩
  case accept.false => exact h.silent rfl rfl (f := id) hfinished hnothing fun _ h => h
  case accept.true =>
    exact h.silent rfl rfl (hthen .doRead)
      (fun session => WsSession.pending_doRead.trans (hnothing session)) fun _ h => h
  case read.closed => exact h.silent rfl rfl (f := id) hfinished hnothing fun _ h => h
  case read.error => exact h.silent rfl rfl (f := id) hfinished hnothing fun _ h => h
  case read.text =>
    -- The callback runs between the end of the read and the next one.
    let messages := addressedBy V tr c (.completion c (.read (.text payload)))
    have hobject : (s.step (webSocketHandler V) (.completion c (.read (.text payload)))).2.objects c
        = (((s.objects c).finish .read).sendAll messages).doRead :=
      (objects_modifySession_self _).trans
        (congrArg WsSession.doRead (objects_foldl_webSocketHandler hrun payload _))
    exact h.silent rfl rfl (f := fun session => (session.sendAll messages).doRead) hobject
      (fun session => WsSession.pending_doRead.trans (WsSession.pending_sendAll messages))
      fun session h => WsSession.Drained.sendAll h messages
  case read.binary =>
    exact h.silent rfl rfl (hthen .doRead)
      (fun session => WsSession.pending_doRead.trans (hnothing session)) fun _ h => h
  case doWrite =>
    exact h.silent rfl rfl (hthen .doWrite)
      (fun session => WsSession.pending_doWrite.trans (hnothing session)) fun _ h => h.doWrite
  case write =>
    have hconnected := (tracks_of_run hrun c).connected hop (by simp [Completion.operation])
    have hwriter := ((tracks_of_run hrun c).opened hconnected).writer
    have hle := Bool.toNat_le (s.objects c).writing
    have hone : (s.objects c).outstanding.countP WsSession.Operation.isWrite ≤ 1 := by omega
    cases succeeded with
    | false => exact h.writes hone hop (f := id) hfinished (fun _ => rfl) fun _ h => h
    | true =>
      exact h.writes hone hop (hthen .onWritten) (fun _ => WsSession.pending_onWritten)
        fun _ h => h.onWritten

/-! ## Runs -/

/-- For every run and every client: the messages of its completed writes, those being written and
those on its queue are, in this order, the messages that were addressed to it. -/
theorem accounted_of_run (hrun : Mealy.Run (step (webSocketHandler V)) Possible {} tr s)
    (c : ConnectionId) : Accounted V tr s c := by
  induction hrun with
  | nil => exact ⟨rfl, fun _ => rfl⟩
  | @snoc tr s i hrun hpossible ih =>
    rcases i with _ | ⟨id, completion⟩ | op
    · exact accounted_socket hrun ih
    · by_cases hid : c = id
      · subst hid
        exact accounted_self hrun ih hpossible
      · exact accounted_other ih hid completion
    · exact accounted_call hrun ih op

/-- Only the last write can fail. -/
theorem succeeded_isPrefix_completed (hrun : Mealy.Run (step onMessage) Possible {} tr s)
    (c : ConnectionId) :
    succeeded tr c <+: completed tr c ∧
      (writeErrors tr c = 0 → succeeded tr c = completed tr c) := by
  induction hrun with
  | nil => exact ⟨List.nil_prefix, fun _ => rfl⟩
  | @snoc tr s i hrun hpossible ih =>
    obtain ⟨hbegins, heq⟩ := ih
    have hquiet (hcompleted : i.completed c = []) (hsucceeded : i.succeeded c = [])
        (hfail : i.failsWriting c = false) :
        succeeded (tr ++ [(i, (s.step onMessage i).1)]) c <+:
          completed (tr ++ [(i, (s.step onMessage i).1)]) c ∧
        (writeErrors (tr ++ [(i, (s.step onMessage i).1)]) c = 0 →
          succeeded (tr ++ [(i, (s.step onMessage i).1)]) c =
            completed (tr ++ [(i, (s.step onMessage i).1)]) c) := by
      have herrors : writeErrors (tr ++ [(i, (s.step onMessage i).1)]) c = writeErrors tr c := by
        simp [writeErrors, hfail]
      rw [herrors, succeeded_snoc, completed_snoc, hcompleted, hsucceeded, List.append_nil,
        List.append_nil]
      exact ⟨hbegins, heq⟩
    rcases i with _ | ⟨id, completion⟩ | op
    · exact hquiet rfl rfl rfl
    · rcases completion with _ | _ | _ | ⟨message, succeeded⟩
      · exact hquiet rfl rfl rfl
      · rename_i result
        cases result <;> exact hquiet rfl rfl rfl
      · exact hquiet rfl rfl rfl
      · by_cases hid : id = c
        · subst hid
          -- A write completes, so none has failed before.
          have hconnected := (tracks_of_run hrun id).connected hpossible
            (by simp [Completion.operation])
          have hnone : writeErrors tr id = 0 :=
            (((tracks_of_run hrun id).opened hconnected).finish_write hpossible rfl).1
          rw [succeeded_snoc, completed_snoc, heq hnone]
          cases succeeded with
          | true => simp [WsInput.succeeded, WsInput.completed]
          | false =>
            refine ⟨?_, fun herrors => ?_⟩
            · simp [WsInput.succeeded, WsInput.completed]
            · simp [writeErrors, WsInput.failsWriting] at herrors
        · refine hquiet (if_neg hid) ?_ ?_
          · cases succeeded
            · rfl
            · exact if_neg hid
          · cases succeeded
            · exact beq_eq_false_iff_ne.mpr hid
            · rfl
    · exact hquiet rfl rfl rfl

/-- In every run, the messages of the writes of a client that are done, of the one that is
outstanding and of its queue make up, in this order, what was addressed to it: nothing out of order,
nothing twice and nothing else. The writes that succeed begin it, and unless one fails they are all
of it once nothing of the write chain is outstanding. -/
theorem handed_of_run (hrun : Mealy.Run (step (webSocketHandler V)) Possible {} tr s)
    (c : ConnectionId) :
    completed tr c ++ (s.objects c).inFlight ++ (s.objects c).writeQueue =
      mail V tr c ∧
    succeeded tr c <+: mail V tr c ∧
    (writeErrors tr c = 0 → (∀ op ∈ (s.objects c).outstanding, op.isWrite = false) →
      succeeded tr c = mail V tr c) := by
  obtain ⟨hmessages, hdrained⟩ := accounted_of_run hrun c
  obtain ⟨hsucceeded, hcompleted⟩ := succeeded_isPrefix_completed hrun c
  rw [WsSession.pending] at hmessages
  refine ⟨?_, ?_, fun hnone hidle => ?_⟩
  · rw [← hmessages, List.append_assoc]
  · exact hsucceeded.trans (hmessages ▸ List.prefix_append _ _)
  · -- Nothing is being written, so nothing waits either.
    have hinFlight : (s.objects c).inFlight = [] :=
      List.filterMap_eq_nil_iff.mpr fun op hop => WsSession.message?_of_isWrite (hidle op hop)
    have hwriting : (s.objects c).writing = false := by
      by_cases hconnected : .onConnect c ∈ callbacks tr
      · have hwriter := ((tracks_of_run hrun c).opened hconnected).writer
        have hcount : (s.objects c).outstanding.countP WsSession.Operation.isWrite = 0 :=
          List.countP_eq_zero.mpr fun op hop => Bool.eq_false_iff.mp (hidle op hop)
        rw [hcount, hnone] at hwriter
        exact Bool.toNat_eq_zero.mp hwriter.symm
      · exact ((tracks_of_run hrun c).idle hconnected).1.writing
    rw [hinFlight, hdrained hwriting, List.append_nil, List.append_nil] at hmessages
    rw [hcompleted hnone, hmessages]

/-- A client asks for a topic, there is an alert on the topic, and its write succeeds. -/
def oneAlert : List WsInput :=
  [.socket, .completion 1 (.accept true),
    .completion 1 (.read (.text (lit "\x7b\"type\":\"subscribe\",\"topic\":\"alerts\"\x7d"))),
    .call (.broadcastToTopic (lit "alerts") (lit "fire")), .completion 1 .doWrite,
    .completion 1 (.write (lit "fire") true)]

/-- The alert is handed on to the subscriber. -/
theorem handed_of_run_oneAlert :
    let run := Mealy.exec (step (webSocketHandler Vendor.reference)) {} oneAlert
    succeeded run.1 1 = mail Vendor.reference run.1 1 ∧ succeeded run.1 1 = [lit "fire"] := by
  have hallowed : Mealy.Allowed (step (webSocketHandler Vendor.reference)) Possible [] {}
      oneAlert := by
    refine ⟨?_, ?_, ?_, ?_, ?_, ?_, trivial⟩ <;> decide +kernel
  refine ⟨(handed_of_run (V := Vendor.reference) (Mealy.Run.exec hallowed) 1).2.2 ?_ ?_, ?_⟩ <;>
    decide +kernel

end WsServer

end IotDashboard
