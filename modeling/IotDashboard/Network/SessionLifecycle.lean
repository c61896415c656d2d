import IotDashboard.Network.WsServer

/-!
# The life of a WebSocket session

The read loop and the write chain of a session fail independently of each other, and each reports
the disconnect. How often `OnDisconnect` fires is therefore the number of the two that have
ended; a session whose write has failed goes on reading.

## Main definitions

* `WsSession.Open`: what is outstanding of a connected session;
* `WsServer.Tracks`: a session's part of the server state, from the history;
* `WsServer.Lifecycle`: the order and number of the callbacks of a session.

## Main results

* `WsServer.tracks_of_run`: the invariant;
* `WsServer.lifecycle_iff`: the callbacks come as they should exactly when no read completes after
  a failed write, unless with a binary message, and no write fails after the end of the read loop.
-/

namespace IotDashboard

namespace WsSession

/-- An operation of the write chain. -/
def Operation.isWrite : Operation → Bool
  | accept | read => false
  | doWrite | write _ => true

/-- A session that has not been reported as connected. -/
structure Idle (session : WsSession) : Prop where
  outstanding : session.outstanding = [] ∨ session.outstanding = [.accept]
  writing : session.writing = false

/-- A connected session: one read is outstanding until the read loop ends, and one operation of
the write chain while it writes, until a write fails. -/
structure Open (readEnds writeErrors : ℕ) (session : WsSession) : Prop where
  accepted : .accept ∉ session.outstanding
  reader : session.outstanding.count .read + readEnds = 1
  writer : session.outstanding.countP Operation.isWrite + writeErrors = session.writing.toNat

variable {session : WsSession} {readEnds writeErrors : ℕ} {message : StdString}

/-- Sending leaves the session open. -/
theorem Open.send (h : Open readEnds writeErrors session) (message : StdString) :
    Open readEnds writeErrors (session.send message) := by
  obtain ⟨haccepted, hreader, hwriter⟩ := h
  -- While the session writes, the message waits on the queue.
  by_cases hwriting : session.writing
  · have hsend : session.send message =
        { session with writeQueue := session.writeQueue ++ [message] } := by
      simp [WsSession.send, hwriting]
    rw [hsend]
    exact ⟨haccepted, hreader, hwriter⟩
  · -- The chain is started.
    have hsend : (session.send message).outstanding = session.outstanding ++ [.doWrite] ∧
        (session.send message).writing = true := by
      simp [WsSession.send, hwriting, start]
    refine ⟨?_, ?_, ?_⟩
    · simpa [hsend] using haccepted
    · simpa [hsend] using hreader
    · simp only [Bool.not_eq_true] at hwriting
      simp only [hwriting, Bool.toNat_false] at hwriter
      simp only [hsend, List.countP_append, Bool.toNat_true]
      have hlast : [Operation.doWrite].countP Operation.isWrite = 1 := rfl
      omega

/-- So does sending several messages. -/
theorem Open.sendAll (h : Open readEnds writeErrors session) (messages : List StdString) :
    Open readEnds writeErrors (session.sendAll messages) := by
  induction messages generalizing session with
  | nil => exact h
  | cons message messages ih => exact ih (h.send message)

/-- A read completes: the read loop has ended unless it goes on. -/
theorem Open.finish_read (h : Open readEnds writeErrors session)
    (hread : .read ∈ session.outstanding) :
    readEnds = 0 ∧ Open 1 writeErrors (session.finish .read) := by
  obtain ⟨haccepted, hreader, hwriter⟩ := h
  have hpos := List.count_pos_iff.mpr hread
  have hends : readEnds = 0 := by omega
  refine ⟨hends, fun haccept => haccepted (List.mem_of_mem_erase haccept), ?_, ?_⟩
  · rw [finish, List.count_erase_self]
    omega
  · show (session.outstanding.erase .read).countP Operation.isWrite + writeErrors = _
    rw [List.countP_erase, if_neg (by simp [Operation.isWrite])]
    exact hwriter

/-- A read that is started takes the place of the one that has ended. -/
theorem Open.doRead (h : Open 1 writeErrors session) : Open 0 writeErrors session.doRead := by
  obtain ⟨haccepted, hreader, hwriter⟩ := h
  -- No read was outstanding, so this is the only one.
  have hcount : session.outstanding.count .read = 0 := by omega
  refine ⟨?_, ?_, ?_⟩
  · simpa [WsSession.doRead, start] using haccepted
  · simp [WsSession.doRead, start, hcount]
  · simpa [WsSession.doRead, start, Operation.isWrite] using hwriter

/-- An operation of the write chain completes: the chain has ended unless it goes on. -/
theorem Open.finish_write {op : Operation} (h : Open readEnds writeErrors session)
    (hop : op ∈ session.outstanding) (hwrite : op.isWrite = true) :
    writeErrors = 0 ∧ session.writing = true ∧ Open readEnds 1 (session.finish op) := by
  obtain ⟨haccepted, hreader, hwriter⟩ := h
  have hpos := List.countP_pos_iff.mpr ⟨op, hop, hwrite⟩
  have htoNat := Bool.toNat_le session.writing
  -- An operation of the chain is outstanding only while the session writes.
  have hwriting : session.writing = true := by
    by_contra hnot
    rw [Bool.not_eq_true] at hnot
    rw [hnot, Bool.toNat_false] at hwriter
    omega
  refine ⟨by omega, hwriting, fun haccept => haccepted (List.mem_of_mem_erase haccept), ?_, ?_⟩
  · have hne : op ≠ .read := by
      rintro rfl
      simp [Operation.isWrite] at hwrite
    show (session.outstanding.erase op).count .read + readEnds = 1
    rw [List.count_erase_of_ne hne.symm]
    exact hreader
  · simp only [finish, List.countP_erase, if_pos (And.intro hop hwrite), hwriting]
    rw [Bool.toNat_true]
    omega

/-- A write that is started takes the place of the one that is done. -/
theorem Open.doWrite (h : Open readEnds 1 session) (hwriting : session.writing = true) :
    Open readEnds 0 session.doWrite := by
  obtain ⟨haccepted, hreader, hwriter⟩ := h
  rw [hwriting, Bool.toNat_true] at hwriter
  have hcount : session.outstanding.countP Operation.isWrite = 0 := by omega
  -- With nothing on the queue the chain ends without a failure.
  rcases hqueue : session.writeQueue with _ | ⟨message, rest⟩
  · have hdo : session.doWrite = { session with writing := false } := by
      rw [WsSession.doWrite, hqueue]
    rw [hdo]
    exact ⟨haccepted, hreader, hcount⟩
  · have hdo : session.doWrite = start (.write message) { session with writeQueue := rest } := by
      rw [WsSession.doWrite, hqueue]
    rw [hdo]
    refine ⟨?_, ?_, ?_⟩
    · simpa [start] using haccepted
    · simpa [start] using hreader
    · simp [start, hcount, hwriting, Operation.isWrite]

/-- A write that is done starts the next one, or ends the chain. -/
theorem Open.onWritten (h : Open readEnds 1 session) (hwriting : session.writing = true) :
    Open readEnds 0 session.onWritten := by
  by_cases hqueue : session.writeQueue.isEmpty
  · have hdo : session.doWrite = { session with writing := false } := by
      rw [WsSession.doWrite, List.isEmpty_iff.mp hqueue]
    rw [WsSession.onWritten, if_pos hqueue, ← hdo]
    exact h.doWrite hwriting
  · rw [WsSession.onWritten, if_neg hqueue]
    exact h.doWrite hwriting

/-- The handshake completes. -/
theorem Idle.finish_accept (h : Idle session) :
    Idle (session.finish .accept) ∧ (session.finish .accept).outstanding = [] := by
  obtain ⟨houtstanding, hwriting⟩ := h
  have hnil : (session.finish .accept).outstanding = [] := by
    rcases houtstanding with hnil | haccept
    · simp [finish, hnil]
    · simp [finish, haccept]
  exact ⟨⟨.inl hnil, hwriting⟩, hnil⟩

/-- The first read opens the session. -/
theorem Idle.doRead (h : Idle session) (hnil : session.outstanding = []) :
    Open 0 0 session.doRead := by
  refine ⟨?_, ?_, ?_⟩
  · simp [WsSession.doRead, start, hnil]
  · simp [WsSession.doRead, start, hnil]
  · simp [WsSession.doRead, start, hnil, h.writing, Operation.isWrite]

end WsSession

namespace WsInput

/-- The callbacks that fire. -/
def callbacks : WsInput → List WsCallback
  | .completion id (.accept true) => [.onConnect id]
  | .completion id (.read .closed) => [.onDisconnect id]
  | .completion id (.read .error) => [.onDisconnect id]
  | .completion id (.read (.text payload)) => [.onMessage ⟨id, payload⟩]
  | .completion id (.write _ false) => [.onDisconnect id]
  | _ => []

/-- A read of the session completes with a close or an error. -/
def endsReading (c : ConnectionId) : WsInput → Bool
  | .completion id (.read .closed) => id == c
  | .completion id (.read .error) => id == c
  | _ => false

/-- A write of the session completes with an error. -/
def failsWriting (c : ConnectionId) : WsInput → Bool
  | .completion id (.write _ false) => id == c
  | _ => false

end WsInput

namespace WsServer

/-- How often the read loop of a session has ended. -/
def readEnds (tr : Trace) (c : ConnectionId) : ℕ := tr.countP fun entry => entry.1.endsReading c

/-- How often a write of a session has failed. -/
def writeErrors (tr : Trace) (c : ConnectionId) : ℕ :=
  tr.countP fun entry => entry.1.failsWriting c

/-- What the history says about a session. -/
structure Tracks (tr : Trace) (s : WsServer) (c : ConnectionId) : Prop where
  idle : .onConnect c ∉ callbacks tr →
    (s.objects c).Idle ∧ readEnds tr c = 0 ∧ writeErrors tr c = 0
  opened : .onConnect c ∈ callbacks tr → (s.objects c).Open (readEnds tr c) (writeErrors tr c)
  fresh : s.nextId ≤ c → (s.objects c).outstanding = [] ∧ .onConnect c ∉ callbacks tr
  connects : (callbacks tr).count (.onConnect c) ≤ 1
  disconnects : (callbacks tr).count (.onDisconnect c) = readEnds tr c + writeErrors tr c
  mem_sessions : c ∈ s.sessions ↔ .onConnect c ∈ callbacks tr ∧ .onDisconnect c ∉ callbacks tr

variable {onMessage : WsMessage → List WsOperation} {tr : Trace} {s s' : WsServer}
  {c : ConnectionId} {i : WsInput}

theorem fst_step : (s.step onMessage i).1 = i.callbacks := by
  rcases i with _ | ⟨id, (_ | _) | (_ | _ | _ | _) | _ | ⟨_, _ | _⟩⟩ | op <;> rfl

theorem tracks_nil (c : ConnectionId) : Tracks [] {} c where
  idle _ := ⟨⟨.inl rfl, rfl⟩, rfl, rfl⟩
  opened h := absurd h List.not_mem_nil
  fresh _ := ⟨rfl, List.not_mem_nil⟩
  connects := Nat.zero_le 1
  disconnects := rfl
  mem_sessions := iff_of_false (AList.notMem_empty c) fun h => List.not_mem_nil h.1

/-- A step that neither connects nor disconnects the session. -/
theorem Tracks.quiet (h : Tracks tr s c) (hconnect : .onConnect c ∉ i.callbacks)
    (hdisconnect : .onDisconnect c ∉ i.callbacks)
    (hread : i.endsReading c = false) (hwrite : i.failsWriting c = false)
    (hidle : .onConnect c ∉ callbacks tr → (s'.objects c).Idle)
    (hopened : .onConnect c ∈ callbacks tr →
      (s'.objects c).Open (readEnds tr c) (writeErrors tr c))
    (hfresh : s'.nextId ≤ c → s.nextId ≤ c ∧ (s'.objects c).outstanding = [])
    (hsessions : c ∈ s'.sessions ↔ c ∈ s.sessions) :
    Tracks (tr ++ [(i, i.callbacks)]) s' c := by
  have hends : readEnds (tr ++ [(i, i.callbacks)]) c = readEnds tr c := by
    simp [readEnds, hread]
  have herrors : writeErrors (tr ++ [(i, i.callbacks)]) c = writeErrors tr c := by
    simp [writeErrors, hwrite]
  -- No number of the invariant changes, so each field is the one of the state before.
  have hmem : .onConnect c ∈ callbacks (tr ++ [(i, i.callbacks)]) ↔
      .onConnect c ∈ callbacks tr := by
    simp [hconnect]
  constructor
  · rw [hmem, hends, herrors]
    exact fun hnot => ⟨hidle hnot, (h.idle hnot).2⟩
  · rw [hmem, hends, herrors]
    exact hopened
  · rw [hmem]
    intro hle
    exact ⟨(hfresh hle).2, (h.fresh (hfresh hle).1).2⟩
  · rw [callbacks_snoc, List.count_append, List.count_eq_zero.mpr hconnect]
    exact h.connects
  · rw [callbacks_snoc, List.count_append, List.count_eq_zero.mpr hdisconnect, hends, herrors]
    exact h.disconnects
  · rw [hsessions, h.mem_sessions, hmem]
    simp [hdisconnect]

/-- The session is not concerned, except that messages may be put on its queue. -/
theorem Tracks.sends (h : Tracks tr s c) (hconnect : .onConnect c ∉ i.callbacks)
    (hdisconnect : .onDisconnect c ∉ i.callbacks)
    (hread : i.endsReading c = false) (hwrite : i.failsWriting c = false)
    {messages : List StdString} (hobject : s'.objects c = (s.objects c).sendAll messages)
    (hmessages : c ∉ s.sessions → messages = [])
    (hnext : s'.nextId = s.nextId) (hsessions : c ∈ s'.sessions ↔ c ∈ s.sessions) :
    Tracks (tr ++ [(i, i.callbacks)]) s' c := by
  -- A session that is not connected gets no messages.
  have hnone : .onConnect c ∉ callbacks tr → messages = [] := fun hnot =>
    hmessages fun hc => hnot (h.mem_sessions.mp hc).1
  refine h.quiet hconnect hdisconnect hread hwrite ?_ ?_ ?_ hsessions
  · intro hnot
    rw [hobject, hnone hnot]
    exact (h.idle hnot).1
  · intro hc
    rw [hobject]
    exact (h.opened hc).sendAll messages
  · rw [hnext]
    intro hle
    refine ⟨hle, ?_⟩
    rw [hobject, hnone (h.fresh hle).2]
    exact (h.fresh hle).1

/-- Whatever is outstanding behind the handshake, the session was reported connected. -/
theorem Tracks.connected (h : Tracks tr s c) {op : WsSession.Operation}
    (hop : op ∈ (s.objects c).outstanding) (hne : op ≠ .accept) :
    .onConnect c ∈ callbacks tr := by
  by_contra hnot
  rcases (h.idle hnot).1.outstanding with hnil | hone
  · rw [hnil] at hop
    exact List.not_mem_nil hop
  · rw [hone] at hop
    exact hne (List.mem_singleton.mp hop)

private theorem Tracks.unconnected (h : Tracks tr s c) (hop : .accept ∈ (s.objects c).outstanding) :
    .onConnect c ∉ callbacks tr :=
  fun hc => (h.opened hc).accepted hop

/-- Whatever is outstanding belongs to an id that was given out. -/
theorem Tracks.lt_nextId (h : Tracks tr s c) {op : WsSession.Operation}
    (hop : op ∈ (s.objects c).outstanding) : c < s.nextId := by
  by_contra hle
  rw [(h.fresh (not_lt.mp hle)).1] at hop
  exact List.not_mem_nil hop

/-- The session is reported as disconnected. -/
theorem Tracks.disconnect (h : Tracks tr s c) (hconnected : .onConnect c ∈ callbacks tr)
    (hlt : c < s.nextId) (hcallbacks : i.callbacks = [.onDisconnect c])
    (hends : readEnds (tr ++ [(i, i.callbacks)]) c + writeErrors (tr ++ [(i, i.callbacks)]) c =
      readEnds tr c + writeErrors tr c + 1)
    (hopened : (s'.objects c).Open (readEnds (tr ++ [(i, i.callbacks)]) c)
      (writeErrors (tr ++ [(i, i.callbacks)]) c))
    (hnext : s'.nextId = s.nextId) (hsessions : c ∉ s'.sessions) :
    Tracks (tr ++ [(i, i.callbacks)]) s' c := by
  have hmem : .onConnect c ∈ callbacks (tr ++ [(i, i.callbacks)]) := by simp [hconnected]
  constructor
  · exact fun hnot => absurd hmem hnot
  · exact fun _ => hopened
  · rw [hnext]
    exact fun hle => absurd hlt (not_lt.mpr hle)
  · rw [callbacks_snoc, hcallbacks, List.count_append]
    simpa using h.connects
  -- One more end, and one more `OnDisconnect`.
  · rw [hends, ← h.disconnects, callbacks_snoc, hcallbacks, List.count_append,
      List.count_singleton_self]
  · refine iff_of_false hsessions fun hc => hc.2 ?_
    rw [callbacks_snoc, hcallbacks]
    exact List.mem_append_right _ (List.mem_singleton_self _)

/-! ## One step -/

private theorem tracks_socket (h : Tracks tr s c) :
    Tracks (tr ++ [(.socket, WsInput.socket.callbacks)]) s.onSocket c := by
  refine h.quiet List.not_mem_nil List.not_mem_nil rfl rfl ?_ ?_ ?_ Iff.rfl
  -- The new session is idle, with its handshake outstanding.
  · intro hnot
    rw [onSocket, objects_modifySession]
    split
    · exact ⟨.inr rfl, rfl⟩
    · exact (h.idle hnot).1
  · intro hc
    -- A connected session has an id that was given out before.
    rw [onSocket, objects_modifySession, if_neg fun heq => (h.fresh heq.ge).2 hc]
    exact h.opened hc
  · intro hle
    have hlt : s.nextId < c := hle
    rw [onSocket, objects_modifySession, if_neg hlt.ne']
    exact ⟨hlt.le, (h.fresh hlt.le).1⟩

private theorem tracks_call (h : Tracks tr s c) (op : WsOperation) :
    Tracks (tr ++ [(.call op, (WsInput.call op).callbacks)]) (s.apply op) c := by
  refine h.sends List.not_mem_nil List.not_mem_nil rfl rfl (objects_apply op)
    (fun hc => delivered_of_notMem hc op) (sessions_nextId_apply op).2 ?_
  rw [sessions_apply]

variable (onMessage s) in
/-- A completion of another session puts messages on the queue at most. -/
theorem completion_other {id : ConnectionId} (hid : c ≠ id) (completion : Completion) :
    let s' := (s.step onMessage (.completion id completion)).2
    (∃ messages, s'.objects c = (s.objects c).sendAll messages ∧
        (c ∉ s.sessions → messages = [])) ∧
      s'.nextId = s.nextId ∧ (c ∈ s'.sessions ↔ c ∈ s.sessions) := by
  let s₁ := s.modifySession id (.finish completion.operation)
  have hs₁ : s₁.objects c = s.objects c := objects_modifySession_of_ne hid _
  have hstep (f : WsSession → WsSession) : (s₁.modifySession id f).objects c = s.objects c :=
    (objects_modifySession_of_ne hid f).trans hs₁
  have hnone (s' : WsServer) (hobject : s'.objects c = s.objects c) :
      ∃ messages, s'.objects c = (s.objects c).sendAll messages ∧
        (c ∉ s.sessions → messages = []) :=
    ⟨[], hobject, fun _ => rfl⟩
  have herase : c ∈ (s₁.onSessionDisconnected id).2.sessions ↔ c ∈ s.sessions := by
    show c ∈ s.sessions.erase id ↔ _
    rw [AList.mem_erase, and_iff_right hid]
  cases completion with
  | accept succeeded =>
    cases succeeded with
    | false => exact ⟨hnone _ hs₁, rfl, Iff.rfl⟩
    | true =>
      refine ⟨hnone _ ((objects_modifySession_of_ne hid _).trans hs₁), rfl, ?_⟩
      show c ∈ s.sessions.insert id () ↔ _
      rw [AList.mem_insert, or_iff_right hid]
  | read result =>
    cases result with
    | closed => exact ⟨hnone _ hs₁, rfl, herase⟩
    | error => exact ⟨hnone _ hs₁, rfl, herase⟩
    | text payload =>
      -- What the callback calls may send something to this session.
      let ops := onMessage ⟨id, payload⟩
      obtain ⟨messages, hobject, hmessages⟩ := objects_foldl_apply (s := s₁) (c := c) ops
      refine ⟨⟨messages, ?_, hmessages⟩, nextId_foldl_apply ops, ?_⟩
      · rw [← hs₁, ← hobject]
        exact objects_modifySession_of_ne hid _
      · show c ∈ (ops.foldl apply s₁).sessions ↔ _
        rw [sessions_foldl_apply]
        rfl
    | binary => exact ⟨hnone _ (hstep _), rfl, Iff.rfl⟩
  | doWrite => exact ⟨hnone _ (hstep _), rfl, Iff.rfl⟩
  | write message succeeded =>
    cases succeeded with
    | false => exact ⟨hnone _ hs₁, rfl, herase⟩
    | true => exact ⟨hnone _ (hstep _), rfl, Iff.rfl⟩

private theorem callbacks_other {id : ConnectionId} (hid : c ≠ id) (completion : Completion) :
    let i : WsInput := .completion id completion
    .onConnect c ∉ i.callbacks ∧ .onDisconnect c ∉ i.callbacks ∧ i.endsReading c = false ∧
      i.failsWriting c = false := by
  have hbeq : (id == c) = false := beq_eq_false_iff_ne.mpr hid.symm
  rcases completion with (_ | _) | (_ | _ | _ | _) | _ | ⟨_, _ | _⟩ <;>
    simp [WsInput.callbacks, WsInput.endsReading, WsInput.failsWriting, hid, hbeq]

private theorem tracks_other (h : Tracks tr s c) {id : ConnectionId} (hid : c ≠ id)
    (completion : Completion) :
    Tracks (tr ++ [(.completion id completion, (WsInput.completion id completion).callbacks)])
      (s.step onMessage (.completion id completion)).2 c := by
  obtain ⟨hconnect, hdisconnect, hread, hwrite⟩ := callbacks_other hid completion
  obtain ⟨⟨messages, hobject, hmessages⟩, hnext, hsessions⟩ :=
    completion_other onMessage s hid completion
  exact h.sends hconnect hdisconnect hread hwrite hobject hmessages hnext hsessions

/-- The handshake of the session completes. -/
theorem tracks_accept (h : Tracks tr s c) (hop : .accept ∈ (s.objects c).outstanding)
    (succeeded : Bool) :
    let i : WsInput := .completion c (.accept succeeded)
    Tracks (tr ++ [(i, i.callbacks)]) (s.step onMessage i).2 c := by
  intro i
  have hnot := h.unconnected hop
  have hlt := h.lt_nextId hop
  obtain ⟨hidle, hends, herrors⟩ := h.idle hnot
  -- A handshake that fails leaves the session idle for good.
  cases succeeded with
  | false =>
    refine h.quiet List.not_mem_nil List.not_mem_nil rfl rfl ?_ (fun hc => absurd hc hnot)
      (fun hle => absurd hlt (not_lt.mpr hle)) Iff.rfl
    intro _
    show ((s.modifySession c _).objects c).Idle
    rw [objects_modifySession_self]
    exact hidle.finish_accept.1
  | true =>
    have hcallbacks : i.callbacks = [.onConnect c] := rfl
    have hmem : .onConnect c ∈ callbacks (tr ++ [(i, i.callbacks)]) := by simp [hcallbacks]
    have hends' : readEnds (tr ++ [(i, i.callbacks)]) c = 0 := by
      simpa [readEnds, i, WsInput.endsReading] using hends
    have herrors' : writeErrors (tr ++ [(i, i.callbacks)]) c = 0 := by
      simpa [writeErrors, i, WsInput.failsWriting] using herrors
    -- Neither the read loop nor the write chain has ended yet.
    have hnone : .onDisconnect c ∉ callbacks (tr ++ [(i, i.callbacks)]) := by
      have hcount := h.disconnects
      rw [hends, herrors] at hcount
      simp [hcallbacks, List.count_eq_zero.mp hcount]
    constructor
    · exact fun hc => absurd hmem hc
    · intro _
      rw [hends', herrors']
      show ((((s.modifySession c _).onSessionConnected c).2.modifySession c _).objects c).Open 0 0
      rw [objects_modifySession_self]
      have hobject : ((s.onSessionConnected c).2.modifySession c (.finish .accept)).objects c =
          (s.objects c).finish .accept := objects_modifySession_self _
      have hidle' := hidle.finish_accept
      rw [← hobject] at hidle'
      exact hidle'.1.doRead hidle'.2
    · exact fun hle => absurd hlt (not_lt.mpr hle)
    · rw [callbacks_snoc, hcallbacks, List.count_append, List.count_eq_zero.mpr hnot,
        List.count_singleton_self]
    · rw [hends', herrors', List.count_eq_zero.mpr hnone]
    · refine iff_of_true ?_ ⟨hmem, hnone⟩
      show c ∈ s.sessions.insert c ()
      exact (AList.mem_insert _).mpr (.inl rfl)

/-- A read of the session completes. -/
theorem tracks_read (h : Tracks tr s c) (hop : .read ∈ (s.objects c).outstanding)
    (result : ReadResult) :
    let i : WsInput := .completion c (.read result)
    Tracks (tr ++ [(i, i.callbacks)]) (s.step onMessage i).2 c := by
  intro i
  have hconnected := h.connected hop (by decide)
  have hlt := h.lt_nextId hop
  obtain ⟨hends, hfinished⟩ := (h.opened hconnected).finish_read hop
  let s₁ := s.modifySession c (.finish .read)
  have hs₁ : s₁.objects c = (s.objects c).finish .read := objects_modifySession_self _
  -- The two ways in which a read completes: the loop ends, or it goes on.
  have hended {i : WsInput} (hcallbacks : i.callbacks = [.onDisconnect c])
      (hread : i.endsReading c = true) (hwrite : i.failsWriting c = false) :
      Tracks (tr ++ [(i, i.callbacks)]) (s₁.onSessionDisconnected c).2 c := by
    have hends' : readEnds (tr ++ [(i, i.callbacks)]) c = readEnds tr c + 1 := by
      simp [readEnds, hread]
    have herrors' : writeErrors (tr ++ [(i, i.callbacks)]) c = writeErrors tr c := by
      simp [writeErrors, hwrite]
    refine h.disconnect hconnected hlt hcallbacks (by omega) ?_ rfl ?_
    · rw [hends', herrors', hends]
      show (s₁.objects c).Open 1 (writeErrors tr c)
      rwa [hs₁]
    · show c ∉ s.sessions.erase c
      rw [AList.mem_erase]
      exact fun hc => hc.1 rfl
  have hread_again {s' : WsServer} {i : WsInput} (hconnect : .onConnect c ∉ i.callbacks)
      (hdisconnect : .onDisconnect c ∉ i.callbacks) (hread : i.endsReading c = false)
      (hwrite : i.failsWriting c = false) (messages : List StdString)
      (hobject : s'.objects c = ((s₁.objects c).sendAll messages).doRead)
      (hnext : s'.nextId = s.nextId) (hsessions : c ∈ s'.sessions ↔ c ∈ s.sessions) :
      Tracks (tr ++ [(i, i.callbacks)]) s' c := by
    refine h.quiet hconnect hdisconnect hread hwrite (fun hnot => absurd hconnected hnot) ?_
      (fun hle => absurd hlt (not_lt.mpr (hnext ▸ hle))) hsessions
    intro _
    rw [hobject, hs₁, hends]
    exact (hfinished.sendAll messages).doRead
  cases result with
  | closed => exact hended rfl (beq_self_eq_true c) rfl
  | error => exact hended rfl (beq_self_eq_true c) rfl
  | text payload =>
    let ops := onMessage ⟨c, payload⟩
    obtain ⟨messages, hobject, -⟩ := objects_foldl_apply (s := s₁) (c := c) ops
    refine hread_again ?_ ?_ rfl rfl messages ?_ (nextId_foldl_apply ops) ?_
    · simp [i, WsInput.callbacks]
    · simp [i, WsInput.callbacks]
    · rw [← hobject]
      exact objects_modifySession_self _
    · show c ∈ (ops.foldl apply s₁).sessions ↔ _
      rw [sessions_foldl_apply]
      rfl
  | binary =>
    exact hread_again List.not_mem_nil List.not_mem_nil rfl rfl []
      (objects_modifySession_self _) rfl Iff.rfl

/-- An operation of the write chain of the session completes. -/
theorem tracks_write (h : Tracks tr s c) {completion : Completion}
    (hop : completion.operation ∈ (s.objects c).outstanding)
    (hwrite : completion.operation.isWrite = true) :
    let i : WsInput := .completion c completion
    Tracks (tr ++ [(i, i.callbacks)]) (s.step onMessage i).2 c := by
  intro i
  have hconnected := h.connected hop fun heq => by simp [heq, WsSession.Operation.isWrite] at hwrite
  have hlt := h.lt_nextId hop
  obtain ⟨herrors, hwriting, hfinished⟩ := (h.opened hconnected).finish_write hop hwrite
  let s₁ := s.modifySession c (.finish completion.operation)
  have hs₁ : s₁.objects c = (s.objects c).finish completion.operation :=
    objects_modifySession_self _
  -- The chain goes on, or is done with the queue.
  have hgoes_on {i : WsInput} {f : WsSession → WsSession} (hcallbacks : i.callbacks = [])
      (hread : i.endsReading c = false) (hfail : i.failsWriting c = false)
      (hopened : (f (s₁.objects c)).Open (readEnds tr c) 0) :
      Tracks (tr ++ [(i, i.callbacks)]) (s₁.modifySession c f) c := by
    refine h.quiet (by simp [hcallbacks]) (by simp [hcallbacks]) hread hfail
      (fun hnot => absurd hconnected hnot) ?_ (fun hle => absurd hlt (not_lt.mpr hle)) Iff.rfl
    intro _
    rw [objects_modifySession_self, herrors]
    exact hopened
  cases completion with
  | accept succeeded => simp [Completion.operation, WsSession.Operation.isWrite] at hwrite
  | read result => simp [Completion.operation, WsSession.Operation.isWrite] at hwrite
  | doWrite =>
    refine hgoes_on rfl rfl rfl ?_
    rw [hs₁]
    exact hfinished.doWrite hwriting
  | write message succeeded =>
    cases succeeded with
    | true =>
      refine hgoes_on rfl rfl rfl ?_
      rw [hs₁]
      exact hfinished.onWritten hwriting
    | false =>
      -- The read loop is not told of the error.
      have hends' : readEnds (tr ++ [(i, i.callbacks)]) c = readEnds tr c := by
        simp [readEnds, i, WsInput.endsReading]
      have herrors' : writeErrors (tr ++ [(i, i.callbacks)]) c = writeErrors tr c + 1 := by
        simp [writeErrors, i, WsInput.failsWriting]
      refine h.disconnect hconnected hlt rfl (by omega) ?_ rfl ?_
      · rw [hends', herrors', herrors]
        show (s₁.objects c).Open (readEnds tr c) 1
        rwa [hs₁]
      · show c ∉ s.sessions.erase c
        rw [AList.mem_erase]
        exact fun hc => hc.1 rfl

/-- Every possible step keeps the invariant. -/
theorem Tracks.step (h : Tracks tr s c) (hpossible : Possible tr s i) :
    Tracks (tr ++ [(i, (s.step onMessage i).1)]) (s.step onMessage i).2 c := by
  rw [fst_step]
  rcases i with _ | ⟨id, completion⟩ | op
  · exact tracks_socket h
  · by_cases hid : c = id
    · subst hid
      cases completion with
      | accept succeeded => exact tracks_accept h hpossible succeeded
      | read result => exact tracks_read h hpossible result
      | doWrite => exact tracks_write h hpossible rfl
      | write message succeeded => exact tracks_write h hpossible rfl
    · exact tracks_other h hid completion
  · exact tracks_call h op

/-- What the history says about each session holds in every run. -/
theorem tracks_of_run (hrun : Mealy.Run (step onMessage) Possible {} tr s) (c : ConnectionId) :
    Tracks tr s c :=
  hrun.historyInvariant (P := fun tr s => Tracks tr s c) (tracks_nil c)
    fun _ _ _ h hpossible => h.step hpossible

/-! ## The callbacks of a session -/

/-- `OnConnect` fires at most once and before any `OnMessage`, `OnDisconnect` exactly once when the
session has failed or was closed, and no `OnMessage` comes after it. -/
structure Lifecycle (tr : Trace) (c : ConnectionId) : Prop where
  connectOnce : (callbacks tr).count (.onConnect c) ≤ 1
  messages : (callbacks tr).EachAfter fun past cb => ∀ payload, cb = .onMessage ⟨c, payload⟩ →
    .onConnect c ∈ past ∧ .onDisconnect c ∉ past
  disconnectOnce : 0 < readEnds tr c + writeErrors tr c →
    (callbacks tr).count (.onDisconnect c) = 1

/-- After a failed write the reads of the session complete with binary messages only, and after
the end of the read loop no write fails. -/
def Orderly (c : ConnectionId) (past : Trace) : WsInput → Prop
  | .completion id (.read .closed) => id = c → writeErrors past c = 0
  | .completion id (.read .error) => id = c → writeErrors past c = 0
  | .completion id (.read (.text _)) => id = c → writeErrors past c = 0
  | .completion id (.write _ false) => id = c → readEnds past c = 0
  | _ => True

private theorem lifecycle_iff_of_tracks (h : Tracks tr s c) :
    Lifecycle tr c ↔
      ((callbacks tr).EachAfter fun past cb => ∀ payload, cb = .onMessage ⟨c, payload⟩ →
        .onConnect c ∈ past ∧ .onDisconnect c ∉ past) ∧
      readEnds tr c + writeErrors tr c ≤ 1 := by
  -- `OnDisconnect` counts the ends of the two loops.
  have hcount := h.disconnects
  constructor
  · rintro ⟨-, hmessages, honce⟩
    exact ⟨hmessages, by omega⟩
  · rintro ⟨hmessages, hle⟩
    exact ⟨h.connects, hmessages, by omega⟩

/-- At most one callback fires. -/
theorem eachAfter_callbacks {P : List WsCallback → WsCallback → Prop} :
    (callbacks tr ++ i.callbacks).EachAfter P ↔
      (callbacks tr).EachAfter P ∧ ∀ cb ∈ i.callbacks, P (callbacks tr) cb := by
  rcases i with _ | ⟨id, (_ | _) | (_ | _ | _ | _) | _ | ⟨_, _ | _⟩⟩ | op <;>
    simp [WsInput.callbacks]

private theorem readEnds_snoc (fired : List WsCallback) :
    readEnds (tr ++ [(i, fired)]) c = readEnds tr c + (i.endsReading c).toNat := by
  cases hi : i.endsReading c <;> simp [readEnds, hi]

private theorem writeErrors_snoc (fired : List WsCallback) :
    writeErrors (tr ++ [(i, fired)]) c = writeErrors tr c + (i.failsWriting c).toNat := by
  cases hi : i.failsWriting c <;> simp [writeErrors, hi]

/-- The only step that fires `OnMessage` is a read with a text message. -/
theorem onMessage_mem_callbacks {payload : StdString} :
    .onMessage ⟨c, payload⟩ ∈ i.callbacks ↔ i = .completion c (.read (.text payload)) := by
  rcases i with _ | ⟨id, (_ | _) | (_ | _ | _ | _) | _ | ⟨_, _ | _⟩⟩ | op <;>
    simp [WsInput.callbacks, eq_comm]

/-- Whether the numbers stay right. -/
theorem ends_snoc_iff (h : Tracks tr s c) (hpossible : Possible tr s i) :
    readEnds tr c + (i.endsReading c).toNat + (writeErrors tr c + (i.failsWriting c).toNat) ≤ 1 ↔
      readEnds tr c + writeErrors tr c ≤ 1 ∧ (i.endsReading c = true → writeErrors tr c = 0) ∧
        (i.failsWriting c = true → readEnds tr c = 0) := by
  -- Each loop ends once at most, and one step does not end both.
  have hread : i.endsReading c = true → readEnds tr c = 0 := by
    intro hi
    have hop : .read ∈ (s.objects c).outstanding := by
      rcases i with _ | ⟨id, (_ | _) | (_ | _ | _ | _) | _ | ⟨_, _ | _⟩⟩ | op <;>
        simp_all [WsInput.endsReading, Possible, Completion.operation]
    exact ((h.opened (h.connected hop (by decide))).finish_read hop).1
  have hwrite : i.failsWriting c = true → writeErrors tr c = 0 := by
    intro hi
    have hop : ∃ message, .write message ∈ (s.objects c).outstanding := by
      rcases i with _ | ⟨id, (_ | _) | (_ | _ | _ | _) | _ | ⟨message, _ | _⟩⟩ | op <;>
        simp_all [WsInput.failsWriting, Possible, Completion.operation]
      exact ⟨message, hpossible⟩
    obtain ⟨message, hop⟩ := hop
    exact ((h.opened (h.connected hop (by simp))).finish_write hop rfl).1
  have hone : i.endsReading c = false ∨ i.failsWriting c = false := by
    rcases i with _ | ⟨id, (_ | _) | (_ | _ | _ | _) | _ | ⟨_, _ | _⟩⟩ | op <;>
      simp [WsInput.endsReading, WsInput.failsWriting]
  cases hi : i.endsReading c <;> cases hj : i.failsWriting c <;> simp_all

private theorem orderly_iff :
    Orderly c tr i ↔ ((∃ payload, i = .completion c (.read (.text payload))) →
        writeErrors tr c = 0) ∧
      (i.endsReading c = true → writeErrors tr c = 0) ∧
        (i.failsWriting c = true → readEnds tr c = 0) := by
  rcases i with _ | ⟨id, (_ | _) | (_ | _ | _ | _) | _ | ⟨_, _ | _⟩⟩ | op <;>
    simp [Orderly, WsInput.endsReading, WsInput.failsWriting]

/-- One more step keeps the callbacks as they should be exactly when it is orderly. -/
theorem lifecycle_snoc_iff (h : Tracks tr s c) (hpossible : Possible tr s i) :
    Lifecycle (tr ++ [(i, (s.step onMessage i).1)]) c ↔ Lifecycle tr c ∧ Orderly c tr i := by
  have hnext : Tracks (tr ++ [(i, (s.step onMessage i).1)]) _ c := h.step hpossible
  rw [lifecycle_iff_of_tracks hnext, lifecycle_iff_of_tracks h, fst_step, callbacks_snoc,
    eachAfter_callbacks, readEnds_snoc, writeErrors_snoc, ends_snoc_iff h hpossible, orderly_iff]
  -- A text message comes before the end of the read loop, so only a failed write counts.
  have hmessage : (∀ cb ∈ i.callbacks, ∀ payload, cb = .onMessage ⟨c, payload⟩ →
        .onConnect c ∈ callbacks tr ∧ .onDisconnect c ∉ callbacks tr) ↔
      ((∃ payload, i = .completion c (.read (.text payload))) → writeErrors tr c = 0) := by
    constructor
    -- No `OnDisconnect` means that no write has failed.
    · rintro hall ⟨payload, hi⟩
      obtain ⟨-, hnot⟩ := hall _ (onMessage_mem_callbacks.mpr hi) payload rfl
      have hcount := h.disconnects
      rw [List.count_eq_zero.mpr hnot] at hcount
      omega
    · rintro hzero cb hcb payload rfl
      have hi := onMessage_mem_callbacks.mp hcb
      have hop : .read ∈ (s.objects c).outstanding := by
        rw [hi] at hpossible
        exact hpossible
      have hconnected := h.connected hop (by decide)
      refine ⟨hconnected, List.count_eq_zero.mp ?_⟩
      rw [h.disconnects, hzero ⟨payload, hi⟩, ((h.opened hconnected).finish_read hop).1]
  rw [hmessage]
  tauto

/-- The callbacks of a session come as they should exactly when its completions are orderly. -/
theorem lifecycle_iff (hrun : Mealy.Run (step onMessage) Possible {} tr s) (c : ConnectionId) :
    Lifecycle tr c ↔ tr.EachAfter fun past entry => Orderly c past entry.1 := by
  refine hrun.iff_eachAfter_history (P := fun tr => Lifecycle tr c) ?_ ?_
  · exact ⟨Nat.zero_le 1, List.eachAfter_nil, fun hpos => absurd hpos (lt_irrefl 0)⟩
  · exact fun tr s i hrun hpossible => lifecycle_snoc_iff (tracks_of_run hrun c) hpossible

/-- A session is connected, sends a message and is closed by the client. -/
def closedOnce : List WsInput :=
  [.socket, .completion 1 (.accept true), .call (.send 1 []), .completion 1 .doWrite,
    .completion 1 (.write [] true), .completion 1 (.read .closed)]

/-- One disconnect is reported. -/
theorem lifecycle_iff_closedOnce :
    let tr := (Mealy.exec (step fun _ => []) {} closedOnce).1
    Lifecycle tr 1 ↔ tr.EachAfter fun past entry => Orderly 1 past entry.1 :=
  lifecycle_iff (Mealy.Run.exec (by decide)) 1

/-- The write fails, a text message is read nevertheless, and then the read fails too. -/
def failedTwice : List WsInput :=
  [.socket, .completion 1 (.accept true), .call (.send 1 []), .completion 1 .doWrite,
    .completion 1 (.write [] false), .completion 1 (.read (.text [])),
    .completion 1 (.read .error)]

/-- `OnMessage` fires after `OnDisconnect`, and `OnDisconnect` fires twice. -/
theorem not_lifecycle_failedTwice :
    let r := Mealy.exec (step fun _ => []) {} failedTwice
    Mealy.Run (step fun _ => []) Possible {} r.1 r.2 ∧
      callbacks r.1 = [.onConnect 1, .onDisconnect 1, .onMessage ⟨1, []⟩, .onDisconnect 1] ∧
      ¬ Lifecycle r.1 1 := by
  refine ⟨Mealy.Run.exec (by decide), rfl, fun h => ?_⟩
  have hcount := h.disconnectOnce (by decide)
  revert hcount
  decide

end WsServer

end IotDashboard
