import IotDashboard.Network.HttpSession

/-!
# HTTP over a byte stream

The read loop of `HttpSession`: one `async_read` after the other, each of which takes chunks from
the connection until they make up a whole message. `DoRead` empties the buffer before it reads, so
whatever arrived behind a message in the same chunk is lost.

Answers are meant not to depend on how the stream is cut into chunks. They do not exactly if every
message ends with a chunk.

## Main results

* `HttpSession.answered_eq_iff`: the exact condition on the chunks;
* `HttpSession.pipelined_request_lost`: two requests in one chunk.
-/

namespace IotDashboard

open StdString

/-- What the parser of the HTTP library makes of the bytes since the beginning of a message. -/
inductive Parsed where
  | needMore
  | message (bReq : RawRequest) (octets : ℕ)
  | malformed

/-- The HTTP library. -/
structure Beast where
  parse : StdString → Parsed
  /-- `keep_alive()` of a request. -/
  keepAlive : RawRequest → Bool

/-- The bytes are one request that keeps the connection open: no less is a message, and what
follows is not looked at. -/
structure Beast.WellFormed (beast : Beast) (bytes : StdString) : Prop where
  nonempty : bytes ≠ []
  incomplete : ∀ start, start <+: bytes → start ≠ bytes → beast.parse start = .needMore
  complete : ∃ bReq, beast.keepAlive bReq = true ∧
    ∀ rest, beast.parse (bytes ++ rest) = .message bReq bytes.length

/-- A response as it is sent. -/
structure RawResponse where
  status : UInt16
  version : UInt32
  fields : Headers
  keepAlive : Bool
  body : StdString

/-- A session between two chunks. -/
structure SessionState (σ : Type) where
  /-- `m_buffer` -/
  buffer : StdString := []
  closed : Bool := false
  /-- The messages answered so far, with their responses. -/
  answered : List (StdString × RawResponse) := []
  app : σ

namespace HttpSession

variable {σ : Type} (beast : Beast) (router : HttpRouter σ) (enableCors : Bool)

/-- `AppToBeast`. -/
def appToBeast (appRes : HttpResponse) (httpVersion : UInt32) (keepAlive : Bool) : RawResponse where
  status := appRes.status
  version := if httpVersion ≠ 10 ∧ httpVersion ≠ 11 then 11 else httpVersion
  -- A field without a name is skipped.
  fields := appRes.headers.erase []
  keepAlive := keepAlive
  body := appRes.body

/-- `DoRead` up to the call of `async_read`. -/
def doRead (s : SessionState σ) : SessionState σ :=
  { s with buffer := s.buffer.drop s.buffer.length }

/-- `OnWrite` after a response was written. -/
def onWrite (close : Bool) (s : SessionState σ) : SessionState σ :=
  if close then { s with closed := true } else doRead s

/-- `OnRead` for a message of so many octets, and `SendResponse`. -/
def answer (bReq : RawRequest) (octets : ℕ) (s : SessionState σ) : SessionState σ :=
  let keepAlive := beast.keepAlive bReq
  let r := onRead router enableCors bReq s.app
  let bRes := appToBeast r.1 bReq.version keepAlive
  onWrite (!keepAlive) { s with
    -- `async_read` leaves in the buffer what comes after the message.
    buffer := s.buffer.drop octets
    answered := s.answered ++ [(s.buffer.take octets, bRes)]
    app := r.2 }

/-- `async_read` takes a chunk from the connection. -/
def receive (s : SessionState σ) (chunk : StdString) : SessionState σ :=
  if s.closed then s
  else
    let s := { s with buffer := s.buffer ++ chunk }
    match beast.parse s.buffer with
    | .needMore => s
    -- `OnRead` returns without reading on.
    | .malformed => { s with closed := true }
    | .message bReq octets => answer beast router enableCors bReq octets s

/-- A session that receives the chunks one after the other. -/
def session (app : σ) (chunks : List StdString) : SessionState σ :=
  chunks.foldl (receive beast router enableCors) { app }

variable {beast} {s : SessionState σ} {bReq : RawRequest} {octets : ℕ}
  {chunk bytes : StdString} {chunks messages : List StdString}

private theorem receive_of_closed (hclosed : s.closed = true) :
    receive beast router enableCors s chunk = s := if_pos hclosed

/-- A chunk that does not complete the message. -/
theorem receive_of_needMore (hopen : s.closed = false)
    (hparse : beast.parse (s.buffer ++ chunk) = .needMore) :
    receive beast router enableCors s chunk = { s with buffer := s.buffer ++ chunk } := by
  simp only [receive, hopen, Bool.false_eq_true, if_false, hparse]

/-- A chunk with which the message cannot be one. -/
theorem receive_of_malformed (hopen : s.closed = false)
    (hparse : beast.parse (s.buffer ++ chunk) = .malformed) :
    receive beast router enableCors s chunk =
      { s with buffer := s.buffer ++ chunk, closed := true } := by
  simp only [receive, hopen, Bool.false_eq_true, if_false, hparse]

/-- A chunk that completes the message: it is answered, and nothing is left in the buffer of a
session that goes on. -/
theorem receive_of_message (hopen : s.closed = false)
    (hparse : beast.parse (s.buffer ++ chunk) = .message bReq octets) :
    ∃ bRes, (receive beast router enableCors s chunk).answered =
        s.answered ++ [((s.buffer ++ chunk).take octets, bRes)] ∧
      (receive beast router enableCors s chunk).closed = !beast.keepAlive bReq ∧
      (receive beast router enableCors s chunk).buffer =
        if beast.keepAlive bReq then [] else (s.buffer ++ chunk).drop octets := by
  simp only [receive, hopen, Bool.false_eq_true, if_false, hparse, answer, onWrite]
  cases beast.keepAlive bReq
  · exact ⟨_, rfl, rfl, rfl⟩
  · exact ⟨_, rfl, rfl, List.drop_length⟩

/-- Only what the buffer holds with the chunk matters. -/
theorem receive_congr (hopen : s.closed = false) {buffer buffer' chunk' : StdString}
    (h : buffer ++ chunk = buffer' ++ chunk') :
    receive beast router enableCors { s with buffer } chunk =
      receive beast router enableCors { s with buffer := buffer' } chunk' := by
  simp only [receive, hopen, h, Bool.false_eq_true, if_false]

/-! ## Chunks that make up whole messages -/

/-- A message in one chunk is answered. -/
theorem receive_wellFormed (hopen : s.closed = false) (hempty : s.buffer = [])
    (hbytes : beast.WellFormed bytes) :
    (receive beast router enableCors s bytes).closed = false ∧
      (receive beast router enableCors s bytes).buffer = [] ∧
      (receive beast router enableCors s bytes).answered.map Prod.fst =
        s.answered.map Prod.fst ++ [bytes] := by
  obtain ⟨bReq, hkeep, hparse⟩ := hbytes.complete
  have hwhole : beast.parse (s.buffer ++ bytes) = .message bReq bytes.length := by
    simpa [hempty] using hparse []
  obtain ⟨bRes, hanswered, hclosed, hbuffer⟩ := receive_of_message router enableCors hopen hwhole
  rw [hkeep] at hclosed hbuffer
  exact ⟨hclosed, hbuffer, by simp [hanswered, hempty]⟩

/-- A message cut into chunks is answered as in one. -/
theorem foldl_receive_group (buffer : StdString) (hopen : s.closed = false)
    (hbytes : beast.WellFormed (buffer ++ chunks.flatten))
    (hnonempty : ∀ chunk ∈ chunks, chunk ≠ []) (hchunks : chunks ≠ []) :
    chunks.foldl (receive beast router enableCors) { s with buffer } =
      receive beast router enableCors { s with buffer := [] } (buffer ++ chunks.flatten) := by
  induction chunks generalizing buffer with
  | nil => exact absurd rfl hchunks
  | cons chunk chunks ih =>
    cases chunks with
    | nil => exact receive_congr router enableCors hopen (by simp)
    | cons chunk' chunks =>
      -- More is to come, so the message is not complete yet.
      have hmore : buffer ++ chunk ≠ buffer ++ (chunk :: chunk' :: chunks).flatten := by
        have hchunk' : chunk' ≠ [] := hnonempty chunk' (by simp)
        simp [hchunk']
      have hparse := hbytes.incomplete (buffer ++ chunk) (by simp) hmore
      rw [List.foldl_cons,
        receive_of_needMore router enableCors (s := { s with buffer }) hopen hparse]
      rw [ih]
      · exact receive_congr router enableCors hopen (by simp)
      · simpa using hbytes
      · exact fun c hc => hnonempty c (List.mem_cons_of_mem _ hc)
      · exact List.cons_ne_nil _ _

/-- Where every message has chunks of its own, the session ends up as with one chunk for each. -/
theorem foldl_receive_groups {groups : List (List StdString)} (hopen : s.closed = false)
    (hempty : s.buffer = []) (hmessages : ∀ bytes ∈ groups.map List.flatten, beast.WellFormed bytes)
    (hnonempty : ∀ chunk ∈ groups.flatten, chunk ≠ []) :
    groups.flatten.foldl (receive beast router enableCors) s =
      (groups.map List.flatten).foldl (receive beast router enableCors) s := by
  induction groups generalizing s with
  | nil => rfl
  | cons group groups ih =>
    rw [List.map_cons, List.forall_mem_cons] at hmessages
    have hgroup : group.foldl (receive beast router enableCors) s =
        receive beast router enableCors s group.flatten := by
      have hwhole := foldl_receive_group router enableCors s.buffer hopen
        (by rw [hempty]; exact hmessages.1)
        (fun c hc => hnonempty c (by simp [hc])) (by rintro rfl; exact hmessages.1.nonempty rfl)
      rw [hwhole]
      exact receive_congr router enableCors hopen (by simp [hempty])
    obtain ⟨hopen', hempty', -⟩ := receive_wellFormed router enableCors
      hopen hempty hmessages.1
    rw [List.flatten_cons, List.foldl_append, hgroup, List.map_cons, List.foldl_cons]
    exact ih hopen' hempty' hmessages.2 fun c hc => hnonempty c (by simp [hc])

/-- One chunk for each message: every message is answered. -/
theorem answered_foldl_messages (hopen : s.closed = false) (hempty : s.buffer = [])
    (hmessages : ∀ bytes ∈ messages, beast.WellFormed bytes) :
    (messages.foldl (receive beast router enableCors) s).answered.map Prod.fst =
      s.answered.map Prod.fst ++ messages := by
  induction messages generalizing s with
  | nil => simp
  | cons bytes messages ih =>
    obtain ⟨hbytes, hmessages⟩ := List.forall_mem_cons.mp hmessages
    obtain ⟨hopen', hempty', hanswered⟩ := receive_wellFormed router enableCors hopen hempty hbytes
    rw [List.foldl_cons, ih hopen' hempty' hmessages, hanswered, List.append_assoc,
      List.singleton_append]

/-! ## Accounting for every byte -/

/-- How many bytes the answered messages have. -/
def answeredBytes (s : SessionState σ) : ℕ := (s.answered.map (·.1.length)).sum

/-- A chunk adds no more to the messages and the buffer than its own bytes. -/
theorem answeredBytes_receive_le (beast : Beast) (router : HttpRouter σ) (enableCors : Bool)
    (s : SessionState σ) (chunk : StdString) :
    answeredBytes (receive beast router enableCors s chunk) +
        (receive beast router enableCors s chunk).buffer.length ≤
      answeredBytes s + s.buffer.length + chunk.length := by
  by_cases hclosed : s.closed = true
  · rw [receive_of_closed router enableCors hclosed]
    omega
  have hopen : s.closed = false := Bool.not_eq_true _ ▸ hclosed
  cases hparse : beast.parse (s.buffer ++ chunk) with
  | needMore =>
    rw [receive_of_needMore router enableCors hopen hparse]
    simp [answeredBytes, Nat.add_assoc]
  | malformed =>
    rw [receive_of_malformed router enableCors hopen hparse]
    simp [answeredBytes, Nat.add_assoc]
  | message bReq n =>
    obtain ⟨bRes, hanswered, -, hbuffer⟩ := receive_of_message router enableCors hopen hparse
    have hleft : (receive beast router enableCors s chunk).buffer.length ≤
        (s.buffer ++ chunk).length - n := by
      rw [hbuffer]
      split <;> simp
    simp only [answeredBytes, hanswered, List.map_append, List.map_singleton, List.sum_append,
      List.sum_singleton, List.length_take, List.length_append] at hleft ⊢
    omega

/-- No more bytes are answered than were received. -/
theorem answeredBytes_foldl_le (beast : Beast) (router : HttpRouter σ) (enableCors : Bool)
    (s : SessionState σ) (chunks : List StdString) :
    answeredBytes (chunks.foldl (receive beast router enableCors) s) ≤
      answeredBytes s + s.buffer.length + chunks.flatten.length := by
  induction chunks generalizing s with
  | nil => simp
  | cons chunk chunks ih =>
    have hstep := answeredBytes_receive_le beast router enableCors s chunk
    have hrest := ih (receive beast router enableCors s chunk)
    rw [List.foldl_cons, List.flatten_cons, List.length_append]
    omega

private theorem foldl_receive_of_closed (hclosed : s.closed = true) (chunks : List StdString) :
    chunks.foldl (receive beast router enableCors) s = s := by
  induction chunks with
  | nil => rfl
  | cons chunk chunks ih => rw [List.foldl_cons, receive_of_closed router enableCors hclosed, ih]

/-- A session that answered every byte it received found every message in chunks of its own. -/
theorem groups_of_answeredBytes (hopen : s.closed = false)
    (hnonempty : ∀ chunk ∈ chunks, chunk ≠ [])
    (hoctets : answeredBytes s + s.buffer.length + chunks.flatten.length ≤
      answeredBytes (chunks.foldl (receive beast router enableCors) s)) :
    ∃ groups : List (List StdString), groups.flatten = chunks ∧
      (chunks.foldl (receive beast router enableCors) s).answered.map Prod.fst =
        s.answered.map Prod.fst ++ (groups.map List.flatten).modifyHead (s.buffer ++ ·) ∧
      (groups = [] → s.buffer = []) := by
  -- The first group goes on with what is in the buffer.
  induction chunks generalizing s with
  | nil =>
    refine ⟨[], rfl, by simp, fun _ => ?_⟩
    rw [List.foldl_nil, List.flatten_nil, List.length_nil] at hoctets
    exact List.eq_nil_of_length_eq_zero (by omega)
  | cons chunk chunks ih =>
    obtain ⟨hchunk, hchunks⟩ := List.forall_mem_cons.mp hnonempty
    have hpos : 0 < chunk.length := List.length_pos_of_ne_nil hchunk
    rw [List.foldl_cons] at hoctets ⊢
    rw [List.flatten_cons, List.length_append] at hoctets
    have hrest := answeredBytes_foldl_le beast router enableCors
      (receive beast router enableCors s chunk) chunks
    cases hparse : beast.parse (s.buffer ++ chunk) with
    | needMore =>
      rw [receive_of_needMore router enableCors hopen hparse] at hoctets ⊢
      obtain ⟨groups, hflatten, hanswered, hbuffer⟩ :=
        ih (s := { s with buffer := s.buffer ++ chunk }) hopen hchunks
          (by simpa [answeredBytes, Nat.add_assoc] using hoctets)
      cases groups with
      | nil => simp [hchunk] at hbuffer
      | cons group groups =>
        refine ⟨(chunk :: group) :: groups, by simp [← hflatten], ?_, nofun⟩
        simpa [List.append_assoc] using hanswered
    | malformed =>
      -- The bytes of the chunk are not answered any more.
      rw [receive_of_malformed router enableCors hopen hparse,
        foldl_receive_of_closed router enableCors rfl] at hoctets
      simp only [answeredBytes] at hoctets
      omega
    | message bReq n =>
      obtain ⟨bRes, hanswered, hclosed, hbuffer⟩ :=
        receive_of_message router enableCors hopen hparse
      generalize receive beast router enableCors s chunk = s' at *
      have hbytes : answeredBytes s' =
          answeredBytes s + ((s.buffer ++ chunk).take n).length := by
        simp [answeredBytes, hanswered]
      have htake := List.length_take_le' n (s.buffer ++ chunk)
      have hboth : (s.buffer ++ chunk).length = s.buffer.length + chunk.length :=
        List.length_append
      cases hkeep : beast.keepAlive bReq with
      | true =>
        rw [hkeep] at hclosed hbuffer
        have hempty : s'.buffer.length = 0 := congrArg List.length hbuffer
        -- The message is all that was received, since nothing else is answered later.
        have hwhole : (s.buffer ++ chunk).take n = s.buffer ++ chunk :=
          (List.take_sublist n _).eq_of_length_le (by omega)
        rw [hwhole] at hbytes hanswered
        obtain ⟨groups, hflatten, hlater, -⟩ := ih hclosed hchunks (by omega)
        refine ⟨[chunk] :: groups, by simp [hflatten], ?_, nofun⟩
        rw [hlater, hanswered, hbuffer]
        cases groups <;> simp
      | false =>
        rw [hkeep] at hclosed
        rw [foldl_receive_of_closed router enableCors hclosed] at hoctets ⊢
        have hlast : chunks.flatten = [] := List.eq_nil_of_length_eq_zero (by omega)
        have hnone : chunks = [] := by
          cases chunks with
          | nil => rfl
          | cons chunk' chunks => simp [hchunks chunk' List.mem_cons_self] at hlast
        have hwhole : (s.buffer ++ chunk).take n = s.buffer ++ chunk :=
          (List.take_sublist n _).eq_of_length_le (by omega)
        exact ⟨[[chunk]], by simp [hnone], by simp [hanswered, hwhole], nofun⟩

/-- For every stream of well-formed requests and every way of cutting it into chunks: the session
answers every request as if it came in a chunk of its own exactly if it does come in chunks of its
own. -/
theorem answered_eq_iff (beast : Beast) (router : HttpRouter σ) (enableCors : Bool) (app : σ)
    {messages chunks : List StdString} (hmessages : ∀ bytes ∈ messages, beast.WellFormed bytes)
    (hnonempty : ∀ chunk ∈ chunks, chunk ≠ []) (hstream : chunks.flatten = messages.flatten) :
    (session beast router enableCors app chunks).answered =
        (session beast router enableCors app messages).answered ↔
      ∃ groups : List (List StdString), groups.flatten = chunks ∧
        groups.map List.flatten = messages := by
  have hall : (session beast router enableCors app messages).answered.map Prod.fst = messages :=
    answered_foldl_messages router enableCors rfl rfl hmessages
  constructor
  · intro hanswered
    have hoctets : answeredBytes (session beast router enableCors app chunks) =
        chunks.flatten.length := by
      have hlengths : answeredBytes (session beast router enableCors app messages) =
          (messages.map List.length).sum := by
        rw [← congrArg (List.map List.length) hall, List.map_map]
        rfl
      rw [answeredBytes, hanswered, ← answeredBytes, hlengths, hstream, List.length_flatten]
    obtain ⟨groups, hflatten, hgroups, -⟩ :=
      groups_of_answeredBytes router enableCors (s := { app }) rfl hnonempty (by
        show 0 + 0 + _ ≤ answeredBytes (session beast router enableCors app chunks)
        omega)
    refine ⟨groups, hflatten, ?_⟩
    rw [← hall, ← hanswered, session, hgroups]
    cases groups <;> simp
  · rintro ⟨groups, rfl, rfl⟩
    exact congrArg SessionState.answered
      (foldl_receive_groups router enableCors rfl rfl hmessages hnonempty)

/-- The library as far as one request goes, whose text it knows by heart. -/
def literalBeast (text : StdString) (bReq : RawRequest) : Beast where
  parse bytes :=
    if text <+: bytes then .message bReq text.length
    else if bytes <+: text then .needMore
    else .malformed
  keepAlive _ := true

private theorem wellFormed_literalBeast {text : StdString} (hnonempty : text ≠ [])
    (bReq : RawRequest) :
    (literalBeast text bReq).WellFormed text := by
  refine ⟨hnonempty, fun start hstart hne => ?_, bReq, rfl, fun rest => ?_⟩
  · have hshort : ¬ text <+: start := fun h => hne (hstart.eq_of_length_le h.length_le)
    simp [literalBeast, hstart, hshort]
  · simp [literalBeast]

/-- The text of a request. -/
def sampleText : StdString := lit "GET /health HTTP/1.1\r\nHost: iot\r\n\r\n"

/-- The library as far as this request goes. -/
def sampleBeast : Beast := literalBeast sampleText
  { method := .get, target := lit "/health", fields := [(lit "Host", lit "iot")] }

private theorem wellFormed_sampleText : sampleBeast.WellFormed sampleText :=
  wellFormed_literalBeast (by decide) _

/-- The first request is cut in two, the second comes in one chunk. -/
theorem answered_eq_iff_cut :
    (session sampleBeast ({} : HttpRouter Unit) true ()
        [sampleText.take 5, sampleText.drop 5, sampleText]).answered =
      (session sampleBeast ({} : HttpRouter Unit) true () [sampleText, sampleText]).answered := by
  refine (answered_eq_iff sampleBeast {} true () ?_ ?_ ?_).mpr
    ⟨[[sampleText.take 5, sampleText.drop 5], [sampleText]], rfl, ?_⟩
  · simpa using wellFormed_sampleText
  · decide
  · simp [← List.append_assoc]
  · simp

/-- Of two requests in one chunk the second is never answered. -/
theorem pipelined_request_lost :
    ¬ ∀ (beast : Beast) (router : HttpRouter Unit) (enableCors : Bool)
      (messages chunks : List StdString), (∀ bytes ∈ messages, beast.WellFormed bytes) →
        (∀ chunk ∈ chunks, chunk ≠ []) → chunks.flatten = messages.flatten →
          (session beast router enableCors () chunks).answered =
            (session beast router enableCors () messages).answered := by
  intro hsame
  have hmessages : ∀ bytes ∈ [sampleText, sampleText], sampleBeast.WellFormed bytes := by
    simpa using wellFormed_sampleText
  have hanswered := hsame sampleBeast {} true [sampleText, sampleText] [sampleText ++ sampleText]
    hmessages (by decide) (by simp)
  have hall := answered_foldl_messages ({} : HttpRouter Unit) true
    (s := { app := () }) rfl rfl hmessages
  obtain ⟨bReq, -, hparse⟩ := wellFormed_sampleText.complete
  obtain ⟨bRes, hone, -⟩ := receive_of_message ({} : HttpRouter Unit) true (s := { app := () })
    rfl (hparse sampleText)
  -- Both requests are answered on the right, but only one on the left.
  have htwo := congrArg List.length (hall.symm.trans (congrArg (List.map Prod.fst) hanswered.symm))
  rw [List.length_map] at htwo
  exact absurd (htwo.trans (congrArg List.length hone)) (by simp)

end HttpSession

end IotDashboard
