import IotDashboard.Flutter.WebSocketLink

/-!
# Subscriptions across reconnects

The server forgets the subscriptions of a session that is disconnected, and the client does not
repeat them on a new channel.

## Main definitions

* `WebSocketLink.Linked`: what holds of client, server and channels in every run.

## Main results

* `WebSocketLink.restored_iff`: in every state the server has exactly the subscriptions that the
  app asked for when every topic that the app wants was subscribed after its channel was opened, and
  only then.
-/

namespace IotDashboard

open StdString

namespace WebSocketLink

variable {J : DartConvert} {V : Vendor} {tr : Trace} {l : WebSocketLink} {i : LinkInput}
  {o : LinkOutput}

/-! ## Steps of the client -/

/-- It neither opens a channel nor sends. -/
def Silent (effects : List ClientEffect) : Prop :=
  effects.any ClientEffect.opens = false ∧ ∀ outbox, effects.foldl push outbox = outbox

private theorem silent_nil : Silent [] := ⟨rfl, fun _ => rfl⟩

variable {c : WebSocketClient}

/-- Opening a channel, or trying to. -/
theorem connect_cases (opened : Bool) (c : WebSocketClient) :
    (∃ ticker, (c.connect opened).1 = [.openChannel c.fresh, .startPing ticker] ∧
        (c.connect opened).2.channel = some c.fresh ∧ c.fresh < (c.connect opened).2.fresh) ∨
      Silent (c.connect opened).1 ∧ (c.connect opened).2.channel = c.channel ∧
        c.fresh ≤ (c.connect opened).2.fresh := by
  cases opened with
  | true => exact .inl ⟨c.fresh + 1, rfl, rfl, by show c.fresh < c.fresh + 1 + 1; omega⟩
  | false =>
    refine .inr ⟨silent_nil, ?_⟩
    -- The attempt failed; the old channel stays in the field.
    show c.cancelReconnect.scheduleReconnect.channel = _ ∧
      _ ≤ c.cancelReconnect.scheduleReconnect.fresh
    rw [WebSocketClient.scheduleReconnect]
    split
    · exact ⟨rfl, le_rfl⟩
    · exact ⟨rfl, Nat.le_succ _⟩

private theorem silent_onData (data : ChannelData) : Silent (c.onData J data) := by
  cases data with
  | binary => exact silent_nil
  | text payload =>
    rw [WebSocketClient.onData]
    split
    · split <;> exact ⟨rfl, fun _ => rfl⟩
    · exact silent_nil

private theorem silent_dispose : Silent c.dispose.1 := by
  show Silent (c.channel.toList.map .closeSink)
  cases c.channel with
  | none => exact silent_nil
  | some channel => exact ⟨rfl, fun _ => rfl⟩

/-- The client opens a channel, sends a message, or does neither. -/
theorem client_cases (J : DartConvert) (c : WebSocketClient) (i : ClientInput) :
    (i.wish = none ∧ ∃ ticker, (c.step J i).1 = [.openChannel c.fresh, .startPing ticker] ∧
        (c.step J i).2.channel = some c.fresh ∧ c.fresh < (c.step J i).2.fresh) ∨
      c.step J i = (c.send J (messageOf i.wish), c) ∨
      i.wish = none ∧ Silent (c.step J i).1 ∧ (c.step J i).2.channel = c.channel ∧
        c.fresh ≤ (c.step J i).2.fresh := by
  have hschedule (c : WebSocketClient) : c.scheduleReconnect.channel = c.channel ∧
      c.fresh ≤ c.scheduleReconnect.fresh := by
    rw [WebSocketClient.scheduleReconnect]
    split
    · exact ⟨rfl, le_rfl⟩
    · exact ⟨rfl, Nat.le_succ _⟩
  cases i with
  | connect opened =>
    rcases connect_cases opened c with h | h
    · exact .inl ⟨rfl, h⟩
    · exact .inr (.inr ⟨rfl, h⟩)
  | subscribe topic => exact .inr (.inl rfl)
  | unsubscribe topic => exact .inr (.inl rfl)
  | dispose => exact .inr (.inr ⟨rfl, silent_dispose, rfl, le_rfl⟩)
  | data channel data => exact .inr (.inr ⟨rfl, silent_onData data, rfl, le_rfl⟩)
  | error channel => exact .inr (.inr ⟨rfl, silent_nil, hschedule c⟩)
  | done channel => exact .inr (.inr ⟨rfl, silent_nil, hschedule { c with listening := _ }⟩)
  -- A timer that fires has left the list of pending ones before `connect` runs.
  | timer id opened =>
    rcases connect_cases opened { c with timers := c.timers.erase id } with h | h
    · exact .inl ⟨rfl, h⟩
    · exact .inr (.inr ⟨rfl, h⟩)
  -- The ping is sent like a message of the app, without a wish.
  | tick id => exact .inr (.inl rfl)

/-! ## The invariant -/

/-- What the history says about the link. -/
structure Linked (J : DartConvert) (V : Vendor) (tr : Trace) (l : WebSocketLink) : Prop where
  server : Mealy.Run (WsServer.step (webSocketHandler V)) WsServer.Possible {} (serverTrace tr)
    l.server
  ids : ∀ e ∈ WsServer.changes (webSocketHandler V) (serverTrace tr), e.1.1 < l.server.nextId
  connection : ∀ channel id, l.connection channel = some id → id < l.server.nextId
  injective : ∀ channel channel' id, l.connection channel = some id →
    l.connection channel' = some id → channel = channel'
  unopened : ∀ channel, l.client.fresh ≤ channel →
    l.connection channel = none ∧ l.outbox channel = []
  opened : ∀ entry ∈ tr, ∀ channel, .openChannel channel ∈ entry.2.effects →
    channel < l.client.fresh
  current : ∀ channel, l.client.channel = some channel → channel < l.client.fresh ∧
    Current J (WsServer.changes (webSocketHandler V) (serverTrace tr)) (sinceOpened tr)
      (l.outbox channel) (l.connection channel)

private theorem linked_nil : Linked J V [] {} where
  server := .nil
  ids e he := absurd he List.not_mem_nil
  connection channel id h := by simp at h
  injective channel channel' id h := by simp at h
  unopened channel _ := ⟨rfl, rfl⟩
  opened entry he := absurd he List.not_mem_nil
  current channel h := by simp at h

/-- A step of the client leaves the server and the connections alone. -/
theorem Linked.client (h : Linked J V tr l) {input : ClientInput} {c : WebSocketClient}
    {effects : List ClientEffect} {outbox : ChannelId → List StdString}
    (hfresh : l.client.fresh ≤ c.fresh)
    (hunopened : ∀ channel, c.fresh ≤ channel → outbox channel = [])
    (hopened : ∀ channel, .openChannel channel ∈ effects → channel < c.fresh)
    (hcurrent : ∀ channel, c.channel = some channel → channel < c.fresh ∧
      Current J (WsServer.changes (webSocketHandler V) (serverTrace tr))
        (sinceOpened (tr ++ [(.client input, ⟨effects, []⟩)])) (outbox channel)
        (l.connection channel)) :
    Linked J V (tr ++ [(.client input, ⟨effects, []⟩)]) { l with client := c, outbox } := by
  have hserver : serverTrace (tr ++ [(.client input, ⟨effects, []⟩)]) = serverTrace tr := by
    rw [serverTrace_snoc, List.append_nil]
  refine ⟨?_, ?_, h.connection, h.injective, ?_, ?_, ?_⟩
  · rw [hserver]
    exact h.server
  · rw [hserver]
    exact h.ids
  · exact fun channel hle => ⟨(h.unopened channel (hfresh.trans hle)).1, hunopened channel hle⟩
  · intro entry he channel hopen
    rcases List.mem_append.mp he with he | he
    · exact (h.opened entry he channel hopen).trans_le hfresh
    · obtain rfl := List.mem_singleton.mp he
      exact hopened channel hopen
  · rw [hserver]
    exact hcurrent

/-- What is sent waits on the current channel. -/
theorem Linked.sends (hJ : J.Matches V) (h : Linked J V tr l) {input : ClientInput}
    (hutf8 : ∀ op ∈ input.wish, StdString.isUtf8 op.1 = true) :
    Linked J V (tr ++ [(.client input, ⟨l.client.send J (messageOf input.wish), []⟩)])
      { l with outbox := (l.client.send J (messageOf input.wish)).foldl push l.outbox } := by
  obtain ⟨hmessage, hcanonical⟩ := messageOf_ok hutf8
  obtain ⟨text, htext⟩ := hJ.encodes _ hmessage hcanonical
  -- Without a channel the message is dropped, and the invariant says nothing.
  cases hchannel : l.client.channel with
  | none =>
    have hsend : l.client.send J (messageOf input.wish) = [] := by
      rw [WebSocketClient.send, hchannel]
    rw [hsend]
    refine h.client (c := l.client) le_rfl ?_ ?_ ?_
    · exact fun channel hle => (h.unopened channel hle).2
    · exact fun channel hopen => absurd hopen List.not_mem_nil
    · intro channel hcurrent
      rw [hchannel] at hcurrent
      exact absurd hcurrent.symm (Option.some_ne_none channel)
  | some current =>
    have hsend : l.client.send J (messageOf input.wish) = [.send current text] := by
      rw [WebSocketClient.send, hchannel, htext]
    obtain ⟨hlt, hcurrent⟩ := h.current current hchannel
    rw [hsend]
    refine h.client (c := l.client) le_rfl ?_ ?_ ?_
    · intro channel hle
      show Function.update l.outbox current _ channel = []
      rw [Function.update_of_ne (hlt.trans_le hle).ne']
      exact (h.unopened channel hle).2
    · intro channel hopen
      simp at hopen
    · intro channel hsame
      obtain rfl : current = channel := Option.some.inj (hchannel.symm.trans hsame)
      refine ⟨hlt, ?_⟩
      show Current J _ _ (Function.update l.outbox current (l.outbox current ++ [text]) current) _
      rw [Function.update_self, sinceOpened_snoc]
      exact hcurrent.sends ⟨hutf8, htext⟩

private theorem Linked.stepClient (hJ : J.Matches V) (h : Linked J V tr l) {input : ClientInput}
    (hpossible : Possible tr l (.client input)) :
    Linked J V (tr ++ [(.client input, (l.step J V (.client input)).1)])
      (l.step J V (.client input)).2 := by
  rcases client_cases J l.client input with ⟨hwish, ticker, heffects, hchannel, hfresh⟩ |
    hsend | ⟨hwish, hsilent, hchannel, hfresh⟩
  · have houtbox : (l.client.step J input).1.foldl push l.outbox = l.outbox := by
      rw [heffects]
      rfl
    refine h.client hfresh.le ?_ ?_ ?_
    · rw [houtbox]
      exact fun channel hle => (h.unopened channel (hfresh.le.trans hle)).2
    · intro channel hopen
      rw [heffects] at hopen
      simp only [List.mem_cons, ClientEffect.openChannel.injEq, reduceCtorEq, List.not_mem_nil,
        or_false] at hopen
      exact hopen ▸ hfresh
    · -- Nothing was sent on the new channel, and nobody has accepted it.
      intro channel hcurrent
      obtain rfl : l.client.fresh = channel := Option.some.inj (hchannel.symm.trans hcurrent)
      obtain ⟨hconnection, hempty⟩ := h.unopened _ le_rfl
      have hsince : sinceOpened (tr ++ [(.client input, ⟨(l.client.step J input).1, []⟩)]) =
          [] := by
        rw [sinceOpened_snoc, heffects]
        rfl
      rw [houtbox, hconnection, hempty, hsince]
      exact ⟨hfresh, current_opened⟩
  -- The client sends the message of the wish.
  · have hstep : l.step J V (.client input) = (⟨l.client.send J (messageOf input.wish), []⟩,
        { l with outbox := (l.client.send J (messageOf input.wish)).foldl push l.outbox }) := by
      simp only [step, hsend]
    rw [hstep]
    exact h.sends hJ hpossible.2
  -- The client neither opens nor sends, and there is no wish.
  · have houtbox : (l.client.step J input).1.foldl push l.outbox = l.outbox := hsilent.2 _
    refine h.client hfresh ?_ ?_ ?_
    · rw [houtbox]
      exact fun channel hle => (h.unopened channel (hfresh.trans hle)).2
    · intro channel hopen
      have hnone := List.any_eq_false.mp hsilent.1 _ hopen
      exact absurd rfl hnone
    · intro channel hcurrent
      obtain ⟨hlt, hcurrent⟩ := h.current channel (hchannel.symm.trans hcurrent)
      refine ⟨hlt.trans_le hfresh, ?_⟩
      have hsince : sinceOpened (tr ++ [(.client input, ⟨(l.client.step J input).1, []⟩)]) =
          sinceOpened tr := by
        rw [sinceOpened_snoc, hsilent.1]
        show sinceOpened tr ++ input.wish.toList = _
        rw [hwish]
        exact List.append_nil _
      rw [houtbox, hsince]
      exact hcurrent

/-- A step of the server that leaves the client alone. -/
theorem Linked.serve (h : Linked J V tr l) {li : LinkInput} {i : WsInput}
    (connection : ChannelId → Option ConnectionId) (outbox : ChannelId → List StdString)
    (hwish : li.wish = none) (hpossible : WsServer.Possible [] l.server i)
    (hids : ∀ e ∈ i.changes (webSocketHandler V), e.1.1 < l.server.nextId)
    (hconnection : ∀ channel id, connection channel = some id →
      id < (l.server.step (webSocketHandler V) i).2.nextId)
    (hinjective : ∀ channel channel' id, connection channel = some id →
      connection channel' = some id → channel = channel')
    (hunopened : ∀ channel, l.client.fresh ≤ channel →
      connection channel = none ∧ outbox channel = [])
    (hcurrent : ∀ channel, l.client.channel = some channel → channel < l.client.fresh →
      Current J (WsServer.changes (webSocketHandler V) (serverTrace tr) ++
        i.changes (webSocketHandler V)) (sinceOpened tr) (outbox channel) (connection channel)) :
    Linked J V (tr ++ [(li, ⟨[], [(i, (l.server.step (webSocketHandler V) i).1)]⟩)])
      ⟨l.client, (l.server.step (webSocketHandler V) i).2, connection, outbox⟩ := by
  -- What the server does is no wish and opens no channel.
  have hsince : sinceOpened
      (tr ++ [(li, ⟨[], [(i, (l.server.step (webSocketHandler V) i).1)]⟩)]) = sinceOpened tr := by
    rw [sinceOpened_snoc, hwish]
    exact List.append_nil _
  refine ⟨?_, ?_, hconnection, hinjective, hunopened, ?_, ?_⟩
  · rw [serverTrace_snoc]
    exact h.server.snoc i hpossible
  · rw [serverTrace_snoc, WsServer.changes_snoc]
    intro e he
    -- Ids are given out in order, so a change is about an id below the next one.
    have hlt : e.1.1 < l.server.nextId := by
      rcases List.mem_append.mp he with he | he
      · exact h.ids e he
      · exact hids e he
    exact hlt.trans_le (WsServer.nextId_le_step i)
  · intro entry he channel hopen
    rcases List.mem_append.mp he with he | he
    · exact h.opened entry he channel hopen
    · obtain rfl := List.mem_singleton.mp he
      exact absurd hopen List.not_mem_nil
  · intro channel hchannel
    obtain ⟨hlt, -⟩ := h.current channel hchannel
    rw [serverTrace_snoc, WsServer.changes_snoc, hsince]
    exact ⟨hlt, hcurrent channel hchannel hlt⟩

private theorem Linked.stepAccept (h : Linked J V tr l) {channel : ChannelId}
    (hpossible : Possible tr l (.accept channel)) :
    Linked J V (tr ++ [(.accept channel, (l.step J V (.accept channel)).1)])
      (l.step J V (.accept channel)).2 := by
  obtain ⟨hnone, entry, hentry, effect, heffect, rfl⟩ := hpossible
  have hlt := h.opened entry hentry channel heffect
  have hself : Function.update l.connection channel (some l.server.nextId) channel =
      some l.server.nextId := Function.update_self ..
  have hother {channel' : ChannelId} (hne : channel' ≠ channel) :
      Function.update l.connection channel (some l.server.nextId) channel' =
        l.connection channel' := Function.update_of_ne hne ..
  -- The new session has no changes yet, so that what was sent so far waits for it.
  refine h.serve (i := .socket) (Function.update l.connection channel (some l.server.nextId))
    l.outbox rfl trivial ?_ ?_ ?_ ?_ ?_
  · exact fun e he => absurd he List.not_mem_nil
  · intro channel' id hid
    show id < l.server.nextId + 1
    by_cases hne : channel' = channel
    · subst hne
      rw [hself] at hid
      exact Option.some.inj hid ▸ Nat.lt_succ_self _
    · rw [hother hne] at hid
      exact (h.connection channel' id hid).trans (Nat.lt_succ_self _)
  · -- The id is new, so it is the id of no other channel.
    intro a b id ha hb
    by_cases hac : a = channel <;> by_cases hbc : b = channel
    · rw [hac, hbc]
    · subst hac
      rw [hself] at ha
      rw [hother hbc] at hb
      exact absurd (h.connection b id hb) (Option.some.inj ha ▸ lt_irrefl _)
    · subst hbc
      rw [hself] at hb
      rw [hother hac] at ha
      exact absurd (h.connection a id ha) (Option.some.inj hb ▸ lt_irrefl _)
    · rw [hother hac] at ha
      rw [hother hbc] at hb
      exact h.injective a b id ha hb
  · intro channel' hle
    rw [hother (hlt.trans_le hle).ne']
    exact h.unopened channel' hle
  · intro channel' hchannel hlt'
    obtain ⟨-, hcurrent⟩ := h.current channel' hchannel
    rw [show WsInput.changes (webSocketHandler V) .socket = [] from rfl, List.append_nil]
    by_cases hne : channel' = channel
    · subst hne
      rw [hnone] at hcurrent
      rw [hself]
      exact hcurrent.accept fun e he => (h.ids e he).ne
    · rw [hother hne]
      exact hcurrent

private theorem Linked.stepDeliver (hJ : J.Matches V) (h : Linked J V tr l) {channel : ChannelId}
    (hpossible : Possible tr l (.deliver channel)) :
    Linked J V (tr ++ [(.deliver channel, (l.step J V (.deliver channel)).1)])
      (l.step J V (.deliver channel)).2 := by
  obtain ⟨hwaits, id, hid, hread⟩ := hpossible
  obtain ⟨text, rest, houtbox⟩ := List.exists_cons_of_ne_nil hwaits
  have hstep : l.step J V (.deliver channel) =
      WebSocketLink.serve V { l with outbox := Function.update l.outbox channel rest }
        (.completion id (.read (.text text))) := by
    have hid' : l.connection channel = some id := hid
    simp only [step, hid', houtbox]
  rw [hstep]
  have hkeys : ∀ e ∈ WsInput.changes (webSocketHandler V) (.completion id (.read (.text text))),
      e.1.1 = id := fun e he => WsServer.key_of_mem_changes he
  have hlt := h.connection channel id hid
  refine h.serve l.connection (Function.update l.outbox channel rest) rfl hread ?_ ?_ h.injective
    ?_ ?_
  · exact fun e he => hkeys e he ▸ hlt
  · exact fun channel' id' hid' =>
      (h.connection channel' id' hid').trans_le (WsServer.nextId_le_step _)
  · intro channel' hle
    obtain ⟨hnone, hempty⟩ := h.unopened channel' hle
    refine ⟨hnone, ?_⟩
    -- A message waits on the channel, so it was opened before.
    have hne : channel' ≠ channel := by
      rintro rfl
      exact hwaits hempty
    rw [Function.update_of_ne hne]
    exact hempty
  · intro channel' hchannel _
    obtain ⟨-, hcurrent⟩ := h.current channel' hchannel
    by_cases hne : channel' = channel
    · subst hne
      rw [houtbox, hid] at hcurrent
      rw [Function.update_self, hid]
      exact hcurrent.deliver hJ
    · rw [Function.update_of_ne hne]
      refine hcurrent.other fun e he heq => hne ?_
      exact h.injective channel' channel id (hkeys e he ▸ heq) hid

private theorem Linked.stepServer (h : Linked J V tr l) {input : WsInput}
    (hpossible : Possible tr l (.server input)) :
    Linked J V (tr ++ [(.server input, (l.step J V (.server input)).1)])
      (l.step J V (.server input)).2 := by
  obtain ⟨hserver, hforeign⟩ := hpossible
  -- What the step changes concerns a session that is not at the end of a channel.
  have hkeys : ∀ e ∈ input.changes (webSocketHandler V), e.1.1 < l.server.nextId ∧
      ∀ channel, l.connection channel ≠ some e.1.1 := by
    intro e he
    rcases input with _ | ⟨id, completion⟩ | op
    case call => exact absurd he (by simp [WsInput.changes, show op.change = none from hforeign])
    case socket => exact absurd he List.not_mem_nil
    rcases completion with _ | (_ | _ | payload | _) | _ | _
    case read.text =>
      have hid : e.1.1 = id := WsServer.key_of_mem_changes he
      rw [hid]
      exact ⟨(WsServer.tracks_of_run h.server id).lt_nextId hserver, hforeign⟩
    -- Only text messages change subscriptions.
    all_goals exact absurd he List.not_mem_nil
  refine h.serve l.connection l.outbox rfl hserver
    (fun e he => (hkeys e he).1) ?_ h.injective h.unopened ?_
  · exact fun channel id hid => (h.connection channel id hid).trans_le (WsServer.nextId_le_step _)
  · intro channel hchannel _
    exact (h.current channel hchannel).2.other fun e he => (hkeys e he).2 channel

private theorem linked_of_run (hJ : J.Matches V) (hrun : Mealy.Run (step J V) Possible {} tr l) :
    Linked J V tr l := by
  refine hrun.historyInvariant linked_nil fun tr l i h hpossible => ?_
  cases i with
  | client input => exact h.stepClient hJ hpossible
  | accept channel => exact h.stepAccept hpossible
  | deliver channel => exact h.stepDeliver hJ hpossible
  | server input => exact h.stepServer hpossible

/-! ## What the server has -/

/-- With everything read, the session is subscribed to the topics asked for since its channel was
opened. -/
theorem subscribed_iff_sinceOpened (hJ : J.Matches V)
    (hrun : Mealy.Run (step J V) Possible {} tr l) {channel : ChannelId} {id : ConnectionId}
    (h : l.Delivered channel id) (topic : StdString) :
    l.server.Subscribed id topic ↔
      topic ≠ [] ∧ (sinceOpened tr).mostRecent topic = some true := by
  -- Nothing waits, so all that was asked for since has been carried out.
  have hlinked := linked_of_run hJ hrun
  obtain ⟨-, delivered, pending, houtbox, hsince, hchanges⟩ := hlinked.current channel h.current
  rw [h.outbox] at houtbox
  obtain rfl := List.forall₂_nil_left_iff.mp houtbox
  rw [h.connection] at hchanges
  have hconnected := (WsServer.tracks_of_run hlinked.server id).mem_sessions.mp h.connected
  rw [WsServer.subscribed_iff_mostRecent hlinked.server hconnected.2,
    ← List.mostRecent_filter (fun k => decide (k.1 = id)) _ (decide_eq_true rfl), hchanges,
    mostRecent_changesFor, hsince]
  simp [List.reduceOption]

/-- In every state that can be reached the subscriptions on the server are those that the app
wants exactly when every topic that it wants is not empty and was subscribed after the channel
was opened. -/
theorem restored_iff (hJ : J.Matches V) (hrun : Mealy.Run (step J V) Possible {} tr l) :
    Restored tr l ↔ Repeated tr l := by
  refine forall₂_congr fun channel id => forall_congr' fun h => forall_congr' fun topic => ?_
  rw [subscribed_iff_sinceOpened hJ hrun h]
  -- What was asked for since is the end of the wishes, so it decides about them.
  refine ⟨Iff.mpr, fun hrepeated => ⟨fun ⟨_, hsince⟩ => ?_, hrepeated⟩⟩
  obtain ⟨before, hwishes⟩ := sinceOpened_suffix tr
  rw [← hwishes, List.mostRecent_append, hsince]
  rfl

private theorem matches_reference : DartConvert.reference.Matches Vendor.reference where
  encodes j hutf8 _ := by
    obtain ⟨text, htext⟩ := Vendor.dumpsUtf8_reference j hutf8
    exact ⟨text, congrArg Except.toOption htext⟩
  parses j text _ hcanonical hencode := by
    have hdump : (Vendor.reference.dump j).toOption = some text := hencode
    rcases h : Vendor.reference.dump j with e | t
    · rw [h] at hdump
      exact absurd hdump.symm (Option.some_ne_none text)
    · rw [h] at hdump
      obtain rfl := Option.some.inj hdump
      exact Vendor.parseUndoesDump_reference j t hcanonical h

/-- The app connects, subscribes to a topic, and the server reads it. -/
def subscribedOnce : List LinkInput :=
  [.client (.connect true), .accept 0, .server (.completion 1 (.accept true)),
    .client (.subscribe (lit "sensors")), .deliver 0]

private theorem allowed_subscribedOnce : Mealy.Allowed (step DartConvert.reference Vendor.reference)
    Possible [] {} subscribedOnce := by
  have htopic : ∀ op ∈ some (lit "sensors", true), StdString.isUtf8 op.1 = true := by
    intro op hop
    obtain rfl := Option.mem_some_iff.mp hop
    rfl
  exact ⟨⟨trivial, fun _ h => absurd h (Option.not_mem_none _)⟩,
    ⟨rfl, _, List.mem_cons_self, _, List.mem_cons_self, rfl⟩, ⟨by decide, trivial⟩,
    ⟨trivial, htopic⟩, ⟨by decide +kernel, 1, rfl, by decide +kernel⟩, trivial⟩

theorem restored_iff_subscribedOnce :
    let r := Mealy.exec (step DartConvert.reference Vendor.reference) {} subscribedOnce
    Restored r.1 r.2 ↔ Repeated r.1 r.2 :=
  restored_iff matches_reference (Mealy.Run.exec allowed_subscribedOnce)

/-- The channel is lost on both sides, and the client opens a new one. -/
def lossAfterwards : List LinkInput :=
  [.client (.error 0), .server (.completion 1 (.read .error)), .client (.timer 2 true),
    .accept 3, .server (.completion 2 (.accept true))]

/-- The session on the new channel has no subscription, though the app never gave its own up. -/
theorem not_restored_lossAfterwards :
    let step := step DartConvert.reference Vendor.reference
    let before := Mealy.exec step {} subscribedOnce
    let r := Mealy.exec step {} (subscribedOnce ++ lossAfterwards)
    Mealy.Run step Possible {} r.1 r.2 ∧ before.2.server.Subscribed 1 (lit "sensors") ∧
      r.2.Delivered 3 2 ∧ (wishes r.1).mostRecent (lit "sensors") = some true ∧
      ¬ r.2.server.Subscribed 2 (lit "sensors") ∧ ¬ Restored r.1 r.2 := by
  intro step before r
  have hdelivered : r.2.Delivered 3 2 :=
    ⟨by decide +kernel, by decide +kernel, by decide +kernel, by decide +kernel⟩
  have hwished : (wishes r.1).mostRecent (lit "sensors") = some true := by decide +kernel
  have hnot : ¬ r.2.server.Subscribed 2 (lit "sensors") := by decide +kernel
  have hallowed : Mealy.Allowed step Possible before.1 before.2 lossAfterwards := by
    have hnone {α : Type} {p : α → Prop} : ∀ op ∈ (none : Option α), p op := fun _ h =>
      absurd h (Option.not_mem_none _)
    exact ⟨⟨by decide +kernel, hnone⟩, ⟨by decide +kernel, trivial⟩, ⟨by decide +kernel, hnone⟩,
      ⟨by decide +kernel, _, List.mem_append_right _ List.mem_cons_self, _, List.mem_cons_self,
        rfl⟩, ⟨by decide +kernel, trivial⟩, trivial⟩
  refine ⟨?_, by decide +kernel, hdelivered, hwished, hnot, fun h => ?_⟩
  · exact (Mealy.Run.exec allowed_subscribedOnce).execFrom hallowed
  · exact hnot ((h 3 2 hdelivered (lit "sensors")).mpr hwished)

end WebSocketLink

end IotDashboard
