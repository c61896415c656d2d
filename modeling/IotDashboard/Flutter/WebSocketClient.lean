import IotDashboard.Common.Vendor
import IotDashboard.Foundation.Mealy

/-!
# WebSocket client of the app

The client of the Flutter app opens a channel, passes the messages on to its stream controller
and schedules a new `connect` when the channel reports an error or its end. Everything runs on
one thread, one event or call at a time.

Timers and channels get fresh numbers. The timers that are pending and the channels that are
listened to belong to the runtime, not to the object; only what was scheduled and not cancelled
fires.

## Main definitions

* `WebSocketClient.step`: one call, channel event or timer;
* `WebSocketClient.Tidy`: one reconnect timer at most, and no activity after `dispose`.

## Main results

* `WebSocketClient.tidy_iff`: a run is so exactly when no channel reports an error or its end
  while a timer is pending, and no message comes after `dispose`.
-/

namespace IotDashboard

open StdString

/-- The conversions of `dart:convert`. -/
structure DartConvert where
  /-- `jsonDecode(text)`; `none` when it throws. -/
  jsonDecode : StdString → Option Json
  /-- `jsonEncode(value)`; `none` when it throws. -/
  jsonEncode : Json → Option StdString

/-- The conversions written out, as far as `Vendor.reference` has them. -/
def DartConvert.reference : DartConvert where
  jsonDecode text := (Vendor.reference.parse text).toOption
  jsonEncode value := (Vendor.reference.dump value).toOption

abbrev ChannelId := ℕ

abbrev TimerId := ℕ

/-- A message that arrives on a channel. -/
inductive ChannelData where
  | text (payload : StdString)
  | binary
deriving DecidableEq

structure WebSocketClient where
  channel : Option ChannelId := none
  pingTimer : Option TimerId := none
  controllerClosed : Bool := false
  disposed : Bool := false
  reconnectTimer : Option TimerId := none
  /-- The next number of a channel or a timer. -/
  fresh : ℕ := 0
  /-- The timers that were started, and neither fired nor were cancelled. -/
  timers : List TimerId := []
  /-- The periodic streams that were started and not cancelled. -/
  tickers : List TimerId := []
  /-- The channels that are listened to and have not ended. -/
  listening : List ChannelId := []
deriving DecidableEq

/-- What the client does. -/
inductive ClientEffect where
  | openChannel (channel : ChannelId)
  | startPing (ticker : TimerId)
  | add (message : Json)
  /-- `add` on a closed controller, which throws. -/
  | addToClosed
  | send (channel : ChannelId) (text : StdString)
  | closeSink (channel : ChannelId)

/-- It neither opens a channel nor starts the ping timer nor adds to the closed controller. -/
def ClientEffect.Quiet : ClientEffect → Prop
  | openChannel _ | startPing _ | addToClosed => False
  | add _ | send _ _ | closeSink _ => True

/-- A call, an event of a channel, or a timer. -/
inductive ClientInput where
  /-- `connect`; the channel may be refused at once. -/
  | connect (opened : Bool)
  | subscribe (topic : StdString)
  | unsubscribe (topic : StdString)
  | dispose
  | data (channel : ChannelId) (data : ChannelData)
  | error (channel : ChannelId)
  | done (channel : ChannelId)
  | timer (id : TimerId) (opened : Bool)
  | tick (id : TimerId)
deriving DecidableEq

/-- It is an event or a timer, not a call. -/
def ClientInput.isEvent : ClientInput → Bool
  | connect _ | subscribe _ | unsubscribe _ | dispose => false
  | data _ _ | error _ | done _ | timer _ _ | tick _ => true

namespace WebSocketClient

/-- `_reconnectTimer?.cancel()`. -/
def cancelReconnect (c : WebSocketClient) : WebSocketClient :=
  { c with timers := c.timers.filter fun t => c.reconnectTimer ≠ some t }

/-- `_pingTimer?.cancel()`. -/
def cancelPing (c : WebSocketClient) : WebSocketClient :=
  { c with tickers := c.tickers.filter fun t => c.pingTimer ≠ some t }

/-- `_startHeartbeat`. -/
def startHeartbeat (c : WebSocketClient) : List ClientEffect × WebSocketClient :=
  let c := c.cancelPing
  ([.startPing c.fresh],
    { c with pingTimer := some c.fresh, tickers := c.tickers ++ [c.fresh], fresh := c.fresh + 1 })

/-- `_scheduleReconnect`. -/
def scheduleReconnect (c : WebSocketClient) : WebSocketClient :=
  if c.disposed then c
  else
    let c := c.cancelPing
    -- The timer that was pending is not cancelled here.
    { c with reconnectTimer := some c.fresh, timers := c.timers ++ [c.fresh], fresh := c.fresh + 1 }

/-- `connect`. -/
def connect (opened : Bool) (c : WebSocketClient) : List ClientEffect × WebSocketClient :=
  let c := c.cancelReconnect
  if opened then
    let r := startHeartbeat { c with
      channel := some c.fresh, listening := c.listening ++ [c.fresh], fresh := c.fresh + 1 }
    (.openChannel c.fresh :: r.1, r.2)
  else ([], c.scheduleReconnect)

section Messages

variable (J : DartConvert)

/-- `send`. -/
def send (message : Json) (c : WebSocketClient) : List ClientEffect :=
  match c.channel, J.jsonEncode message with
  | some channel, some text => [.send channel text]
  | _, _ => []

/-- The message of `subscribe` and of `unsubscribe`. -/
def topicMessage (type topic : StdString) : Json :=
  .mkObject [(lit "type", .string type), (lit "topic", .string topic)]

/-- The message of the heartbeat. -/
def pingMessage : Json := .mkObject [(lit "type", .string (lit "ping"))]

/-- The listener for data: what does not decode to a map throws. -/
def onData (c : WebSocketClient) : ChannelData → List ClientEffect
  | .text payload =>
    match J.jsonDecode payload with
    | some (.object fields) =>
      if c.controllerClosed then [.addToClosed] else [.add (.object fields)]
    | _ => []
  | .binary => []

/-- `dispose`. -/
def dispose (c : WebSocketClient) : List ClientEffect × WebSocketClient :=
  -- The subscription to the channel is not cancelled, so events keep arriving.
  let c := { c with disposed := true }.cancelPing.cancelReconnect
  (c.channel.toList.map .closeSink, { c with controllerClosed := true })

/-- One call, event or timer. -/
def step (c : WebSocketClient) : ClientInput → List ClientEffect × WebSocketClient
  | .connect opened => c.connect opened
  | .subscribe topic => (c.send J (topicMessage (lit "subscribe") topic), c)
  | .unsubscribe topic => (c.send J (topicMessage (lit "unsubscribe") topic), c)
  | .dispose => c.dispose
  | .data _ data => (c.onData J data, c)
  | .error _ => ([], c.scheduleReconnect)
  -- `done` is the last event of a channel, an error need not be.
  | .done channel => ([], { c with listening := c.listening.erase channel }.scheduleReconnect)
  | .timer id opened => { c with timers := c.timers.erase id }.connect opened
  | .tick _ => (c.send J pingMessage, c)

end Messages

/-- A recorded history, oldest first. -/
abbrev Trace := List (ClientInput × List ClientEffect)

/-- Channels that have not ended report something, and timers that are pending fire. -/
def Possible (_ : Trace) (c : WebSocketClient) : ClientInput → Prop
  | .data channel _ | .error channel | .done channel => channel ∈ c.listening
  | .timer id _ => id ∈ c.timers
  | .tick id => id ∈ c.tickers
  | _ => True

instance decidablePossible (tr : Trace) (c : WebSocketClient) : ∀ i, Decidable (Possible tr c i)
  | .data channel _ | .error channel | .done channel =>
    inferInstanceAs (Decidable (channel ∈ c.listening))
  | .timer id _ => inferInstanceAs (Decidable (id ∈ c.timers))
  | .tick id => inferInstanceAs (Decidable (id ∈ c.tickers))
  | .connect _ | .subscribe _ | .unsubscribe _ | .dispose => isTrue trivial

/-- `dispose` has been called. -/
def Disposed (past : Trace) : Prop := .dispose ∈ past.map Prod.fst

instance decidableDisposed (past : Trace) : Decidable (Disposed past) :=
  inferInstanceAs (Decidable (_ ∈ _))

/-- There is one reconnect timer at most at any time, and after `dispose` no event and no timer
opens a channel, starts the ping timer or adds to the closed controller. -/
structure Tidy (J : DartConvert) (tr : Trace) : Prop where
  oneTimer : Mealy.Always (step J) Possible {} (fun c => c.timers.length ≤ 1) tr
  quiet : tr.EachAfter fun past entry =>
    Disposed past → entry.1.isEvent = true → ∀ effect ∈ entry.2, effect.Quiet

/-- No channel reports an error or its end while a timer is pending, unless the client is
disposed; and no message comes then. -/
def KeepsTidy (J : DartConvert) (c : WebSocketClient) : ClientInput → Prop
  | .error _ | .done _ => c.disposed = false → c.timers = []
  | .data _ (.text payload) =>
    c.disposed = true → ∀ fields, J.jsonDecode payload ≠ some (.object fields)
  | _ => True

variable {J : DartConvert} {tr : Trace} {c : WebSocketClient} {i : ClientInput}

/-! ## One timer -/

/-- The timer of the client is the only one that is pending, and there is none after `dispose`. -/
structure Settled (c : WebSocketClient) : Prop where
  pending : ∀ t ∈ c.timers, c.reconnectTimer = some t
  disposed : c.disposed = true → c.timers = []

/-- A timer that fires is gone. -/
theorem Settled.fire (h : c.Settled) (id : TimerId) :
    Settled { c with timers := c.timers.erase id } := by
  refine ⟨fun t ht => h.pending t (List.mem_of_mem_erase ht), fun hdisposed => ?_⟩
  show c.timers.erase id = []
  rw [h.disposed hdisposed, List.erase_nil]

/-- A channel that is done is no longer listened to. -/
theorem Settled.done (h : c.Settled) (channel : ChannelId) :
    Settled { c with listening := c.listening.erase channel } := ⟨h.pending, h.disposed⟩

private theorem Settled.timers_cancelReconnect (h : c.Settled) : c.cancelReconnect.timers = [] := by
  rw [cancelReconnect, List.filter_eq_nil_iff]
  intro t ht
  simp [h.pending t ht]

/-- Without a pending timer there is one afterwards at most. -/
theorem settled_scheduleReconnect (hnone : c.timers = []) :
    c.scheduleReconnect.Settled ∧ c.scheduleReconnect.timers.length ≤ 1 := by
  rw [scheduleReconnect]
  by_cases hdisposed : c.disposed = true
  · rw [if_pos hdisposed]
    refine ⟨⟨?_, fun _ => hnone⟩, ?_⟩
    · rw [hnone]
      exact fun t ht => absurd ht List.not_mem_nil
    · rw [hnone]
      exact Nat.zero_le 1
  · rw [if_neg hdisposed]
    refine ⟨⟨?_, fun h => absurd h hdisposed⟩, ?_⟩
    · simp [cancelPing, hnone]
    · simp [cancelPing, hnone]

/-- Connecting leaves the client settled, with one timer at most. -/
theorem Settled.connect (h : c.Settled) (opened : Bool) :
    (c.connect opened).2.Settled ∧ (c.connect opened).2.timers.length ≤ 1 := by
  have hnone := h.timers_cancelReconnect
  cases opened with
  | false => exact settled_scheduleReconnect hnone
  | true =>
    have htimers : (c.connect true).2.timers = [] := hnone
    refine ⟨⟨?_, fun _ => htimers⟩, ?_⟩
    · rw [htimers]
      exact fun t ht => absurd ht List.not_mem_nil
    · rw [htimers]
      exact Nat.zero_le 1

/-- After an error or the end of a channel there is one timer at most exactly when none was
pending before. -/
theorem length_timers_scheduleReconnect (h : c.Settled) :
    c.scheduleReconnect.timers.length ≤ 1 ↔ (c.disposed = false → c.timers = []) := by
  rw [scheduleReconnect]
  by_cases hdisposed : c.disposed = true
  · rw [if_pos hdisposed, h.disposed hdisposed]
    simp
  · rw [if_neg hdisposed]
    simp [cancelPing, hdisposed]

/-- Scheduling a reconnect leaves the client settled if there is one timer then. -/
theorem Settled.scheduleReconnect (h : c.Settled)
    (hone : c.scheduleReconnect.timers.length ≤ 1) : c.scheduleReconnect.Settled := by
  by_cases hdisposed : c.disposed = true
  · exact (settled_scheduleReconnect (h.disposed hdisposed)).1
  · have hnone := (length_timers_scheduleReconnect h).mp hone
    rw [Bool.not_eq_true] at hdisposed
    exact (settled_scheduleReconnect (hnone hdisposed)).1

/-- Every step leaves the client settled if there is one timer then. -/
theorem Settled.step (h : c.Settled) (i : ClientInput)
    (hone : (c.step J i).2.timers.length ≤ 1) : (c.step J i).2.Settled := by
  cases i with
  -- Only `error` and `done` can leave a second timer, and `hone` excludes that.
  | connect opened => exact (h.connect opened).1
  | subscribe topic => exact h
  | unsubscribe topic => exact h
  | dispose =>
    have htimers : (c.step J .dispose).2.timers = [] := h.timers_cancelReconnect
    refine ⟨?_, fun _ => htimers⟩
    rw [htimers]
    exact fun t ht => absurd ht List.not_mem_nil
  | data channel data => exact h
  | error channel => exact h.scheduleReconnect hone
  | done channel => exact (h.done channel).scheduleReconnect hone
  | timer id opened => exact ((h.fire id).connect opened).1
  | tick id => exact h

private theorem settled_of_always (hrun : Mealy.Run (step J) Possible {} tr c)
    (hone : Mealy.Always (step J) Possible {} (fun c => c.timers.length ≤ 1) tr) : c.Settled := by
  -- The bound at every prefix is what carries the invariant over the steps.
  induction hrun with
  | nil => exact ⟨fun t ht => absurd ht List.not_mem_nil, fun _ => rfl⟩
  | snoc i hrun hpossible ih =>
    rw [Mealy.always_snoc hrun hpossible] at hone
    exact (ih hone.1).step i hone.2

/-! ## After `dispose` -/

/-- The flags say whether `dispose` was called. -/
structure Flags (tr : Trace) (c : WebSocketClient) : Prop where
  disposed : c.disposed = true ↔ Disposed tr
  closed : c.controllerClosed = c.disposed

private theorem flags_scheduleReconnect (c : WebSocketClient) :
    c.scheduleReconnect.disposed = c.disposed ∧
      c.scheduleReconnect.controllerClosed = c.controllerClosed := by
  rw [scheduleReconnect]
  split <;> exact ⟨rfl, rfl⟩

private theorem flags_connect (opened : Bool) (c : WebSocketClient) :
    (c.connect opened).2.disposed = c.disposed ∧
      (c.connect opened).2.controllerClosed = c.controllerClosed := by
  cases opened with
  | false => exact flags_scheduleReconnect c.cancelReconnect
  | true => exact ⟨rfl, rfl⟩

/-- Only `dispose` sets the flags. -/
theorem flags_step (hi : i ≠ .dispose) :
    (c.step J i).2.disposed = c.disposed ∧
      (c.step J i).2.controllerClosed = c.controllerClosed := by
  cases i with
  | connect opened => exact flags_connect opened c
  | subscribe topic => exact ⟨rfl, rfl⟩
  | unsubscribe topic => exact ⟨rfl, rfl⟩
  | dispose => exact absurd rfl hi
  | data channel data => exact ⟨rfl, rfl⟩
  | error channel => exact flags_scheduleReconnect c
  | done channel => exact flags_scheduleReconnect { c with listening := _ }
  | timer id opened => exact flags_connect opened { c with timers := _ }
  | tick id => exact ⟨rfl, rfl⟩

private theorem flags_of_run (hrun : Mealy.Run (step J) Possible {} tr c) : Flags tr c := by
  refine hrun.historyInvariant ⟨?_, rfl⟩ fun tr c i h _ => ?_
  · simp [Disposed]
  · by_cases hi : i = .dispose
    · subst hi
      exact ⟨iff_of_true rfl (by simp [Disposed]), rfl⟩
    · obtain ⟨hdisposed, hclosed⟩ := flags_step (J := J) (c := c) hi
      refine ⟨?_, ?_⟩
      · rw [hdisposed, h.disposed]
        simp [Disposed, eq_comm, hi]
      · rw [hdisposed, hclosed, h.closed]

private theorem tidy_iff_and : Tidy J tr ↔
    Mealy.Always (step J) Possible {} (fun c => c.timers.length ≤ 1) tr ∧
      tr.EachAfter fun past entry =>
        Disposed past → entry.1.isEvent = true → ∀ effect ∈ entry.2, effect.Quiet :=
  ⟨fun h => ⟨h.oneTimer, h.quiet⟩, fun h => ⟨h.1, h.2⟩⟩

private theorem quiet_send {effect : ClientEffect} {message : Json}
    (h : effect ∈ c.send J message) :
    effect.Quiet := by
  rw [send] at h
  split at h
  · obtain rfl := List.mem_singleton.mp h
    trivial
  · exact absurd h List.not_mem_nil

/-- The listener adds to the closed controller exactly when it has a map to add. -/
theorem quiet_onData_iff (hclosed : c.controllerClosed = true) (payload : StdString) :
    (∀ effect ∈ c.onData J (.text payload), effect.Quiet) ↔
      ∀ fields, J.jsonDecode payload ≠ some (.object fields) := by
  rw [onData]
  split
  · next fields hdecode =>
    rw [if_pos hclosed, hdecode]
    simp [ClientEffect.Quiet]
  · next hdecode =>
    exact iff_of_true (fun effect h => absurd h List.not_mem_nil) hdecode

/-- From a settled client, one step leaves one timer at most and is quiet exactly when it is as
required. -/
theorem keepsTidy_iff (h : c.Settled) (hlength : c.timers.length ≤ 1) (hflags : Flags tr c)
    (hpossible : Possible tr c i) :
    (c.step J i).2.timers.length ≤ 1 ∧
        (Disposed tr → i.isEvent = true → ∀ effect ∈ (c.step J i).1, effect.Quiet) ↔
      KeepsTidy J c i := by
  have hsilent : ∀ effect ∈ ([] : List ClientEffect), effect.Quiet :=
    fun _ h => absurd h List.not_mem_nil
  cases i with
  | connect opened =>
    exact iff_of_true ⟨(h.connect opened).2, by simp [ClientInput.isEvent]⟩ trivial
  | subscribe topic => exact iff_of_true ⟨hlength, by simp [ClientInput.isEvent]⟩ trivial
  | unsubscribe topic => exact iff_of_true ⟨hlength, by simp [ClientInput.isEvent]⟩ trivial
  | dispose =>
    have hnone : (c.step J .dispose).2.timers = [] := h.timers_cancelReconnect
    refine iff_of_true ⟨?_, by simp [ClientInput.isEvent]⟩ trivial
    rw [hnone]
    exact Nat.zero_le 1
  | data channel data =>
    cases data with
    | binary => exact iff_of_true ⟨hlength, fun _ _ => hsilent⟩ trivial
    | text payload =>
      rw [← hflags.disposed]
      refine (and_iff_right hlength).trans ⟨fun hquiet hdisposed => ?_, fun hnot hdisposed _ => ?_⟩
      -- After `dispose` the controller is closed, so quiet means that nothing decodes to a map.
      · exact (quiet_onData_iff (hflags.closed.trans hdisposed) payload).mp (hquiet hdisposed rfl)
      · exact (quiet_onData_iff (hflags.closed.trans hdisposed) payload).mpr (hnot hdisposed)
  | error channel =>
    exact (and_iff_left fun _ _ => hsilent).trans (length_timers_scheduleReconnect h)
  | done channel =>
    exact (and_iff_left fun _ _ => hsilent).trans
      (length_timers_scheduleReconnect (h.done channel))
  | timer id opened =>
    refine iff_of_true ⟨((h.fire id).connect opened).2, fun hdisposed => ?_⟩ trivial
    -- A timer that fires was pending, so the client is not disposed.
    have hnone := h.disposed (hflags.disposed.mpr hdisposed)
    exact absurd (hnone ▸ hpossible : id ∈ []) List.not_mem_nil
  | tick id => exact iff_of_true ⟨hlength, fun _ _ _ h => quiet_send h⟩ trivial

/-- One more step keeps the run tidy exactly when it is as required. -/
theorem tidy_snoc_iff (hrun : Mealy.Run (step J) Possible {} tr c) (hpossible : Possible tr c i) :
    Tidy J (tr ++ [(i, (c.step J i).1)]) ↔ Tidy J tr ∧ KeepsTidy J c i := by
  rw [tidy_iff_and, tidy_iff_and, Mealy.always_snoc hrun hpossible, List.eachAfter_snoc]
  have hkeeps (hone : Mealy.Always (step J) Possible {} (fun c => c.timers.length ≤ 1) tr) :=
    keepsTidy_iff (J := J) (settled_of_always hrun hone) (hone.last hrun) (flags_of_run hrun)
      hpossible
  tauto

/-- A run is tidy exactly when each of its steps, in the state it was taken in, is as required. -/
theorem tidy_iff (hrun : Mealy.Run (step J) Possible {} tr c) :
    Tidy J tr ↔ tr.EachAfter fun past entry => ∀ c',
      Mealy.Run (step J) Possible {} past c' → KeepsTidy J c' entry.1 := by
  refine hrun.iff_eachAfter (P := fun tr _ => Tidy J tr) (C := fun _ c i => KeepsTidy J c i) ?_ ?_
  · exact ⟨Mealy.always_nil.mpr (Nat.zero_le 1), List.eachAfter_nil⟩
  · exact fun tr c i hrun hpossible => tidy_snoc_iff hrun hpossible

/-- An error, a new channel, and the end of the page. -/
def lossOnce : List ClientInput := [.connect true, .error 0, .timer 2 true, .dispose]

theorem tidy_iff_lossOnce :
    let step := step DartConvert.reference
    let tr := (Mealy.exec step {} lossOnce).1
    Tidy DartConvert.reference tr ↔ tr.EachAfter fun past entry => ∀ c',
      Mealy.Run step Possible {} past c' → KeepsTidy DartConvert.reference c' entry.1 :=
  tidy_iff (Mealy.Run.exec (show Mealy.Allowed _ _ _ _ lossOnce by decide))

/-- An error followed by the end of the channel, and then `dispose`. -/
def errorThenDone : List ClientInput := [.connect true, .error 0, .done 0, .dispose]

/-- Two timers are pending; `dispose` cancels one of them, and the other opens a new channel. -/
theorem not_tidy_errorThenDone :
    let step := step DartConvert.reference
    let two := (Mealy.exec step {} (errorThenDone.take 3)).2
    let r := Mealy.exec step {} (errorThenDone ++ [.timer 2 true])
    Mealy.Run step Possible {} r.1 r.2 ∧ two.timers = [2, 3] ∧
      r.1.getLast? = some (.timer 2 true, [.openChannel 4, .startPing 5]) ∧
      ¬ Tidy DartConvert.reference r.1 := by
  refine ⟨Mealy.Run.exec (by decide), rfl, rfl, fun h => ?_⟩
  -- The last step of the run is the timer that `dispose` did not cancel.
  have hquiet := h.quiet _ _ [] (List.dropLast_append_getLast? _ rfl).symm
  exact hquiet (by decide) rfl (.openChannel 4) List.mem_cons_self

end WebSocketClient

end IotDashboard
