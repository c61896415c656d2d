import IotDashboard.Network.ServerLifecycle

/-!
# Starting and stopping the application

`Start` starts the monitor and the two servers and returns early when a server fails; `Stop` undoes
all of it, but only for an application that is running. What a failed `Start` has started therefore
keeps on running, and nothing but the end of the program stops it; and since its acceptor is open,
the application cannot be started any more.

## Main definitions

* `AppServers.step`: `Start` and `Stop`;
* `AppServers.Lifecycle`: what holds in every run.

## Main results

* `AppServers.serving_of_run`: what is running when, when the application can be started, and
  when it serves.
-/

namespace IotDashboard

namespace AsioServer

/-- `Stop` as a whole. -/
def stopAll (s : AsioServer) : AsioServer :=
  if ¬ s.running then s
  else { s with isOpen := false, running := false, stopped := true, threads := 0 }

variable {threadCount : ℕ} {tr : ServerTrace} {s : AsioServer}

/-- The parts of `Stop` make up the whole. -/
theorem run_stopAll (hrun : Mealy.Run (step threadCount) Possible {} tr s)
    (hidle : s.place = .idle) :
    ∃ tr', Mealy.Run (step threadCount) Possible {} tr' s.stopAll ∧
      (Halted tr' ↔ Halted tr ∨ s.running = true) := by
  by_cases hrunning : s.running = true
  · refine ⟨tr ++ [(.stop, .none)] ++ [(.close, .none)] ++ [(.halt, .none)], ?_,
      iff_of_true (halted_snoc.mpr (.inr rfl)) (.inr hrunning)⟩
    obtain ⟨isOpen, running, stopped, accepts, threads, place⟩ := s
    obtain rfl : running = true := hrunning
    obtain rfl : place = .idle := hidle
    have hclose := (hrun.snoc ServerInput.stop rfl).snoc ServerInput.close rfl
    exact hclose.snoc ServerInput.halt rfl
  · refine ⟨tr, ?_, ?_⟩
    · rwa [stopAll, if_pos hrunning]
    · rw [or_iff_left hrunning]

end AsioServer

/-- A call of the application. -/
inductive AppCall where
  /-- `Start`; the broker answers or not, and the system answers to the two servers. -/
  | start (connects : Bool) (ws http : ListenOutcome)
  | stop
deriving DecidableEq

/-- What a call comes to. -/
inductive AppEffect where
  | none
  | started
  /-- `Start` fails; whether it has opened the acceptor of the WebSocket server. -/
  | failed (opened : Bool)
  | stopped
deriving DecidableEq

abbrev AppTrace := List (AppCall × AppEffect)

/-- What `Start` and `Stop` change. -/
structure AppServers where
  connected : Bool := false
  monitorRunning : Bool := false
  wsServer : AsioServer := {}
  httpServer : AsioServer := {}
  /-- `m_running`. -/
  running : Bool := false
deriving DecidableEq

namespace AppServers

variable (wsThreads httpThreads : ℕ)

/-- `Start`. -/
def start (s : AppServers) (connects : Bool) (ws http : ListenOutcome) : AppEffect × AppServers :=
  -- The application runs without a broker, too.
  let s := { s with connected := s.connected || connects, monitorRunning := true }
  let wsResult := s.wsServer.start wsThreads ws
  let opened := !s.wsServer.isOpen && wsResult.2.isOpen
  let s := { s with wsServer := wsResult.2 }
  if wsResult.1 ≠ .started then (.failed opened, s)
  else
    let httpResult := s.httpServer.start httpThreads http
    let s := { s with httpServer := httpResult.2 }
    if httpResult.1 ≠ .started then (.failed opened, s)
    else (.started, { s with running := true })

/-- One call. -/
def step (s : AppServers) : AppCall → AppEffect × AppServers
  | .start connects ws http => s.start wsThreads httpThreads connects ws http
  | .stop =>
    if ¬ s.running then (.none, s)
    else (.stopped, {
      connected := false
      monitorRunning := false
      wsServer := s.wsServer.stopAll
      httpServer := s.httpServer.stopAll
      running := false })

/-- A server could take a connection now. -/
def Serves (server : AsioServer) : Prop := AsioServer.Possible [] server (.accepted true)

/-- What holds in every run. -/
structure Lifecycle (tr : AppTrace) (s : AppServers) : Prop where
  /-- All parts of a running application are running. -/
  parts : s.running = true →
    s.monitorRunning = true ∧ s.wsServer.running = true ∧ s.httpServer.running = true
  /-- It serves exactly if it was never stopped before. -/
  serves : s.running = true → (Serves s.wsServer ∧ Serves s.httpServer ↔
    .stopped ∉ tr.map Prod.snd ∧ 0 < wsThreads ∧ 0 < httpThreads)
  /-- It can be started exactly if it is not running and no failed start has opened an acceptor. -/
  startable : (s.start wsThreads httpThreads true ⟨true, true, true⟩ ⟨true, true, true⟩).1 =
    .started ↔ s.running = false ∧ .failed true ∉ tr.map Prod.snd
  /-- After such a start, all starts fail and no stop has an effect. -/
  stuck : tr.EachAfter fun past e => .failed true ∈ past.map Prod.snd →
    e.2 ≠ .started ∧ e.2 ≠ .stopped
  /-- Then the WebSocket server, if it was started, and the monitor run on. -/
  leftover : .failed true ∈ tr.map Prod.snd → s.monitorRunning = true ∧ s.running = false ∧
    ∀ call, (s.step wsThreads httpThreads call).2.wsServer = s.wsServer

/-! ## The invariant -/

/-- The invariant. -/
structure Tracks (tr : AppTrace) (s : AppServers) : Prop where
  ws : ∃ tr', Mealy.Run (AsioServer.step wsThreads) AsioServer.Possible {} tr' s.wsServer ∧
    (AsioServer.Halted tr' ↔ .stopped ∈ tr.map Prod.snd)
  http : ∃ tr', Mealy.Run (AsioServer.step httpThreads) AsioServer.Possible {} tr' s.httpServer ∧
    (AsioServer.Halted tr' ↔ .stopped ∈ tr.map Prod.snd)
  idle : s.wsServer.place = .idle ∧ s.httpServer.place = .idle
  parts : s.running = true →
    s.monitorRunning = true ∧ s.wsServer.running = true ∧ s.httpServer.running = true
  /-- The acceptor of an application that is not running is open only after a failed start. -/
  failed : .failed true ∈ tr.map Prod.snd ↔ s.wsServer.isOpen = true ∧ s.running = false
  monitor : .failed true ∈ tr.map Prod.snd → s.monitorRunning = true
  nested : s.httpServer.isOpen = true → s.wsServer.isOpen = true

variable {wsThreads httpThreads : ℕ} {tr : AppTrace} {s : AppServers}

/-- A call has one effect. -/
theorem mem_effects_snoc {call : AppCall} {e e' : AppEffect} :
    e' ∈ (tr ++ [(call, e)]).map Prod.snd ↔ e' ∈ tr.map Prod.snd ∨ e' = e := by
  simp

/-- The invariant holds at first. -/
theorem tracks_nil : Tracks wsThreads httpThreads [] {} where
  ws := ⟨[], .nil, by simp [AsioServer.Halted]⟩
  http := ⟨[], .nil, by simp [AsioServer.Halted]⟩
  idle := ⟨rfl, rfl⟩
  parts h := by cases h
  failed := by simp
  monitor h := by simp at h
  nested h := h

/-- What `Start` does to a server that is idle. -/
structure Starts (threads : ℕ) (server : AsioServer) (outcome : ListenOutcome) : Prop where
  idle : (server.start threads outcome).2.place = .idle
  kept : server.isOpen = true → (server.start threads outcome).2 = server
  started : (server.start threads outcome).1 = .started →
    server.isOpen = false ∧ (server.start threads outcome).2.isOpen = true ∧
      (server.start threads outcome).2.running = true
  refused : (server.start threads outcome).2.isOpen = false →
    (server.start threads outcome).1 ≠ .started

private theorem starts_of_idle (threads : ℕ) {server : AsioServer} (hidle : server.place = .idle)
    (outcome : ListenOutcome) : Starts threads server outcome := by
  -- The call is refused, or it gives up after opening the acceptor, or it starts the server.
  have hsplit : (server.isOpen = true ∨ outcome.opens = false) ∧
        server.start threads outcome = (.refused, server) ∨
      server.isOpen = false ∧ ((server.start threads outcome) =
          (.abandoned, { server with isOpen := true }) ∨
        (server.start threads outcome) = (.started, { server with
          isOpen := true, running := true, accepts := server.accepts + 1,
          threads := server.threads + threads })) := by
    rw [AsioServer.start]
    split
    · next hor => exact .inl ⟨by simpa using hor, rfl⟩
    · next hor =>
      refine .inr ⟨by simpa using (not_or.mp hor).1, ?_⟩
      dsimp only
      split
      · exact .inl rfl
      · split
        · exact .inl rfl
        · exact .inr rfl
  -- The place of the server is the same in all three cases.
  rcases hsplit with ⟨-, heq⟩ | ⟨hclosed, heq | heq⟩
  · refine ⟨?_, ?_, ?_, ?_⟩ <;> rw [heq]
    · exact hidle
    · exact fun _ => rfl
    · exact fun h => by cases h
    · exact fun _ => by simp
  · refine ⟨?_, fun hopen => ?_, ?_, ?_⟩
    · rw [heq]
      exact hidle
    · rw [hclosed] at hopen
      cases hopen
    · rw [heq]
      exact fun h => by cases h
    · rw [heq]
      exact fun _ => by simp
  · refine ⟨?_, fun hopen => ?_, ?_, ?_⟩
    · rw [heq]
      exact hidle
    · rw [hclosed] at hopen
      cases hopen
    · rw [heq]
      exact fun _ => ⟨hclosed, rfl, rfl⟩
    · rw [heq]
      exact fun h => by cases h

/-- A server that was started or not goes on from a reachable state. -/
theorem run_start {threads : ℕ} {server : AsioServer} {P : Prop}
    (h : ∃ tr', Mealy.Run (AsioServer.step threads) AsioServer.Possible {} tr' server ∧
      (AsioServer.Halted tr' ↔ P)) (hidle : server.place = .idle) (outcome : ListenOutcome) :
    ∃ tr', Mealy.Run (AsioServer.step threads) AsioServer.Possible {} tr'
      (server.start threads outcome).2 ∧ (AsioServer.Halted tr' ↔ P) := by
  obtain ⟨tr', hrun, hhalted⟩ := h
  refine ⟨_, hrun.snoc (ServerInput.start outcome) hidle, ?_⟩
  rw [AsioServer.halted_snoc, or_iff_left (by simp), hhalted]

/-- A call of `Start` keeps the invariant. -/
theorem Tracks.start (h : Tracks wsThreads httpThreads tr s) (connects : Bool)
    (ws http : ListenOutcome) :
    Tracks wsThreads httpThreads
      (tr ++ [(.start connects ws http, (s.start wsThreads httpThreads connects ws http).1)])
      (s.start wsThreads httpThreads connects ws http).2 := by
  obtain ⟨hwsIdle, hhttpIdle⟩ := h.idle
  have hws := starts_of_idle wsThreads hwsIdle ws
  have hhttp := starts_of_idle httpThreads hhttpIdle http
  have hwsRun := run_start h.ws hwsIdle ws
  have hhttpRun := run_start h.http hhttpIdle http
  -- A start stops nothing.
  have hstopped (call : AppCall) (e : AppEffect) (he : AppEffect.stopped ≠ e) :
      AppEffect.stopped ∈ (tr ++ [(call, e)]).map Prod.snd ↔
        AppEffect.stopped ∈ tr.map Prod.snd := by
    rw [mem_effects_snoc, or_iff_left he]
  have hopen : s.running = true → s.wsServer.isOpen = true := fun hrunning => by
    obtain ⟨tr', hrun, -⟩ := h.ws
    exact ((AsioServer.tracks_of_run hrun).running (h.parts hrunning).2.1).2.1
  rw [AppServers.start]
  dsimp only
  split
  next hnot =>
    refine ⟨?_, ?_, ⟨hws.idle, hhttpIdle⟩, fun hrunning => ?_, ?_, fun _ => rfl, fun hhttp => ?_⟩
    · rwa [hstopped _ (.failed _) (by simp)]
    · rw [hstopped _ (.failed _) (by simp)]
      exact h.http
    · rw [hws.kept (hopen hrunning)]
      exact ⟨rfl, (h.parts hrunning).2⟩
    · rw [mem_effects_snoc, h.failed]
      -- An open acceptor stays as it is; otherwise the application is not running.
      cases hclosed : s.wsServer.isOpen with
      | true => simp [hws.kept hclosed, hclosed]
      | false =>
        have hrunning : s.running = false := Bool.eq_false_iff.mpr fun hrunning => by
          rw [hopen hrunning] at hclosed
          cases hclosed
        rw [hrunning]
        cases (s.wsServer.start wsThreads ws).2.isOpen <;> simp
    · rw [hws.kept (h.nested hhttp)]
      exact h.nested hhttp
  next hstarted =>
    obtain ⟨hclosed, hwsOpen, hwsRunning⟩ := hws.started (not_not.mp hstarted)
    have hrunning : s.running = false := Bool.eq_false_iff.mpr fun hrunning => by
      rw [hopen hrunning] at hclosed
      cases hclosed
    split
    · refine ⟨?_, ?_, ⟨hws.idle, hhttp.idle⟩, fun htrue => ?_, ?_, fun _ => rfl, fun _ => hwsOpen⟩
      · rwa [hstopped _ (.failed _) (by simp)]
      · rwa [hstopped _ (.failed _) (by simp)]
      · exact absurd htrue (by simp [hrunning])
      · rw [mem_effects_snoc]
        exact iff_of_true (.inr (by simp [hclosed, hwsOpen])) ⟨hwsOpen, hrunning⟩
    next hboth =>
      refine ⟨?_, ?_, ⟨hws.idle, hhttp.idle⟩, fun _ => ?_, ?_, fun _ => rfl, fun _ => hwsOpen⟩
      · rwa [hstopped _ .started (by simp)]
      · rwa [hstopped _ .started (by simp)]
      · exact ⟨rfl, hwsRunning, (hhttp.started (not_not.mp hboth)).2.2⟩
      · rw [mem_effects_snoc, h.failed, hclosed]
        simp

/-- A call of `Stop` keeps the invariant. -/
theorem Tracks.stop (h : Tracks wsThreads httpThreads tr s) :
    Tracks wsThreads httpThreads (tr ++ [(.stop, (s.step wsThreads httpThreads .stop).1)])
      (s.step wsThreads httpThreads .stop).2 := by
  rw [step]
  split
  next hnot =>
    -- A call that does nothing adds no effect to the history.
    have heffects (e : AppEffect) (he : e ≠ .none) :
        e ∈ (tr ++ [(AppCall.stop, AppEffect.none)]).map Prod.snd ↔ e ∈ tr.map Prod.snd := by
      rw [mem_effects_snoc, or_iff_left he]
    have hstopped := heffects .stopped (by simp)
    have hfailed := heffects (.failed true) (by simp)
    refine ⟨?_, ?_, h.idle, h.parts, ?_, ?_, h.nested⟩
    · rw [hstopped]
      exact h.ws
    · rw [hstopped]
      exact h.http
    · rw [hfailed]
      exact h.failed
    · rw [hfailed]
      exact h.monitor
  next hnot =>
    -- Both servers were running, and both are stopped to the end.
    have hrunning := not_not.mp hnot
    obtain ⟨-, hwsRunning, hhttpRunning⟩ := h.parts hrunning
    obtain ⟨wsTr, hws, -⟩ := h.ws
    obtain ⟨httpTr, hhttp, -⟩ := h.http
    obtain ⟨wsTr', hws', hwsHalted⟩ := AsioServer.run_stopAll hws h.idle.1
    obtain ⟨httpTr', hhttp', hhttpHalted⟩ := AsioServer.run_stopAll hhttp h.idle.2
    have hstopped : AppEffect.stopped ∈ (tr ++ [(AppCall.stop, AppEffect.stopped)]).map Prod.snd :=
      mem_effects_snoc.mpr (.inr rfl)
    have hclosed {server : AsioServer} (hserver : server.running = true) :
        server.stopAll = { server with
          isOpen := false, running := false, stopped := true, threads := 0 } :=
      if_neg (not_not.mpr hserver)
    refine ⟨⟨wsTr', hws', iff_of_true (hwsHalted.mpr (.inr hwsRunning)) hstopped⟩,
      ⟨httpTr', hhttp', iff_of_true (hhttpHalted.mpr (.inr hhttpRunning)) hstopped⟩, ?_,
      fun h => (by cases h), ?_, fun hfailed => ?_, fun hopen => ?_⟩
    · rw [hclosed hwsRunning, hclosed hhttpRunning]
      exact h.idle
    · rw [mem_effects_snoc, h.failed, hrunning, hclosed hwsRunning]
      simp
    · rw [mem_effects_snoc, h.failed, hrunning] at hfailed
      simp at hfailed
    · rw [hclosed hhttpRunning] at hopen
      cases hopen

/-- The invariant holds in every run. -/
theorem tracks_of_run
    (hrun : Mealy.Run (step wsThreads httpThreads) (fun _ _ _ => True) {} tr s) :
    Tracks wsThreads httpThreads tr s :=
  hrun.historyInvariant tracks_nil fun tr s call h _ => by
    cases call with
    | start connects ws http => exact h.start connects ws http
    | stop => exact h.stop

/-! ## Runs -/

/-- A server of a running application takes connections until the application was stopped. -/
theorem serves_iff {threads : ℕ} {server : AsioServer} {P : Prop}
    (h : ∃ tr', Mealy.Run (AsioServer.step threads) AsioServer.Possible {} tr' server ∧
      (AsioServer.Halted tr' ↔ P)) (hidle : server.place = .idle)
    (hrunning : server.running = true) :
    Serves server ↔ ¬ P ∧ 0 < threads := by
  obtain ⟨tr', hrun, hhalted⟩ := h
  rw [← hhalted]
  exact ((AsioServer.tracks_of_run hrun).possible_accepted_iff hidle true).trans
    (and_iff_right hrunning)

/-- `Start` succeeds exactly if both acceptors are closed and the system agrees. -/
theorem start_eq_started_iff (h : Tracks wsThreads httpThreads tr s) :
    (s.start wsThreads httpThreads true ⟨true, true, true⟩ ⟨true, true, true⟩).1 = .started ↔
      s.wsServer.isOpen = false := by
  have hserver (threads : ℕ) (server : AsioServer) :
      (server.start threads ⟨true, true, true⟩).1 = .started ↔ server.isOpen = false := by
    rw [AsioServer.start]
    cases server.isOpen <;> simp
  rw [start]
  dsimp only
  by_cases hopen : s.wsServer.isOpen = false
  · have hhttp : s.httpServer.isOpen = false := Bool.eq_false_iff.mpr fun hhttp => by
      rw [h.nested hhttp] at hopen
      cases hopen
    rw [if_neg (not_not.mpr ((hserver _ _).mpr hopen)),
      if_neg (not_not.mpr ((hserver _ _).mpr hhttp))]
    exact iff_of_true rfl hopen
  · rw [if_pos fun heq => hopen ((hserver _ _).mp heq)]
    exact iff_of_false (by simp) hopen

/-- After a start that has failed with an open acceptor, nothing changes for the WebSocket server
any more. -/
theorem step_of_failed (h : Tracks wsThreads httpThreads tr s)
    (hfailed : .failed true ∈ tr.map Prod.snd) (call : AppCall) :
    (s.step wsThreads httpThreads call).1 ≠ .started ∧
      (s.step wsThreads httpThreads call).1 ≠ .stopped ∧
      (s.step wsThreads httpThreads call).2.wsServer = s.wsServer := by
  obtain ⟨hopen, hrunning⟩ := h.failed.mp hfailed
  cases call with
  | stop => simp [step, hrunning]
  | start connects ws http =>
    have hrefused : s.wsServer.start wsThreads ws = (.refused, s.wsServer) := by
      rw [AsioServer.start, if_pos (.inl hopen)]
    simp [step, start, hrefused]

/-- For every sequence of calls, whatever the broker and the system answer: a running application
has all its parts running, and serves unless it was stopped before; it can be started unless it is
running or a failed start has left an acceptor open; and after such a start it never runs, no stop
has an effect, and what was started runs on. -/
theorem serving_of_run
    (hrun : Mealy.Run (step wsThreads httpThreads) (fun _ _ _ => True) {} tr s) :
    Lifecycle wsThreads httpThreads tr s := by
  have h := tracks_of_run hrun
  refine ⟨h.parts, fun hrunning => ?_, ?_, ?_, fun hfailed => ?_⟩
  · obtain ⟨-, hws, hhttp⟩ := h.parts hrunning
    rw [serves_iff h.ws h.idle.1 hws, serves_iff h.http h.idle.2 hhttp]
    tauto
  · rw [start_eq_started_iff h, h.failed]
    cases hopen : s.wsServer.isOpen with
    | false =>
      have hrunning : s.running = false := Bool.eq_false_iff.mpr fun hrunning => by
        obtain ⟨tr', hws, -⟩ := h.ws
        have := ((AsioServer.tracks_of_run hws).running (h.parts hrunning).2.1).2.1
        rw [this] at hopen
        cases hopen
      simp [hrunning]
    | true => cases s.running <;> simp
  · clear h
    induction hrun with
    | nil => exact List.eachAfter_nil
    | @snoc tr s call hrun _ ih =>
      refine List.eachAfter_snoc.mpr ⟨ih, fun hfailed => ?_⟩
      obtain ⟨hstarted, hstopped, -⟩ := step_of_failed (tracks_of_run hrun) hfailed call
      exact ⟨hstarted, hstopped⟩
  · exact ⟨h.monitor hfailed, (h.failed.mp hfailed).2, fun call =>
      (step_of_failed h hfailed call).2.2⟩

/-- The port of the HTTP server is taken at the first start. -/
def portTaken : List AppCall :=
  [.start false ⟨true, true, true⟩ ⟨true, false, true⟩, .stop,
    .start false ⟨true, true, true⟩ ⟨true, true, true⟩]

/-- The application gives up with its WebSocket server running, and cannot be started again. -/
theorem serving_of_run_portTaken :
    let r := Mealy.exec (step 4 4) {} portTaken
    r.1.map Prod.snd = [.failed true, .none, .failed false] ∧ r.2.wsServer.running = true ∧
      Lifecycle 4 4 r.1 r.2 :=
  ⟨by decide, by decide,
    serving_of_run (Mealy.Run.exec (show Mealy.Allowed _ _ _ _ portTaken by
      simp [portTaken, Mealy.Allowed]))⟩

end AppServers

end IotDashboard
