import IotDashboard.Common.Error
import IotDashboard.Foundation.Mealy

/-!
# Starting and stopping a server

`HttpServer` and `WsServer` open their acceptor, start to accept and run their I/O context in the
same way. A server that was stopped can be started again, as far as `Start` and `IsRunning` tell:
but the I/O context stays stopped, since nothing restarts it, and no connection is accepted any
more. A start that fails after the acceptor was opened leaves it open, and no later start gets past
that.

## Main definitions

* `AsioServer.step`: `Start`, the parts of `Stop`, and the handler of `AcceptLoop`;
* `AsioServer.Lifecycle`: what holds in every run.

## Main results

* `AsioServer.accepts_of_run`: when a server accepts connections and when it can be started.
-/

namespace IotDashboard

/-- What the system answers to the calls of `Start`. -/
structure ListenOutcome where
  opens : Bool
  binds : Bool
  listens : Bool
deriving DecidableEq

/-- Where the thread is that starts and stops the server. -/
inductive StopPlace where
  | idle
  /-- In `Stop`, before the acceptor is closed. -/
  | closing
  /-- In `Stop`, before the I/O context is stopped and its threads are joined. -/
  | halting
deriving DecidableEq

/-- What `HttpServer` and `WsServer` have in common. -/
structure AsioServer where
  /-- The acceptor is open. -/
  isOpen : Bool := false
  /-- `m_running`. -/
  running : Bool := false
  /-- The I/O context is stopped; its `run` returns at once. -/
  stopped : Bool := false
  /-- Accept operations that have not completed. -/
  accepts : ℕ := 0
  /-- The size of `m_threads`. -/
  threads : ℕ := 0
  place : StopPlace := .idle
deriving DecidableEq

/-- What happens at a server. -/
inductive ServerInput where
  | start (outcome : ListenOutcome)
  /-- `Stop` up to the end of its first test. -/
  | stop
  | close
  /-- The I/O context is stopped and its threads are joined. -/
  | halt
  /-- An accept operation completes, with a connection or with an error. -/
  | accepted (succeeded : Bool)
deriving DecidableEq

/-- What a step shows. -/
inductive ServerEffect where
  | none
  | started
  /-- `Start` fails, and the acceptor is as it was. -/
  | refused
  /-- `Start` fails after it has opened the acceptor. -/
  | abandoned
  /-- A session is created for a connection. -/
  | session
deriving DecidableEq

abbrev ServerTrace := List (ServerInput × ServerEffect)

namespace AsioServer

-- The configured number of threads.
variable (threadCount : ℕ)

/-- `Start`; an acceptor that is open cannot be opened. -/
def start (s : AsioServer) (outcome : ListenOutcome) : ServerEffect × AsioServer :=
  if s.isOpen ∨ ¬ outcome.opens then (.refused, s)
  else
    let opened := { s with isOpen := true }
    if ¬ outcome.binds then (.abandoned, opened)
    else if ¬ outcome.listens then (.abandoned, opened)
    else (.started, { opened with
      running := true, accepts := s.accepts + 1, threads := s.threads + threadCount })

/-- The handler of `AcceptLoop`. -/
def onAccept (s : AsioServer) (succeeded : Bool) : ServerEffect × AsioServer :=
  let completed := { s with accepts := s.accepts - 1 }
  if ¬ s.running then (.none, completed)
  else (if succeeded then .session else .none, { completed with accepts := completed.accepts + 1 })

/-- One step. -/
def step (s : AsioServer) : ServerInput → ServerEffect × AsioServer
  | .start outcome => s.start threadCount outcome
  | .stop =>
    if ¬ s.running then (.none, s) else (.none, { s with running := false, place := .closing })
  | .close => (.none, { s with isOpen := false, place := .halting })
  | .halt => (.none, { s with stopped := true, threads := 0, place := .idle })
  | .accepted succeeded => s.onAccept succeeded

/-- The threads of the context run handlers until it is stopped. -/
def Possible (_ : ServerTrace) (s : AsioServer) : ServerInput → Prop
  | .start _ | .stop => s.place = .idle
  | .close => s.place = .closing
  | .halt => s.place = .halting
  | .accepted _ => 0 < s.accepts ∧ 0 < s.threads ∧ s.stopped = false

instance decidablePossible (tr : ServerTrace) (s : AsioServer) : ∀ i, Decidable (Possible tr s i)
  | .start _ | .stop => inferInstanceAs (Decidable (s.place = .idle))
  | .close => inferInstanceAs (Decidable (s.place = .closing))
  | .halt => inferInstanceAs (Decidable (s.place = .halting))
  | .accepted _ => inferInstanceAs (Decidable (_ ∧ _ ∧ _))

/-- The server was stopped at some time. -/
def Halted (tr : ServerTrace) : Prop := .halt ∈ tr.map Prod.fst

/-- What holds in every run. -/
structure Lifecycle (tr : ServerTrace) (s : AsioServer) : Prop where
  /-- A server takes connections exactly if it is running and was never stopped. The accept loop
  survives all errors. -/
  accepting : s.place = .idle → ∀ succeeded, Possible tr s (.accepted succeeded) ↔
    s.running = true ∧ ¬ Halted tr ∧ 0 < threadCount
  /-- It can be started exactly if it is not running and no start was abandoned. -/
  startable : s.place = .idle → ((s.start threadCount ⟨true, true, true⟩).1 = .started ↔
    s.running = false ∧ .abandoned ∉ tr.map Prod.snd)
  /-- Sessions are created between the first start and the first stop. -/
  sessions : tr.EachAfter fun past e => e.2 = .session →
    .started ∈ past.map Prod.snd ∧ ¬ Halted past
  /-- After a start was abandoned none succeeds, and no session is created. -/
  wedged : tr.EachAfter fun past e => .abandoned ∈ past.map Prod.snd →
    e.2 ≠ .started ∧ e.2 ≠ .session

/-! ## The invariant -/

/-- The invariant. -/
structure Tracks (tr : ServerTrace) (s : AsioServer) : Prop where
  stopped : s.stopped = true ↔ Halted tr
  running : s.running = true → s.place = .idle ∧ s.isOpen = true ∧ .started ∈ tr.map Prod.snd
  /-- Until the context is stopped, it has the threads and the one accept operation of a server
  that is running. -/
  serving : s.stopped = false → s.place = .idle →
    s.accepts = s.running.toNat ∧ s.threads = if s.running then threadCount else 0
  /-- The acceptor of a server that is not running is open only after an abandoned start. -/
  abandoned : .abandoned ∈ tr.map Prod.snd ↔
    s.place = .idle ∧ s.isOpen = true ∧ s.running = false
  closed : s.place = .halting → s.isOpen = false

variable {threadCount : ℕ} {tr : ServerTrace} {s : AsioServer}

/-- The invariant holds at first. -/
theorem tracks_nil : Tracks threadCount [] {} where
  stopped := by simp [Halted]
  running h := by cases h
  serving _ _ := ⟨rfl, rfl⟩
  abandoned := by simp
  closed h := by cases h

/-- A halted server stays halted. -/
theorem halted_snoc {i : ServerInput} {o : ServerEffect} :
    Halted (tr ++ [(i, o)]) ↔ Halted tr ∨ i = .halt := by
  simp [Halted, eq_comm]

/-- A step has one effect. -/
theorem mem_effects_snoc {i : ServerInput} {o o' : ServerEffect} :
    o' ∈ (tr ++ [(i, o)]).map Prod.snd ↔ o' ∈ tr.map Prod.snd ∨ o' = o := by
  simp

/-- A step that changes nothing. -/
theorem Tracks.quiet (h : Tracks threadCount tr s) {i : ServerInput} {o : ServerEffect}
    (hi : i ≠ .halt) (ho : o ≠ .abandoned) : Tracks threadCount (tr ++ [(i, o)]) s := by
  refine ⟨?_, fun hrunning => ?_, h.serving, ?_, h.closed⟩
  · rw [halted_snoc, h.stopped, or_iff_left hi]
  · obtain ⟨hidle, hopen, hstarted⟩ := h.running hrunning
    exact ⟨hidle, hopen, mem_effects_snoc.mpr (.inl hstarted)⟩
  · rw [mem_effects_snoc, or_iff_left ho.symm, h.abandoned]

/-- `Start` keeps the invariant, whichever call fails. -/
theorem Tracks.start (h : Tracks threadCount tr s) (hidle : s.place = .idle)
    (outcome : ListenOutcome) :
    Tracks threadCount (tr ++ [(.start outcome, (s.start threadCount outcome).1)])
      (s.start threadCount outcome).2 := by
  rw [AsioServer.start]
  split
  · exact h.quiet (by simp) (by simp)
  next hopens =>
    rw [not_or, not_not, Bool.not_eq_true] at hopens
    -- The acceptor was closed, so the server was not running.
    have hstopped : s.running = false := by
      rw [Bool.eq_false_iff]
      intro hrunning
      exact absurd (h.running hrunning).2.1 (by simp [hopens.1])
    have habandoned : Tracks threadCount (tr ++ [(.start outcome, .abandoned)])
        { s with isOpen := true } := by
      refine ⟨?_, fun hrunning => ?_, h.serving, ?_, fun hhalting => ?_⟩
      · rw [halted_snoc, h.stopped, or_iff_left (by simp)]
      · exact absurd hrunning (by simp [hstopped])
      · exact iff_of_true (mem_effects_snoc.mpr (.inr rfl)) ⟨hidle, rfl, hstopped⟩
      · exact absurd (hidle.symm.trans hhalting) (by simp)
    dsimp only
    split
    · exact habandoned
    split
    · exact habandoned
    · refine ⟨?_, fun _ => ⟨hidle, rfl, mem_effects_snoc.mpr (.inr rfl)⟩, fun hfresh _ => ?_, ?_,
        fun hhalting => absurd (hidle.symm.trans hhalting) (by simp)⟩
      · rw [halted_snoc, h.stopped, or_iff_left (by simp)]
      · obtain ⟨haccepts, hthreads⟩ := h.serving hfresh hidle
        simp [haccepts, hthreads, hstopped]
      · rw [mem_effects_snoc, or_iff_left (by simp), h.abandoned, hopens.1]
        simp

/-- The completion of an accept keeps the invariant. -/
theorem Tracks.onAccept (h : Tracks threadCount tr s) {succeeded : Bool}
    (hpossible : Possible tr s (.accepted succeeded)) : Tracks threadCount
      (tr ++ [(.accepted succeeded, (s.onAccept succeeded).1)]) (s.onAccept succeeded).2 := by
  obtain ⟨haccepts, hthreads, hfresh⟩ := hpossible
  have hsilent : (s.onAccept succeeded).1 ≠ .abandoned := by
    rw [AsioServer.onAccept]
    split <;> cases succeeded <;> simp
  have hsame : (s.onAccept succeeded).2 =
      { s with accepts := if s.running then s.accepts else s.accepts - 1 } := by
    rw [AsioServer.onAccept]
    cases s.running
    · rfl
    · simp [Nat.sub_add_cancel haccepts]
  rw [hsame]
  have hquiet := h.quiet (i := .accepted succeeded) (by simp) hsilent
  refine ⟨hquiet.stopped, hquiet.running, fun _ hidle => ?_, hquiet.abandoned, hquiet.closed⟩
  obtain ⟨hcount, hthreadCount⟩ := h.serving hfresh hidle
  -- Without a running server there is no thread to run the handler.
  cases hrunning : s.running with
  | true => simpa [hrunning] using And.intro hcount hthreadCount
  | false => simp [hrunning, hthreadCount] at hthreads

/-- Every possible step keeps the invariant. -/
theorem Tracks.step (h : Tracks threadCount tr s) {i : ServerInput} (hpossible : Possible tr s i) :
    Tracks threadCount (tr ++ [(i, (s.step threadCount i).1)]) (s.step threadCount i).2 := by
  have hnot (hplace : s.place ≠ .idle) : s.running = false := by
    rw [Bool.eq_false_iff]
    exact fun hrunning => hplace (h.running hrunning).1
  -- `Stop` is three steps, between which the threads may go on.
  cases i with
  | start outcome => exact h.start hpossible outcome
  | accepted succeeded => exact h.onAccept hpossible
  | stop =>
    rw [AsioServer.step]
    split
    · exact h.quiet (by simp) (by simp)
    next hrunning =>
      have hquiet := h.quiet (i := .stop) (o := .none) (by simp) (by simp)
      refine ⟨hquiet.stopped, fun h => (by cases h), fun _ h => (by cases h), ?_,
        fun h => (by cases h)⟩
      rw [hquiet.abandoned]
      exact iff_of_false (fun h => hrunning (by simp [h.2.2])) fun h => by cases h.1
  | close =>
    have hclosing : s.place ≠ .idle := by simp [show s.place = .closing from hpossible]
    have hquiet := h.quiet (i := .close) (o := .none) (by simp) (by simp)
    refine ⟨hquiet.stopped, fun hrunning => ?_, fun _ h => (by cases h), ?_, fun _ => rfl⟩
    · exact absurd hrunning (by simp [AsioServer.step, hnot hclosing])
    · exact hquiet.abandoned.trans (iff_of_false (fun h => hclosing h.1) fun h => by cases h.1)
  | halt =>
    have hhalting : s.place ≠ .idle := by simp [show s.place = .halting from hpossible]
    -- Only the last of them stops the event loop.
    have hclosed := h.closed hpossible
    refine ⟨iff_of_true rfl (halted_snoc.mpr (.inr rfl)), fun hrunning => ?_, fun h => (by cases h),
      ?_, fun h => (by cases h)⟩
    · exact absurd hrunning (by simp [AsioServer.step, hnot hhalting])
    · rw [mem_effects_snoc, h.abandoned]
      exact iff_of_false (fun h => h.elim (fun h => hhalting h.1) fun h => by cases h)
        fun h => absurd h.2.1 (by simp [AsioServer.step, hclosed])

/-- The invariant holds in every run. -/
theorem tracks_of_run (hrun : Mealy.Run (step threadCount) Possible {} tr s) :
    Tracks threadCount tr s :=
  hrun.historyInvariant tracks_nil fun _ _ _ h hpossible => h.step hpossible

/-! ## Runs -/

/-- A connection can be accepted exactly while the server runs, is not halted and has a thread. -/
theorem Tracks.possible_accepted_iff (h : Tracks threadCount tr s) (hidle : s.place = .idle)
    (succeeded : Bool) :
    Possible tr s (.accepted succeeded) ↔ s.running = true ∧ ¬ Halted tr ∧ 0 < threadCount := by
  rw [← h.stopped, Bool.not_eq_true]
  constructor
  · rintro ⟨-, hthreads, hfresh⟩
    rw [(h.serving hfresh hidle).2] at hthreads
    split at hthreads
    · next hrunning => exact ⟨hrunning, hfresh, hthreads⟩
    · exact absurd hthreads (lt_irrefl 0)
  · rintro ⟨hrunning, hfresh, hpos⟩
    obtain ⟨haccepts, hthreads⟩ := h.serving hfresh hidle
    refine ⟨?_, ?_, hfresh⟩
    · rw [haccepts, hrunning]
      exact one_pos
    · rwa [hthreads, if_pos hrunning]

/-- A start at which no call fails succeeds exactly if the server is not running and no earlier
start was given up. -/
theorem Tracks.start_eq_started_iff (h : Tracks threadCount tr s) (hidle : s.place = .idle) :
    (s.start threadCount ⟨true, true, true⟩).1 = .started ↔
      s.running = false ∧ .abandoned ∉ tr.map Prod.snd := by
  have hopen : (s.start threadCount ⟨true, true, true⟩).1 = .started ↔ s.isOpen = false := by
    rw [AsioServer.start]
    split
    · next hor => simpa using hor
    · next hor => simpa using hor
  rw [hopen, h.abandoned]
  constructor
  · intro hclosed
    refine ⟨Bool.eq_false_iff.mpr fun hrunning => ?_, fun hwedged => ?_⟩
    · exact absurd (h.running hrunning).2.1 (by simp [hclosed])
    · exact absurd hwedged.2.1 (by simp [hclosed])
  · rintro ⟨hrunning, hwedged⟩
    exact Bool.eq_false_iff.mpr fun hopen => hwedged ⟨hidle, hopen, hrunning⟩

/-- In every run of a server: it takes connections exactly while it is running and before it was
first stopped; it can be started whenever it is not running, also after that, unless a start was
abandoned; and after an abandoned start it can never be started. -/
theorem accepts_of_run (hrun : Mealy.Run (step threadCount) Possible {} tr s) :
    Lifecycle threadCount tr s := by
  have h := tracks_of_run hrun
  refine ⟨h.possible_accepted_iff, h.start_eq_started_iff, ?_, ?_⟩
  · clear h
    induction hrun with
    | nil => exact List.eachAfter_nil
    | @snoc tr s i hrun hpossible ih =>
      have h := tracks_of_run hrun
      refine List.eachAfter_snoc.mpr ⟨ih, fun ho => ?_⟩
      cases i with
      | accepted succeeded =>
        -- A session is made by a completion, as long as the server is running.
        have hrunning : s.running = true := by
          by_contra hnot
          simp [step, onAccept, hnot] at ho
        refine ⟨(h.running hrunning).2.2, ?_⟩
        rw [← h.stopped, hpossible.2.2]
        exact Bool.false_ne_true
      | start outcome =>
        simp only [step, start] at ho
        split at ho
        · cases ho
        · split at ho
          · cases ho
          · split at ho <;> cases ho
      | stop => simp only [step] at ho; split at ho <;> cases ho
      | close => cases ho
      | halt => cases ho
  · clear h
    induction hrun with
    | nil => exact List.eachAfter_nil
    | @snoc tr s i hrun hpossible ih =>
      have h := tracks_of_run hrun
      refine List.eachAfter_snoc.mpr ⟨ih, fun hwedged => ?_⟩
      -- The acceptor is open and the server does not run: neither `Start` nor `Stop` helps.
      obtain ⟨hidle, hopen, hrunning⟩ := h.abandoned.mp hwedged
      cases i with
      | start outcome => simp [step, start, hopen]
      | accepted succeeded => simp [step, onAccept, hrunning]
      | stop => simp [step, hrunning]
      | close => simp [step]
      | halt => simp [step]

/-- A server is started, takes a connection, is stopped and is started again. -/
def restarted : List ServerInput :=
  [.start ⟨true, true, true⟩, .accepted true, .stop, .close, .halt, .start ⟨true, true, true⟩]

/-- The server that was stopped and started again runs and accepts nothing. -/
theorem accepts_of_run_restarted :
    let r := Mealy.exec (step 4) {} restarted
    r.2.running = true ∧ (.session ∈ r.1.map Prod.snd) ∧ ¬ Possible r.1 r.2 (.accepted true) ∧
      Lifecycle 4 r.1 r.2 :=
  ⟨by decide, by decide, by decide, accepts_of_run (Mealy.Run.exec (by decide))⟩

end AsioServer

end IotDashboard
