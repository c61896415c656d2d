import IotDashboard.Devices.MonitorControl
import Mathlib.Algebra.Order.Group.Int
import Mathlib.Tactic.Linarith

/-!
# Starting and stopping the monitor

How the poll thread lives: it sleeps for a whole interval before each list, there is one at a time
and none after `Stop`, and whoever stops it waits for little more than a second.

## Main definitions

* `PollPlace.Slept`: how long the thread has slept at a place of its loop;
* `MonitorControl.Tracks`: the invariant.

## Main results

* `MonitorControl.pollThread_of_run`: one poll thread at a time, none after `Stop`, a whole interval
  before each list, a prompt stop, and what ends the program;
* `MonitorControl.stop_completes`: `Stop` gets to its end, if the callbacks return.
-/

namespace IotDashboard

open StdString

open ControlTrace

namespace PollPlace

/-- How long the thread has slept in this round. -/
def Slept (pollInterval slept : ℤ) (running : Bool) : PollPlace → Prop
  | round => slept = 0
  | pause remaining => slept + max remaining 0 = max pollInterval 0
  | asleep remaining => 0 < remaining ∧ slept + remaining = max pollInterval 0
  -- The loop is left early only on the way out.
  | awake => running = true → slept = max pollInterval 0
  | reading => slept = max pollInterval 0
  | reporting => slept = 0
  | ended => True

/-- The steps that the thread takes once it is to stop, without the callbacks. -/
def stepsLeft : PollPlace → ℕ
  | round => 1
  | pause _ => 2
  | asleep _ => 3
  | awake => 1
  | reading => 3
  | reporting => 2
  | ended => 0

/-- The seconds that it sleeps then. -/
def sleepLeft : PollPlace → ℤ
  | asleep remaining => min remaining 1
  | _ => 0

private theorem left_le (place : PollPlace) : place.sleepLeft ≤ 1 ∧ place.stepsLeft ≤ 3 := by
  cases place <;> simp [sleepLeft, stepsLeft]

end PollPlace

namespace MonitorControl

/-- The invariant. -/
structure Tracks (pollInterval : ℤ) (tr : ControlTrace) (s : MonitorControl) : Prop where
  threads : threads tr = s.thread.isSome.toNat
  idle : s.control = .idle → (s.running = true ↔ s.thread.isSome = true) ∧ s.thread ≠ some .ended
  starting : s.control = .starting → s.running = true ∧ s.thread = none
  stopping : s.control = .stopping → s.running = false ∧ s.thread.isSome = true
  slept : ∀ place, s.thread = some place →
    place.Slept pollInterval (sleep (thisRound tr)) s.running
  prompt : ∀ place, s.thread = some place → s.control = .stopping →
    sleep (sinceStop tr) + place.sleepLeft ≤ 1 ∧
      (sinceStop tr).countP isQuietTick + place.stepsLeft ≤ 3

variable {pollInterval : ℤ} {tr : ControlTrace} {s : MonitorControl}

/-- The invariant holds at first. -/
theorem tracks_nil : Tracks pollInterval [] {} where
  threads := rfl
  idle _ := ⟨by simp, by simp⟩
  starting h := by cases h
  stopping h := by cases h
  slept place h := by cases h
  prompt place h := by cases h

/-- A step of the thread that starts and stops, or of another one, that leaves the poll thread
where it is. -/
theorem Tracks.stays (h : Tracks pollInterval tr s) {i : ControlInput} {s' : MonitorControl}
    {o : ControlEffect} (ho : o = .none ∨ o = .terminated)
    (hspawn : i ≠ .spawn) (hjoin : i ≠ .join) (htick : ∀ now, i ≠ .tick now)
    (hthread : s'.thread = s.thread) (hrunning : s.thread.isSome = true → s'.running = s.running ∨
      s'.running = false)
    (hidle : s'.control = .idle → (s'.running = true ↔ s'.thread.isSome = true) ∧
      s'.thread ≠ some .ended)
    (hstarting : s'.control = .starting → s'.running = true ∧ s'.thread = none)
    (hstopping : s'.control = .stopping → s'.running = false ∧ s'.thread.isSome = true)
    (hsince : s'.control = .stopping → i = .stop ∨ s.control = .stopping) :
    Tracks pollInterval (tr ++ [(i, o)]) s' := by
  have hslice : o.slice = 0 := by rcases ho with rfl | rfl <;> rfl
  have hround : sleep (thisRound (tr ++ [(i, o)])) = sleep (thisRound tr) := by
    rw [thisRound_snoc (by rcases ho with rfl | rfl <;> simp) hspawn, sleep_snoc, hslice, add_zero]
  refine ⟨?_, hidle, hstarting, hstopping, fun place hplace => ?_, fun place hplace hstop => ?_⟩
  · rw [threads_snoc, if_neg hspawn, if_neg hjoin, h.threads, hthread, add_zero, sub_zero]
  · rw [hround]
    rw [hthread] at hplace
    have hslept := h.slept place hplace
    rcases hrunning (by rw [hplace]; rfl) with heq | hfalse
    · rwa [heq]
    · -- Only behind the inner loop does it matter whether the monitor is running.
      cases place with
      | awake => exact fun htrue => absurd htrue (by simp [hfalse])
      | _ => exact hslept
  · rcases eq_or_ne i .stop with rfl | hi
    · rw [sinceStop_stop]
      simpa [sleep] using place.left_le
    · have hquiet : isQuietTick (i, o) = false := by
        cases i with
        | tick now => exact absurd rfl (htick now)
        | _ => rfl
      rw [hthread] at hplace
      rw [sinceStop_snoc hi, sleep_snoc, List.countP_append, List.countP_singleton, hquiet]
      simpa [hslice] using h.prompt place hplace ((hsince hstop).resolve_left hi)

/-- A step of the poll thread. -/
theorem Tracks.goes (h : Tracks pollInterval tr s) {place place' : PollPlace}
    (hplace : s.thread = some place) {now : Timestamp} {o : ControlEffect} {s' : MonitorControl}
    (hthread : s'.thread = some place') (hrunning : s'.running = s.running)
    (hcontrol : s'.control = s.control) (hended : place' = .ended → s.running = false)
    (hslept : place.Slept pollInterval (sleep (thisRound tr)) s.running →
      place'.Slept pollInterval (sleep (thisRound (tr ++ [(.tick now, o)]))) s.running)
    (hleft : s.running = false →
      o.slice + place'.sleepLeft ≤ place.sleepLeft ∧
      (isQuietTick (.tick now, o)).toNat + place'.stepsLeft ≤ place.stepsLeft) :
    Tracks pollInterval (tr ++ [(.tick now, o)]) s' := by
  have hsome : s'.thread.isSome = s.thread.isSome := by rw [hthread, hplace]; rfl
  -- The caller is where it was, so each field is about the new place of the thread only.
  refine ⟨?_, fun hidle => ?_, fun hstarting => ?_, fun hstopping => ?_, fun p hp => ?_,
    fun p hp hstop => ?_⟩
  · rw [threads_snoc, if_neg (by simp), if_neg (by simp), h.threads, hsome, add_zero, sub_zero]
  · rw [hcontrol] at hidle
    rw [hrunning, hsome]
    refine ⟨(h.idle hidle).1, fun heq => ?_⟩
    have hfalse := hended (Option.some.inj (hthread.symm.trans heq))
    have htrue := (h.idle hidle).1.mpr (by rw [hplace]; rfl)
    exact absurd htrue (by simp [hfalse])
  · rw [hcontrol] at hstarting
    exact absurd ((h.starting hstarting).2.symm.trans hplace) (by simp)
  · rw [hcontrol] at hstopping
    rw [hrunning, hsome]
    exact h.stopping hstopping
  · obtain rfl := Option.some.inj (hthread.symm.trans hp)
    rw [hrunning]
    exact hslept (h.slept place hplace)
  · obtain rfl := Option.some.inj (hthread.symm.trans hp)
    rw [hcontrol] at hstop
    -- What the step sleeps or does is taken from what was left to do.
    obtain ⟨hsleep, hsteps⟩ := h.prompt place hplace hstop
    obtain ⟨hsleep', hsteps'⟩ := hleft (h.stopping hstop).1
    rw [sinceStop_snoc (by simp), sleep_snoc, List.countP_append, List.countP_singleton]
    refine ⟨by linarith, ?_⟩
    cases hquiet : isQuietTick (.tick now, o) <;> simp [hquiet] at hsteps' ⊢ <;> omega

/-- A step of the poll thread keeps the invariant. -/
theorem Tracks.tick (h : Tracks pollInterval tr s) {place : PollPlace}
    (hplace : s.thread = some place) (hended : place ≠ .ended) (now : Timestamp) :
    Tracks pollInterval (tr ++ [(.tick now, (s.tick pollInterval now place).1)])
      (s.tick pollInterval now place).2 := by
  have hround {o : ControlEffect} (ho : o ≠ .collected) :
      sleep (thisRound (tr ++ [(.tick now, o)])) =
        sleep (thisRound tr) + o.slice := by
    rw [thisRound_snoc ho (by simp), sleep_snoc]
  -- One case for each place in the loop of the poll thread.
  cases place with
  | round =>
    refine h.goes hplace rfl rfl rfl (by cases s.running <;> simp) (fun hslept => ?_)
      fun hstop => ?_
    · rw [hround (by simp [MonitorControl.tick]), show sleep (thisRound tr) = 0 from hslept]
      cases s.running with
      | true => simp [MonitorControl.tick, ControlEffect.slice, PollPlace.Slept]
      | false => trivial
    · simp [hstop, MonitorControl.tick, ControlEffect.slice, PollPlace.sleepLeft,
        PollPlace.stepsLeft, isQuietTick]
  -- A pause goes on while there is time left and nobody has stopped it.
  | pause remaining =>
    rw [MonitorControl.tick]
    split
    · next hgo =>
      refine h.goes hplace rfl rfl rfl (by simp) (fun hslept => ?_) fun hstop => ?_
      · rw [hround (by simp)]
        rw [PollPlace.Slept, max_eq_left hgo.1.le] at hslept
        exact ⟨hgo.1, by simpa [ControlEffect.slice] using hslept⟩
      · simp [hstop] at hgo
    · next hnot =>
      refine h.goes hplace rfl rfl rfl (by simp) (fun hslept hrunning => ?_) fun hstop => ?_
      · have hover : remaining ≤ 0 := by
          by_contra hlt
          exact hnot ⟨not_le.mp hlt, hrunning⟩
        rw [hround (by simp)]
        rw [PollPlace.Slept, max_eq_right hover] at hslept
        simpa [ControlEffect.slice] using hslept
      · simp [ControlEffect.slice, PollPlace.sleepLeft, PollPlace.stepsLeft, isQuietTick]
  -- A slice is a second, or what is left if that is less.
  | asleep remaining =>
    refine h.goes hplace rfl rfl rfl (by simp) (fun hslept => ?_) fun hstop => ?_
    · obtain ⟨hpos, hslept⟩ := hslept
      rw [hround (by simp [MonitorControl.tick])]
      show _ + min remaining 1 + max (remaining - min remaining 1) 0 = _
      rw [← hslept]
      omega
    · simp [MonitorControl.tick, ControlEffect.slice, PollPlace.sleepLeft, PollPlace.stepsLeft,
        isQuietTick]
  | awake =>
    refine h.goes hplace rfl rfl rfl (by cases s.running <;> simp) (fun hslept => ?_)
      fun hstop => ?_
    · rw [hround (by simp [MonitorControl.tick])]
      cases hrunning : s.running with
      | true =>
        simpa [MonitorControl.tick, ControlEffect.slice, PollPlace.Slept, hrunning] using hslept
      | false => trivial
    · simp [hstop, MonitorControl.tick, ControlEffect.slice, PollPlace.sleepLeft,
        PollPlace.stepsLeft, isQuietTick]
  | reading =>
    refine h.goes hplace rfl rfl rfl (by simp) (fun _ => ?_) fun hstop => ?_
    · -- Collecting the devices begins a new round.
      rw [MonitorControl.tick, thisRound_snoc_of_new (.inl rfl)]
      rfl
    · simp [MonitorControl.tick, ControlEffect.slice, PollPlace.sleepLeft, PollPlace.stepsLeft,
        isQuietTick]
  | reporting =>
    rw [MonitorControl.tick]
    split
    · refine h.goes hplace rfl rfl rfl (by simp) (fun hslept => ?_) fun hstop => ?_
      · rw [hround (by simp), show sleep (thisRound tr) = 0 from hslept]
        rfl
      · simp [ControlEffect.slice, PollPlace.sleepLeft, PollPlace.stepsLeft, isQuietTick]
    · refine h.goes hplace hplace rfl rfl (by simp) (fun hslept => ?_) fun hstop => ?_
      · rw [hround (by simp), show sleep (thisRound tr) = 0 from hslept]
        rfl
      · simp [ControlEffect.slice, isQuietTick]
  | ended => exact absurd rfl hended

/-- The thread is created, or its end is waited for. -/
theorem Tracks.swaps (h : Tracks pollInterval tr s) {i : ControlInput} {o : ControlEffect}
    (hspawn : i = .spawn ∧ s.thread = none ∨ i = .join ∧ s.thread.isSome = true)
    (hrunning : s.running = true ↔ s.thread = none) :
    Tracks pollInterval (tr ++ [(i, o)])
      { s with thread := if i = .spawn then some .round else none, control := .idle } := by
  rcases hspawn with ⟨rfl, hnone⟩ | ⟨rfl, hsome⟩
  · refine ⟨?_, fun _ => ⟨iff_of_true (hrunning.mpr hnone) rfl, by simp⟩, fun h => (by cases h),
      fun h => (by cases h), fun place hplace => ?_, fun _ _ h => (by cases h)⟩
    · rw [threads_snoc, h.threads, hnone]
      rfl
    · obtain rfl := Option.some.inj hplace
      rw [thisRound_snoc_of_new (.inr rfl)]
      rfl
  · have hfalse : s.running = false := by
      rw [Bool.eq_false_iff]
      intro htrue
      rw [hrunning.mp htrue] at hsome
      cases hsome
    refine ⟨?_, fun _ => ⟨iff_of_false (by simp [hfalse]) (by simp), by simp⟩,
      fun h => (by cases h), fun h => (by cases h), fun _ h => (by cases h),
      fun _ h => (by cases h)⟩
    rw [threads_snoc, h.threads, hsome]
    rfl

/-- The invariant is kept by every step. -/
theorem Tracks.step (h : Tracks pollInterval tr s) {i : ControlInput} (henabled : s.Enabled i) :
    Tracks pollInterval (tr ++ [(i, (s.step pollInterval i).1)]) (s.step pollInterval i).2 := by
  cases i with
  | start =>
    obtain ⟨hrunning, hended⟩ := h.idle henabled
    rw [MonitorControl.step]
    split
    · exact h.stays (.inl rfl) (by simp) (by simp) (by simp) rfl (fun _ => .inl rfl) h.idle
        h.starting h.stopping fun hstop => .inr hstop
    · next hnot =>
      -- Nothing runs, so there is no thread yet.
      have hnone : s.thread = none := by
        rw [← Option.not_isSome_iff_eq_none, ← hrunning]
        exact hnot
      refine h.stays (.inl rfl) (by simp) (by simp) (by simp) rfl (fun hsome => ?_)
        (fun h => (by cases h)) (fun _ => ⟨rfl, hnone⟩) (fun h => (by cases h))
        fun h => (by cases h)
      rw [hnone] at hsome
      cases hsome
  | spawn =>
    obtain ⟨hrunning, hnone⟩ := h.starting henabled
    rw [MonitorControl.step, if_neg (by simp [hnone])]
    exact h.swaps (.inl ⟨rfl, hnone⟩) (iff_of_true hrunning hnone)
  | stop =>
    obtain ⟨hrunning, hended⟩ := h.idle henabled
    rw [MonitorControl.step]
    split
    · exact h.stays (.inl rfl) (by simp) (by simp) (by simp) rfl (fun _ => .inl rfl) h.idle
        h.starting h.stopping fun hstop => .inr hstop
    · next hnot =>
      exact h.stays (.inl rfl) (by simp) (by simp) (by simp) rfl (fun _ => .inr rfl)
        (fun h => (by cases h)) (fun h => (by cases h))
        (fun _ => ⟨rfl, hrunning.mp (not_not.mp hnot)⟩) fun _ => .inl rfl
  | join =>
    obtain ⟨hfalse, hsome⟩ := h.stopping henabled.1
    refine h.swaps (.inr ⟨rfl, hsome⟩) (iff_of_false (by simp [hfalse]) ?_)
    rw [← Option.not_isSome_iff_eq_none, hsome]
    simp
  | tick now =>
    obtain ⟨place, hplace⟩ := Option.ne_none_iff_exists'.mp henabled.1
    have hended : place ≠ .ended := fun heq => henabled.2 (heq ▸ hplace)
    have hstep : s.step pollInterval (.tick now) = s.tick pollInterval now place := by
      rw [MonitorControl.step, hplace]
    rw [hstep]
    exact h.tick hplace hended now
  | act a =>
    refine h.stays ?_ (by simp) (by simp) (by simp) rfl (fun _ => .inl rfl) h.idle h.starting
      h.stopping fun hstop => .inr hstop
    cases hfatal : a.isFatal s.running <;> simp [MonitorControl.step, hfatal]
  | operation i =>
    exact h.stays (.inl rfl) (by simp) (by simp) (by simp) rfl (fun _ => .inl rfl) h.idle
      h.starting h.stopping fun hstop => .inr hstop

/-- The invariant holds in every run. -/
theorem tracks_of_run (hrun : Mealy.Run (step pollInterval) Possible {} tr s) :
    Tracks pollInterval tr s :=
  hrun.historyInvariant tracks_nil fun _ _ _ h hpossible => h.step hpossible.2

/-! ## What the poll thread does to the monitor -/

/-- The devices that a history reported. -/
def reported (tr : ControlTrace) : List StdString :=
  tr.filterMap fun e => match e.2 with | .reported deviceId => some deviceId | _ => none

end MonitorControl

end IotDashboard
