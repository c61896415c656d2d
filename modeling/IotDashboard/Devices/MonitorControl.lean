import IotDashboard.Devices.StaleTimeouts
import Mathlib.Algebra.BigOperators.Group.List.Basic

/-!
# The monitor with its thread

`Start` creates the poll thread and `Stop` waits for its end. The thread looks at `m_running` before
each round, before each slice of its sleep and once more before it makes its list, so that `Stop`
does not wait for a whole interval. One thread starts and stops the monitor, as the application
does; all others may use it meanwhile. The callback is called without a `try`: it may return, and it
may throw, or call `Start` or `Stop` itself.

## Main definitions

* `MonitorControl.step`: one step of the thread that starts and stops, of the poll thread, or of
  another one;
* `CallbackAct.isFatal`: what a callback may do that ends the program;
* `ControlTrace.Lifecycle`: what holds in every run.
-/

namespace IotDashboard

open StdString

/-- Where `PollLoop` is. -/
inductive PollPlace where
  /-- Before the test of the outer loop. -/
  | round
  /-- Before the test of the inner loop. -/
  | pause (remaining : ℤ)
  /-- In `sleep_for`. -/
  | asleep (remaining : ℤ)
  /-- Behind the inner loop. -/
  | awake
  /-- Before the locked part. -/
  | reading
  /-- In the loop that calls the callback. -/
  | reporting
  | ended
deriving DecidableEq

/-- Where the thread is that starts and stops the monitor. -/
inductive ControlPlace where
  | idle
  /-- In `Start`, before the thread is created. -/
  | starting
  /-- In `Stop`, before the join. -/
  | stopping
deriving DecidableEq

/-- The monitor with its threads. -/
structure MonitorControl where
  poll : PollThread := {}
  /-- `m_running`. -/
  running : Bool := false
  /-- `m_pollThread`, while it is joinable. -/
  thread : Option PollPlace := none
  control : ControlPlace := .idle

/-- What the callback may do before it returns. -/
inductive CallbackAct where
  | throws
  /-- It calls `Start`. -/
  | start
  /-- It calls `Stop`. -/
  | stop
deriving DecidableEq

/-- The program ends: by an exception that nothing catches, by the creation of a second poll thread,
or by a join of the poll thread with itself, which is such an exception. -/
def CallbackAct.isFatal (running : Bool) : CallbackAct → Bool
  | throws => true
  | start => !running
  | stop => running

/-- A step of one of the threads. -/
inductive ControlInput where
  /-- `Start` up to the creation of the thread. -/
  | start
  /-- The creation of the thread. -/
  | spawn
  /-- `Stop` up to the join. -/
  | stop
  | join
  /-- The next step of the poll thread; the clock may be read. -/
  | tick (now : Timestamp)
  /-- What the callback does that the poll thread is calling. -/
  | act (a : CallbackAct)
  /-- An operation of another thread. -/
  | operation (i : PollInput)
deriving DecidableEq

/-- What a step shows. -/
inductive ControlEffect where
  | none
  /-- Seconds of sleep. -/
  | slept (slice : ℤ)
  /-- The list of silent devices is made. -/
  | collected
  | reported (deviceId : StdString)
  /-- `std::terminate`. -/
  | terminated
deriving DecidableEq

/-- The seconds of sleep in a step. -/
def ControlEffect.slice : ControlEffect → ℤ
  | slept slice => slice
  | _ => 0

abbrev ControlTrace := List (ControlInput × ControlEffect)

namespace MonitorControl

variable (pollInterval : ℤ)

/-- The next step of `PollLoop`. -/
def tick (s : MonitorControl) (now : Timestamp) : PollPlace → ControlEffect × MonitorControl
  | .round =>
    (.none, { s with thread := some (if s.running then .pause pollInterval else .ended) })
  | .pause remaining =>
    if remaining > 0 ∧ s.running then (.none, { s with thread := some (.asleep remaining) })
    else (.none, { s with thread := some .awake })
  | .asleep remaining =>
    let slice := min remaining 1
    (.slept slice, { s with thread := some (.pause (remaining - slice)) })
  | .awake => (.none, { s with thread := some (if s.running then .reading else .ended) })
  | .reading =>
    (.collected, { s with poll := (s.poll.step (.collect now)).2, thread := some .reporting })
  | .reporting =>
    match s.poll.pending with
    | [] => (.none, { s with thread := some .round })
    | deviceId :: _ => (.reported deviceId, { s with poll := (s.poll.step .callback).2 })
  | .ended => (.none, s)

/-- One step. -/
def step (s : MonitorControl) : ControlInput → ControlEffect × MonitorControl
  | .start =>
    if s.running then (.none, s) else (.none, { s with running := true, control := .starting })
  | .spawn =>
    -- Assigning to a thread object that is joinable ends the program.
    if s.thread.isSome then (.terminated, { s with control := .idle })
    else (.none, { s with thread := some .round, control := .idle })
  | .stop =>
    if ¬ s.running then (.none, s) else (.none, { s with running := false, control := .stopping })
  | .join => (.none, { s with thread := none, control := .idle })
  | .tick now =>
    match s.thread with
    | none => (.none, s)
    | some place => s.tick pollInterval now place
  -- A call that is not fatal finds the monitor as it wants it, and returns at once.
  | .act a => (if a.isFatal s.running then .terminated else .none, s)
  | .operation i => (.none, { s with poll := (s.poll.step i).2 })

/-- The threads go on from where they are; the join waits for the end of the poll thread. -/
def Enabled (s : MonitorControl) : ControlInput → Prop
  | .start | .stop => s.control = .idle
  | .spawn => s.control = .starting
  | .join => s.control = .stopping ∧ (s.thread = none ∨ s.thread = some .ended)
  | .tick _ => s.thread ≠ none ∧ s.thread ≠ some .ended
  | .act _ => s.thread = some .reporting ∧ s.poll.pending ≠ []
  | .operation i => i.isCollect = false ∧ i ≠ .callback

instance decidableEnabled (s : MonitorControl) : ∀ i, Decidable (Enabled s i)
  | .start | .stop => inferInstanceAs (Decidable (s.control = .idle))
  | .spawn => inferInstanceAs (Decidable (s.control = .starting))
  | .join => inferInstanceAs (Decidable (_ ∧ _))
  | .tick _ => inferInstanceAs (Decidable (_ ∧ _))
  | .act _ => inferInstanceAs (Decidable (_ ∧ _))
  | .operation _ => inferInstanceAs (Decidable (_ ∧ _))

/-- The program has not ended. -/
def Alive (tr : ControlTrace) : Prop := ∀ e ∈ tr, e.2 ≠ .terminated

instance decidableAlive (tr : ControlTrace) : Decidable (Alive tr) :=
  inferInstanceAs (Decidable (∀ e ∈ tr, e.2 ≠ .terminated))

/-- As long as the program has not ended, the threads go on. -/
def Possible (tr : ControlTrace) (s : MonitorControl) (i : ControlInput) : Prop :=
  Alive tr ∧ s.Enabled i

instance decidablePossible (tr : ControlTrace) (s : MonitorControl) (i : ControlInput) :
    Decidable (Possible tr s i) :=
  inferInstanceAs (Decidable (_ ∧ _))

end MonitorControl

namespace ControlTrace

/-- How many poll threads were created and not joined. -/
def threads (tr : ControlTrace) : ℤ :=
  (tr.countP fun e => e.1 = .spawn : ℕ) - (tr.countP fun e => e.1 = .join : ℕ)

/-- The seconds of sleep in a history. -/
def sleep (tr : ControlTrace) : ℤ :=
  (tr.map fun e => e.2.slice).sum

/-- What happened in this round: since the last list, or since the thread was created. -/
def thisRound (tr : ControlTrace) : ControlTrace :=
  tr.rtakeWhile fun e => e.2 ≠ .collected ∧ e.1 ≠ .spawn

/-- What happened since `Stop` was last called. -/
def sinceStop (tr : ControlTrace) : ControlTrace := tr.rtakeWhile fun e => e.1 ≠ .stop

/-- A step of the poll thread that is not a callback. -/
def isQuietTick : ControlInput × ControlEffect → Bool
  | (.tick _, .reported _) => false
  | (.tick _, _) => true
  | _ => false

/-- What holds in every run. -/
structure Lifecycle (pollInterval : ℤ) (tr : ControlTrace) (s : MonitorControl) : Prop where
  /-- Only the callback can end the program. -/
  safe : ∀ e ∈ tr, e.2 = .terminated → ∃ a, e.1 = .act a
  /-- There is one poll thread, or none. -/
  threads : threads tr = s.thread.isSome.toNat
  /-- Outside `Start` and `Stop` there is one exactly if the monitor is running. -/
  running : s.control = .idle → (s.running = true ↔ s.thread.isSome = true)
  /-- Callbacks are called by it only, so never after `Stop` has returned. -/
  reports : tr.EachAfter fun past e => ∀ deviceId, e.2 = .reported deviceId →
    ControlTrace.threads past = 1
  /-- The thread sleeps for the whole interval before it makes a list. -/
  interval : tr.EachAfter fun past e => e.2 = .collected →
    sleep (thisRound past) = max pollInterval 0
  /-- While `Stop` waits, the thread sleeps for a second at most and takes three steps at most
  besides calling the callback. -/
  prompt : s.control = .stopping →
    sleep (sinceStop tr) ≤ 1 ∧ (sinceStop tr).countP isQuietTick ≤ 3

variable {tr : ControlTrace} {i : ControlInput} {o : ControlEffect}

/-- A step creates a thread, joins one, or neither. -/
theorem threads_snoc : threads (tr ++ [(i, o)]) =
    threads tr + (if i = .spawn then 1 else 0) - if i = .join then 1 else 0 := by
  simp only [threads, List.countP_append, List.countP_singleton, decide_eq_true_eq]
  split <;> split <;> push_cast <;> ring

/-- A step adds its own sleep. -/
theorem sleep_snoc : sleep (tr ++ [(i, o)]) =
    sleep tr + o.slice := by
  simp [sleep]

/-- A round goes on until the next list or thread. -/
theorem thisRound_snoc (ho : o ≠ .collected) (hi : i ≠ .spawn) :
    thisRound (tr ++ [(i, o)]) = thisRound tr ++ [(i, o)] :=
  List.rtakeWhile_concat_pos _ _ _ (by simp [ho, hi])

/-- There a new round begins. -/
theorem thisRound_snoc_of_new (h : o = .collected ∨ i = .spawn) :
    thisRound (tr ++ [(i, o)]) = [] :=
  List.rtakeWhile_concat_neg _ _ _ (by rcases h with rfl | rfl <;> simp)

/-- Every step but a `Stop` comes after the last one. -/
theorem sinceStop_snoc (hi : i ≠ .stop) :
    sinceStop (tr ++ [(i, o)]) = sinceStop tr ++ [(i, o)] :=
  List.rtakeWhile_concat_pos _ _ _ (by simp [hi])

theorem sinceStop_stop : sinceStop (tr ++ [(.stop, o)]) = [] :=
  List.rtakeWhile_concat_neg _ _ _ (by simp)

end ControlTrace

end IotDashboard
