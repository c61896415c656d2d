import IotDashboard.Network.WsServer

/-!
# The chain of writes of a session

`Send` runs on any thread, `DoWrite` and `OnWrite` on those of the I/O context. They share the queue
and the flag, and look at them in sections that lock `m_writeMutex`; between the sections other
threads may run. The functions are cut into parts at these sections, and each part is a step. What
is under way is a list, so nothing in the model keeps two chains from running at a time.

## Main definitions

* `WriteTask`: what is under way, up to its next step;
* `WriteChain.step`: a message is sent, or a task takes its next step;
* `WriteChain.SingleWriter`: one writer at a time, and messages in order.

## Main results

* `WriteChain.inv_of_run`: the flag is set as long as the one task is under way;
* `WriteChain.singleWriter_of_run`: what holds in every run;
* `WriteChain.toSession_send`, `toSession_posted` and `toSession_onWrite`: without other threads
  in between, the parts make up the functions of `WsSession`.
-/

namespace IotDashboard

/-- What is under way. -/
inductive WriteTask where
  /-- A `DoWrite` that is posted. -/
  | posted
  /-- A `DoWrite` before its section. -/
  | doWrite
  /-- A `DoWrite` behind its section, with the message that it took. -/
  | asyncWrite (message : StdString)
  /-- An `async_write` that has not completed. -/
  | write (message : StdString)
  /-- An `OnWrite` without an error, before its section. -/
  | onWrite
deriving DecidableEq

namespace WriteTask

/-- The message that was taken and not handed on. -/
def held : WriteTask → List StdString
  | asyncWrite message => [message]
  | _ => []

def isWrite : WriteTask → Bool
  | write _ => true
  | _ => false

end WriteTask

/-- The members of a session that belong to writing, and what is under way. -/
structure WriteChain where
  queue : List StdString := []
  writing : Bool := false
  tasks : List WriteTask := []
deriving DecidableEq

/-- What can happen. -/
inductive ChainInput where
  /-- `Send`, on any thread. -/
  | send (message : StdString)
  /-- The next part of a task; a write completes without an error. -/
  | advance (task : WriteTask)
  /-- A write completes with an error. -/
  | fail (message : StdString)
deriving DecidableEq

/-- What a step shows. -/
inductive ChainEffect where
  | none
  /-- `async_write` is called. -/
  | handed (message : StdString)
  | failed
deriving DecidableEq

/-- The message that is enqueued. -/
def ChainInput.messages : ChainInput → List StdString
  | send message => [message]
  | _ => []

/-- The message that is handed to `async_write`. -/
def ChainEffect.messages : ChainEffect → List StdString
  | handed message => [message]
  | _ => []

abbrev ChainTrace := List (ChainInput × ChainEffect)

namespace ChainTrace

/-- The messages that `Send` enqueued. -/
def enqueued (tr : ChainTrace) : List StdString := tr.flatMap fun e => e.1.messages

/-- The messages handed to `async_write`. -/
def handed (tr : ChainTrace) : List StdString := tr.flatMap fun e => e.2.messages

/-- A write completed with an error. -/
def Failed (tr : ChainTrace) : Prop := .failed ∈ tr.map Prod.snd

variable {tr : ChainTrace} {e : ChainInput × ChainEffect}

private theorem enqueued_snoc : enqueued (tr ++ [e]) = tr.enqueued ++ e.1.messages := by
  rw [enqueued, List.flatMap_append, List.flatMap_singleton, enqueued]

/-- A step adds the messages that it hands on. -/
theorem handed_snoc : handed (tr ++ [e]) = tr.handed ++ e.2.messages := by
  rw [handed, List.flatMap_append, List.flatMap_singleton, handed]

private theorem failed_snoc : Failed (tr ++ [e]) ↔ tr.Failed ∨ e.2 = .failed := by
  simp [Failed, eq_comm]

end ChainTrace

namespace WriteChain

variable {s : WriteChain} {tr : ChainTrace} {message : StdString}

/-- A task goes on as others, or is done. -/
def become (s : WriteChain) (task : WriteTask) (next : List WriteTask) : WriteChain :=
  { s with tasks := s.tasks.erase task ++ next }

/-- `Send`. -/
def send (s : WriteChain) (message : StdString) : WriteChain :=
  let queued := { s with queue := s.queue ++ [message] }
  if ¬ s.writing then { queued with writing := true, tasks := s.tasks ++ [.posted] } else queued

/-- The next part of a task. -/
def advance (s : WriteChain) : WriteTask → ChainEffect × WriteChain
  | .posted => (.none, s.become .posted [.doWrite])
  | .doWrite =>
    match s.queue with
    | [] => (.none, { s.become .doWrite [] with writing := false })
    | message :: rest => (.none, { s.become .doWrite [.asyncWrite message] with queue := rest })
  | .asyncWrite message => (.handed message, s.become (.asyncWrite message) [.write message])
  | .write message => (.none, s.become (.write message) [.onWrite])
  | .onWrite =>
    if s.queue.isEmpty then (.none, { s.become .onWrite [] with writing := false })
    else (.none, s.become .onWrite [.doWrite])

/-- A step. -/
def step (s : WriteChain) : ChainInput → ChainEffect × WriteChain
  | .send message => (.none, s.send message)
  | .advance task => s.advance task
  | .fail message => (.failed, s.become (.write message) [])

/-- Only what is under way goes on. -/
def Possible (_ : ChainTrace) (s : WriteChain) : ChainInput → Prop
  | .send _ => True
  | .advance task => task ∈ s.tasks
  | .fail message => .write message ∈ s.tasks

instance (i : ChainInput) : Decidable (Possible tr s i) :=
  match i with
  | .send _ => isTrue trivial
  | .advance task => inferInstanceAs (Decidable (task ∈ s.tasks))
  | .fail message => inferInstanceAs (Decidable (.write message ∈ s.tasks))

/-- The messages that were taken and not handed on. -/
def held (s : WriteChain) : List StdString := s.tasks.flatMap WriteTask.held

/-- One writer at a time, and messages in order. -/
structure SingleWriter (tr : ChainTrace) (s : WriteChain) : Prop where
  /-- Until the first error, the flag says that exactly one task is under way. -/
  writing : ¬ tr.Failed → (s.writing = true ↔ s.tasks.length = 1) ∧ s.tasks.length ≤ 1
  outstanding : s.tasks.countP WriteTask.isWrite ≤ 1
  /-- Nothing is dropped or repeated. -/
  messages : tr.handed ++ s.held ++ s.queue = tr.enqueued
  fifo : tr.handed <+: tr.enqueued
  idle : ¬ tr.Failed → s.tasks = [] → s.queue = []

/-! ## The invariant -/

/-- Nothing is under way and the queue is empty; or one task is, and the flag is set; or a write has
failed, and nothing is under way any more. -/
inductive Phase (tr : ChainTrace) (s : WriteChain) : Prop
  | idle : ¬ tr.Failed → s.tasks = [] → s.writing = false → s.queue = [] → Phase tr s
  | busy (task : WriteTask) : ¬ tr.Failed → s.tasks = [task] → s.writing = true → Phase tr s
  | failed : tr.Failed → s.tasks = [] → s.writing = true → Phase tr s

/-- A message that a task holds is handed on in its next part. -/
theorem messages_advance (s : WriteChain) (task : WriteTask) :
    (s.advance task).1.messages = task.held := by
  cases task with
  | posted => rfl
  | doWrite => rw [advance]; split <;> rfl
  | asyncWrite message => rfl
  | write message => rfl
  | onWrite => rw [advance]; split <;> rfl

/-- What the next part of the one task does: it goes on, or it finds the queue empty and is done.
The messages stay in order. -/
theorem advance_spec {task : WriteTask} (htasks : s.tasks = [task]) (hwriting : s.writing = true) :
    (s.advance task).1 ≠ .failed ∧
    (s.advance task).1.messages ++ (s.advance task).2.held ++ (s.advance task).2.queue =
      task.held ++ s.queue ∧
    ((∃ next, (s.advance task).2.tasks = [next] ∧ (s.advance task).2.writing = true) ∨
      (s.advance task).2.tasks = [] ∧ (s.advance task).2.writing = false ∧
        (s.advance task).2.queue = []) := by
  obtain ⟨queue, writing, tasks⟩ := s
  obtain rfl : tasks = [task] := htasks
  obtain rfl : writing = true := hwriting
  cases task with
  | posted => simp [advance, become, held, WriteTask.held, ChainEffect.messages]
  | doWrite =>
    cases queue <;> simp [advance, become, held, WriteTask.held, ChainEffect.messages]
  | asyncWrite message => simp [advance, become, held, WriteTask.held, ChainEffect.messages]
  | write message => simp [advance, become, held, WriteTask.held, ChainEffect.messages]
  | onWrite =>
    cases queue <;> simp [advance, become, held, WriteTask.held, ChainEffect.messages]

/-- The invariant: the phases, and the messages in order. -/
structure Inv (tr : ChainTrace) (s : WriteChain) : Prop where
  phase : Phase tr s
  messages : tr.handed ++ s.held ++ s.queue = tr.enqueued

/-- `Send` keeps the invariant. -/
theorem inv_send (h : Inv tr s) (message : StdString) :
    Inv (tr ++ [(.send message, .none)]) (s.send message) := by
  have hfailed : ChainTrace.Failed (tr ++ [(.send message, .none)]) ↔ tr.Failed := by
    simp [ChainTrace.failed_snoc]
  have hqueue : (s.send message).held = s.held ∧
      (s.send message).queue = s.queue ++ [message] := by
    rw [send]
    split <;> simp [held, WriteTask.held]
  constructor
  · cases h.phase with
    | idle hnever htasks hwriting hempty =>
      refine .busy .posted (hfailed.not.mpr hnever) ?_ ?_ <;> simp [send, hwriting, htasks]
    | busy task hnever htasks hwriting =>
      refine .busy task (hfailed.not.mpr hnever) ?_ ?_ <;> simp [send, hwriting, htasks]
    | failed hfail htasks hwriting =>
      refine .failed (hfailed.mpr hfail) ?_ ?_ <;> simp [send, hwriting, htasks]
  · rw [hqueue.1, hqueue.2, ← List.append_assoc, ChainTrace.handed_snoc, ChainTrace.enqueued_snoc,
      ← h.messages]
    simp [ChainInput.messages, ChainEffect.messages]

/-- A step of a posted task keeps the invariant. -/
theorem inv_advance (h : Inv tr s) {task : WriteTask} (hmem : task ∈ s.tasks) :
    Inv (tr ++ [(.advance task, (s.advance task).1)]) (s.advance task).2 := by
  cases h.phase with
  | idle _ htasks _ _ => simp [htasks] at hmem
  | failed _ htasks _ => simp [htasks] at hmem
  | busy task' hnever htasks hwriting =>
    obtain rfl : task = task' := by simpa [htasks] using hmem
    obtain ⟨hok, hmessages, hnext⟩ := advance_spec htasks hwriting
    have hnever' : ¬ ChainTrace.Failed (tr ++ [(.advance task, (s.advance task).1)]) := by
      simp [ChainTrace.failed_snoc, hnever, hok]
    constructor
    · rcases hnext with ⟨next, htasks', hwriting'⟩ | ⟨htasks', hwriting', hempty⟩
      · exact .busy next hnever' htasks' hwriting'
      · exact .idle hnever' htasks' hwriting' hempty
    · have hheld : s.held = task.held := by simp [held, htasks]
      have horder := h.messages
      rw [hheld, List.append_assoc, ← hmessages] at horder
      rw [ChainTrace.handed_snoc, ChainTrace.enqueued_snoc, ← horder]
      simp [ChainInput.messages]

private theorem inv_fail (h : Inv tr s) (hmem : .write message ∈ s.tasks) :
    Inv (tr ++ [(.fail message, .failed)]) (s.become (.write message) []) := by
  have hfail : ChainTrace.Failed (tr ++ [(.fail message, .failed)]) :=
    ChainTrace.failed_snoc.mpr (.inr rfl)
  cases h.phase with
  | idle _ htasks _ _ => simp [htasks] at hmem
  | failed _ htasks _ => simp [htasks] at hmem
  | busy task _ htasks hwriting =>
    obtain rfl : .write message = task := by simpa [htasks] using hmem
    constructor
    · exact .failed hfail (by simp [become, htasks]) hwriting
    · rw [ChainTrace.handed_snoc, ChainTrace.enqueued_snoc, ← h.messages]
      simp [held, become, htasks, WriteTask.held, ChainInput.messages, ChainEffect.messages]

/-- The invariant holds in every run. -/
theorem inv_of_run (hrun : Mealy.Run step Possible {} tr s) : Inv tr s := by
  refine hrun.historyInvariant ⟨.idle (by simp [ChainTrace.Failed]) rfl rfl rfl, rfl⟩
    fun tr s i h hpossible => ?_
  cases i with
  | send message => exact inv_send h message
  | advance task => exact inv_advance h hpossible
  | fail message => exact inv_fail h hpossible

/-- Messages are handed on in the order in which they were queued. -/
theorem Inv.handed_isPrefix (h : Inv tr s) : tr.handed <+: tr.enqueued := by
  rw [← h.messages, List.append_assoc]
  exact List.prefix_append _ _

/-- For every interleaving: until the first error, the flag is set if and only if exactly one task
is under way; at most one write is outstanding; messages are handed on in the order in which they
were enqueued, none dropped or repeated; and nothing waits while nothing is under way. -/
theorem singleWriter_of_run (hrun : Mealy.Run step Possible {} tr s) : SingleWriter tr s := by
  have hfifo := (inv_of_run hrun).handed_isPrefix
  obtain ⟨hphase, hmessages⟩ := inv_of_run hrun
  cases hphase with
  | idle hnever htasks hwriting hempty =>
    refine ⟨fun _ => ?_, ?_, hmessages, hfifo, fun _ _ => hempty⟩ <;> simp [htasks, hwriting]
  | busy task hnever htasks hwriting =>
    refine ⟨fun _ => ?_, ?_, hmessages, hfifo, fun _ hnone => ?_⟩
    · simp [htasks, hwriting]
    · rw [htasks]
      exact List.countP_le_length
    · simp [htasks] at hnone
  | failed hfail htasks hwriting =>
    refine ⟨fun hnever => absurd hfail hnever, ?_, hmessages, hfifo,
      fun hnever => absurd hfail hnever⟩
    simp [htasks]

/-- Two messages are sent; the second one while the first is being written. -/
def twoMessages : List ChainInput :=
  [.send [1], .advance .posted, .advance .doWrite, .send [2], .advance (.asyncWrite [1]),
    .advance (.write [1]), .advance .onWrite, .advance .doWrite, .advance (.asyncWrite [2])]

/-- Two messages are sent one after the other. -/
theorem singleWriter_of_run_twoMessages :
    let r := Mealy.exec step {} twoMessages
    ChainTrace.handed r.1 = [[1], [2]] ∧ r.2.tasks = [.write [2]] ∧ SingleWriter r.1 r.2 :=
  ⟨by decide, by decide, singleWriter_of_run (Mealy.Run.exec (by decide))⟩

/-! ## The functions as one step each -/

/-- The operations of the session that are started and not completed; the rest is under way inside a
function. -/
def toSession (s : WriteChain) : WsSession where
  writeQueue := s.queue
  writing := s.writing
  outstanding := s.tasks.filterMap fun
    | .posted => some .doWrite
    | .write message => some (.write message)
    | _ => none

/-- `DoWrite` without other threads in between. -/
def doWrite (s : WriteChain) : WriteChain :=
  match s.queue with
  | [] => (s.advance .doWrite).2
  | message :: _ => ((s.advance .doWrite).2.advance (.asyncWrite message)).2

/-- `OnWrite` without other threads in between. -/
def onWrite (s : WriteChain) : WriteChain :=
  if s.queue.isEmpty then (s.advance .onWrite).2 else (s.advance .onWrite).2.doWrite

theorem toSession_send (s : WriteChain) (message : StdString) :
    (s.send message).toSession = s.toSession.send message := by
  rw [send, WsSession.send]
  cases hwriting : s.writing <;> simp [toSession, WsSession.start, hwriting]

private theorem toSession_doWrite (htasks : s.tasks = [.doWrite]) :
    s.doWrite.toSession = s.toSession.doWrite := by
  obtain ⟨queue, writing, tasks⟩ := s
  obtain rfl : tasks = [.doWrite] := htasks
  cases queue <;> simp [doWrite, advance, become, toSession, WsSession.doWrite, WsSession.start]

/-- The posted `DoWrite` is run. -/
theorem toSession_posted (htasks : s.tasks = [.posted]) :
    (s.advance .posted).2.doWrite.toSession = (s.toSession.finish .doWrite).doWrite := by
  obtain ⟨queue, writing, tasks⟩ := s
  obtain rfl : tasks = [.posted] := htasks
  exact toSession_doWrite rfl

/-- `OnWrite` is run for a write that completes. -/
theorem toSession_onWrite (htasks : s.tasks = [.write message]) :
    (s.advance (.write message)).2.onWrite.toSession =
      (s.toSession.finish (.write message)).onWritten := by
  obtain ⟨queue, writing, tasks⟩ := s
  obtain rfl : tasks = [.write message] := htasks
  cases queue with
  | nil => simp [advance, become, onWrite, toSession, WsSession.onWritten, WsSession.finish]
  | cons next rest =>
    have hsession : WsSession.onWritten (WsSession.finish (.write message)
        (toSession ⟨next :: rest, writing, [.write message]⟩)) =
        WsSession.doWrite (toSession ⟨next :: rest, writing, [.doWrite]⟩) := by
      simp [WsSession.onWritten, WsSession.finish, toSession]
    rw [hsession, ← toSession_doWrite rfl]
    simp [advance, become, onWrite]

end WriteChain

end IotDashboard
