import IotDashboard.Foundation.Ownership
import IotDashboard.Network.WriteChain

/-!
# The storage of a message that is being written

An asynchronous write is given the address of its message and may read it at any time until its
completion handler runs. `DoWrite` has the message in a local variable, which is gone when the
function returns; `HttpSession::SendResponse` has it in an object that the completion handler
shares. The two differ in who owns the storage of a write, and the rest of the machine is the same.
The handlers of a session run on one strand, so `OnWrite` runs some time after `DoWrite` returned.

## Main definitions

* `WriteOwner`: what can own the storage of a write;
* `WriteBuffers.step`: the chain of writes with the storage of the messages;
* `WriteBuffers.Held` and `WriteBuffers.Intact`: the message of a write is held until it is written,
  and it is the one that was sent.

## Main results

* `WriteBuffers.kept_shared`: messages that the handler shares are kept;
* `WriteBuffers.kept_local_iff`: in which runs the messages of `DoWrite` are.
-/

namespace IotDashboard

/-- What can own the storage of a message. -/
inductive WriteOwner where
  /-- The session, as a member. -/
  | member
  /-- The call that started the write, as a local variable. -/
  | call (write : ℕ)
  /-- The completion handler of the write, as a capture. -/
  | handler (write : ℕ)
deriving DecidableEq

/-- The owners when `WsSession::DoWrite` starts a write: `msg` is a local variable. -/
def WriteOwner.ofLocal (write : ℕ) : List WriteOwner := [.call write]

/-- The owners when `HttpSession::SendResponse` starts a write: `spRes` is shared. -/
def WriteOwner.ofShared (write : ℕ) : List WriteOwner := [.call write, .handler write]

/-- The chain of writes, and the storage of the messages that were handed on. A write goes by the
address of its message. -/
structure WriteBuffers where
  chain : WriteChain := {}
  memory : Storage WriteOwner StdString := []
  /-- The writes that have not completed. -/
  outstanding : List ℕ := []

/-- What can happen. -/
inductive BufferInput where
  /-- `Send`. -/
  | send (message : StdString)
  /-- The next part of a task that is not a write. -/
  | advance (task : WriteTask)
  /-- A write completes, and its handler is gone after it has run. -/
  | complete (write : ℕ) (succeeded : Bool)
  /-- The call that started a write returns. -/
  | ret (write : ℕ)
deriving DecidableEq

def BufferInput.isReturn : BufferInput → Bool
  | ret _ => true
  | _ => false

abbrev BufferTrace := List (BufferInput × Option (ChainInput × ChainEffect))

/-- What a run shows of the chain. -/
def BufferTrace.chain (tr : BufferTrace) : ChainTrace := tr.filterMap Prod.snd

private theorem BufferTrace.chain_snoc {tr : BufferTrace} (i : BufferInput)
    (o : Option (ChainInput × ChainEffect)) :
    BufferTrace.chain (tr ++ [(i, o)]) = tr.chain ++ o.toList := by
  rw [chain, List.filterMap_append, chain]
  cases o <;> rfl

namespace WriteBuffers

variable {owners : ℕ → List WriteOwner} {s : WriteBuffers} {tr : BufferTrace}

/-- The message of a write. -/
def message (s : WriteBuffers) (write : ℕ) : StdString := (s.memory.content write).getD []

/-- What the completion of a write is to the chain. -/
def completion (s : WriteBuffers) (write : ℕ) (succeeded : Bool) : ChainInput :=
  if succeeded then .advance (.write (s.message write)) else .fail (s.message write)

/-- `async_write` is called. -/
def start (owners : ℕ → List WriteOwner) (message : StdString) (s : WriteBuffers) : WriteBuffers :=
  { s with
    memory := s.memory.allocate message (owners s.memory.length)
    outstanding := s.outstanding ++ [s.memory.length] }

/-- A step. -/
def step (owners : ℕ → List WriteOwner) (s : WriteBuffers) :
    BufferInput → Option (ChainInput × ChainEffect) × WriteBuffers
  | .send message =>
    let r := s.chain.step (.send message)
    (some (.send message, r.1), { s with chain := r.2 })
  | .advance task =>
    let r := s.chain.step (.advance task)
    let s' := { s with chain := r.2 }
    (some (.advance task, r.1), match task with
      | .asyncWrite message => s'.start owners message
      | _ => s')
  | .complete write succeeded =>
    let r := s.chain.step (s.completion write succeeded)
    (some (s.completion write succeeded, r.1), {
      chain := r.2
      memory := s.memory.release (.handler write)
      outstanding := s.outstanding.erase write })
  | .ret write => (none, { s with memory := s.memory.release (.call write) })

/-- Only what is under way goes on. -/
def Possible (_ : BufferTrace) (s : WriteBuffers) : BufferInput → Prop
  | .send _ => True
  | .advance task => task ∈ s.chain.tasks ∧ task.isWrite = false
  -- The strand runs one handler at a time, so the call that started the write has returned.
  | .complete write _ => write ∈ s.outstanding ∧ .call write ∉ s.memory.owners write
  | .ret write => .call write ∈ s.memory.owners write

instance (i : BufferInput) : Decidable (Possible tr s i) :=
  match i with
  | .send _ => isTrue trivial
  | .advance task => inferInstanceAs (Decidable (task ∈ s.chain.tasks ∧ task.isWrite = false))
  | .complete write _ =>
    inferInstanceAs (Decidable (write ∈ s.outstanding ∧ .call write ∉ s.memory.owners write))
  | .ret write => inferInstanceAs (Decidable (.call write ∈ s.memory.owners write))

/-- The messages that are being written are held by a member or by the pending handlers. -/
def Held (s : WriteBuffers) : Prop :=
  ∀ write ∈ s.outstanding,
    .member ∈ s.memory.owners write ∨ .handler write ∈ s.memory.owners write

/-- What is read for the `n`-th write is the `n`-th message that was sent. -/
def Intact (tr : BufferTrace) (s : WriteBuffers) : Prop :=
  ∀ write ∈ s.outstanding, ∃ message, s.memory.read write = some message ∧
    tr.chain.enqueued[write]? = some message

/-! ## The invariant -/

/-- The chain makes a run of its own, the storage holds what was handed on, and at most one write is
outstanding, the one of the chain. -/
structure Inv (tr : BufferTrace) (s : WriteBuffers) : Prop where
  chain : Mealy.Run WriteChain.step WriteChain.Possible {} tr.chain s.chain
  contents : s.memory.map Cell.content = tr.chain.handed
  link : s.outstanding = [] ∧ s.chain.tasks.all (fun task => !task.isWrite) = true ∨
    ∃ write message, s.outstanding = [write] ∧ s.memory.content write = some message ∧
      s.chain.tasks = [.write message]

/-- A task that is not a write is the only one, and no write is outstanding. -/
theorem Inv.of_task (h : Inv tr s) {task : WriteTask} (hmem : task ∈ s.chain.tasks)
    (hwrite : task.isWrite = false) :
    s.chain.tasks = [task] ∧ s.chain.writing = true ∧ s.outstanding = [] := by
  have houtstanding : s.outstanding = [] := by
    rcases h.link with ⟨hnone, -⟩ | ⟨_, message, -, -, htasks⟩
    · exact hnone
    · rw [htasks, List.mem_singleton] at hmem
      rw [hmem] at hwrite
      cases hwrite
  cases (WriteChain.inv_of_run h.chain).phase with
  | idle _ htasks _ _ => simp [htasks] at hmem
  | failed _ htasks _ => simp [htasks] at hmem
  | busy task' _ htasks hwriting =>
    obtain rfl : task = task' := by simpa [htasks] using hmem
    exact ⟨htasks, hwriting, houtstanding⟩

private theorem Inv.of_outstanding (h : Inv tr s) {write : ℕ} (hmem : write ∈ s.outstanding) :
    s.outstanding = [write] ∧ s.chain.tasks = [.write (s.message write)] := by
  rcases h.link with ⟨hnone, -⟩ | ⟨write', message, hone, hcontent, htasks⟩
  · simp [hnone] at hmem
  · obtain rfl : write = write' := by simpa [hone] using hmem
    rw [WriteBuffers.message, hcontent]
    exact ⟨hone, htasks⟩

/-- The message of an outstanding write was handed on in its turn, so it was sent in its turn. -/
theorem Inv.content_eq (h : Inv tr s) (write : ℕ) :
    s.memory.content write = tr.chain.handed[write]? := by
  rw [Storage.content, ← h.contents, List.getElem?_map]

/-- `Send` keeps the invariant. -/
theorem inv_send (h : Inv tr s) (message : StdString) :
    Inv (tr ++ [(.send message, (step owners s (.send message)).1)])
      (step owners s (.send message)).2 := by
  refine ⟨?_, ?_, ?_⟩
  · rw [BufferTrace.chain_snoc]
    exact h.chain.snoc (ChainInput.send message) trivial
  · rw [BufferTrace.chain_snoc]
    refine h.contents.trans ?_
    simp [step, ChainTrace.handed_snoc, WriteChain.step, ChainEffect.messages]
  · rcases h.link with ⟨hnone, hwrites⟩ | ⟨write, message', hone, hcontent, htasks⟩
    · refine .inl ⟨hnone, ?_⟩
      simp only [step, WriteChain.step, WriteChain.send]
      split
      · simpa [WriteTask.isWrite] using hwrites
      · exact hwrites
    · -- The flag is set, so nothing is posted.
      refine .inr ⟨write, message', hone, hcontent, ?_⟩
      have hwriting : s.chain.writing = true := by
        cases (WriteChain.inv_of_run h.chain).phase with
        | idle _ hempty _ _ => simp [htasks] at hempty
        | failed _ _ hwriting => exact hwriting
        | busy _ _ _ hwriting => exact hwriting
      simp [step, WriteChain.step, WriteChain.send, hwriting, htasks]

/-- A step of a posted task keeps the invariant. -/
theorem inv_advance (h : Inv tr s) {task : WriteTask} (hmem : task ∈ s.chain.tasks)
    (hwrite : task.isWrite = false) :
    Inv (tr ++ [(.advance task, (step owners s (.advance task)).1)])
      (step owners s (.advance task)).2 := by
  obtain ⟨htasks, hwriting, hnone⟩ := h.of_task hmem hwrite
  have hchain := h.chain.snoc (ChainInput.advance task) hmem
  refine ⟨?_, ?_, ?_⟩
  · rw [BufferTrace.chain_snoc]
    cases task <;> exact hchain
  · rw [BufferTrace.chain_snoc]
    -- The task hands its message to the socket.
    have hhanded : (ChainTrace.handed (tr.chain ++ [(.advance task, (s.chain.advance task).1)])) =
        tr.chain.handed ++ task.held := by
      rw [ChainTrace.handed_snoc, WriteChain.messages_advance]
    refine Eq.trans ?_ hhanded.symm
    cases task <;> simp [step, start, Storage.allocate, WriteTask.held, h.contents]
  · -- Only a task that starts a write has a buffer for it.
    cases task with
    | asyncWrite message =>
      refine .inr ⟨s.memory.length, message, ?_, ?_, ?_⟩
      · simp [step, start, hnone]
      · simp [step, start]
      · simp [step, start, WriteChain.step, WriteChain.advance, WriteChain.become, htasks]
    | write message => cases hwrite
    | posted =>
      refine .inl ⟨hnone, ?_⟩
      simp [step, WriteChain.step, WriteChain.advance, WriteChain.become, htasks,
        WriteTask.isWrite]
    | doWrite =>
      refine .inl ⟨hnone, ?_⟩
      cases hqueue : s.chain.queue <;>
        simp [step, WriteChain.step, WriteChain.advance, WriteChain.become, htasks, hqueue,
          WriteTask.isWrite]
    | onWrite =>
      refine .inl ⟨hnone, ?_⟩
      cases hqueue : s.chain.queue <;>
        simp [step, WriteChain.step, WriteChain.advance, WriteChain.become, htasks, hqueue,
          WriteTask.isWrite]

private theorem inv_complete (h : Inv tr s) {write : ℕ} (hmem : write ∈ s.outstanding)
    (succeeded : Bool) :
    Inv (tr ++ [(.complete write succeeded, (step owners s (.complete write succeeded)).1)])
      (step owners s (.complete write succeeded)).2 := by
  obtain ⟨hone, htasks⟩ := h.of_outstanding hmem
  have hpossible : WriteChain.Possible tr.chain s.chain (s.completion write succeeded) := by
    cases succeeded <;> simp [completion, WriteChain.Possible, htasks]
  have hchain := h.chain.snoc _ hpossible
  refine ⟨?_, ?_, .inl ⟨?_, ?_⟩⟩
  · rw [BufferTrace.chain_snoc]
    exact hchain
  · rw [BufferTrace.chain_snoc]
    refine Storage.map_content_release.trans (h.contents.trans ?_)
    cases succeeded <;>
      simp [step, completion, ChainTrace.handed_snoc, WriteChain.step, WriteChain.advance,
        ChainEffect.messages]
  · simp [step, hone]
  · cases succeeded <;>
      simp [step, completion, WriteChain.step, WriteChain.advance, WriteChain.become, htasks,
        WriteTask.isWrite]

private theorem inv_ret (h : Inv tr s) (write : ℕ) :
    Inv (tr ++ [(.ret write, (step owners s (.ret write)).1)]) (step owners s (.ret write)).2 := by
  refine ⟨?_, ?_, ?_⟩
  · rw [BufferTrace.chain_snoc]
    simpa [step] using h.chain
  · rw [BufferTrace.chain_snoc]
    simpa [step] using h.contents
  · refine h.link.imp_right fun hlink => ?_
    obtain ⟨write', message, hone, hcontent, htasks⟩ := hlink
    exact ⟨write', message, hone, by simpa [step] using hcontent, htasks⟩

/-- The invariant holds in every run. -/
theorem inv_of_run (hrun : Mealy.Run (step owners) Possible {} tr s) : Inv tr s := by
  refine hrun.historyInvariant ⟨.nil, rfl, .inl ⟨rfl, rfl⟩⟩ fun tr s i h hpossible => ?_
  cases i with
  | send message => exact inv_send h message
  | advance task => exact inv_advance h hpossible.1 hpossible.2
  | complete write succeeded => exact inv_complete h hpossible.1 succeeded
  | ret write => exact inv_ret h write

/-! ## What is kept -/

/-- A message is the one that was sent as long as it exists. -/
theorem intact_iff (h : Inv tr s) :
    Intact tr s ↔ ∀ write ∈ s.outstanding, s.memory.owners write ≠ [] := by
  refine forall₂_congr fun write hmem => ?_
  obtain ⟨hone, -⟩ := h.of_outstanding hmem
  have hcontent : s.memory.content write = some (s.message write) := by
    rcases h.link with ⟨hnone, -⟩ | ⟨write', message, hone', hcontent, -⟩
    · simp [hnone] at hmem
    · obtain rfl : write = write' := by simpa [hone'] using hmem
      rw [WriteBuffers.message, hcontent, Option.getD_some]
  -- The messages that were handed on begin those that were sent.
  have hsent : tr.chain.enqueued[write]? = some (s.message write) := by
    obtain ⟨rest, hrest⟩ := (WriteChain.inv_of_run h.chain).handed_isPrefix
    rw [h.content_eq] at hcontent
    rw [← hrest, List.getElem?_append_left (List.getElem?_eq_some_iff.mp hcontent).1, hcontent]
  constructor
  · rintro ⟨message, hread, -⟩
    exact (Storage.read_eq_some_iff.mp hread).2
  · exact fun howned => ⟨_, Storage.read_eq_some_iff.mpr ⟨hcontent, howned⟩, hsent⟩

/-- What a step does to the writes and to the storage of the one that is outstanding after it. -/
theorem outstanding_step (owners : ℕ → List WriteOwner) (h : Inv tr s) {i : BufferInput}
    (hpossible : Possible tr s i) :
    (∃ message, i = .advance (.asyncWrite message) ∧
      (step owners s i).2.outstanding = [s.memory.length] ∧
      (step owners s i).2.memory.owners s.memory.length = owners s.memory.length) ∨
    (step owners s i).2.outstanding = [] ∨
    (step owners s i).2.outstanding = s.outstanding ∧ ((step owners s i).2.memory = s.memory ∨
      ∃ write, i = .ret write ∧ (step owners s i).2.memory = s.memory.release (.call write)) := by
  cases i with
  | send message => exact .inr (.inr ⟨rfl, .inl rfl⟩)
  | advance task =>
    obtain ⟨-, -, hnone⟩ := h.of_task hpossible.1 hpossible.2
    cases task with
    | asyncWrite message =>
      exact .inl ⟨message, rfl, by simp [step, start, hnone], by simp [step, start]⟩
    | posted => exact .inr (.inl hnone)
    | doWrite => exact .inr (.inl hnone)
    | write message => exact .inr (.inl hnone)
    | onWrite => exact .inr (.inl hnone)
  | complete write succeeded =>
    obtain ⟨hone, -⟩ := h.of_outstanding hpossible.1
    exact .inr (.inl (by simp [step, hone]))
  | ret write => exact .inr (.inr ⟨rfl, .inr ⟨write, rfl, rfl⟩⟩)

/-- An outstanding write has no owner but those that it was given, and of these it keeps all but the
calls. -/
theorem owners_outstanding (hrun : Mealy.Run (step owners) Possible {} tr s) {write : ℕ}
    (hmem : write ∈ s.outstanding) (o : WriteOwner) :
    (o ∈ s.memory.owners write → o ∈ owners write) ∧
      (o ∈ owners write → (∀ write', o ≠ .call write') → o ∈ s.memory.owners write) := by
  induction hrun with
  | nil => exact absurd hmem List.not_mem_nil
  | @snoc tr s i hrun hpossible ih =>
    rcases outstanding_step owners (inv_of_run hrun) hpossible with
      ⟨_, -, hone, howners⟩ | hnone | ⟨hsame, hmemory | ⟨write', -, hmemory⟩⟩
    · obtain rfl : write = s.memory.length := by simpa [hone] using hmem
      rw [howners]
      exact ⟨id, fun h _ => h⟩
    · simp [hnone] at hmem
    · rw [hmemory]
      exact ih (hsame ▸ hmem)
    · obtain ⟨hgiven, hkept⟩ := ih (hsame ▸ hmem)
      rw [hmemory, Storage.owners_release, List.mem_filter]
      refine ⟨fun h => hgiven h.1, fun h hcall => ⟨hkept h hcall, ?_⟩⟩
      simpa using hcall write'

/-- The handler of an outstanding write owns its message, if it was given it. -/
theorem handler_mem_owners (hrun : Mealy.Run (step WriteOwner.ofShared) Possible {} tr s) :
    ∀ write ∈ s.outstanding, .handler write ∈ s.memory.owners write := by
  intro write hmem
  have hgiven : .handler write ∈ WriteOwner.ofShared write :=
    List.mem_cons_of_mem _ (List.mem_singleton_self _)
  exact (owners_outstanding hrun hmem _).2 hgiven fun _ h => by cases h

/-- A message that the completion handler shares is held, and is the one that was sent, as long as
it is being written. -/
theorem kept_shared (hrun : Mealy.Run (step WriteOwner.ofShared) Possible {} tr s) :
    Held s ∧ Intact tr s := by
  have hhandler := handler_mem_owners hrun
  refine ⟨fun write hmem => .inr (hhandler write hmem), ?_⟩
  rw [intact_iff (inv_of_run hrun)]
  exact fun write hmem => List.ne_nil_of_mem (hhandler write hmem)

/-- A local variable has no owner but its call. -/
theorem eq_call_of_mem_owners (hrun : Mealy.Run (step WriteOwner.ofLocal) Possible {} tr s) :
    ∀ write ∈ s.outstanding, ∀ o ∈ s.memory.owners write, o = .call write :=
  fun _ hmem o howner => List.mem_singleton.mp ((owners_outstanding hrun hmem o).1 howner)

/-- A write is outstanding at least until the call that started it returns. -/
theorem mem_outstanding_of_call (hrun : Mealy.Run (step WriteOwner.ofLocal) Possible {} tr s)
    {write : ℕ} (h : .call write ∈ s.memory.owners write) : write ∈ s.outstanding := by
  induction hrun with
  | nil => exact absurd h List.not_mem_nil
  | @snoc tr s i hrun hpossible ih =>
    cases i with
    | send message => exact ih h
    | advance task =>
      cases task with
      | asyncWrite message =>
        simp only [step, start, Storage.owners_allocate] at h ⊢
        split at h
        · next hnew => exact List.mem_append_right _ (List.mem_singleton.mpr hnew)
        · exact List.mem_append_left _ (ih h)
      | posted => exact ih h
      | doWrite => exact ih h
      | write message => exact ih h
      | onWrite => exact ih h
    | complete write' succeeded =>
      simp only [step, Storage.owners_release] at h ⊢
      have howner := (List.mem_filter.mp h).1
      have hne : write ≠ write' := fun heq => hpossible.2 (heq ▸ howner)
      exact (List.mem_erase_of_ne hne).mpr (ih howner)
    | ret write' =>
      simp only [step, Storage.owners_release] at h ⊢
      exact ih (List.mem_filter.mp h).1

/-- A message in a local variable is never held while it is being written. -/
theorem held_local_iff (hrun : Mealy.Run (step WriteOwner.ofLocal) Possible {} tr s) :
    Held s ↔ s.outstanding = [] := by
  have howner := eq_call_of_mem_owners hrun
  constructor
  · intro hheld
    refine List.eq_nil_iff_forall_not_mem.mpr fun write hmem => ?_
    rcases hheld write hmem with hmember | hhandler
    · cases howner write hmem _ hmember
    · cases howner write hmem _ hhandler
  · intro hnone write hmem
    simp [hnone] at hmem

/-- A write that is started is not held. -/
theorem held_step_local_iff (hrun : Mealy.Run (step WriteOwner.ofLocal) Possible {} tr s)
    {i : BufferInput} (hpossible : Possible tr s i) (hheld : Held s) :
    Held (step WriteOwner.ofLocal s i).2 ↔ ∀ message, i ≠ .advance (.asyncWrite message) := by
  rw [held_local_iff (hrun.snoc i hpossible)]
  rw [held_local_iff hrun] at hheld
  rcases outstanding_step WriteOwner.ofLocal (inv_of_run hrun) hpossible with
    ⟨message, rfl, hone, -⟩ | hnone | ⟨hsame, -⟩
  · exact iff_of_false (by simp [hone]) fun h => h message rfl
  · refine iff_of_true hnone ?_
    rintro message rfl
    simp [step, start] at hnone
  · refine iff_of_true (hsame.trans hheld) ?_
    rintro message rfl
    simp [step, start] at hsame

/-- A message stays intact until the call that started its write returns. -/
theorem intact_step_local_iff (hrun : Mealy.Run (step WriteOwner.ofLocal) Possible {} tr s)
    {i : BufferInput} (hpossible : Possible tr s i) (hintact : Intact tr s) :
    Intact (tr ++ [(i, (step WriteOwner.ofLocal s i).1)]) (step WriteOwner.ofLocal s i).2 ↔
      i.isReturn = false := by
  rw [intact_iff (inv_of_run (hrun.snoc i hpossible))]
  rw [intact_iff (inv_of_run hrun)] at hintact
  cases i with
  | ret write =>
    refine iff_of_false (fun hkept => ?_) Bool.false_ne_true.symm
    have hmem : write ∈ s.outstanding := mem_outstanding_of_call hrun hpossible
    refine hkept write hmem ?_
    -- The call was the only owner.
    rw [step, Storage.owners_release, List.filter_eq_nil_iff]
    intro o ho
    simp [eq_call_of_mem_owners hrun write hmem o ho]
  | send message => exact iff_of_true hintact rfl
  | advance task =>
    refine iff_of_true (fun write hmem => ?_) rfl
    rcases outstanding_step WriteOwner.ofLocal (inv_of_run hrun) hpossible with
      ⟨message, -, hone, howners⟩ | hnone | ⟨hsame, hmemory | ⟨write', h, -⟩⟩
    · obtain rfl : write = s.memory.length := by simpa [hone] using hmem
      rw [howners]
      exact List.cons_ne_nil _ _
    · simp [hnone] at hmem
    · rw [hmemory]
      exact hintact write (hsame ▸ hmem)
    · cases h
  | complete write' succeeded =>
    refine iff_of_true (fun write hmem => ?_) rfl
    obtain ⟨hone, -⟩ := (inv_of_run hrun).of_outstanding hpossible.1
    simp [step, hone] at hmem

/-- For every run of a session: the messages that are being written are held by a member or a
pending handler, and are those that were sent, in every state exactly if no write is started; and
they are those that were sent exactly if no call of `DoWrite` that started a write returns. -/
theorem kept_local_iff (hrun : Mealy.Run (step WriteOwner.ofLocal) Possible {} tr s) :
    (Mealy.Throughout (step WriteOwner.ofLocal) Possible {} (fun tr s => Held s ∧ Intact tr s) tr ↔
      tr.EachAfter fun _ entry => ∀ message, entry.1 ≠ .advance (.asyncWrite message)) ∧
    (Mealy.Throughout (step WriteOwner.ofLocal) Possible {} Intact tr ↔
      tr.EachAfter fun _ entry => entry.1.isReturn = false) := by
  constructor
  · refine hrun.throughout_iff_history (P := fun tr s => Held s ∧ Intact tr s)
      (C := fun _ i => ∀ message, i ≠ .advance (.asyncWrite message))
      ⟨fun _ h => absurd h List.not_mem_nil, fun _ h => absurd h List.not_mem_nil⟩ ?_
    intro tr s i hrun hpossible hkept
    refine Iff.trans ?_ (held_step_local_iff hrun hpossible hkept.1)
    -- Without an outstanding write there is nothing that has to be intact.
    refine and_iff_left_of_imp fun hheld write hmem => ?_
    rw [held_local_iff (hrun.snoc i hpossible)] at hheld
    exact absurd hmem (hheld ▸ List.not_mem_nil)
  · exact hrun.throughout_iff_history (C := fun _ i => i.isReturn = false)
      (fun _ h => absurd h List.not_mem_nil) fun tr s i hrun hpossible hintact =>
        intact_step_local_iff hrun hpossible hintact

/-- A message is sent, and its write is started. -/
def writeStarted : List BufferInput :=
  [.send [1], .advance .posted, .advance .doWrite, .advance (.asyncWrite [1])]

/-- As long as `DoWrite` runs, the message is there. -/
theorem kept_local_iff_writeStarted :
    let r := Mealy.exec (step WriteOwner.ofLocal) {} writeStarted
    Mealy.Run (step WriteOwner.ofLocal) Possible {} r.1 r.2 ∧ r.2.outstanding = [0] ∧
      Mealy.Throughout (step WriteOwner.ofLocal) Possible {} Intact r.1 := by
  have hspared : Mealy.Run (step WriteOwner.ofLocal)
      (fun tr s i => Possible tr s i ∧ i.isReturn = false) {}
      (Mealy.exec (step WriteOwner.ofLocal) {} writeStarted).1
      (Mealy.exec (step WriteOwner.ofLocal) {} writeStarted).2 :=
    Mealy.Run.exec (by decide)
  have hrun : Mealy.Run (step WriteOwner.ofLocal) Possible {} _ _ := hspared.imp fun _ _ _ h => h.1
  refine ⟨hrun, by decide, (kept_local_iff hrun).2.mpr ?_⟩
  intro past entry future htr
  obtain ⟨_, -, hguard, -⟩ := hspared.guard_of_append htr
  exact hguard.2

/-- `DoWrite` returns while the message is being written. -/
theorem not_kept_returned :
    let r := Mealy.exec (step WriteOwner.ofLocal) {} (writeStarted ++ [.ret 0])
    Mealy.Run (step WriteOwner.ofLocal) Possible {} r.1 r.2 ∧ r.2.outstanding = [0] ∧
      ¬ Held r.2 ∧ r.2.memory.read 0 = none := by
  refine ⟨Mealy.Run.exec (by decide), by decide, fun hheld => ?_, by decide⟩
  exact absurd (hheld 0 (by decide)) (by decide)

end WriteBuffers

end IotDashboard
