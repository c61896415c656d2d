import IotDashboard.Automation.RuleMap

/-!
# Switching a rule while another thread changes it

`EnableRule` and `DisableRule` read the rule, change the flag and write the rule back, and hold
the mutex of the repository for each of the two calls only. What another thread writes in between
is overwritten.

Every call concerns the entry of one rule, so the race is first followed on that entry
(`EntryRace`) and then carried over to the store.

## Main results

* `toggle_serializable_iff`: an interleaving has the outcome of a sequential order exactly when
  no write of the rival falls between the read and the write-back of a rule it changed.
-/

namespace IotDashboard

open Program

/-- `EnableRule` or `DisableRule`. -/
def EngineOp.toggle (enabled : Bool) (ruleId : StdString) : EngineOp :=
  if enabled then .enableRule ruleId else .disableRule ruleId

/-- What the other thread does to the same rule. -/
inductive Rival where
  /-- `UpdateRule` -/
  | update (rule : AutomationRule)
  /-- `RemoveRule` followed by `AddRule` -/
  | replace (rule : AutomationRule)
  /-- `DisableRule` against `EnableRule`, or the other way round -/
  | opposite (ruleId : StdString)

/-- The rule that both threads change. -/
def Rival.ruleId : Rival → StdString
  | update rule | replace rule => rule.id
  | opposite ruleId => ruleId

/-- The operations of the other thread, in order. -/
def Rival.ops (enabled : Bool) : Rival → List EngineOp
  | update rule => [.updateRule rule]
  | replace rule => [.removeRule rule.id, .addRule rule]
  | opposite ruleId => [.toggle (!enabled) ruleId]

/-- The calls of several operations, one after the other. -/
def EngineOp.callsAll : List EngineOp → RuleProgram (List (Result Unit))
  | [] => .ret []
  | op :: ops => do
    let result ← op.calls
    let results ← callsAll ops
    return result :: results

/-- Whole operations, one after the other. -/
def EngineOp.applyAll : List EngineOp → RuleRepository → List (Result Unit) × RuleRepository
  | [], r => ([], r)
  | op :: ops, r =>
    ((op.apply r).1 :: (applyAll ops (op.apply r).2).1, (applyAll ops (op.apply r).2).2)

/-- The switching operation on the left, the operations of the rival on the right. -/
abbrev RuleThreads (σ : Type) : Type :=
  Threads Empty RuleCall.Reply (Result Unit) (List (Result Unit)) σ

/-- Both threads before their first call. -/
def race {σ : Type} (enabled : Bool) (rival : Rival) (r : σ) : RuleThreads σ :=
  ⟨(EngineOp.toggle enabled rival.ruleId).calls, EngineOp.callsAll (rival.ops enabled), r⟩

namespace RuleRepository

/-- Two stores hold the same rules under the same ids. -/
def SameRules (r r' : RuleRepository) : Prop :=
  ∀ ruleId, r.rules.lookup ruleId = r'.rules.lookup ruleId

/-- Every rule is filed under its own id. -/
def Filed (r : RuleRepository) : Prop :=
  ∀ ruleId rule, r.rules.lookup ruleId = some rule → rule.id = ruleId

end RuleRepository

/-- The results and the store are those of some sequential order: the switching operation comes
somewhere among the operations of the rival. -/
def Serializable (enabled : Bool) (rival : Rival) (r : RuleRepository)
    (c : RuleThreads RuleRepository) : Prop :=
  ∃ before after, rival.ops enabled = before ++ after ∧
    let r₁ := EngineOp.applyAll before r
    let r₂ := (EngineOp.toggle enabled rival.ruleId).apply r₁.2
    let r₃ := EngineOp.applyAll after r₂.2
    c.left.outcome? = some (.ok r₂.1) ∧ c.right.outcome? = some (.ok (r₁.1 ++ r₃.1)) ∧
      RuleRepository.SameRules c.shared r₃.2

/-- The rival's writes all fall between the read and the write-back of a stored rule, and the
rule written back is not the rival's with the flag changed. -/
def LosesUpdate (enabled : Bool) (rival : Rival) (old : Option AutomationRule)
    (schedule : List Turn) : Prop :=
  match rival with
  | .update rule => [.left, .right] <+: schedule ∧
      ∃ found ∈ old, { found with enabled } ≠ { rule with enabled }
  | .replace rule => [.left, .right, .right] <+: schedule ∧
      ∃ found ∈ old, { found with enabled } ≠ { rule with enabled }
  | .opposite _ => False

/-! ## The entry of one rule -/

/-- What a call does to the entry of the rule it is about. -/
def RuleCall.onEntry : (call : RuleCall) → Option AutomationRule →
    call.Reply × Option AutomationRule
  | .add _, some old => (.error .invalidInput, some old)
  | .add rule, none => (.ok (), some rule)
  | .update _, none => (.error .dataNotFound, none)
  | .update rule, some _ => (.ok (), some rule)
  | .remove _, none => (.error .dataNotFound, none)
  | .remove _, some _ => (.ok (), none)
  | .getById _, none => (.error .dataNotFound, none)
  | .getById _, some old => (.ok old, some old)

/-- The calls on a single entry. -/
def RuleCall.handleEntry : Handler Empty RuleCall.Reply (Option AutomationRule) := fun call x =>
  (.ok (call.onEntry x).1, (call.onEntry x).2)

/-- The id a call is about. -/
def RuleCall.target : RuleCall → StdString
  | .add rule | .update rule => rule.id
  | .remove ruleId | .getById ruleId => ruleId

/-- The reply to a read of a rule filed under its own id. -/
def RuleCall.ReplyFiled : (call : RuleCall) → call.Reply → Prop
  | .getById ruleId, .ok rule => rule.id = ruleId
  | _, _ => True

/-- What a schedule does to the threads on the entry alone. -/
abbrev execEntry (c : RuleThreads (Option AutomationRule)) (schedule : List Turn) :
    RuleThreads (Option AutomationRule) :=
  c.exec RuleCall.handleEntry RuleCall.handleEntry schedule

/-- Whole operations on the entry, one after the other. -/
def EngineOp.onEntryAll : List EngineOp → Option AutomationRule →
    List (Result Unit) × Option AutomationRule
  | [], x => ([], x)
  | op :: ops, x =>
    ((op.onEntry x).1 :: (onEntryAll ops (op.onEntry x).2).1, (onEntryAll ops (op.onEntry x).2).2)

/-- The results and the entry are those of some sequential order. -/
def EntrySerializable (enabled : Bool) (rival : Rival) (x : Option AutomationRule)
    (c : RuleThreads (Option AutomationRule)) : Prop :=
  ∃ before after, rival.ops enabled = before ++ after ∧
    let r₁ := EngineOp.onEntryAll before x
    let r₂ := (EngineOp.toggle enabled rival.ruleId).onEntry r₁.2
    let r₃ := EngineOp.onEntryAll after r₂.2
    c.left.outcome? = some (.ok r₂.1) ∧ c.right.outcome? = some (.ok (r₁.1 ++ r₃.1)) ∧
      c.shared = r₃.2

private theorem EngineOp.target_toggle (enabled : Bool) (ruleId : StdString) :
    (toggle enabled ruleId).target = ruleId := by
  cases enabled <;> rfl

private theorem Rival.target_of_mem {enabled : Bool} {rival : Rival} {op : EngineOp}
    (h : op ∈ rival.ops enabled) : op.target = rival.ruleId := by
  cases rival with
  | update rule =>
    obtain rfl := List.mem_singleton.mp h
    rfl
  | replace rule =>
    rcases List.mem_cons.mp h with rfl | h
    · rfl
    · obtain rfl := List.mem_singleton.mp h
      rfl
  | opposite ruleId =>
    obtain rfl := List.mem_singleton.mp h
    exact EngineOp.target_toggle _ _

/-- Made without interruption, the calls of an operation do to the entry what the operation
does. -/
theorem EngineOp.run_calls_entry (op : EngineOp) (x : Option AutomationRule) :
    (op.calls.run RuleCall.handleEntry).run x = (.ok (op.onEntry x).1, (op.onEntry x).2) := by
  cases op <;> cases x <;> rfl

private theorem EngineOp.run_callsAll_entry (ops : List EngineOp) (x : Option AutomationRule) :
    ((callsAll ops).run RuleCall.handleEntry).run x =
      (.ok (onEntryAll ops x).1, (onEntryAll ops x).2) := by
  induction ops generalizing x with
  | nil => rfl
  | cons op ops ih =>
    rw [callsAll, Program.run_bind, Stateful.run_bind_of_ok (run_calls_entry op x),
      Program.run_bind, Stateful.run_bind_of_ok (ih _)]
    rfl

section Entry

variable {enabled : Bool} {rival : Rival} {x : Option AutomationRule}
  {c : RuleThreads (Option AutomationRule)}
  {schedule : List Turn} {a : Except Empty (Result Unit)}
  {b : Except Empty (List (Result Unit))}

/-- From when the switching operation is done, the rest of the rival runs alone. -/
theorem EntrySerializable.of_left_returned (before after : List EngineOp)
    (hops : rival.ops enabled = before ++ after)
    (hleft : c.left.outcome? = some (.ok ((EngineOp.toggle enabled rival.ruleId).onEntry
      (EngineOp.onEntryAll before x).2).1))
    (hright : (c.right.run RuleCall.handleEntry).run c.shared =
      (.ok ((EngineOp.onEntryAll before x).1 ++ (EngineOp.onEntryAll after
          ((EngineOp.toggle enabled rival.ruleId).onEntry (EngineOp.onEntryAll before x).2).2).1),
        (EngineOp.onEntryAll after
          ((EngineOp.toggle enabled rival.ruleId).onEntry (EngineOp.onEntryAll before x).2).2).2))
    (hdone : (execEntry c schedule).right.outcome? =
      some b) :
    EntrySerializable enabled rival x
      (execEntry c schedule) := by
  obtain ⟨hrun, hleft'⟩ := Threads.run_of_exec_left_returned hleft hdone
  rw [hright] at hrun
  obtain ⟨hb, hshared⟩ := Prod.mk.inj hrun
  exact ⟨before, after, hops, hleft', hb ▸ hdone, hshared.symm⟩

/-- From when the rival is done, the rest of the switching operation runs alone. -/
theorem run_left_of_right_returned {results : List (Result Unit)}
    {y : Result Unit × Option AutomationRule}
    (hright : c.right.outcome? = some (.ok results))
    (hleft : (c.left.run RuleCall.handleEntry).run c.shared = (.ok y.1, y.2))
    (hdone : (execEntry c schedule).left.outcome? = some a) :
    (execEntry c schedule).left.outcome? = some (.ok y.1) ∧
      (execEntry c schedule).right.outcome? =
        some (.ok results) ∧
      (execEntry c schedule).shared = y.2 := by
  obtain ⟨hrun, hright'⟩ := Threads.run_of_exec_right_returned hright hdone
  rw [hleft] at hrun
  obtain ⟨ha, hshared⟩ := Prod.mk.inj hrun
  exact ⟨ha ▸ hdone, hright', hshared.symm⟩

/-- The switching operation comes after the rival when the rival is done before it wrote. -/
theorem EntrySerializable.of_right_returned
    (hright : c.right.outcome? = some (.ok (EngineOp.onEntryAll (rival.ops enabled) x).1))
    (hleft : (c.left.run RuleCall.handleEntry).run c.shared =
      (.ok ((EngineOp.toggle enabled rival.ruleId).onEntry
          (EngineOp.onEntryAll (rival.ops enabled) x).2).1,
        ((EngineOp.toggle enabled rival.ruleId).onEntry
          (EngineOp.onEntryAll (rival.ops enabled) x).2).2))
    (hdone : (execEntry c schedule).left.outcome? = some a) :
    EntrySerializable enabled rival x
      (execEntry c schedule) := by
  obtain ⟨hl, hr, hshared⟩ := run_left_of_right_returned hright hleft hdone
  refine ⟨rival.ops enabled, [], (List.append_nil _).symm, hl, ?_, hshared⟩
  simpa only [EngineOp.onEntryAll, List.append_nil] using hr

/-- An update whose rule is overwritten by the old one. -/
theorem entrySerializable_update_iff {old rule : AutomationRule}
    (hl : c.left.outcome? = some (.ok (.ok ()))) (hr : c.right.outcome? = some (.ok [.ok ()]))
    (hshared : c.shared = some { old with enabled }) :
    EntrySerializable enabled (.update rule) (some old) c ↔
      { old with enabled } = { rule with enabled } := by
  constructor
  · rintro ⟨before, after, hops, -, -, hfinal⟩
    rw [hshared] at hfinal
    rcases before with _ | ⟨op, before⟩
    · obtain rfl := hops
      have hrule : { old with enabled } = rule := by
        cases enabled <;> exact Option.some.inj hfinal
      rw [← hrule]
    · obtain ⟨rfl, hnil⟩ := List.cons.inj hops
      obtain ⟨rfl, rfl⟩ := List.append_eq_nil_iff.mp hnil.symm
      cases enabled <;> exact Option.some.inj hfinal
  · intro heq
    refine ⟨[.updateRule rule], [], rfl, ?_, hr, ?_⟩
    · cases enabled <;> exact hl
    · rw [hshared, heq]
      cases enabled <;> rfl

/-- A removal and an addition that both come before the old rule is written back. -/
theorem entrySerializable_replace_iff {old rule : AutomationRule}
    (hl : c.left.outcome? = some (.ok (.ok ())))
    (hr : c.right.outcome? = some (.ok [.ok (), .ok ()]))
    (hshared : c.shared = some { old with enabled }) :
    EntrySerializable enabled (.replace rule) (some old) c ↔
      { old with enabled } = { rule with enabled } := by
  constructor
  · rintro ⟨before, after, hops, hleft, -, hfinal⟩
    rw [hshared] at hfinal
    rw [hl] at hleft
    rcases before with _ | ⟨op, _ | ⟨op', before⟩⟩
    · obtain rfl := hops
      have hrule : { old with enabled } = rule := by
        cases enabled <;> exact Option.some.inj hfinal
      rw [← hrule]
    · -- Between the two there is no rule to switch.
      obtain ⟨rfl, rfl⟩ := List.cons.inj hops
      cases enabled <;> cases hleft
    · obtain ⟨rfl, htail⟩ := List.cons.inj hops
      obtain ⟨rfl, hnil⟩ := List.cons.inj htail
      obtain ⟨rfl, rfl⟩ := List.append_eq_nil_iff.mp hnil.symm
      cases enabled <;> exact Option.some.inj hfinal
  · intro heq
    refine ⟨[.removeRule rule.id, .addRule rule], [], rfl, ?_, hr, ?_⟩
    · cases enabled <;> exact hl
    · rw [hshared, heq]
      cases enabled <;> rfl

/-- No rule is stored: each thread finds out for itself. -/
theorem entrySerializable_none
    (ha : (execEntry (race enabled rival none) schedule).left.outcome? = some a)
    (hb : (execEntry (race enabled rival none) schedule).right.outcome? = some b) :
    EntrySerializable enabled rival none (execEntry (race enabled rival none) schedule) := by
  have hswitch := EngineOp.run_calls_entry (.toggle enabled rival.ruleId)
  rcases schedule with _ | ⟨_ | _, rest⟩
  · cases enabled <;> cases ha
  · refine .of_left_returned (c := execEntry (race enabled rival none) [.left]) []
      (rival.ops enabled) rfl ?_ ?_ hb
    · cases enabled <;> rfl
    · cases enabled <;> exact EngineOp.run_callsAll_entry _ _
  · cases rival with
    | update rule =>
      exact .of_right_returned (c := execEntry (race enabled (.update rule) none) [.right]) rfl
        (hswitch none) ha
    | opposite ruleId =>
      cases enabled <;>
        exact .of_right_returned (c := execEntry (race _ (.opposite ruleId) none) [.right]) rfl
          (hswitch none) ha
    | replace rule =>
      -- The removal has failed, the addition is still to come.
      rcases rest with _ | ⟨_ | _, rest⟩
      · cases hb
      · refine .of_left_returned
          (c := execEntry (race enabled (.replace rule) none) [.right, .left])
          [.removeRule rule.id] [.addRule rule] rfl ?_ ?_ hb
        · cases enabled <;> rfl
        · cases enabled <;> rfl
      · exact .of_right_returned
          (c := execEntry (race enabled (.replace rule) none) [.right, .right]) rfl
          (hswitch (some rule)) ha

/-- The switching operation has read the rule and writes it back before the rival writes. -/
theorem entrySerializable_left_left {old : AutomationRule}
    (hb : (execEntry (race enabled rival (some old)) (.left :: .left :: schedule)).right.outcome? =
      some b) :
    EntrySerializable enabled rival (some old)
      (execEntry (race enabled rival (some old)) (.left :: .left :: schedule)) := by
  refine .of_left_returned (c := execEntry (race enabled rival (some old)) [.left, .left]) []
    (rival.ops enabled) rfl ?_ ?_ hb
  · cases enabled <;> rfl
  · cases enabled <;> exact EngineOp.run_callsAll_entry _ _

/-- Against an update. -/
theorem entrySerializable_update {old rule : AutomationRule}
    (ha : (execEntry (race enabled (.update rule) (some old)) schedule).left.outcome? = some a)
    (hb : (execEntry (race enabled (.update rule) (some old)) schedule).right.outcome? = some b) :
    EntrySerializable enabled (.update rule) (some old)
        (execEntry (race enabled (.update rule) (some old)) schedule) ↔
      ¬ LosesUpdate enabled (.update rule) (some old) schedule := by
  rcases schedule with _ | ⟨_ | _, rest⟩
  · cases hb
  · rcases rest with _ | ⟨_ | _, rest⟩
    · cases hb
    · exact iff_of_true (entrySerializable_left_left hb) (by simp [LosesUpdate])
    · -- The update falls between the read and the write.
      obtain ⟨hl, hr, hshared⟩ := run_left_of_right_returned
        (c := execEntry (race enabled (.update rule) (some old)) [.left, .right])
        (y := (.ok (), some { old with enabled })) (by cases enabled <;> rfl)
        (by cases enabled <;> rfl) ha
      exact (entrySerializable_update_iff hl hr hshared).trans (by simp [LosesUpdate])
  · have hswitch := EngineOp.run_calls_entry (.toggle enabled rule.id) (some rule)
    exact iff_of_true
      (.of_right_returned (c := execEntry (race enabled (.update rule) (some old)) [.right]) rfl
        hswitch ha) (by simp [LosesUpdate])

/-- Against a removal and an addition. -/
theorem entrySerializable_replace {old rule : AutomationRule}
    (ha : (execEntry (race enabled (.replace rule) (some old)) schedule).left.outcome? = some a)
    (hb : (execEntry (race enabled (.replace rule) (some old)) schedule).right.outcome? = some b) :
    EntrySerializable enabled (.replace rule) (some old)
        (execEntry (race enabled (.replace rule) (some old)) schedule) ↔
      ¬ LosesUpdate enabled (.replace rule) (some old) schedule := by
  let after := fun turns => execEntry (race enabled (.replace rule) (some old)) turns
  rcases schedule with _ | ⟨_ | _, rest⟩
  · cases hb
  · rcases rest with _ | ⟨_ | _, rest⟩
    · cases hb
    · exact iff_of_true (entrySerializable_left_left hb) (by simp [LosesUpdate])
    · rcases rest with _ | ⟨_ | _, rest⟩
      · cases hb
      · -- The rule read is gone when it is written back.
        refine iff_of_true (.of_left_returned (c := after [.left, .right, .left])
          [.removeRule rule.id] [.addRule rule] rfl ?_ ?_ hb) (by simp [LosesUpdate])
        · cases enabled <;> rfl
        · cases enabled <;> rfl
      · -- The new rule is stored when the old one is written back.
        obtain ⟨hl, hr, hshared⟩ := run_left_of_right_returned
          (c := after [.left, .right, .right]) (y := (.ok (), some { old with enabled }))
          (by cases enabled <;> rfl) (by cases enabled <;> rfl) ha
        exact (entrySerializable_replace_iff hl hr hshared).trans (by simp [LosesUpdate])
  · refine iff_of_true ?_ (by simp [LosesUpdate])
    rcases rest with _ | ⟨_ | _, rest⟩
    · cases hb
    · refine .of_left_returned (c := after [.right, .left]) [.removeRule rule.id]
        [.addRule rule] rfl ?_ ?_ hb
      · cases enabled <;> rfl
      · cases enabled <;> rfl
    · have hswitch := EngineOp.run_calls_entry (.toggle enabled rule.id) (some rule)
      exact .of_right_returned (c := after [.right, .right]) rfl hswitch ha

/-- Two opposite switches leave the flag as the one that writes last wants it. -/
theorem entrySerializable_opposite {old : AutomationRule} {ruleId : StdString}
    (ha : (execEntry (race enabled (.opposite ruleId) (some old)) schedule).left.outcome? =
      some a)
    (hb : (execEntry (race enabled (.opposite ruleId) (some old)) schedule).right.outcome? =
      some b) :
    EntrySerializable enabled (.opposite ruleId) (some old)
      (execEntry (race enabled (.opposite ruleId) (some old)) schedule) := by
  let after := fun turns => execEntry (race enabled (.opposite ruleId) (some old)) turns
  -- Three turns decide, two of which belong to one of the operations.
  rcases schedule with _ | ⟨_ | _, rest⟩
  · cases enabled <;> cases hb
  · rcases rest with _ | ⟨_ | _, rest⟩
    · cases enabled <;> cases hb
    · exact entrySerializable_left_left hb
    · rcases rest with _ | ⟨_ | _, rest⟩
      · cases enabled <;> cases hb
      · refine .of_left_returned (c := after [.left, .right, .left]) []
          (Rival.ops enabled (.opposite ruleId)) rfl ?_ ?_ hb
        · cases enabled <;> rfl
        · cases enabled <;> rfl
      · refine .of_right_returned (c := after [.left, .right, .right]) ?_ ?_ ha
        · cases enabled <;> rfl
        · cases enabled <;> rfl
  · rcases rest with _ | ⟨_ | _, rest⟩
    · cases enabled <;> cases hb
    · rcases rest with _ | ⟨_ | _, rest⟩
      · cases enabled <;> cases hb
      · refine .of_left_returned (c := after [.right, .left, .left]) []
          (Rival.ops enabled (.opposite ruleId)) rfl ?_ ?_ hb
        · cases enabled <;> rfl
        · cases enabled <;> rfl
      · refine .of_right_returned (c := after [.right, .left, .right]) ?_ ?_ ha
        · cases enabled <;> rfl
        · cases enabled <;> rfl
    · refine .of_right_returned (c := after [.right, .right]) ?_ ?_ ha
      · cases enabled <;> rfl
      · cases enabled <;> rfl

/-- The race on the entry. -/
theorem entrySerializable_iff
    (ha : (execEntry (race enabled rival x) schedule).left.outcome? = some a)
    (hb : (execEntry (race enabled rival x) schedule).right.outcome? = some b) :
    EntrySerializable enabled rival x (execEntry (race enabled rival x) schedule) ↔
      ¬ LosesUpdate enabled rival x schedule := by
  cases x with
  | none =>
    refine iff_of_true (entrySerializable_none ha hb) ?_
    cases rival <;> simp [LosesUpdate]
  | some old =>
    cases rival with
    | update rule => exact entrySerializable_update ha hb
    | replace rule => exact entrySerializable_replace ha hb
    | opposite ruleId => exact iff_of_true (entrySerializable_opposite ha hb) not_false

end Entry

/-! ## The store -/

namespace RuleRepository

variable {r r' : RuleRepository} {m : RuleMap} {ruleId : StdString} {x y : Option AutomationRule}

private theorem refines_lookup (hr : r.Filed) : r.Refines fun ruleId => r.rules.lookup ruleId where
  lookup _ := rfl
  filed := hr

/-- Whatever the engine has done, the store files every rule under its own id. -/
theorem filed_of_run {tr : List (EngineOp × Result Unit)}
    (hrun : Mealy.Run EngineOp.apply Mealy.anyInput {} tr r) : r.Filed := by
  obtain ⟨m, -, href⟩ := hrun.simulate (R := Refines) refines_empty
    fun _ _ op h => refines_apply h op
  intro ruleId rule hrule
  exact href.filed ruleId rule ((href.lookup ruleId).symm.trans hrule)

/-- Two stores that differ from one map in one entry hold the same rules when that entry is the
same. -/
theorem sameRules_iff (h : r.Refines (Function.update m ruleId x))
    (h' : r'.Refines (Function.update m ruleId y)) : SameRules r r' ↔ x = y := by
  constructor
  · intro hsame
    have hlookup := hsame ruleId
    rwa [h.lookup, h'.lookup, Function.update_self, Function.update_self] at hlookup
  · rintro rfl ruleId'
    rw [h.lookup, h'.lookup]

/-- An operation on the store is the operation on the entry it is about. -/
theorem refines_apply_entry (h : r.Refines (Function.update m ruleId x)) (op : EngineOp)
    (hop : op.target = ruleId) :
    (op.apply r).1 = (op.onEntry x).1 ∧
      (op.apply r).2.Refines (Function.update m ruleId (op.onEntry x).2) := by
  have happly := refines_apply h op
  rwa [RuleMap.step, hop, Function.update_self, Function.update_idem] at happly

private theorem refines_applyAll_entry {ops : List EngineOp} (hops : ∀ op ∈ ops, op.target = ruleId)
    (h : r.Refines (Function.update m ruleId x)) :
    (EngineOp.applyAll ops r).1 = (EngineOp.onEntryAll ops x).1 ∧
      (EngineOp.applyAll ops r).2.Refines
        (Function.update m ruleId (EngineOp.onEntryAll ops x).2) := by
  induction ops generalizing r x with
  | nil => exact ⟨rfl, h⟩
  | cons op ops ih =>
    obtain ⟨hresult, hnext⟩ := refines_apply_entry h op (hops op List.mem_cons_self)
    obtain ⟨hresults, hlast⟩ := ih (fun op' hop' => hops op' (List.mem_cons_of_mem _ hop')) hnext
    exact ⟨by rw [EngineOp.applyAll, EngineOp.onEntryAll, hresult, hresults], hlast⟩

/-- A call on the store is the call on the entry it is about. -/
theorem simulates_handleEntry (m : RuleMap) (ruleId : StdString) :
    Program.Simulates (fun call => call.target = ruleId) RuleCall.ReplyFiled
      (fun r x => r.Refines (Function.update m ruleId x)) handle RuleCall.handleEntry where
  reply call r x hcall h := by
    -- What a call returns depends on the entry of its target alone.
    cases call with
    | add rule =>
      have happly := (refines_apply_entry h (.addRule rule) hcall).1
      cases x <;> exact congrArg Except.ok happly
    | update rule =>
      have happly := (refines_apply_entry h (.updateRule rule) hcall).1
      cases x <;> exact congrArg Except.ok happly
    | remove ruleId =>
      have happly := (refines_apply_entry h (.removeRule ruleId) hcall).1
      cases x <;> exact congrArg Except.ok happly
    | getById ruleId' =>
      obtain rfl : ruleId' = ruleId := hcall
      have hget := h.getById ruleId'
      rw [Function.update_self] at hget
      cases x <;> exact congrArg Except.ok hget
  post_of_reply call r x reply hcall h hreply := by
    -- A rule that is read is filed under its own id.
    cases call with
    | getById ruleId' =>
      obtain rfl : ruleId' = ruleId := hcall
      cases x with
      | none =>
        obtain rfl := Except.ok.inj hreply
        trivial
      | some rule =>
        obtain rfl := Except.ok.inj hreply
        exact h.filed _ _ (Function.update_self ..)
    | add rule => trivial
    | update rule => trivial
    | remove ruleId => trivial
  rel call r x hcall h := by
    -- Its effect is on that entry alone, too.
    cases call with
    | add rule =>
      have happly := (refines_apply_entry h (.addRule rule) hcall).2
      cases x <;> exact happly
    | update rule =>
      have happly := (refines_apply_entry h (.updateRule rule) hcall).2
      cases x <;> exact happly
    | remove ruleId =>
      have happly := (refines_apply_entry h (.removeRule ruleId) hcall).2
      cases x <;> exact happly
    | getById ruleId' =>
      cases x <;> exact h

end RuleRepository

/-- The calls of an operation are all about its target. -/
theorem EngineOp.all_calls (op : EngineOp) :
    op.calls.All (fun call => call.target = op.target) RuleCall.ReplyFiled := by
  have hset : ∀ enabled ruleId, (RuleEngine.setEnabledCalls enabled ruleId).All
      (fun call => call.target = ruleId) RuleCall.ReplyFiled := by
    intro enabled ruleId
    refine ⟨rfl, ?_⟩
    rintro (e | rule) hreply
    · trivial
    · exact ⟨hreply, fun _ _ => trivial⟩
  cases op with
  | addRule rule => exact ⟨rfl, fun _ _ => trivial⟩
  | updateRule rule => exact ⟨rfl, fun _ _ => trivial⟩
  | removeRule ruleId => exact ⟨rfl, fun _ _ => trivial⟩
  | enableRule ruleId => exact hset true ruleId
  | disableRule ruleId => exact hset false ruleId

private theorem EngineOp.all_callsAll {ops : List EngineOp} {ruleId : StdString}
    (hops : ∀ op ∈ ops, op.target = ruleId) :
    (callsAll ops).All (fun call => call.target = ruleId) RuleCall.ReplyFiled := by
  induction ops with
  | nil => trivial
  | cons op ops ih =>
    have hop : op.calls.All (fun call => call.target = ruleId) RuleCall.ReplyFiled :=
      hops op List.mem_cons_self ▸ op.all_calls
    refine hop.bind fun _ => ?_
    exact (ih fun op' hop' => hops op' (List.mem_cons_of_mem _ hop')).bind fun _ => trivial

/-- The race on the store is the race on the entry. -/
theorem serializable_iff_entry (enabled : Bool) (rival : Rival) {r : RuleRepository}
    (hr : r.Filed) (schedule : List Turn) :
    let x := r.rules.lookup rival.ruleId
    let c := (race enabled rival r).exec RuleRepository.handle RuleRepository.handle schedule
    c.left = (execEntry (race enabled rival x) schedule).left ∧
      c.right = (execEntry (race enabled rival x) schedule).right ∧
      (Serializable enabled rival r c ↔
        EntrySerializable enabled rival x (execEntry (race enabled rival x) schedule)) := by
  intro x c
  let m : RuleMap := fun ruleId => r.rules.lookup ruleId
  have hsim := RuleRepository.simulates_handleEntry m rival.ruleId
  have hstart : r.Refines (Function.update m rival.ruleId x) := by
    rw [Function.update_eq_self]
    exact RuleRepository.refines_lookup hr
  have hleft : (race enabled rival r).left = (race enabled rival x).left := rfl
  obtain ⟨hl, hrt, hend⟩ := Threads.exec_simulate hsim hsim (c := race enabled rival r)
    (EngineOp.target_toggle enabled rival.ruleId ▸ EngineOp.all_calls _)
    (EngineOp.all_callsAll fun _ hop => Rival.target_of_mem hop) hleft rfl hstart schedule
  refine ⟨hl, hrt, ?_⟩
  refine exists_congr fun before => exists_congr fun after => and_congr_right fun hops => ?_
  -- Every sequential order, too, is the same on the store and on the entry.
  have htarget : ∀ op, op ∈ before ∨ op ∈ after → op.target = rival.ruleId := fun op hop =>
    Rival.target_of_mem (hops ▸ List.mem_append.mpr hop)
  obtain ⟨h₁, href₁⟩ := RuleRepository.refines_applyAll_entry (fun op hop => htarget op (.inl hop))
    hstart
  obtain ⟨h₂, href₂⟩ := RuleRepository.refines_apply_entry href₁ _
    (EngineOp.target_toggle enabled rival.ruleId)
  obtain ⟨h₃, href₃⟩ := RuleRepository.refines_applyAll_entry (fun op hop => htarget op (.inr hop))
    href₂
  simp only [h₁, h₂, h₃]
  rw [show c.left = _ from hl, show c.right = _ from hrt]
  exact and_congr_right fun _ => and_congr_right fun _ =>
    RuleRepository.sameRules_iff hend href₃

/-- An interleaving that lets both threads finish has the results and the final store of a
sequential order of the operations exactly when no update of the rival is lost. -/
theorem toggle_serializable_iff {enabled : Bool} {rival : Rival} {r : RuleRepository}
    (hr : r.Filed) {schedule : List Turn}
    {c : RuleThreads RuleRepository}
    (hc : (race enabled rival r).exec RuleRepository.handle RuleRepository.handle schedule = c)
    (hdone : c.left.outcome?.isSome ∧ c.right.outcome?.isSome) :
    Serializable enabled rival r c ↔
      ¬ LosesUpdate enabled rival (r.rules.lookup rival.ruleId) schedule := by
  subst hc
  obtain ⟨hl, hrt, hiff⟩ := serializable_iff_entry enabled rival hr schedule
  obtain ⟨a, ha⟩ := Option.isSome_iff_exists.mp hdone.1
  obtain ⟨b, hb⟩ := Option.isSome_iff_exists.mp hdone.2
  rw [hl] at ha
  rw [hrt] at hb
  exact hiff.trans (entrySerializable_iff ha hb)

/-- A rule without conditions and actions. -/
def namedRule (name : StdString) : AutomationRule := { id := StdString.lit "r", name }

/-- A store that holds one rule. -/
def namedStore (name : StdString) : RuleRepository := (RuleRepository.add {} (namedRule name)).2

private theorem filed_namedStore (name : StdString) : (namedStore name).Filed :=
  have hrun : Mealy.Run EngineOp.apply Mealy.anyInput {}
      [(.addRule (namedRule name), .ok ())] (namedStore name) := Mealy.Run.nil.snoc _ trivial
  RuleRepository.filed_of_run hrun

/-- When the update comes first, nothing is lost. -/
theorem toggle_serializable_iff_update_first :
    let update : Rival := .update (namedRule (StdString.lit "new"))
    let store := namedStore (StdString.lit "old")
    Serializable true update store ((race true update store).exec RuleRepository.handle
        RuleRepository.handle [.right, .left, .left]) ↔
      ¬ LosesUpdate true update (some (namedRule (StdString.lit "old"))) [.right, .left, .left] :=
  toggle_serializable_iff (filed_namedStore _) rfl ⟨rfl, rfl⟩

/-- An update that falls between the read and the write of `EnableRule` is lost: both report
success, and the store has the old name. -/
theorem not_serializable_update_between :
    let update : Rival := .update (namedRule (StdString.lit "new"))
    let store := namedStore (StdString.lit "old")
    let c := (race true update store).exec RuleRepository.handle RuleRepository.handle
      [.left, .right, .left]
    c.left.outcome? = some (.ok (.ok ())) ∧ c.right.outcome? = some (.ok [.ok ()]) ∧
      c.shared.getById (StdString.lit "r") = .ok (namedRule (StdString.lit "old")) ∧
      ¬ Serializable true update store c := by
  refine ⟨rfl, rfl, rfl, ?_⟩
  obtain ⟨-, -, hiff⟩ := serializable_iff_entry true (.update (namedRule (StdString.lit "new")))
    (filed_namedStore (StdString.lit "old")) [.left, .right, .left]
  refine fun hserial => (entrySerializable_iff rfl rfl).mp (hiff.mp hserial) ?_
  refine ⟨List.prefix_append .., namedRule (StdString.lit "old"), rfl, fun heq => ?_⟩
  have hname := congrArg AutomationRule.name heq
  revert hname
  decide

end IotDashboard
