import IotDashboard.Foundation.Histories

/-!
# Guarded runs of a Mealy machine

A deterministic machine `step : σ → ι → ο × σ` answers each input with an output and a new
state. A run records the inputs with their outputs, oldest first. The guard of a run restricts
the inputs a caller may choose, and may look at the history so far: monotone clocks, an
adversary that cannot forge, or a condition every step has to meet are all guards.

* `Mealy.Run`: the runs of a machine under a guard;
* `Mealy.Run.invariant` and `Mealy.Run.historyInvariant`: what every step preserves holds at the
  end of every run;
* `Mealy.Run.guard_of_append`: every step of a run met the guard;
* `Mealy.Run.iff_eachAfter`, `Mealy.Run.throughout_iff`, `Mealy.Run.always_iff`: what holds of a
  run, at all its points, or of all its states, exactly when each step meets a condition;
* `Mealy.Run.exec`: runs on given inputs;
* `Mealy.Run.simulate`: a machine that answers alike has the same runs.
-/

namespace Mealy

variable {σ ι ο : Type*}

/-- The runs of `step` from `s₀` whose inputs satisfy `guard history state input`. -/
inductive Run (step : σ → ι → ο × σ) (guard : List (ι × ο) → σ → ι → Prop) (s₀ : σ) :
    List (ι × ο) → σ → Prop
  | nil : Run step guard s₀ [] s₀
  | snoc {tr : List (ι × ο)} {s : σ} (i : ι) :
      Run step guard s₀ tr s → guard tr s i →
      Run step guard s₀ (tr ++ [(i, (step s i).1)]) (step s i).2

/-- The guard that allows every input. -/
def anyInput : List (ι × ο) → σ → ι → Prop := fun _ _ _ => True

namespace Run

variable {step : σ → ι → ο × σ} {guard : List (ι × ο) → σ → ι → Prop}
  {s₀ s : σ} {tr : List (ι × ο)}

/-- A history invariant: it holds of the empty run and every allowed step preserves it. -/
theorem historyInvariant {P : List (ι × ο) → σ → Prop} (hrun : Run step guard s₀ tr s)
    (h0 : P [] s₀)
    (hstep : ∀ tr s i, P tr s → guard tr s i → P (tr ++ [(i, (step s i).1)]) (step s i).2) :
    P tr s := by
  induction hrun with
  | nil => exact h0
  | snoc i _ hguard ih => exact hstep _ _ i ih hguard

/-- A state invariant: it holds initially and every allowed step preserves it. -/
theorem invariant {P : σ → Prop} (hrun : Run step guard s₀ tr s) (h0 : P s₀)
    (hstep : ∀ tr s i, P s → guard tr s i → P (step s i).2) : P s :=
  hrun.historyInvariant (P := fun _ s => P s) h0 hstep

/-- Every step of a run met the guard when it was taken. -/
theorem guard_of_append {pre post : List (ι × ο)} {i : ι} {o : ο}
    (hrun : Run step guard s₀ tr s) (htr : tr = pre ++ (i, o) :: post) :
    ∃ s', Run step guard s₀ pre s' ∧ guard pre s' i ∧ o = (step s' i).1 := by
  induction hrun generalizing post with
  | nil => simp at htr
  | @snoc tr s j hrun hguard ih =>
    -- The step in question is the last one, or one of the run before it.
    rcases List.eq_nil_or_concat post with rfl | ⟨post', last, rfl⟩
    · obtain ⟨rfl, hlast⟩ := List.append_inj' htr rfl
      obtain ⟨rfl, rfl⟩ := Prod.mk.inj (List.cons.inj hlast).1
      exact ⟨s, hrun, hguard, rfl⟩
    · have hsplit : tr ++ [(j, (step s j).1)] = (pre ++ (i, o) :: post') ++ [last] := by
        simpa using htr
      exact ih (List.append_inj' hsplit rfl).1

/-- The history determines the state. -/
theorem unique {s' : σ} (hrun : Run step guard s₀ tr s) (hrun' : Run step guard s₀ tr s') :
    s = s' := by
  induction hrun generalizing s' with
  | nil =>
    generalize hnil : ([] : List (ι × ο)) = tr at hrun'
    cases hrun' with
    | nil => rfl
    | snoc i _ _ => simp at hnil
  | @snoc tr s i hrun _ ih =>
    -- The index is not a variable, so the second run is split with it generalized.
    generalize hsnoc : tr ++ [(i, (step s i).1)] = tr' at hrun'
    cases hrun' with
    | nil => simp at hsnoc
    | @snoc tr' t j hrun' _ =>
      obtain ⟨rfl, hlast⟩ := List.append_inj' hsnoc rfl
      obtain ⟨rfl, -⟩ := Prod.mk.inj (List.cons.inj hlast).1
      rw [ih hrun']

/-- A run is also one under a weaker guard. -/
theorem imp {guard' : List (ι × ο) → σ → ι → Prop} (hrun : Run step guard s₀ tr s)
    (h : ∀ tr s i, guard tr s i → guard' tr s i) : Run step guard' s₀ tr s := by
  induction hrun with
  | nil => exact .nil
  | snoc i _ hguard ih => exact ih.snoc i (h _ _ i hguard)

/-- Every step of a run met the guard in the state that its past leads to. -/
theorem eachAfter_guard {guard' : List (ι × ο) → σ → ι → Prop} (hrun : Run step guard s₀ tr s) :
    tr.EachAfter fun past entry =>
      ∀ s', Run step guard' s₀ past s' → guard past s' entry.1 := by
  intro past entry future htr s' hrun'
  obtain ⟨t, hpast, hguard, -⟩ := hrun.guard_of_append htr
  have hpast' : Run step anyInput s₀ past t := hpast.imp fun _ _ _ _ => trivial
  have hrun'' : Run step anyInput s₀ past s' := hrun'.imp fun _ _ _ _ => trivial
  obtain rfl := hpast'.unique hrun''
  exact hguard

/-- A property that each step keeps exactly when it meets a condition holds of a run exactly when
all steps of the run, each in the state it was taken in, meet the condition. -/
theorem iff_eachAfter {P : List (ι × ο) → σ → Prop} {C : List (ι × ο) → σ → ι → Prop}
    (hrun : Run step guard s₀ tr s) (h0 : P [] s₀)
    (hstep : ∀ tr s i, Run step guard s₀ tr s → guard tr s i →
      (P (tr ++ [(i, (step s i).1)]) (step s i).2 ↔ P tr s ∧ C tr s i)) :
    P tr s ↔ tr.EachAfter fun past entry =>
      ∀ s', Run step guard s₀ past s' → C past s' entry.1 := by
  induction hrun with
  | nil => exact iff_of_true h0 List.eachAfter_nil
  | @snoc tr s i hrun hguard ih =>
    rw [List.eachAfter_snoc, ← ih, hstep tr s i hrun hguard]
    refine and_congr_right fun _ => ⟨fun hC s' hrun' => ?_, fun hC => hC s hrun⟩
    rw [← hrun.unique hrun']
    exact hC

/-- The same for a condition that does not look at the state. -/
theorem iff_eachAfter_history {P : List (ι × ο) → Prop} {C : List (ι × ο) → ι → Prop}
    (hrun : Run step guard s₀ tr s) (h0 : P [])
    (hstep : ∀ tr s i, Run step guard s₀ tr s → guard tr s i →
      (P (tr ++ [(i, (step s i).1)]) ↔ P tr ∧ C tr i)) :
    P tr ↔ tr.EachAfter fun past entry => C past entry.1 := by
  induction hrun with
  | nil => exact iff_of_true h0 List.eachAfter_nil
  | @snoc tr s i hrun hguard ih => rw [List.eachAfter_snoc, ← ih, hstep tr s i hrun hguard]

end Run

/-- At every point of a run the history so far and the state are as required. -/
def Throughout (step : σ → ι → ο × σ) (guard : List (ι × ο) → σ → ι → Prop) (s₀ : σ)
    (P : List (ι × ο) → σ → Prop) (tr : List (ι × ο)) : Prop :=
  ∀ past future s', tr = past ++ future → Run step guard s₀ past s' → P past s'

section Throughout

variable {step : σ → ι → ο × σ} {guard : List (ι × ο) → σ → ι → Prop}
  {s₀ s : σ} {tr : List (ι × ο)} {P : List (ι × ο) → σ → Prop}

/-- Before the first step a property holds throughout if it holds at the start. -/
theorem throughout_nil : Throughout step guard s₀ P [] ↔ P [] s₀ := by
  refine ⟨fun h => h [] [] s₀ rfl .nil, fun h0 past future s' htr hrun => ?_⟩
  obtain ⟨rfl, -⟩ := List.append_eq_nil_iff.mp htr.symm
  rw [← Run.nil.unique hrun]
  exact h0

/-- A property holds throughout a longer run if it held before and holds at its end. -/
theorem throughout_snoc (hrun : Run step guard s₀ tr s) {i : ι} (hguard : guard tr s i) :
    Throughout step guard s₀ P (tr ++ [(i, (step s i).1)]) ↔
      Throughout step guard s₀ P tr ∧ P (tr ++ [(i, (step s i).1)]) (step s i).2 := by
  constructor
  · intro h
    refine ⟨fun past future s' htr => h past (future ++ [(i, (step s i).1)]) s' ?_, ?_⟩
    · rw [htr, List.append_assoc]
    · exact h _ [] _ (List.append_nil _).symm (hrun.snoc i hguard)
  · rintro ⟨h, hlast⟩ past future s' htr hrun'
    rcases List.eq_nil_or_concat future with rfl | ⟨future, last, rfl⟩
    · rw [List.append_nil] at htr
      subst htr
      rw [← (hrun.snoc i hguard).unique hrun']
      exact hlast
    · rw [List.concat_eq_append, ← List.append_assoc] at htr
      exact h past future s' (List.append_inj' htr rfl).1 hrun'

/-- What holds throughout a run holds at its end. -/
theorem Throughout.last (h : Throughout step guard s₀ P tr) (hrun : Run step guard s₀ tr s) :
    P tr s :=
  h tr [] s (List.append_nil _).symm hrun

/-- All points of a run are as required exactly when each step, from a point that is, meets a
condition. -/
theorem Run.throughout_iff {C : List (ι × ο) → σ → ι → Prop} (hrun : Run step guard s₀ tr s)
    (h0 : P [] s₀)
    (hstep : ∀ tr s i, Run step guard s₀ tr s → guard tr s i → P tr s →
      (P (tr ++ [(i, (step s i).1)]) (step s i).2 ↔ C tr s i)) :
    Throughout step guard s₀ P tr ↔ tr.EachAfter fun past entry =>
      ∀ s', Run step guard s₀ past s' → C past s' entry.1 := by
  refine hrun.iff_eachAfter (P := fun tr _ => Throughout step guard s₀ P tr)
    (throughout_nil.mpr h0) fun tr s i hrun hguard => ?_
  rw [throughout_snoc hrun hguard]
  exact and_congr_right fun h => hstep tr s i hrun hguard (h.last hrun)

/-- The same for a condition that does not look at the state. -/
theorem Run.throughout_iff_history {C : List (ι × ο) → ι → Prop} (hrun : Run step guard s₀ tr s)
    (h0 : P [] s₀)
    (hstep : ∀ tr s i, Run step guard s₀ tr s → guard tr s i → P tr s →
      (P (tr ++ [(i, (step s i).1)]) (step s i).2 ↔ C tr i)) :
    Throughout step guard s₀ P tr ↔ tr.EachAfter fun past entry => C past entry.1 := by
  refine hrun.iff_eachAfter_history (throughout_nil.mpr h0) fun tr s i hrun hguard => ?_
  rw [throughout_snoc hrun hguard]
  exact and_congr_right fun h => hstep tr s i hrun hguard (h.last hrun)

end Throughout

/-- All states of a run, from the first to the last, are as required. -/
def Always (step : σ → ι → ο × σ) (guard : List (ι × ο) → σ → ι → Prop) (s₀ : σ) (P : σ → Prop)
    (tr : List (ι × ο)) : Prop :=
  ∀ past future s', tr = past ++ future → Run step guard s₀ past s' → P s'

section Always

variable {step : σ → ι → ο × σ} {guard : List (ι × ο) → σ → ι → Prop}
  {s₀ s : σ} {tr : List (ι × ο)} {P : σ → Prop}

theorem always_iff_throughout :
    Always step guard s₀ P tr ↔ Throughout step guard s₀ (fun _ => P) tr := Iff.rfl

/-- Before the first step a property of states always holds if it holds of the first. -/
theorem always_nil : Always step guard s₀ P [] ↔ P s₀ :=
  always_iff_throughout.trans throughout_nil

/-- A property of states holds always in a longer run if it did before and does at its end. -/
theorem always_snoc (hrun : Run step guard s₀ tr s) {i : ι} (hguard : guard tr s i) :
    Always step guard s₀ P (tr ++ [(i, (step s i).1)]) ↔
      Always step guard s₀ P tr ∧ P (step s i).2 :=
  always_iff_throughout.trans (throughout_snoc hrun hguard)

/-- What always holds in a run holds of its last state. -/
theorem Always.last (h : Always step guard s₀ P tr) (hrun : Run step guard s₀ tr s) : P s :=
  Throughout.last (always_iff_throughout.mp h) hrun

/-- All states are as required exactly when each step, from a state that is, meets a condition. -/
theorem Run.always_iff {C : σ → ι → Prop} (hrun : Run step guard s₀ tr s) (h0 : P s₀)
    (hstep : ∀ s i, P s → (P (step s i).2 ↔ C s i)) :
    Always step guard s₀ P tr ↔ tr.EachAfter fun past entry =>
      ∀ s', Run step guard s₀ past s' → C s' entry.1 :=
  hrun.throughout_iff (C := fun _ => C) h0 fun _ s i _ _ h => hstep s i h

end Always

/-! ### Runs on given inputs -/

/-- The history and the state after more inputs. -/
def execFrom (step : σ → ι → ο × σ) :
    List (ι × ο) → σ → List ι → List (ι × ο) × σ
  | tr, s, [] => (tr, s)
  | tr, s, i :: inputs => execFrom step (tr ++ [(i, (step s i).1)]) (step s i).2 inputs

/-- The history and the state after the inputs. -/
def exec (step : σ → ι → ο × σ) (s₀ : σ) (inputs : List ι) : List (ι × ο) × σ :=
  execFrom step [] s₀ inputs

/-- Every input is allowed when its turn comes. -/
def Allowed (step : σ → ι → ο × σ) (guard : List (ι × ο) → σ → ι → Prop) :
    List (ι × ο) → σ → List ι → Prop
  | _, _, [] => True
  | tr, s, i :: inputs =>
    guard tr s i ∧ Allowed step guard (tr ++ [(i, (step s i).1)]) (step s i).2 inputs

instance decidableAllowed (step : σ → ι → ο × σ) (guard : List (ι × ο) → σ → ι → Prop)
    [∀ tr s i, Decidable (guard tr s i)] :
    ∀ tr s inputs, Decidable (Allowed step guard tr s inputs)
  | _, _, [] => isTrue trivial
  | tr, s, i :: inputs =>
    have := decidableAllowed step guard (tr ++ [(i, (step s i).1)]) (step s i).2 inputs
    inferInstanceAs (Decidable (guard tr s i ∧ _))

/-- Without a guard all inputs are allowed. -/
theorem allowed_anyInput {step : σ → ι → ο × σ} {tr : List (ι × ο)} {s : σ} (inputs : List ι) :
    Allowed step anyInput tr s inputs := by
  induction inputs generalizing tr s with
  | nil => trivial
  | cons i inputs ih => exact ⟨trivial, ih⟩

namespace Run

variable {step : σ → ι → ο × σ} {guard : List (ι × ο) → σ → ι → Prop}
  {s₀ s : σ} {tr : List (ι × ο)}

/-- A run goes on with the inputs that are allowed. -/
theorem execFrom (hrun : Run step guard s₀ tr s) {inputs : List ι}
    (h : Allowed step guard tr s inputs) :
    Run step guard s₀ (Mealy.execFrom step tr s inputs).1
      (Mealy.execFrom step tr s inputs).2 := by
  induction inputs generalizing tr s with
  | nil => exact hrun
  | cons i inputs ih => exact ih (hrun.snoc i h.1) h.2

/-- Allowed inputs give a run. -/
theorem exec {inputs : List ι} (h : Allowed step guard [] s₀ inputs) :
    Run step guard s₀ (Mealy.exec step s₀ inputs).1 (Mealy.exec step s₀ inputs).2 :=
  Run.nil.execFrom h

/-- Forward simulation: a second machine that gives the same output from related states, and
moves to related states, has a run with the same history. -/
theorem simulate {τ : Type*} {step' : τ → ι → ο × τ} {t₀ : τ} {R : σ → τ → Prop}
    (hrun : Run step guard s₀ tr s) (h0 : R s₀ t₀)
    (hstep : ∀ s t i, R s t → (step s i).1 = (step' t i).1 ∧ R (step s i).2 (step' t i).2) :
    ∃ t, Run step' anyInput t₀ tr t ∧ R s t := by
  induction hrun with
  | nil => exact ⟨t₀, .nil, h0⟩
  | @snoc tr s i _ _ ih =>
    obtain ⟨t, hrun', hR⟩ := ih
    obtain ⟨hout, hnext⟩ := hstep s t i hR
    rw [hout]
    exact ⟨(step' t i).2, hrun'.snoc i trivial, hnext⟩

end Run

end Mealy
