import IotDashboard.Foundation.Mealy

/-!
# Noninterference

An observer of a Mealy machine tells some states apart and sees some of what the steps put out.
Only some inputs concern it. When an input that does not concern it shows it nothing, and one that
does shows it the same from states that it cannot tell apart, then a whole run looks to it like
the run in which the inputs that do not concern it never happened.

* `Mealy.Observer`: what concerns an observer and what it sees;
* `Mealy.Observer.Unwinds`: the conditions on a single step;
* `Mealy.Run.purge`: a run without the inputs that do not concern the observer;
* `Mealy.Run.noninterference`: two runs with the same inputs of concern look the same.
-/

namespace Mealy

variable {σ ι ο ω : Type*}

/-- An observer of a machine. -/
structure Observer (σ ι ο ω : Type*) where
  /-- The states that it cannot tell apart. -/
  Same : σ → σ → Prop
  /-- The inputs that may show it something. -/
  concerns : ι → Bool
  /-- What it sees of a step. -/
  sees : ι × ο → List ω

namespace Observer

/-- What it sees of a run. -/
def view (O : Observer σ ι ο ω) (tr : List (ι × ο)) : List ω := tr.flatMap O.sees

@[simp]
theorem view_nil (O : Observer σ ι ο ω) : O.view [] = [] := rfl

/-- The last step adds what the observer sees of it. -/
@[simp]
theorem view_snoc (O : Observer σ ι ο ω) (tr : List (ι × ο)) (e : ι × ο) :
    O.view (tr ++ [e]) = O.view tr ++ O.sees e := by
  simp [view]

/-- The inputs of a run that concern the observer. -/
def inputs (O : Observer σ ι ο ω) (tr : List (ι × ο)) : List ι :=
  (tr.map Prod.fst).filter O.concerns

@[simp]
theorem inputs_nil (O : Observer σ ι ο ω) : O.inputs [] = [] := rfl

/-- The last input counts if it concerns the observer. -/
theorem inputs_snoc (O : Observer σ ι ο ω) (tr : List (ι × ο)) (i : ι) (o : ο) :
    O.inputs (tr ++ [(i, o)]) = O.inputs tr ++ if O.concerns i then [i] else [] := by
  rw [inputs, List.map_append, List.filter_append, List.map_singleton, List.filter_singleton]
  cases O.concerns i <;> rfl

/-- What one step has to meet. The guard may not look at the history, which differs. -/
structure Unwinds (O : Observer σ ι ο ω) (step : σ → ι → ο × σ) (guard : σ → ι → Prop) :
    Prop where
  /-- What does not concern the observer shows it nothing. -/
  hidden : ∀ {s t i}, O.Same s t → guard s i → O.concerns i = false →
    O.sees (i, (step s i).1) = [] ∧ O.Same (step s i).2 t
  /-- What does is possible in both states and shows it the same. -/
  seen : ∀ {s t i}, O.Same s t → guard s i → O.concerns i = true →
    guard t i ∧ O.sees (i, (step s i).1) = O.sees (i, (step t i).1) ∧
      O.Same (step s i).2 (step t i).2

end Observer

namespace Run

variable {step : σ → ι → ο × σ} {guard : σ → ι → Prop} {s₀ t₀ s s' : σ} {tr tr' : List (ι × ο)}

/-- The inputs determine a run. -/
theorem unique_of_inputs {guard guard' : List (ι × ο) → σ → ι → Prop}
    (hrun : Run step guard s₀ tr s) (hrun' : Run step guard' s₀ tr' s')
    (hinputs : tr.map Prod.fst = tr'.map Prod.fst) : tr = tr' ∧ s = s' := by
  induction hrun generalizing tr' s' with
  | nil =>
    cases hrun' with
    | nil => exact ⟨rfl, rfl⟩
    | snoc => simp at hinputs
  | @snoc tr s i hrun _ ih =>
    cases hrun' with
    | nil => simp at hinputs
    | @snoc tr' s' j hrun' _ =>
      rw [List.map_append, List.map_append] at hinputs
      obtain ⟨hpast, hlast⟩ := List.append_inj' hinputs rfl
      obtain rfl : i = j := List.singleton_inj.mp hlast
      obtain ⟨rfl, rfl⟩ := ih hrun' hpast
      exact ⟨rfl, rfl⟩

variable {O : Observer σ ι ο ω}

/-- Without the inputs that do not concern the observer there is a run that looks the same. -/
theorem purge (hrun : Run step (fun _ => guard) s₀ tr s) (hO : O.Unwinds step guard)
    (h0 : O.Same s₀ t₀) :
    ∃ tr' t, Run step (fun _ => guard) t₀ tr' t ∧ tr'.map Prod.fst = O.inputs tr ∧
      O.view tr' = O.view tr ∧ O.Same s t := by
  induction hrun with
  | nil => exact ⟨[], t₀, .nil, rfl, rfl, h0⟩
  | @snoc tr s i _ hguard ih =>
    obtain ⟨tr', t, hrun', hinputs, hview, hsame⟩ := ih
    rw [O.view_snoc, O.inputs_snoc]
    cases hi : O.concerns i with
    | false =>
      obtain ⟨hsees, hsame⟩ := hO.hidden hsame hguard hi
      refine ⟨tr', t, hrun', ?_, ?_, hsame⟩
      · simpa using hinputs
      · rw [hsees, List.append_nil, hview]
    | true =>
      obtain ⟨hguard, hsees, hsame⟩ := hO.seen hsame hguard hi
      refine ⟨_, _, hrun'.snoc i hguard, ?_, ?_, hsame⟩
      · simp [hinputs]
      · rw [O.view_snoc, hview, hsees]

/-- Runs with the same inputs of concern show the observer the same. -/
theorem noninterference (hrun : Run step (fun _ => guard) s₀ tr s)
    (hrun' : Run step (fun _ => guard) s₀ tr' s') (hO : O.Unwinds step guard)
    (h0 : O.Same s₀ s₀) (hinputs : O.inputs tr = O.inputs tr') :
    O.view tr = O.view tr' ∧ ∃ t, O.Same s t ∧ O.Same s' t := by
  obtain ⟨_, t, hpurged, hfst, hview, hsame⟩ := hrun.purge hO h0
  obtain ⟨_, t', hpurged', hfst', hview', hsame'⟩ := hrun'.purge hO h0
  obtain ⟨rfl, rfl⟩ := hpurged.unique_of_inputs hpurged' (by rw [hfst, hfst', hinputs])
  exact ⟨hview.symm.trans hview', t, hsame, hsame'⟩

end Run

end Mealy
