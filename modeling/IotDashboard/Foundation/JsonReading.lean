import IotDashboard.Foundation.JsonText

/-!
# What is read is well-formed

Whatever the text was, a value that was read has UTF-8 strings, integers in their range and sorted
keys.

## Main results

* `JsonText.utf8_of_parse`, `JsonText.portable_of_parse`: parsed values are well-formed.
-/

namespace JsonText

open Json StdString

variable {readReal : StdString → Option Double} {numbers : Double → Prop}

private lemma isUtf8_of_readString {s content rest : StdString}
    (h : readString s = some (content, rest)) : content.isUtf8 = true := by
  simp only [readString] at h
  split at h
  · split at h
    · cases h
      assumption
    · cases h
  · cases h

private lemma mem_assign {key : StdString} {v : Json} {fields : List (StdString × Json)}
    {f : StdString × Json} (h : f ∈ assign key v fields) :
    f = (key, v) ∨ f ∈ fields := by
  induction fields with
  | nil => exact .inl (by simpa [assign] using h)
  | cons g fields ih =>
    rw [assign] at h
    split at h
    · simpa using h
    · split at h
      · next heq =>
        rcases List.mem_cons.mp h with rfl | h
        · exact .inl (by rw [heq])
        · exact .inr (by simp [h])
      · rcases List.mem_cons.mp h with rfl | h
        · exact .inr (by simp)
        · exact (ih h).imp_right fun h => by simp [h]

/-- Assigning files a key where `emplace` does. -/
private lemma map_fst_assign (key : StdString) (v : Json) (fields : List (StdString × Json)) :
    (assign key v fields).map Prod.fst = (emplace key v fields).map Prod.fst := by
  induction fields with
  | nil => rfl
  | cons g fields ih =>
    rw [assign, emplace]
    split
    · rfl
    split
    · rfl
    · rw [List.map_cons, List.map_cons, ih]

/-- The fields that are filed are sorted, and were there before or are among those read. -/
private lemma foldl_assign_spec (fields : List (StdString × Json)) :
    ∀ acc, (acc.map Prod.fst).Pairwise (· < ·) →
      ((fields.foldl (fun acc f => assign f.1 f.2 acc) acc).map Prod.fst).Pairwise (· < ·) ∧
        ∀ f ∈ fields.foldl (fun acc f => assign f.1 f.2 acc) acc, f ∈ acc ∨ f ∈ fields := by
  induction fields with
  | nil => exact fun acc hsorted => ⟨hsorted, fun f hf => .inl hf⟩
  | cons g fields ih =>
    intro acc hsorted
    obtain ⟨hnext, hmem⟩ := ih (assign g.1 g.2 acc) (by
      rw [map_fst_assign]
      exact sorted_emplace hsorted)
    refine ⟨hnext, fun f hf => ?_⟩
    rcases hmem f hf with hf | hf
    · rcases mem_assign hf with rfl | hf
      · exact .inr List.mem_cons_self
      · exact .inl hf
    · exact .inr (List.mem_cons_of_mem _ hf)

/-- What the reader makes: strings are UTF-8, integers fit, keys are sorted, and floating-point
numbers are of the kind that their reader makes. -/
private def WellFormed (numbers : Double → Prop) (j : Json) : Prop :=
  Utf8 j ∧ Portable numbers j

private lemma WellFormed.array {xs : List Json} (h : ∀ x ∈ xs, WellFormed numbers x) :
    WellFormed numbers (.array xs) :=
  ⟨.array fun x hx => (h x hx).1, .array fun x hx => (h x hx).2⟩

private lemma WellFormed.object {fields : List (StdString × Json)}
    (h : ∀ f ∈ fields, f.1.isUtf8 = true ∧ WellFormed numbers f.2) :
    WellFormed numbers (.object (fields.foldl (fun acc f => assign f.1 f.2 acc) [])) := by
  obtain ⟨hsorted, hmem⟩ := foldl_assign_spec fields [] List.Pairwise.nil
  have hfields := fun (f : StdString × Json) hf =>
    h f ((hmem f hf).resolve_left List.not_mem_nil)
  exact ⟨.object (fun f hf => (hfields f hf).1) fun f hf => (hfields f hf).2.1,
    .object hsorted fun f hf => (hfields f hf).2.2⟩

private lemma wellFormed_of_readScalar (hreads : ∀ t d, readReal t = some d → numbers d)
    {s rest : StdString} {j : Json} (h : readScalar readReal s = some (j, rest)) :
    WellFormed numbers j := by
  have hreal {token tail : StdString} (h : ((readReal token).map fun d => (Json.real d, tail)) =
      some (j, rest)) : WellFormed numbers j := by
    obtain ⟨d, hd, heq⟩ := Option.map_eq_some_iff.mp h
    cases heq
    exact ⟨.real d, .real (hreads _ d hd)⟩
  simp only [readScalar, readNumber] at h
  split_ifs at h
  · cases h
    exact ⟨.null, .null⟩
  · cases h
    exact ⟨.boolean _, .boolean _⟩
  · cases h
    exact ⟨.boolean _, .boolean _⟩
  · split at h
    · split_ifs at h with hrange
      · cases h
        exact ⟨.number _, .number hrange.1 hrange.2⟩
      · exact hreal h
    · exact hreal h

/-- Every reader yields well-formed values; the induction is on the fuel they share. -/
private lemma wellFormed_of_read (hreads : ∀ t d, readReal t = some d → numbers d) (n : ℕ) :
    (∀ {s j rest}, readValue readReal n s = some (j, rest) → WellFormed numbers j) ∧
    (∀ {s xs rest}, readElements readReal n s = some (xs, rest) →
      ∀ x ∈ xs, WellFormed numbers x) ∧
    (∀ {s f rest}, readMember readReal n s = some (f, rest) →
      f.1.isUtf8 = true ∧ WellFormed numbers f.2) ∧
    (∀ {s fs rest}, readMembers readReal n s = some (fs, rest) →
      ∀ f ∈ fs, f.1.isUtf8 = true ∧ WellFormed numbers f.2) := by
  induction n with
  | zero => simp [readValue, readElements, readMember, readMembers]
  | succ n ih =>
    obtain ⟨ihvalue, ihelements, ihmember, ihmembers⟩ := ih
    refine ⟨?value, ?elements, ?member, ?members⟩
    case value =>
      intro s j rest h
      rw [readValue] at h
      split at h
      · cases h
      · split_ifs at h
        · obtain ⟨p, hp, heq⟩ := Option.map_eq_some_iff.mp h
          cases heq
          exact ⟨.string (isUtf8_of_readString hp), .string _⟩
        · cases h
          exact .array (by simp)
        · split at h
          · next hx =>
            obtain ⟨p, hp, heq⟩ := Option.map_eq_some_iff.mp h
            cases heq
            exact .array (List.forall_mem_cons.mpr ⟨ihvalue hx, ihelements hp⟩)
          · cases h
        · cases h
          exact ⟨.object (by simp) (by simp), .object List.Pairwise.nil (by simp)⟩
        · split at h
          · next hx =>
            obtain ⟨p, hp, heq⟩ := Option.map_eq_some_iff.mp h
            cases heq
            -- Whatever is filed was read as the first member or as a later one.
            exact .object (List.forall_mem_cons.mpr ⟨ihmember hx, ihmembers hp⟩)
          · cases h
        · exact wellFormed_of_readScalar hreads h
    case elements =>
      intro s xs rest h
      rw [readElements] at h
      split at h
      · cases h
        simp
      · split at h
        · next hx =>
          obtain ⟨p, hp, heq⟩ := Option.map_eq_some_iff.mp h
          cases heq
          exact List.forall_mem_cons.mpr ⟨ihvalue hx, ihelements hp⟩
        · cases h
      · cases h
    case member =>
      intro s f rest h
      rw [readMember] at h
      split at h
      · split at h
        · next hkey =>
          split at h
          · obtain ⟨p, hp, heq⟩ := Option.map_eq_some_iff.mp h
            cases heq
            exact ⟨isUtf8_of_readString hkey, ihvalue hp⟩
          · cases h
        · cases h
      · cases h
    case members =>
      intro s fs rest h
      rw [readMembers] at h
      split at h
      · cases h
        simp
      · split at h
        · next hf =>
          obtain ⟨p, hp, heq⟩ := Option.map_eq_some_iff.mp h
          cases heq
          intro f hmem
          rcases List.mem_cons.mp hmem with rfl | hmem
          · exact ihmember hf
          · exact ihmembers hp f hmem
        · cases h
      · cases h

private lemma wellFormed_of_parse (hreads : ∀ t d, readReal t = some d → numbers d)
    {s : StdString} {j : Json} (h : parse readReal s = .ok j) : WellFormed numbers j := by
  unfold parse at h
  split at h
  · next hread =>
    split at h
    · cases h
      exact (wellFormed_of_read hreads _).1 hread
    · cases h
  · cases h

/-- Parsed values hold well-formed UTF-8 only. -/
theorem utf8_of_parse {s : StdString} {j : Json} (h : parse readReal s = .ok j) : Utf8 j :=
  have hwellFormed : WellFormed (fun _ => True) j := wellFormed_of_parse (fun _ _ _ => trivial) h
  hwellFormed.1

/-- Parsed values are portable, as far as the reader of floating-point numbers goes. -/
theorem portable_of_parse (hreads : ∀ t d, readReal t = some d → numbers d)
    {s : StdString} {j : Json} (h : parse readReal s = .ok j) : Portable numbers j :=
  (wellFormed_of_parse hreads h).2

end JsonText
