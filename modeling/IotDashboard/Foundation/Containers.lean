import Mathlib.Data.List.AList
import Mathlib.Data.List.Forall2
import Mathlib.Data.List.Induction
import Mathlib.Logic.Function.Basic

/-!
# Associative containers

Tables whose keys are distinct, loops that visit every key of such a table, and loops that
convert the elements of a list.

* `AList.mapValues`: a loop that changes every value in place;
* `AList.lookup_replace`: a value that is changed in place;
* `List.filterMap_eq_toList`: a list of which one element gives something;
* `List.visit`: a loop that changes what is filed under each key of a list;
* `List.groupOn`: a loop that files the elements of a list under their keys;
* `List.mem_groupOn_iff`: the groups that it makes;
* `List.mapM_map_of_forall`, `List.forall₂_of_mapM_eq_ok`: conversions that can fail.
-/

namespace AList

variable {α : Type*} {β : α → Type*}

/-- Change every value in place. -/
def mapValues (f : ∀ a, β a → β a) (s : AList β) : AList β where
  entries := s.entries.map fun e => ⟨e.1, f e.1 e.2⟩
  nodupKeys := by
    have hkeys : (s.entries.map fun e => (⟨e.1, f e.1 e.2⟩ : Sigma β)).keys = s.keys := by
      simp [List.keys, AList.keys, Function.comp_def]
    rw [List.NodupKeys, hkeys]
    exact s.keys_nodup

@[simp]
theorem keys_mapValues (f : ∀ a, β a → β a) (s : AList β) : (s.mapValues f).keys = s.keys := by
  simp [mapValues, keys, List.keys, Function.comp_def]

/-- Changing all values changes the one under a key. -/
@[simp]
theorem lookup_mapValues [DecidableEq α] (f : ∀ a, β a → β a) (s : AList β) (a : α) :
    (s.mapValues f).lookup a = (s.lookup a).map (f a) :=
  List.dlookup_map₂ a

end AList

namespace List

/-- Only the entry of the key changes, if there is one. -/
theorem dlookup_kreplace {α β : Type*} [DecidableEq α] (a : α) (b : β)
    (l : List (Sigma fun _ : α => β)) (a' : α) :
    (l.kreplace a b).dlookup a' =
      if a' = a then (l.dlookup a).map fun _ => b else l.dlookup a' := by
  induction l with
  | nil =>
    rw [kreplace, lookmap_nil]
    split <;> rfl
  | cons e l ih =>
    obtain ⟨k, v⟩ := e
    rw [kreplace] at ih ⊢
    by_cases hk : a = k
    · subst hk
      rw [lookmap_cons_some _ _ (dif_pos rfl)]
      by_cases ha : a' = a
      · subst ha
        simp
      · have hne : a' ≠ (⟨a, v⟩ : Sigma fun _ : α => β).1 := ha
        rw [if_neg ha, dlookup_cons_ne _ _ hne]
        exact dlookup_cons_ne _ (⟨a, b⟩ : Sigma fun _ : α => β) hne
    · have hne : a ≠ (⟨k, v⟩ : Sigma fun _ : α => β).1 := hk
      rw [lookmap_cons_none _ _ (dif_neg hk), dlookup_cons_ne _ _ hne]
      by_cases ha : a' = k
      · subst ha
        rw [if_neg (Ne.symm hk), dlookup_cons_eq, dlookup_cons_eq]
      · have hne' : a' ≠ (⟨k, v⟩ : Sigma fun _ : α => β).1 := ha
        rw [dlookup_cons_ne _ _ hne', ih, dlookup_cons_ne _ _ hne']

end List

namespace AList

/-- A value is replaced under its key, if there is one, and stays under every other. -/
theorem lookup_replace {α β : Type*} [DecidableEq α] (a : α) (b : β) (s : AList fun _ : α => β)
    (a' : α) :
    (s.replace a b).lookup a' = if a' = a then (s.lookup a).map fun _ => b else s.lookup a' :=
  List.dlookup_kreplace a b s.entries a'

end AList

namespace List

/-- Only one element of a list gives something. -/
theorem filterMap_eq_toList {α β : Type*} {f : α → Option β} {a : α} {l : List α} (hl : l.Nodup)
    (hf : ∀ b ≠ a, f b = none) (ha : a ∉ l → f a = none) : l.filterMap f = (f a).toList := by
  induction l with
  | nil => rw [ha not_mem_nil, filterMap_nil, Option.toList_none]
  | cons b l ih =>
    obtain ⟨hb, hl⟩ := nodup_cons.mp hl
    by_cases hba : b = a
    · subst hba
      have hrest : l.filterMap f = [] :=
        filterMap_eq_nil_iff.mpr fun c hc => hf c fun heq => hb (heq ▸ hc)
      rw [filterMap_cons, hrest]
      cases f b <;> rfl
    · rw [filterMap_cons_none (hf b hba)]
      exact ih hl fun h => ha (not_mem_cons_of_ne_of_not_mem (Ne.symm hba) h)

/-- Change what is filed under each key of the list, one key after the other. -/
def visit {ι α : Type*} [DecidableEq ι] (f : ι → α → α) (keys : List ι) (table : ι → α) : ι → α :=
  keys.foldl (fun g i => Function.update g i (f i (g i))) table

section Visit

variable {ι α : Type*} [DecidableEq ι] {f : ι → α → α}

/-- Distinct keys are visited once each, and nothing else is touched. -/
theorem visit_apply {keys : List ι} (hkeys : keys.Nodup) (table : ι → α) (i : ι) :
    keys.visit f table i = if i ∈ keys then f i (table i) else table i := by
  induction keys generalizing table with
  | nil => rfl
  | cons k keys ih =>
    obtain ⟨hk, hrest⟩ := nodup_cons.mp hkeys
    have hvisit : (k :: keys).visit f table =
        keys.visit f (Function.update table k (f k (table k))) := rfl
    rw [hvisit, ih hrest]
    by_cases hik : i = k
    · subst hik
      rw [if_neg hk, if_pos mem_cons_self, Function.update_self]
    · rw [Function.update_of_ne hik]
      simp only [mem_cons, hik, false_or]

end Visit

section GroupOn

variable {κ β : Type*} [DecidableEq κ] {k : κ} {v : β}

/-- Append a value to those under a key. A new key comes last. -/
def fileUnder (k : κ) (v : β) : List (κ × List β) → List (κ × List β)
  | [] => [(k, [v])]
  | (k', vs) :: groups =>
    if k = k' then (k', vs ++ [v]) :: groups else (k', vs) :: fileUnder k v groups

/-- The elements under their keys, in the order in which the keys appear. -/
def groupOn (key : β → κ) (l : List β) : List (κ × List β) :=
  l.foldl (fun groups v => groups.fileUnder (key v) v) []

/-- The first entry of a list is found under its own key. -/
theorem lookup_cons_ite {γ : Type*} [BEq κ] [LawfulBEq κ] (k k' : κ) (c : γ)
    (l : List (κ × γ)) : ((k', c) :: l).lookup k = if k = k' then some c else l.lookup k := by
  rw [lookup_cons]
  by_cases hk : k = k'
  · rw [if_pos hk, beq_iff_eq.mpr hk]
  · rw [if_neg hk, beq_eq_false_iff_ne.mpr hk]

/-- With distinct keys, every entry is the one that is found. -/
theorem lookup_eq_some_iff_mem {γ : Type*} {l : List (κ × γ)} (hl : (l.map Prod.fst).Nodup)
    {c : γ} : l.lookup k = some c ↔ (k, c) ∈ l := by
  induction l with
  | nil => exact iff_of_false (fun h => by cases h) not_mem_nil
  | cons e l ih =>
    obtain ⟨k', c'⟩ := e
    obtain ⟨hk', hl⟩ := nodup_cons.mp hl
    rw [lookup_cons_ite, mem_cons, Prod.mk.injEq]
    by_cases hk : k = k'
    · subst hk
      have hrest : (k, c) ∉ l := fun h => hk' (mem_map.mpr ⟨(k, c), h, rfl⟩)
      rw [if_pos rfl, Option.some.injEq, or_iff_left hrest, eq_comm, and_iff_right rfl]
    · rw [if_neg hk, ih hl, or_iff_right fun h => hk h.1]

/-- Filing a value under a key adds it to the values of that key. -/
theorem lookup_fileUnder (groups : List (κ × List β)) (k' : κ) :
    (groups.fileUnder k v).lookup k' =
      if k' = k then some ((groups.lookup k).getD [] ++ [v]) else groups.lookup k' := by
  induction groups with
  | nil => rw [fileUnder, lookup_cons_ite, lookup_nil, lookup_nil, Option.getD_none, nil_append]
  | cons group groups ih =>
    obtain ⟨k₁, vs⟩ := group
    rw [fileUnder, lookup_cons_ite k, lookup_cons_ite k']
    by_cases hk : k = k₁
    · subst hk
      rw [if_pos rfl, if_pos rfl, Option.getD_some, lookup_cons_ite]
      split <;> rfl
    · rw [if_neg hk, if_neg hk, lookup_cons_ite, ih]
      by_cases hk' : k' = k
      · have hne : k' ≠ k₁ := hk' ▸ hk
        rw [if_pos hk', if_neg hne, if_pos hk']
      · rw [if_neg hk', if_neg hk']

/-- A new key comes last; a known one stays where it is. -/
theorem map_fst_fileUnder (groups : List (κ × List β)) :
    (groups.fileUnder k v).map Prod.fst =
      if k ∈ groups.map Prod.fst then groups.map Prod.fst else groups.map Prod.fst ++ [k] := by
  induction groups with
  | nil => rfl
  | cons group groups ih =>
    obtain ⟨k₁, vs⟩ := group
    rw [fileUnder]
    by_cases hk : k = k₁
    · rw [if_pos hk, if_pos (by simp [hk])]
      rfl
    · rw [if_neg hk, map_cons, ih, map_cons]
      by_cases hmem : k ∈ groups.map Prod.fst
      · rw [if_pos hmem, if_pos (mem_cons_of_mem _ hmem)]
      · rw [if_neg hmem, if_neg (not_mem_cons_of_ne_of_not_mem hk hmem)]
        rfl

/-- The groups of a longer list are those before, with the last value filed. -/
theorem groupOn_concat (key : β → κ) (l : List β) :
    (l ++ [v]).groupOn key = (l.groupOn key).fileUnder (key v) v := by
  rw [groupOn, foldl_concat, groupOn]

/-- Each key has one group. -/
theorem nodup_groupOn (key : β → κ) (l : List β) : ((l.groupOn key).map Prod.fst).Nodup := by
  induction l using reverseRecOn with
  | nil => exact nodup_nil
  | append_singleton l v ih =>
    rw [groupOn_concat, map_fst_fileUnder]
    split
    · exact ih
    · next hnew => exact nodup_append.mpr ⟨ih, nodup_singleton _, fun _ hmem _ hlast heq =>
        hnew (mem_singleton.mp hlast ▸ heq ▸ hmem)⟩

/-- What is under a key are the elements that have it. -/
theorem lookup_groupOn (key : β → κ) (l : List β) (k : κ) :
    (l.groupOn key).lookup k =
      if l.filter (key · = k) = [] then none else some (l.filter (key · = k)) := by
  induction l using reverseRecOn with
  | nil => rfl
  | append_singleton l v ih =>
    rw [groupOn_concat, lookup_fileUnder, filter_append]
    by_cases hk : k = key v
    · subst hk
      have hlast : [v].filter (key · = key v) = [v] := filter_cons_of_pos (decide_eq_true rfl)
      rw [if_pos rfl, hlast, ih, if_neg (append_ne_nil_of_right_ne_nil _ (cons_ne_nil v []))]
      congr 2
      split
      · next hnil => rw [hnil, Option.getD_none]
      · rfl
    · have hlast : [v].filter (key · = k) = [] := by simpa using Ne.symm hk
      rw [if_neg hk, hlast, append_nil, ih]

/-- The groups are the elements of one key each. -/
theorem mem_groupOn_iff {key : β → κ} {l vs : List β} :
    (k, vs) ∈ l.groupOn key ↔ vs ≠ [] ∧ vs = l.filter (key · = k) := by
  rw [← lookup_eq_some_iff_mem (nodup_groupOn key l), lookup_groupOn]
  split
  · next hnil => exact iff_of_false (fun h => by cases h) fun h => h.1 (h.2.trans hnil)
  · next hsome =>
    rw [Option.some.injEq, eq_comm]
    exact (and_iff_right_of_imp fun h => h ▸ hsome).symm

end GroupOn

/-- Every element that was written is read. -/
theorem mapM_map_of_forall {m : Type → Type} [Monad m] [LawfulMonad m] {α β γ : Type}
    {write : α → β} {read : β → m γ} {g : α → γ} {xs : List α}
    (h : ∀ x ∈ xs, read (write x) = pure (g x)) :
    (xs.map write).mapM read = pure (xs.map g) := by
  induction xs with
  | nil => exact mapM_nil
  | cons x xs ih =>
    rw [map_cons, mapM_cons, h x mem_cons_self, ih fun y hy => h y (mem_cons_of_mem x hy)]
    simp

/-- What is on the right of related lists has something related to it on the left. -/
theorem Forall₂.exists_of_mem_right {α β : Type*} {R : α → β → Prop} {xs : List α} {ys : List β}
    (h : Forall₂ R xs ys) {y : β} (hy : y ∈ ys) : ∃ x ∈ xs, R x y := by
  induction h with
  | nil => cases hy
  | cons hR _ ih =>
    rcases mem_cons.mp hy with rfl | hy
    · exact ⟨_, mem_cons_self, hR⟩
    · obtain ⟨x, hx, hR⟩ := ih hy
      exact ⟨x, mem_cons_of_mem _ hx, hR⟩

/-- Where a second relation is decided by the right-hand element, it holds of two related lists
exactly if the right-hand one decides so throughout. -/
theorem Forall₂.forall₂_iff {α β : Type*} {P R : α → β → Prop} {Q : β → Prop} {xs : List α}
    {ys : List β} (hiff : ∀ {x y}, P x y → (R x y ↔ Q y)) (h : Forall₂ P xs ys) :
    Forall₂ R xs ys ↔ ∀ y ∈ ys, Q y := by
  induction h with
  | nil => exact iff_of_true .nil fun y hy => absurd hy not_mem_nil
  | cons hhead _ ih => rw [forall₂_cons, forall_mem_cons, hiff hhead, ih]

/-- A loop collects one result for each element, in the order of the elements. -/
theorem forall₂_of_mapM_eq_ok {ε α β : Type*} {f : α → Except ε β} {xs : List α} {ys : List β}
    (h : xs.mapM f = .ok ys) : Forall₂ (fun y x => f x = .ok y) ys xs := by
  induction xs generalizing ys with
  | nil =>
    rw [mapM_nil] at h
    cases h
    exact .nil
  | cons x xs ih =>
    rw [mapM_cons] at h
    rcases hx : f x with e | z
    · rw [hx] at h
      cases h
    rcases hxs : xs.mapM f with e | zs
    · rw [hx, hxs] at h
      cases h
    · rw [hx, hxs] at h
      cases h
      exact .cons hx (ih hxs)

/-- A loop that collects has converted every element. -/
theorem forall_of_mapM_eq_ok {ε α β : Type*} {f : α → Except ε β} {xs : List α} {ys : List β}
    (h : xs.mapM f = .ok ys) : ∀ x ∈ xs, ∃ y, f x = .ok y := by
  have hall := forall₂_of_mapM_eq_ok h
  clear h
  induction hall with
  | nil => exact fun x hx => absurd hx not_mem_nil
  | @cons y x _ _ hx _ ih => exact forall_mem_cons.mpr ⟨⟨y, hx⟩, ih⟩

/-- What a loop collects comes from the elements. -/
theorem exists_of_mapM_eq_ok {ε α β : Type*} {f : α → Except ε β} {xs : List α} {ys : List β}
    (h : xs.mapM f = .ok ys) : ∀ y ∈ ys, ∃ x ∈ xs, f x = .ok y := by
  have hall := forall₂_of_mapM_eq_ok h
  clear h
  induction hall with
  | nil => exact fun y hy => absurd hy not_mem_nil
  | @cons y x _ _ hx _ ih =>
    exact forall_mem_cons.mpr ⟨⟨x, mem_cons_self, hx⟩, fun z hz =>
      (ih z hz).imp fun w hw => ⟨mem_cons_of_mem x hw.1, hw.2⟩⟩

end List
