import IotDashboard.Foundation.Containers
import Mathlib.Data.List.DropRight
import Mathlib.Data.List.Induction
import Mathlib.Tactic.Common

/-!
# Histories

A history is a list, oldest entry first. What is said about it is said about its entries and
what came before them, and proved entry by entry at its end.

* `List.EachAfter`: a property of every entry and its past;
* `List.collectAfter`: what every entry adds after its past;
* `List.Sublist.append_eq_append_iff`: histories of which one leaves entries out;
* `List.mostRecent`: the last write to a key;
* `List.IsNewest`: the newest entries by their time stamps, and when the first ones are these.
-/

namespace List

section EachAfter

variable {α : Type*} {P Q : List α → α → Prop} {l : List α} {a : α}

/-- Every entry is as required after what came before it. -/
def EachAfter (P : List α → α → Prop) (l : List α) : Prop :=
  ∀ past a future, l = past ++ a :: future → P past a

@[simp]
theorem eachAfter_nil : EachAfter P [] := fun past a future h => by simp at h

/-- What holds of each entry holds of the earlier ones and of the last. -/
@[simp]
theorem eachAfter_snoc : EachAfter P (l ++ [a]) ↔ EachAfter P l ∧ P l a := by
  constructor
  · intro h
    refine ⟨fun past b future hl => h past b (future ++ [a]) ?_, h l a [] rfl⟩
    rw [hl, append_assoc, cons_append]
  · rintro ⟨hl, ha⟩ past b future heq
    rcases eq_nil_or_concat future with rfl | ⟨future, last, rfl⟩
    · obtain ⟨rfl, hlast⟩ := append_inj' heq rfl
      obtain rfl := (cons.inj hlast).1
      exact ha
    · have hsplit : l ++ [a] = (past ++ b :: future) ++ [last] := by simpa using heq
      exact hl past b future (append_inj' hsplit rfl).1

/-- What follows for each entry holds of each entry. -/
theorem EachAfter.imp (h : EachAfter P l) (hPQ : ∀ past a, P past a → Q past a) :
    EachAfter Q l :=
  fun past a future hl => hPQ past a (h past a future hl)

end EachAfter

section CollectAfter

variable {α β : Type*}

/-- What each entry adds, oldest first, when the entries of `past` came before. -/
def collectFrom (f : List α → α → List β) : List α → List α → List β
  | _, [] => []
  | past, a :: l => f past a ++ collectFrom f (past ++ [a]) l

/-- What each entry adds after what came before it, oldest first. -/
def collectAfter (f : List α → α → List β) (l : List α) : List β := collectFrom f [] l

@[simp]
theorem collectAfter_nil (f : List α → α → List β) : collectAfter f [] = [] := rfl

/-- The last entry collects what it says after all others. -/
theorem collectFrom_snoc (f : List α → α → List β) (past l : List α) (a : α) :
    collectFrom f past (l ++ [a]) = collectFrom f past l ++ f (past ++ l) a := by
  induction l generalizing past with
  | nil => simp [collectFrom]
  | cons b l ih =>
    rw [cons_append, collectFrom, ih, collectFrom, append_assoc, append_assoc, singleton_append]

/-- The last entry adds what it says. -/
@[simp]
theorem collectAfter_snoc (f : List α → α → List β) (l : List α) (a : α) :
    collectAfter f (l ++ [a]) = collectAfter f l ++ f l a :=
  collectFrom_snoc f [] l a

end CollectAfter

/-- Two histories of which one only leaves entries out agree exactly if they agree before and
after every point. -/
theorem Sublist.append_eq_append_iff {α : Type*} {past past' future future' : List α}
    (hpast : past <+ past') (hfuture : future <+ future') :
    past ++ future = past' ++ future' ↔ past = past' ∧ future = future' := by
  constructor
  · intro h
    have hlength : past.length + future.length = past'.length + future'.length := by
      simpa using congrArg length h
    have hle := hpast.length_le
    have hle' := hfuture.length_le
    exact ⟨hpast.eq_of_length (by omega), hfuture.eq_of_length (by omega)⟩
  · rintro ⟨rfl, rfl⟩
    rfl

section MostRecent

variable {κ β : Type*} [DecidableEq κ]

/-- The last value written to a key. -/
def mostRecent (history : List (κ × β)) (k : κ) : Option β := history.reverse.lookup k

@[simp]
theorem mostRecent_nil (k : κ) : mostRecent ([] : List (κ × β)) k = none := rfl

/-- The last entry decides about its own key. -/
theorem mostRecent_snoc (history : List (κ × β)) (k' : κ) (v : β) (k : κ) :
    (history ++ [(k', v)]).mostRecent k = if k = k' then some v else history.mostRecent k := by
  rw [mostRecent, reverse_append, reverse_singleton, singleton_append, lookup_cons_ite]
  rfl

/-- The same for a history whose entries may or may not write. -/
theorem mostRecent_filterMap_snoc {α : Type*} (f : α → Option (κ × β)) (l : List α) (a : α)
    (k : κ) :
    ((l ++ [a]).filterMap f).mostRecent k =
      match f a with
      | none => (l.filterMap f).mostRecent k
      | some (k', v) => if k = k' then some v else (l.filterMap f).mostRecent k := by
  rw [filterMap_append]
  cases hf : f a with
  | none => rw [filterMap_cons_none hf, filterMap_nil, append_nil]
  | some write =>
    rw [filterMap_cons_some hf, filterMap_nil]
    exact mostRecent_snoc (l.filterMap f) write.1 write.2 k

/-- A later write wins. -/
theorem mostRecent_append (history later : List (κ × β)) (k : κ) :
    (history ++ later).mostRecent k = (later.mostRecent k).or (history.mostRecent k) := by
  rw [mostRecent, reverse_append, lookup_append]
  rfl

/-- Only the writes to a key matter for it. -/
theorem mostRecent_filter (p : κ → Bool) (history : List (κ × β)) {k : κ} (hk : p k = true) :
    (history.filter fun e => p e.1).mostRecent k = history.mostRecent k := by
  induction history using List.reverseRecOn with
  | nil => rfl
  | append_singleton history e ih =>
    rw [filter_append, mostRecent_snoc]
    by_cases hpe : p e.1 = true
    · have hlast : ([e].filter fun e => p e.1) = [e] := filter_cons_of_pos hpe
      rw [hlast, mostRecent_snoc, ih]
    · have hlast : ([e].filter fun e => p e.1) = [] := filter_cons_of_neg hpe
      have hne : k ≠ e.1 := fun heq => hpe (heq ▸ hk)
      rw [hlast, append_nil, ih, if_neg hne]

/-- A key that the filter takes out has no entry left. -/
theorem mostRecent_filter_of_false (p : κ → Bool) (history : List (κ × β)) {k : κ}
    (hk : p k = false) : (history.filter fun e => p e.1).mostRecent k = none := by
  rw [mostRecent, lookup_eq_none_iff]
  intro e he
  have hpe := (mem_filter.mp (mem_reverse.mp he)).2
  rw [bne_iff_ne]
  rintro rfl
  rw [hk] at hpe
  exact Bool.false_ne_true hpe

/-- Keys may be renamed as long as they stay apart. -/
theorem mostRecent_map {κ' : Type*} [DecidableEq κ'] {f : κ → κ'} (hf : Function.Injective f)
    (history : List (κ × β)) (k : κ) :
    (history.map fun e => (f e.1, e.2)).mostRecent (f k) = history.mostRecent k := by
  induction history using List.reverseRecOn with
  | nil => rfl
  | append_singleton history e ih =>
    rw [map_append, map_singleton, mostRecent_snoc, mostRecent_snoc, ih]
    simp only [hf.eq_iff]

end MostRecent

section Newest

variable {α β : Type*} {n : ℕ} {l : List α}

/-- The last entries are some of the entries. -/
theorem rtake_sublist (n : ℕ) (l : List α) : (l.rtake n).Sublist l := drop_sublist _ _

/-- A buffer that drops its oldest entry when it gets too long holds the newest ones. -/
theorem rtake_concat (n : ℕ) (l : List α) (a : α) :
    (l ++ [a]).rtake n =
      if n < (l.rtake n ++ [a]).length then (l.rtake n ++ [a]).tail else l.rtake n ++ [a] := by
  have hlength : (l.rtake n ++ [a]).length = min n l.length + 1 := by
    rw [length_append, length_singleton, rtake, length_drop]
    omega
  have hconcat : l.rtake n ++ [a] = (l ++ [a]).drop (l.length - n) :=
    (drop_append_of_le_length (Nat.sub_le _ _)).symm
  rw [hlength, hconcat, tail_drop, rtake, length_append, length_singleton]
  split
  · congr 1
    omega
  · congr 1
    omega

/-- `newest` has, in the order of their stamps, `n` of the entries or all there are, and none of the
others has a later stamp than one of these. Among entries with one stamp the choice is free. -/
structure IsNewest [LE β] (stamp : α → β) (n : ℕ) (l newest : List α) : Prop where
  sorted : newest.Pairwise fun a b => stamp a ≤ stamp b
  length : newest.length = min n l.length
  others : ∃ others, (others ++ newest).Perm l ∧ ∀ a ∈ others, ∀ b ∈ newest, stamp a ≤ stamp b

variable [Preorder β] {stamp : α → β}

/-- No entry is newer than the last of the newest. -/
theorem IsNewest.le_last {newest : List α} {a last : α} (h : IsNewest stamp n l newest)
    (hlast : newest.getLast? = some last) (ha : a ∈ l) : stamp a ≤ stamp last := by
  obtain ⟨others, hperm, hle⟩ := h.others
  rcases mem_append.mp (hperm.mem_iff.mpr ha) with ha | ha
  · exact hle a ha last (mem_of_getLast? hlast)
  · have hmax := h.sorted.rel_getLast_of_rel_getLast_getLast ha le_rfl
    rwa [getLast_of_getLast?_eq_some hlast] at hmax

/-- The first entries are the newest ones if they are in order and none of the others is newer than
the very first. -/
theorem isNewest_take_iff (hn : 0 < n) : IsNewest stamp n l (l.take n) ↔
    ((l.take n).Pairwise fun a b => stamp a ≤ stamp b) ∧
      ∀ a ∈ l.drop n, ∀ first ∈ l.head?, stamp a ≤ stamp first := by
  have hsplit : (l.drop n ++ l.take n).Perm l := by
    conv_rhs => rw [← take_append_drop n l]
    exact perm_append_comm
  constructor
  · intro h
    obtain ⟨others, hperm, hle⟩ := h.others
    -- The others are those that come after the first ones.
    have hothers : others.Perm (l.drop n) := (perm_append_right_iff _).mp (hperm.trans hsplit.symm)
    refine ⟨h.sorted, fun a ha first hfirst => hle a (hothers.mem_iff.mpr ha) first ?_⟩
    refine mem_of_mem_head? (l := l.take n) ?_
    rwa [head?_take, if_neg (Nat.ne_of_gt hn)]
  · rintro ⟨hsorted, hle⟩
    refine ⟨hsorted, length_take, l.drop n, hsplit, fun a ha b hb => ?_⟩
    -- The first entry is the earliest of the first ones.
    have hmin := hsorted.rel_head_of_rel_head_head hb le_rfl
    refine (hle a ha _ ?_).trans hmin
    rw [head_take]
    exact head?_eq_some_head _

/-- In a history that is in order the first entries are the newest ones if there are no others, or
if all have the same stamp. -/
theorem isNewest_take_iff_of_pairwise (hn : 0 < n)
    (hl : l.Pairwise fun a b => stamp a ≤ stamp b) : IsNewest stamp n l (l.take n) ↔
      l.length ≤ n ∨ ∀ a ∈ l, ∀ b ∈ l, stamp a ≤ stamp b := by
  rw [isNewest_take_iff hn, and_iff_right (hl.sublist (take_sublist n l))]
  constructor
  · intro hle
    rcases Nat.lt_or_ge n l.length with hlt | hge
    · refine .inr fun a ha b hb => ?_
      have hne : l.drop n ≠ [] := by simpa using hlt
      -- The last entry is not newer than the first one.
      have hlast := hle _ (getLast_mem hne) _ (head?_eq_some_head (ne_nil_of_mem hb))
      rw [getLast_drop] at hlast
      calc stamp a ≤ stamp (l.getLast _) := hl.rel_getLast_of_rel_getLast_getLast ha le_rfl
        _ ≤ stamp (l.head _) := hlast
        _ ≤ stamp b := hl.rel_head_of_rel_head_head hb le_rfl
    · exact .inl hge
  · rintro (hle | hsame) a ha first hfirst
    · rw [drop_of_length_le hle] at ha
      cases ha
    · exact hsame a (mem_of_mem_drop ha) first (mem_of_mem_head? hfirst)

end Newest

end List
