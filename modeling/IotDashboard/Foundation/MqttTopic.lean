import IotDashboard.Foundation.StdString

/-!
# MQTT topics

A topic is a sequence of levels between slashes. In a filter the level `+` stands for any one
level, and `#` in the last place for any levels that are left, also for none. That a leading
wildcard does not match a topic that starts with `$` is left out.

* `MqttTopic.filterMatches`: whether a filter matches a topic;
* `MqttTopic.IsTopicName`: what may be published to;
* `MqttTopic.filterMatches_iff_eq`: a filter without wildcards matches itself only.
-/

namespace MqttTopic

open StdString

/-- The levels of a topic or of a filter. -/
def levels (s : StdString) : List StdString := s.splitOn (byte '/')

/-- Match a filter against a topic, level by level. -/
def levelsMatch : List StdString → List StdString → Bool
  | [], topic => topic.isEmpty
  | level :: filter, topic =>
    -- `#` is a wildcard in the last place only.
    (level = lit "#" && filter.isEmpty) ||
      match topic with
      | [] => false
      | level' :: topic => (level = lit "+" || level = level') && levelsMatch filter topic

/-- Whether the filter matches the topic. -/
def filterMatches (filter topic : StdString) : Bool := levelsMatch (levels filter) (levels topic)

/-- No wildcard character occurs in the string. -/
def Literal (s : StdString) : Prop := byte '+' ∉ s ∧ byte '#' ∉ s

instance (s : StdString) : Decidable (Literal s) := inferInstanceAs (Decidable (_ ∧ _))

/-- A topic that may be published to. -/
def IsTopicName (topic : StdString) : Prop := topic ≠ [] ∧ Literal topic ∧ topic.NulFree

/-- A topic is determined by its levels. -/
theorem levels_inj {s s' : StdString} (h : levels s = levels s') : s = s' := by
  have hjoin := congrArg ([byte '/'].intercalate) h
  rwa [levels, levels, List.intercalate_splitOn, List.intercalate_splitOn] at hjoin

/-- What occurs in a level occurs in the topic. -/
theorem mem_of_mem_levels {s level : StdString} {c : UInt8} (hlevel : level ∈ levels s)
    (hc : c ∈ level) : c ∈ s := by
  induction s generalizing level with
  | nil =>
    rw [levels, List.splitOn_nil, List.mem_singleton] at hlevel
    rwa [← hlevel]
  | cons x s ih =>
    obtain ⟨first, rest, hlevels⟩ := List.exists_cons_of_ne_nil (List.splitOn_ne_nil (byte '/') s)
    rw [levels, List.splitOn_cons_eq_if_modifyHead, hlevels] at hlevel
    rw [levels, hlevels] at ih
    split at hlevel
    · -- The byte starts a level of its own, so the levels of the rest are among these.
      rcases List.mem_cons.mp hlevel with rfl | hlevel
      · cases hc
      · exact List.mem_cons_of_mem x (ih hlevel hc)
    · rw [List.modifyHead_cons] at hlevel
      rcases List.mem_cons.mp hlevel with rfl | hlevel
      · exact (List.mem_cons.mp hc).elim (fun h => h ▸ List.mem_cons_self)
          fun h => List.mem_cons_of_mem x (ih List.mem_cons_self h)
      · exact List.mem_cons_of_mem x (ih (List.mem_cons_of_mem first hlevel) hc)

/-- A text has no wildcard if neither of its parts has. -/
theorem literal_append {a b : StdString} : Literal (a ++ b) ↔ Literal a ∧ Literal b := by
  simp only [Literal, List.mem_append, not_or]
  tauto

/-- Levels without wildcards match themselves only. -/
theorem levelsMatch_iff_eq {filter topic : List StdString}
    (hfilter : ∀ level ∈ filter, Literal level) :
    levelsMatch filter topic = true ↔ topic = filter := by
  induction filter generalizing topic with
  | nil => simp [levelsMatch]
  | cons level filter ih =>
    obtain ⟨hlevel, hfilter⟩ := List.forall_mem_cons.mp hfilter
    have hmulti : level ≠ lit "#" := by
      rintro rfl
      exact hlevel.2 (by decide)
    have hsingle : level ≠ lit "+" := by
      rintro rfl
      exact hlevel.1 (by decide)
    cases topic with
    | nil => simp [levelsMatch, hmulti]
    | cons level' topic =>
      simp only [levelsMatch, hmulti, hsingle, decide_false, Bool.false_and, Bool.false_or,
        Bool.and_eq_true, decide_eq_true_eq, ih hfilter, List.cons.injEq, eq_comm (b := level)]

/-- A filter without wildcards matches itself only. -/
theorem filterMatches_iff_eq {filter topic : StdString} (hfilter : Literal filter) :
    filterMatches filter topic = true ↔ topic = filter := by
  rw [filterMatches, levelsMatch_iff_eq]
  · exact ⟨levels_inj, congrArg levels⟩
  · intro level hlevel
    exact ⟨fun h => hfilter.1 (mem_of_mem_levels hlevel h),
      fun h => hfilter.2 (mem_of_mem_levels hlevel h)⟩

end MqttTopic
