import IotDashboard.Foundation.StdString

/-!
# Well-formed UTF-8

The recogniser reads one byte at a time and remembers the ranges in which the remaining bytes of
the current sequence must lie. Overlong forms, surrogates and code points above `U+10FFFF` are
excluded by the range of the second byte.
-/

namespace StdString

/-- The byte ranges still expected: empty between two sequences, `none` after an error. -/
abbrev Utf8State := Option (List (UInt8 × UInt8))

/-- The ranges of the bytes that may follow a first byte. -/
def utf8Continuation (b : UInt8) : Utf8State :=
  let tail : UInt8 × UInt8 := (0x80, 0xBF)
  if b ≤ 0x7F then some []
  else if 0xC2 ≤ b ∧ b ≤ 0xDF then some [tail]
  else if b = 0xE0 then some [(0xA0, 0xBF), tail]
  else if b = 0xED then some [(0x80, 0x9F), tail]
  else if 0xE1 ≤ b ∧ b ≤ 0xEF then some [tail, tail]
  else if b = 0xF0 then some [(0x90, 0xBF), tail, tail]
  else if 0xF1 ≤ b ∧ b ≤ 0xF3 then some [tail, tail, tail]
  else if b = 0xF4 then some [(0x80, 0x8F), tail, tail]
  else none

/-- Read one byte. -/
def utf8Step (expected : Utf8State) (b : UInt8) : Utf8State :=
  match expected with
  | none => none
  | some [] => utf8Continuation b
  | some ((lo, hi) :: rest) => if lo ≤ b ∧ b ≤ hi then some rest else none

/-- The string is well-formed UTF-8. -/
def isUtf8 (s : StdString) : Bool := s.foldl utf8Step (some []) == some []

/-- ASCII text is well-formed. -/
theorem isUtf8_of_ascii {s : StdString} (h : ∀ b ∈ s, b ≤ 0x7F) : s.isUtf8 = true := by
  suffices hstate : s.foldl utf8Step (some []) = some [] by rw [isUtf8, hstate, beq_self_eq_true]
  induction s with
  | nil => rfl
  | cons b s ih =>
    have hstep : utf8Step (some []) b = some [] := if_pos (h b List.mem_cons_self)
    rw [List.foldl_cons, hstep, ih fun c hc => h c (List.mem_cons_of_mem b hc)]

/-- A byte below the ranges of continuation bytes ends no sequence. -/
theorem ranges_of_utf8Continuation {b : UInt8} {expected : List (UInt8 × UInt8)}
    (h : utf8Continuation b = some expected) : ∀ r ∈ expected, 0x80 ≤ r.1 := by
  rw [utf8Continuation] at h
  repeat' split at h
  all_goals cases h
  all_goals simp

/-- Continuation bytes are never ASCII. -/
theorem ranges_of_foldl {s : StdString} {expected : List (UInt8 × UInt8)}
    (h : s.foldl utf8Step (some []) = some expected) : ∀ r ∈ expected, 0x80 ≤ r.1 := by
  induction s using List.reverseRecOn generalizing expected with
  | nil =>
    cases h
    exact fun _ hr => absurd hr List.not_mem_nil
  | append_singleton s b ih =>
    rw [List.foldl_append, List.foldl_cons, List.foldl_nil] at h
    match hs : s.foldl utf8Step (some []) with
    | none =>
      rw [hs] at h
      cases h
    | some [] =>
      rw [hs] at h
      exact ranges_of_utf8Continuation h
    | some ((lo, hi) :: rest) =>
      rw [hs, utf8Step] at h
      split at h
      · cases h
        exact fun r hr => ih hs r (List.mem_cons_of_mem _ hr)
      · cases h

/-- Behind a malformed byte nothing is well-formed. -/
theorem foldl_utf8Step_none (s : StdString) : s.foldl utf8Step none = none := by
  induction s with
  | nil => rfl
  | cons b s ih => exact ih

/-- What comes before an ASCII byte is well-formed by itself. -/
theorem isUtf8_of_append_cons {s t : StdString} {b : UInt8} (hb : b ≤ 0x7F)
    (h : (s ++ b :: t).isUtf8 = true) : s.isUtf8 = true := by
  rw [isUtf8, beq_iff_eq, List.foldl_append, List.foldl_cons] at h
  rw [isUtf8, beq_iff_eq]
  match hs : s.foldl utf8Step (some []) with
  | none =>
    rw [hs] at h
    exact absurd ((foldl_utf8Step_none t).symm.trans h) nofun
  | some [] => rfl
  | some ((lo, hi) :: rest) =>
    have hlo := ranges_of_foldl hs _ List.mem_cons_self
    have hout : ¬ (lo ≤ b ∧ b ≤ hi) := fun hin => by
      have hrange := UInt8.le_trans hlo (UInt8.le_trans hin.1 hb)
      exact absurd hrange (by decide)
    rw [hs, utf8Step, if_neg hout] at h
    exact absurd ((foldl_utf8Step_none t).symm.trans h) nofun

/-- A well-formed text is well-formed up to a NUL byte. -/
theorem isUtf8_cStr {s : StdString} (h : s.isUtf8 = true) : s.cStr.isUtf8 = true := by
  by_cases hnul : s.NulFree
  · rwa [cStr_eq_self hnul]
  · have hdrop : s.dropWhile (· != 0) ≠ [] := fun hnil => by
      rw [List.dropWhile_eq_nil_iff] at hnil
      exact hnul fun hmem => by simpa using hnil 0 hmem
    obtain ⟨b, t, hbt⟩ := List.exists_cons_of_ne_nil hdrop
    have hhead := List.head_dropWhile_not (· != 0) hdrop
    obtain rfl : b = 0 := by simpa [hbt] using hhead
    have hsplit : s.cStr ++ 0 :: t = s := by
      rw [← hbt]
      exact List.takeWhile_append_dropWhile
    rw [← hsplit] at h
    exact isUtf8_of_append_cons (by decide) h

/-! ## Texts without escapes -/

/-- The byte is printable ASCII and stands for itself in a quoted text: no quotation mark, and no
backslash. -/
def isPlain (b : UInt8) : Bool := 32 ≤ b && b ≤ 126 && b != 34 && b != 92

/-- The text can be put between quotation marks as it is. -/
def Plain (s : StdString) : Prop := s.all isPlain = true

instance (s : StdString) : Decidable s.Plain := inferInstanceAs (Decidable (_ = _))

section Plain

variable {s t : StdString}

/-- Plain texts one after the other are plain. -/
theorem Plain.append (hs : s.Plain) (ht : t.Plain) : StdString.Plain (s ++ t) := by
  rw [Plain, List.all_append, hs, ht]
  rfl

/-- Decimal digits are plain. -/
theorem plain_toDecimal (n : ℕ) : StdString.Plain (toDecimal n) := by
  refine List.all_eq_true.mpr fun c hc => ?_
  have hdigit := isDigit_of_mem_toDecimal hc
  simp only [isDigit, Bool.and_eq_true, decide_eq_true_eq, UInt8.le_iff_toNat_le] at hdigit
  have hlo : 48 ≤ c.toNat := hdigit.1
  have hhi : c.toNat ≤ 57 := hdigit.2
  -- The digits lie between the two bytes that would have to be escaped.
  have hquote : c ≠ 34 := by
    rintro rfl
    exact absurd hlo (by decide)
  have hbackslash : c ≠ 92 := by
    rintro rfl
    exact absurd hhi (by decide)
  simp only [isPlain, Bool.and_eq_true, decide_eq_true_eq, bne_iff_ne, UInt8.le_iff_toNat_le]
  exact ⟨⟨⟨hlo.trans' (by decide), hhi.trans (by decide)⟩, hquote⟩, hbackslash⟩

/-- Plain texts are UTF-8. -/
theorem Plain.isUtf8 (h : s.Plain) : s.isUtf8 = true := by
  refine isUtf8_of_ascii fun b hb => ?_
  have hplain := List.all_eq_true.mp h b hb
  simp only [isPlain, Bool.and_eq_true, decide_eq_true_eq] at hplain
  exact UInt8.le_trans hplain.1.1.2 (by decide)

end Plain

end StdString
