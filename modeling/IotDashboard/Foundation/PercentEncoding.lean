import IotDashboard.Foundation.StdString

/-!
# Percent-encoding

How a string is written in the query of a URL. A byte stands for itself, if it may occur there and
does not separate parameters, or it is written as `%` and two hexadecimal digits of either case.
In form-encoding a space may be written as `+`. Encoders differ in what they escape, so an
encoding is a relation; `encodeQueryComponent` is the one that escapes all it can.

## Main results

* `Encodes.unique`: a text is the encoding of one string;
* `Encodes.eq_iff`: a string is written as it is exactly when nothing in the text is an escape;
* `encodes_encodeQueryComponent`: every string has an encoding.
-/

namespace PercentEncoding

open StdString

/-- The value of a hexadecimal digit. -/
def hexValue (c : UInt8) : Option UInt8 :=
  if 48 ≤ c ∧ c ≤ 57 then some (c - 48)
  else if 65 ≤ c ∧ c ≤ 70 then some (c - 55)
  else if 97 ≤ c ∧ c ≤ 102 then some (c - 87)
  else none

/-- Letters, digits and four marks, which nobody needs to escape. -/
def isUnreserved (c : UInt8) : Bool :=
  isDigit c || (65 ≤ c && c ≤ 90) || (97 ≤ c && c ≤ 122) || c ∈ lit "-._~"

/-- The bytes that may stand for themselves in a parameter. -/
def isQueryByte (c : UInt8) : Bool := isUnreserved c || c ∈ lit "!$'()*+,;=:@/?"

/-- The text `t` is an encoding of the string `s`. -/
inductive Encodes (form : Bool) : StdString → StdString → Prop
  | nil : Encodes form [] []
  | literal {b : UInt8} {s t : StdString} : isQueryByte b = true →
      (form = true → b ≠ byte '+') → Encodes form s t → Encodes form (b :: s) (b :: t)
  | escape {high low x y : UInt8} {s t : StdString} : hexValue high = some x →
      hexValue low = some y → Encodes form s t →
      Encodes form ((16 * x + y) :: s) (byte '%' :: high :: low :: t)
  | plus {s t : StdString} : form = true → Encodes form s t →
      Encodes form (byte ' ' :: s) (byte '+' :: t)

/-- Nothing in the text is an escape. -/
def Verbatim (form : Bool) (t : StdString) : Prop :=
  byte '%' ∉ t ∧ (form = true → byte '+' ∉ t)

instance decidableVerbatim (form : Bool) (t : StdString) : Decidable (Verbatim form t) :=
  inferInstanceAs (Decidable (_ ∧ (_ → _)))

variable {form : Bool} {s s' t : StdString}

/-- A byte that is written as it is is not the percent sign. -/
theorem ne_percent {b : UInt8} (hb : isQueryByte b = true) : byte '%' ≠ b := by
  rintro rfl
  cases hb

/-- The separator of parameters does not occur in an encoding. -/
theorem Encodes.ampersand_notMem (h : Encodes form s t) : byte '&' ∉ t := by
  -- Neither a query byte nor an escape can be the separator.
  have hdigit {c x : UInt8} (hc : hexValue c = some x) : byte '&' ≠ c := by
    rintro rfl
    cases hc
  induction h with
  | nil => exact List.not_mem_nil
  | literal hb _ _ ih =>
    refine List.not_mem_cons_of_ne_of_not_mem ?_ ih
    rintro rfl
    cases hb
  | escape hhigh hlow _ ih =>
    refine List.not_mem_cons_of_ne_of_not_mem (by decide) ?_
    exact List.not_mem_cons_of_ne_of_not_mem (hdigit hhigh)
      (List.not_mem_cons_of_ne_of_not_mem (hdigit hlow) ih)
  | plus _ _ ih => exact List.not_mem_cons_of_ne_of_not_mem (by decide) ih

/-- The text determines the string. -/
theorem Encodes.unique (h : Encodes form s t) (h' : Encodes form s' t) : s = s' := by
  -- The first byte of the text decides which rule was used last.
  induction h generalizing s' with
  | nil =>
    cases h'
    rfl
  | literal hb hplus _ ih =>
    cases h' with
    | literal _ _ h' => rw [ih h']
    | escape _ _ _ => cases hb
    | plus hform _ => exact absurd rfl (hplus hform)
  | escape hhigh hlow _ ih =>
    cases h' with
    | literal hb _ _ => cases hb
    | escape hhigh' hlow' h' =>
      obtain rfl := Option.some.inj (hhigh.symm.trans hhigh')
      obtain rfl := Option.some.inj (hlow.symm.trans hlow')
      rw [ih h']
  | plus hform _ ih =>
    cases h' with
    | literal _ hplus _ => exact absurd rfl (hplus hform)
    | plus _ h' => rw [ih h']

/-- An encoded text is at least as long. -/
theorem Encodes.length_le (h : Encodes form s t) : s.length ≤ t.length := by
  induction h with
  | nil => exact le_rfl
  | literal _ _ _ ih | plus _ _ ih => exact Nat.succ_le_succ ih
  | escape _ _ _ ih =>
    simp only [List.length_cons]
    omega

/-- A string is written as it is exactly when nothing in the text is an escape. -/
theorem Encodes.eq_iff (h : Encodes form s t) : t = s ↔ Verbatim form t := by
  induction h with
  | nil => exact iff_of_true rfl ⟨List.not_mem_nil, fun _ => List.not_mem_nil⟩
  | literal hb hplus _ ih =>
    have hpercent := ne_percent hb
    rw [List.cons_inj_right, ih]
    simp only [Verbatim, List.mem_cons, not_or, hpercent, not_false_eq_true, true_and]
    exact and_congr_right fun _ => forall_congr' fun hform =>
      (and_iff_right (hplus hform).symm).symm
  | escape hhigh hlow htail _ =>
    -- The text is longer than the string.
    refine iff_of_false (fun heq => ?_) fun hverbatim => hverbatim.1 List.mem_cons_self
    have hlength := congrArg List.length heq
    have hle := htail.length_le
    simp only [List.length_cons] at hlength
    omega
  | plus hform _ _ =>
    refine iff_of_false (fun heq => ?_) fun hverbatim => hverbatim.2 hform List.mem_cons_self
    exact absurd (List.cons.inj heq).1 (by decide)

/-! ## An encoder -/

/-- The digit of a number below sixteen, in upper case. -/
def hexDigit (d : ℕ) : UInt8 := if d < 10 then digitByte d else UInt8.ofNat (55 + d)

/-- One byte of a form-encoded parameter. -/
def encodeByte (b : UInt8) : StdString :=
  if isUnreserved b then [b]
  else if b = byte ' ' then [byte '+']
  else [byte '%', hexDigit (b.toNat / 16), hexDigit (b.toNat % 16)]

/-- The form-encoding that leaves nothing but unreserved bytes as they are. -/
def encodeQueryComponent (s : StdString) : StdString := s.flatMap encodeByte

/-- A digit is read back. -/
theorem hexValue_hexDigit {d : ℕ} (hd : d < 16) : hexValue (hexDigit d) = some (UInt8.ofNat d) := by
  interval_cases d <;> decide

/-- A byte is put together from its two digits. -/
theorem add_digits (b : UInt8) :
    16 * UInt8.ofNat (b.toNat / 16) + UInt8.ofNat (b.toNat % 16) = b := by
  apply UInt8.toNat_inj.mp
  have hlt := b.toNat_lt
  simp only [UInt8.toNat_add, UInt8.toNat_mul, UInt8.toNat_ofNat', UInt8.toNat_ofNat]
  omega

/-- Every string has an encoding. -/
theorem encodes_encodeQueryComponent (s : StdString) : Encodes true s (encodeQueryComponent s) := by
  induction s with
  | nil => exact .nil
  | cons b s ih =>
    rw [encodeQueryComponent, List.flatMap_cons, encodeByte]
    split
    · next hunreserved =>
      refine .literal ?_ (fun _ => ?_) ih
      · rw [isQueryByte, hunreserved, Bool.true_or]
      · rintro rfl
        cases hunreserved
    split
    · next hspace =>
      subst hspace
      exact .plus rfl ih
    · have hlt := b.toNat_lt
      have hescape := Encodes.escape (hexValue_hexDigit (show b.toNat / 16 < 16 by omega))
        (hexValue_hexDigit (Nat.mod_lt b.toNat (by decide))) ih
      rwa [add_digits] at hescape

/-- A byte is written as it is exactly if it is unreserved. -/
theorem verbatim_encodeByte {b : UInt8} :
    Verbatim true (encodeByte b) ↔ isUnreserved b = true := by
  rw [encodeByte]
  split
  · next hunreserved =>
    refine iff_of_true ⟨?_, fun _ => ?_⟩ hunreserved
    all_goals
      rw [List.mem_singleton]
      rintro rfl
      cases hunreserved
  · next hescaped =>
    refine iff_of_false (fun hverbatim => ?_) hescaped
    split at hverbatim
    · exact hverbatim.2 rfl List.mem_cons_self
    · exact hverbatim.1 List.mem_cons_self

/-- The encoder leaves a string as it is exactly when all of its bytes are unreserved. -/
theorem verbatim_encodeQueryComponent :
    Verbatim true (encodeQueryComponent s) ↔ ∀ b ∈ s, isUnreserved b = true := by
  simp only [← verbatim_encodeByte, Verbatim, encodeQueryComponent, List.mem_flatMap]
  grind

end PercentEncoding
