import Mathlib.Algebra.Group.Int.Defs
import Mathlib.Algebra.Group.Nat.Defs
import Mathlib.Algebra.Order.Group.Int
import Mathlib.Data.Rat.Floor
import Mathlib.Order.Defs.LinearOrder
import Mathlib.Tactic.Common

/-!
# IEEE 754 binary64

A `double` is its 64 bits: one sign bit, eleven exponent bits and fifty-two fraction bits. Only
the conversions a program makes between doubles and integers are given, and the comparisons.

* `Double.trunc`: the integer part of a finite double;
* `Double.toRat`: its value;
* `Double.ofInt`: the nearest double of an integer, ties to even;
* `Double.lt`, `Double.le`, `Double.eq`: the comparisons, all false of a NaN;
* `Double.Represents`: the doubles other than NaN as elements of a linear order.
-/

/-- A binary64 number, given by its bit pattern. -/
structure Double where
  bits : UInt64
deriving DecidableEq, Repr

namespace Double

/-- Whether the sign bit is set. -/
def isNegative (x : Double) : Bool := 2 ^ 63 ≤ x.bits.toNat

/-- The biased exponent. -/
def exponent (x : Double) : ℕ := x.bits.toNat / 2 ^ 52 % 2 ^ 11

/-- The fraction bits. -/
def fraction (x : Double) : ℕ := x.bits.toNat % 2 ^ 52

/-- `std::isnan(x)`. -/
def isNaN (x : Double) : Bool := x.exponent == 2047 && x.fraction != 0

/-- `std::isfinite(x)`. -/
def isFinite (x : Double) : Bool := x.exponent != 2047

/-- Positive zero. -/
def zero : Double := ⟨0⟩

/-- The value of a finite double rounded towards zero; `none` for infinities and NaNs. -/
def trunc (x : Double) : Option ℤ :=
  if ¬ x.isFinite then none
  else
    -- A subnormal number is smaller than one.
    let magnitude : ℕ :=
      if x.exponent = 0 then 0
      else if 1075 ≤ x.exponent then (2 ^ 52 + x.fraction) * 2 ^ (x.exponent - 1075)
      else (2 ^ 52 + x.fraction) / 2 ^ (1075 - x.exponent)
    some (if x.isNegative then -magnitude else magnitude)

/-- The value of a finite double. -/
def toRat (x : Double) : ℚ :=
  let magnitude : ℚ :=
    if x.exponent = 0 then x.fraction / 2 ^ 1074
    else if 1075 ≤ x.exponent then (2 ^ 52 + x.fraction) * 2 ^ (x.exponent - 1075)
    else (2 ^ 52 + x.fraction) / 2 ^ (1075 - x.exponent)
  if x.isNegative then -magnitude else magnitude

/-- The integer part is the value rounded towards zero. -/
theorem trunc_of_isFinite {x : Double} (h : x.isFinite = true) :
    x.trunc = some (if 0 ≤ x.toRat then ⌊x.toRat⌋ else ⌈x.toRat⌉) := by
  -- The magnitude, and its whole part as `trunc` computes it.
  obtain ⟨whole, magnitude, htrunc, hvalue, hnonneg, hfloor⟩ : ∃ (whole : ℕ) (magnitude : ℚ),
      x.trunc = some (if x.isNegative then -(whole : ℤ) else whole) ∧
      x.toRat = (if x.isNegative then -magnitude else magnitude) ∧
      0 ≤ magnitude ∧ ⌊magnitude⌋ = whole := by
    rw [trunc, if_neg (not_not.mpr h)]
    refine ⟨_, _, rfl, rfl, ?_, ?_⟩
    · split_ifs <;> positivity
    · have hfraction : x.fraction < 2 ^ 52 := Nat.mod_lt _ (by norm_num)
      split_ifs
      · have hlt : (x.fraction : ℚ) / 2 ^ 1074 < 1 := by
          rw [div_lt_one (by positivity)]
          calc (x.fraction : ℚ) < 2 ^ 52 := by exact_mod_cast hfraction
            _ ≤ 2 ^ 1074 := pow_le_pow_right₀ (by norm_num) (by norm_num)
        rw [Int.floor_eq_iff]
        exact ⟨by positivity, by simpa using hlt⟩
      · rw [Int.floor_eq_iff]
        push_cast
        exact ⟨le_rfl, lt_add_one _⟩
      · have hcast : ((2 : ℚ) ^ 52 + x.fraction) / 2 ^ (1075 - x.exponent) =
            ((2 ^ 52 + x.fraction : ℕ) : ℚ) / ((2 ^ (1075 - x.exponent) : ℕ) : ℚ) := by
          push_cast
          rfl
        rw [hcast]
        exact Rat.floor_natCast_div_natCast _ _
  rw [htrunc, hvalue]
  congr 1
  cases hneg : x.isNegative
  · simp only [Bool.false_eq_true, if_false]
    rw [if_pos hnonneg, hfloor]
  · simp only [if_true]
    split_ifs with hle
    · obtain rfl : magnitude = 0 := le_antisymm (neg_nonneg.mp hle) hnonneg
      have hwhole : (whole : ℤ) = 0 := by simpa using hfloor.symm
      simp [hwhole]
    · rw [Int.ceil_neg, hfloor]

/-- `m / 2 ^ k`, rounded to the nearest integer, ties to even. -/
def roundShift (m k : ℕ) : ℕ :=
  let q := m / 2 ^ k
  let r := m % 2 ^ k
  if 2 ^ k < 2 * r ∨ (2 ^ k = 2 * r ∧ q % 2 = 1) then q + 1 else q

/-- The double nearest to an integer of at most sixty-four bits. -/
def ofInt (n : ℤ) : Double :=
  if n = 0 then zero
  else
    let m := n.natAbs
    let e := m.log2
    let significand := if e ≤ 52 then m * 2 ^ (52 - e) else roundShift m (e - 52)
    let sign := if n < 0 then 2 ^ 63 else 0
    -- A significand rounded up to 2 ^ 53 carries into the exponent.
    ⟨UInt64.ofNat (sign + (e + 1023) * 2 ^ 52 + (significand - 2 ^ 52))⟩

/-- `(x * n)` rounded to a double, then towards zero; `none` for infinities and NaNs. -/
def truncMul (x : Double) (n : ℕ) : Option ℤ :=
  if ¬ x.isFinite then none
  else
    let product := (if x.exponent = 0 then x.fraction else 2 ^ 52 + x.fraction) * n
    -- The product has fifty-three bits again.
    let k := product.log2 - 52
    let rounded := roundShift product k * 2 ^ k
    let magnitude :=
      if 1075 ≤ x.exponent then rounded * 2 ^ (x.exponent - 1075)
      else rounded / 2 ^ (1075 - max x.exponent 1)
    if 2 ^ 1024 ≤ magnitude then none
    else some (if x.isNegative then -magnitude else magnitude)

/-- The leading bits of an integer, rounded, fill fifty-three bits at most. -/
theorem roundShift_le {m k : ℕ} (hm : m < 2 ^ (53 + k)) : roundShift m k ≤ 2 ^ 53 := by
  have hq : m / 2 ^ k < 2 ^ 53 := Nat.div_lt_of_lt_mul (by rwa [← Nat.pow_add, Nat.add_comm])
  simp only [roundShift]
  split <;> omega

/-- An exponent of that size is not the one of infinities. -/
theorem isFinite_ofBits {sign e t : ℕ} (hsign : sign = 0 ∨ sign = 2 ^ 63) (he : e < 64)
    (ht : t ≤ 2 ^ 52) :
    isFinite ⟨UInt64.ofNat (sign + (e + 1023) * 2 ^ 52 + t)⟩ = true := by
  simp only [isFinite, exponent, bne_iff_ne, UInt64.toNat_ofNat']
  omega

/-- Integers of sixty-four bits have finite doubles. -/
theorem isFinite_ofInt {n : ℤ} (hlo : -2 ^ 63 ≤ n) (hhi : n < 2 ^ 64) :
    (ofInt n).isFinite = true := by
  by_cases hn : n = 0
  · subst hn
    decide
  have hm : n.natAbs ≠ 0 := Int.natAbs_ne_zero.mpr hn
  have he : n.natAbs.log2 < 64 := (Nat.log2_lt hm).mpr (by omega)
  have hlt : n.natAbs < 2 ^ (n.natAbs.log2 + 1) := Nat.lt_log2_self
  have hsignificand : (if n.natAbs.log2 ≤ 52 then n.natAbs * 2 ^ (52 - n.natAbs.log2)
      else roundShift n.natAbs (n.natAbs.log2 - 52)) ≤ 2 ^ 53 := by
    split
    · calc n.natAbs * 2 ^ (52 - n.natAbs.log2)
          ≤ 2 ^ (n.natAbs.log2 + 1) * 2 ^ (52 - n.natAbs.log2) :=
            Nat.mul_le_mul_right _ hlt.le
        _ = 2 ^ 53 := by
            rw [← Nat.pow_add]
            congr 1
            omega
    · refine roundShift_le (hlt.trans_le (Nat.pow_le_pow_right (by decide) ?_))
      omega
  rw [ofInt, if_neg hn]
  refine isFinite_ofBits ?_ he (by omega)
  split <;> simp

/-! ## Comparisons -/

/-- The position of a number among the numbers: exponent and fraction, read as one integer, grow
with the magnitude. Both zeros have the same position. -/
def rank (x : Double) : ℤ :=
  if x.isNegative then -(x.bits.toNat % 2 ^ 63 : ℕ) else (x.bits.toNat % 2 ^ 63 : ℕ)

/-- `x < y`. -/
def lt (x y : Double) : Bool := !x.isNaN && !y.isNaN && x.rank < y.rank

/-- `x <= y`. -/
def le (x y : Double) : Bool := !x.isNaN && !y.isNaN && x.rank ≤ y.rank

/-- `x == y`. -/
def eq (x y : Double) : Bool := !x.isNaN && !y.isNaN && x.rank = y.rank

/-- `num` places the doubles other than NaN in a linear order as `<` orders them. -/
def Represents {L : Type*} [LinearOrder L] (num : Double → L) : Prop :=
  ∀ x y : Double, ¬ x.isNaN → ¬ y.isNaN → (x.lt y ↔ num x < num y)

/-- The rank orders the numbers as their comparisons do. -/
theorem represents_rank : Represents rank := by
  intro x y hx hy
  simp [lt, hx, hy]

section Represents

variable {L : Type*} [LinearOrder L] {num : Double → L} {x y : Double}

/-- All representations order the numbers alike. -/
theorem Represents.rank_lt_iff (hnum : Represents num) (hx : ¬ x.isNaN) (hy : ¬ y.isNaN) :
    x.rank < y.rank ↔ num x < num y := by
  rw [← hnum x y hx hy]
  simp [lt, hx, hy]

/-- `≤` is that of the representation. -/
theorem Represents.le_iff (hnum : Represents num) (hx : ¬ x.isNaN) (hy : ¬ y.isNaN) :
    x.le y ↔ num x ≤ num y := by
  rw [← not_lt, ← hnum.rank_lt_iff hy hx]
  simp [le, hx, hy]

/-- `==` is equality of the representation. -/
theorem Represents.eq_iff (hnum : Represents num) (hx : ¬ x.isNaN) (hy : ¬ y.isNaN) :
    x.eq y ↔ num x = num y := by
  have hle := hnum.le_iff hx hy
  have hge := hnum.le_iff hy hx
  simp only [le, eq, hx, hy, Bool.not_false, Bool.true_and, decide_eq_true_eq] at hle hge ⊢
  rw [le_antisymm_iff, hle, hge, ← le_antisymm_iff]

end Represents

end Double
