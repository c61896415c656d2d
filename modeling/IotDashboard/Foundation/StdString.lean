import Mathlib.Data.List.DropRight
import Mathlib.Data.Nat.Digits.Lemmas
import Mathlib.Tactic.Common

/-!
# Byte strings with the operations of `std::string`

A C++ `std::string` is a sequence of bytes with no encoding attached. The operations follow the
standard library: `find` and `substr` work on indices, `c_str()` reads up to the first NUL byte,
`tolower` is the one of the C locale, and `std::stoul` is `strtoul` in base ten.

## Main results

* `find_append_cons` and `eq_append_of_find`: what an index returned by `find` says about the
  string, and `rfind_append_cons` and `eq_append_of_rfind` likewise;
* `stoul_toDecimal`: reading back a printed number.
-/

/-- A `std::string`: any sequence of bytes. -/
abbrev StdString := List UInt8

/-- A buffer of exactly `n` bytes. -/
abbrev Bytes (n : ℕ) := { bytes : StdString // bytes.length = n }

namespace StdString

/-- The byte of a character literal. -/
def byte (c : Char) : UInt8 := UInt8.ofNat c.toNat

/-- The bytes of an ASCII string literal. -/
def lit (s : String) : StdString := s.toList.map byte

/-! ## Searching and cutting -/

/-- `s.find(c, pos)`, with `none` for `npos`. -/
def find (s : StdString) (c : UInt8) (pos : ℕ) : Option ℕ :=
  ((s.drop pos).findIdx? (· == c)).map (pos + ·)

/-- `s.rfind(c)`, with `none` for `npos`. -/
def rfind (s : StdString) (c : UInt8) : Option ℕ :=
  (s.reverse.findIdx? (· == c)).map (s.length - 1 - ·)

/-- `s.substr(pos, count)`. -/
def substr (s : StdString) (pos count : ℕ) : StdString := (s.drop pos).take count

/-- `s.substr(pos)`. -/
def substrFrom (s : StdString) (pos : ℕ) : StdString := s.drop pos

/-- `s.starts_with(head)`. -/
def startsWith (s head : StdString) : Bool := head.isPrefixOf s

/-- The bytes before the first NUL: what `s.c_str()` denotes as a C string. -/
def cStr (s : StdString) : StdString := s.takeWhile (· != 0)

/-- No NUL byte occurs in the string. -/
def NulFree (s : StdString) : Prop := (0 : UInt8) ∉ s

instance (s : StdString) : Decidable s.NulFree := inferInstanceAs (Decidable (_ ∉ _))

/-- Without a NUL byte, the C string is the whole string. -/
theorem cStr_eq_self {s : StdString} (h : s.NulFree) : s.cStr = s := by
  rw [cStr, List.takeWhile_eq_self_iff]
  intro b hb
  rw [bne_iff_ne]
  rintro rfl
  exact h hb

/-- A C string never holds a NUL byte. -/
theorem nulFree_cStr (s : StdString) : s.cStr.NulFree := by
  intro h
  simpa using List.mem_takeWhile_imp h

/-- A string survives as a C string exactly if it has no NUL byte. -/
theorem cStr_eq_self_iff {s : StdString} : s.cStr = s ↔ s.NulFree :=
  ⟨fun h => h ▸ nulFree_cStr s, cStr_eq_self⟩

/-- A C string goes on past a part without a NUL byte. -/
theorem cStr_append_of_nulFree {a : StdString} (h : a.NulFree) (b : StdString) :
    (a ++ b).cStr = a ++ b.cStr := by
  apply List.takeWhile_append_of_pos
  intro c hc
  rw [bne_iff_ne]
  rintro rfl
  exact h hc

/-- A C string ends inside a part that holds a NUL byte. -/
theorem cStr_append_of_not_nulFree {a : StdString} (h : ¬ a.NulFree) (b : StdString) :
    (a ++ b).cStr = a.cStr := by
  rw [cStr, List.takeWhile_append, if_neg]
  · rfl
  · intro hlength
    refine h ?_
    rw [← (List.takeWhile_sublist _).eq_of_length hlength]
    exact nulFree_cStr a

/-- `find` from the start stops at the first occurrence. -/
theorem find_append_cons {a b : StdString} {c : UInt8} (h : c ∉ a) :
    find (a ++ c :: b) c 0 = some a.length := by
  -- The search finds nothing in `a` and then succeeds at once.
  have hidx : (a ++ c :: b).findIdx? (· == c) = some a.length := by
    rw [List.findIdx?_append, List.findIdx?_eq_none_iff.mpr]
    · simp [List.findIdx?_cons]
    · intro x hx
      rw [beq_eq_false_iff_ne]
      rintro rfl
      exact h hx
  rw [find, List.drop_zero, hidx]
  simp

/-- Searching after a first part is searching the rest. -/
theorem find_append_length (a s : StdString) (c : UInt8) :
    find (a ++ s) c a.length = (find s c 0).map (a.length + ·) := by
  rw [find, find, List.drop_left, List.drop_zero]
  cases s.findIdx? (· == c) <;> simp

/-- An index that `find` returns splits the searched part of the string at the first occurrence. -/
theorem eq_append_of_find {s : StdString} {c : UInt8} {pos i : ℕ} (h : find s c pos = some i) :
    ∃ a b, s.drop pos = a ++ c :: b ∧ c ∉ a ∧ i = pos + a.length := by
  rw [find, Option.map_eq_some_iff] at h
  obtain ⟨k, hk, rfl⟩ := h
  obtain ⟨hlt, hat, hbefore⟩ := List.findIdx?_eq_some_iff_getElem.mp hk
  -- The byte at the index is `c`, and no byte before it is.
  refine ⟨(s.drop pos).take k, (s.drop pos).drop (k + 1), ?_, ?_, ?_⟩
  · rw [← beq_iff_eq.mp hat, ← List.drop_eq_getElem_cons hlt, List.take_append_drop]
  · intro hmem
    obtain ⟨j, hj, hget⟩ := List.mem_iff_getElem.mp hmem
    have hjk : j < k := by
      rw [List.length_take] at hj
      omega
    rw [List.getElem_take] at hget
    exact absurd (beq_iff_eq.mpr hget) (hbefore j hjk)
  · rw [List.length_take, Nat.min_eq_left (le_of_lt hlt)]

/-- `rfind` stops at the last occurrence. -/
theorem rfind_append_cons {a b : StdString} {c : UInt8} (h : c ∉ b) :
    rfind (a ++ c :: b) c = some a.length := by
  -- Reversed, the last occurrence is the first.
  have hidx := find_append_cons (b := a.reverse) (mt List.mem_reverse.mp h)
  rw [find, List.drop_zero, Option.map_eq_some_iff] at hidx
  obtain ⟨k, hk, hlength⟩ := hidx
  rw [rfind, List.reverse_append, List.reverse_cons, List.append_assoc, List.singleton_append, hk]
  simp only [List.length_reverse, zero_add] at hlength
  simp only [List.length_append, List.length_cons, Option.map_some]
  congr 1
  omega

/-- An index that `rfind` returns splits the string at the last occurrence. -/
theorem eq_append_of_rfind {s : StdString} {c : UInt8} {i : ℕ} (h : rfind s c = some i) :
    ∃ a b, s = a ++ c :: b ∧ c ∉ b ∧ i = a.length := by
  rw [rfind, Option.map_eq_some_iff] at h
  obtain ⟨k, hk, rfl⟩ := h
  have hfind : find s.reverse c 0 = some k := by
    rw [find, List.drop_zero, hk, Option.map_some, zero_add]
  obtain ⟨b, a, hs, hb, rfl⟩ := eq_append_of_find hfind
  rw [List.drop_zero, List.reverse_eq_iff] at hs
  refine ⟨a.reverse, b.reverse, by simp [hs], mt List.mem_reverse.mp hb, ?_⟩
  simp only [hs, List.length_reverse, List.length_append, List.length_cons]
  omega

/-- `startsWith` holds exactly of the strings that continue `head`. -/
theorem startsWith_iff {s head : StdString} :
    s.startsWith head = true ↔ ∃ rest, s = head ++ rest := by
  rw [startsWith, List.isPrefixOf_iff_prefix]
  exact ⟨fun ⟨t, ht⟩ => ⟨t, ht.symm⟩, fun ⟨t, ht⟩ => ⟨t, ht.symm⟩⟩

/-! ## Letter case -/

/-- `::tolower` on one byte, in the C locale. -/
def toLowerByte (c : UInt8) : UInt8 := if 65 ≤ c ∧ c ≤ 90 then c + 32 else c

/-- `std::ranges::transform(s, s.begin(), ::tolower)`. -/
def toLower (s : StdString) : StdString := s.map toLowerByte

/-! ## Decimal numbers -/

/-- The digit of a number below ten. -/
def digitByte (d : ℕ) : UInt8 := UInt8.ofNat (48 + d)

/-- `std::to_string` of an unsigned number. -/
def toDecimal (n : ℕ) : StdString :=
  if n = 0 then [48] else ((Nat.digits 10 n).map digitByte).reverse

/-- The byte is one of `0`-`9`. -/
def isDigit (c : UInt8) : Bool := 48 ≤ c && c ≤ 57

/-- The number that a string of digits denotes. -/
def digitsValue (ds : StdString) : ℕ := ds.foldl (fun n c => n * 10 + (c.toNat - 48)) 0

/-- `isspace` in the C locale. -/
def isSpace (c : UInt8) : Bool := c == 32 || (9 ≤ c && c ≤ 13)

/-- The optional sign at the head of a number: whether it is a minus, and what follows it. -/
def splitSign (s : StdString) : Bool × StdString :=
  match s with
  | 45 :: rest => (true, rest)
  | 43 :: rest => (false, rest)
  | _ => (false, s)

/-- `std::stoul(s)` with a 64-bit `unsigned long`: leading blanks and a sign are skipped, what
follows the digits is ignored, a negated number wraps, and `none` is the exception thrown when
there is no digit or the number does not fit. -/
def stoul (s : StdString) : Option ℕ :=
  let signed := splitSign (s.dropWhile isSpace)
  let ds := signed.2.takeWhile isDigit
  if ds.isEmpty then none
  else if 2 ^ 64 ≤ digitsValue ds then none
  -- `strtoul` negates in the unsigned type.
  else if signed.1 then some ((2 ^ 64 - digitsValue ds) % 2 ^ 64)
  else some (digitsValue ds)

/-- A digit byte is a digit, with the digit's value. -/
theorem digitByte_spec {d : ℕ} (hd : d < 10) :
    isDigit (digitByte d) = true ∧ (digitByte d).toNat - 48 = d := by
  interval_cases d <;> decide

/-- A printed number consists of digits. -/
theorem isDigit_of_mem_toDecimal {n : ℕ} {c : UInt8} (hc : c ∈ toDecimal n) :
    isDigit c = true := by
  unfold toDecimal at hc
  split at hc
  · rw [List.mem_singleton] at hc
    subst hc
    decide
  · rw [List.mem_reverse, List.mem_map] at hc
    obtain ⟨d, hd, rfl⟩ := hc
    exact (digitByte_spec (Nat.digits_lt_base (by norm_num) hd)).1

/-- Printing never yields the empty string. -/
theorem toDecimal_ne_nil (n : ℕ) : toDecimal n ≠ [] := by
  unfold toDecimal
  split
  · simp
  · simpa using Nat.digits_ne_nil_iff_ne_zero.mpr ‹_›

/-- The digits of a number denote it. -/
@[simp]
theorem digitsValue_toDecimal (n : ℕ) : digitsValue (toDecimal n) = n := by
  unfold toDecimal
  split
  · subst_vars
    rfl
  · -- The digits are printed last first, so the left fold over the text is a right fold over them.
    have hfold : ∀ l : List ℕ, (∀ d ∈ l, d < 10) →
        (l.map digitByte).foldr (fun c n => n * 10 + (c.toNat - 48)) 0 = Nat.ofDigits 10 l := by
      intro l hl
      induction l with
      | nil => rfl
      | cons d l ih =>
        rw [List.map_cons, List.foldr_cons, ih fun x hx => hl x (by simp [hx]),
          (digitByte_spec (hl d (by simp))).2, Nat.ofDigits_cons]
        ring
    rw [digitsValue, List.foldl_reverse,
      hfold _ fun d hd => Nat.digits_lt_base (by norm_num) hd, Nat.ofDigits_digits]

/-- Reading the digits at the head of a string stops where the printed number ends. -/
theorem takeWhile_isDigit_toDecimal (n : ℕ) {rest : StdString}
    (hrest : ∀ c ∈ rest.head?, isDigit c = false) :
    (toDecimal n ++ rest).takeWhile isDigit = toDecimal n := by
  rw [List.takeWhile_append_of_pos fun c hc => isDigit_of_mem_toDecimal hc]
  cases rest with
  | nil => simp
  | cons c rest => simp [hrest c (by simp)]

/-- A string that starts with a digit has no sign. -/
theorem splitSign_of_digit {c : UInt8} {cs : StdString} (hc : isDigit c = true) :
    splitSign (c :: cs) = (false, c :: cs) := by
  unfold splitSign
  split
  · simp_all [isDigit]
  · simp_all [isDigit]
  · rfl

/-- A printed number is read digit by digit: nothing is skipped at the head and nothing ignored at
the end. -/
theorem stoul_toDecimal_eq (n : ℕ) :
    stoul (toDecimal n) = if 2 ^ 64 ≤ n then none else some n := by
  obtain ⟨c, cs, hcs⟩ := List.exists_cons_of_ne_nil (toDecimal_ne_nil n)
  have hdigit : isDigit c = true := isDigit_of_mem_toDecimal (n := n) (by simp [hcs])
  have hspace : isSpace c = false := by
    simp only [isDigit, isSpace, Bool.and_eq_true, decide_eq_true_eq] at hdigit ⊢
    grind
  have hds : (toDecimal n).takeWhile isDigit = toDecimal n := by
    simpa using @takeWhile_isDigit_toDecimal n [] (by simp)
  have hbody : splitSign ((toDecimal n).dropWhile isSpace) = (false, toDecimal n) := by
    rw [hcs, List.dropWhile_cons_of_neg (by simp [hspace]), splitSign_of_digit hdigit]
  simp only [stoul, hbody, hds, digitsValue_toDecimal]
  rw [if_neg (by simp [toDecimal_ne_nil])]
  rfl

/-- `std::stoul` reads back what `std::to_string` printed. -/
theorem stoul_toDecimal {n : ℕ} (hn : n < 2 ^ 64) : stoul (toDecimal n) = some n := by
  rw [stoul_toDecimal_eq, if_neg (by omega)]

end StdString
