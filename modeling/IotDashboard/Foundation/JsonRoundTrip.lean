import IotDashboard.Foundation.JsonText

/-!
# Reading what was printed

Printing a value and reading the text gives the value back. The text of a value is followed by
something that is not part of it, so the readers are looked at one by one with whatever is left
behind; the induction on the value joins them.

## Main results

* `JsonText.read_dump`: reading what was printed gives the value back, whatever follows it;
* `JsonText.parse_dump_of_portable`, `JsonText.parse_dump`: parsing undoes printing, if it does so
  on the floating-point numbers, and on canonical values.
-/

namespace JsonText

open Json StdString

/-! ## Strings -/

private lemma hexValue_hexDigit : ∀ d < 16, hexValue (hexDigit d) = some d := by decide

/-- The six-byte escape of a control character is read back. -/
private lemma readEscape_unicode {b : UInt8} (hb : b.toNat < 32) (rest : StdString) :
    readEscape (byte 'u' :: 48 :: 48 :: hexDigit (b.toNat / 16) :: hexDigit (b.toNat % 16) ::
      rest) = some ([b], rest) := by
  have hhigh := hexValue_hexDigit (b.toNat / 16) (by omega)
  have hlow := hexValue_hexDigit (b.toNat % 16) (by omega)
  have hzero : hexValue 48 = some 0 := by decide
  have hhex : readHex4 (48 :: 48 :: hexDigit (b.toNat / 16) :: hexDigit (b.toNat % 16) :: rest) =
      some (b.toNat, rest) := by
    simp only [readHex4, hzero, hhigh, hlow]
    show some (((0 * 16 + 0) * 16 + b.toNat / 16) * 16 + b.toNat % 16, rest) = _
    rw [show ((0 * 16 + 0) * 16 + b.toNat / 16) * 16 + b.toNat % 16 = b.toNat by omega]
  have hunicode : readUnicode (48 :: 48 :: hexDigit (b.toNat / 16) :: hexDigit (b.toNat % 16) ::
      rest) = some ([b], rest) := by
    simp only [readUnicode, hhex]
    rw [if_neg (by omega), if_neg (by omega), encodeUtf8, if_pos (by omega), UInt8.ofNat_toNat]
  simpa [readEscape, byte] using hunicode

/-- The escaped form of a byte is read back as that byte. -/
private lemma readChars_escapeByte (b : UInt8) (n : ℕ) (rest : StdString) :
    readChars (n + 1) (escapeByte b ++ rest) =
      (readChars n rest).map fun p => (b :: p.1, p.2) := by
  cases h : shortEscape b with
  | some e =>
    have hread : readEscape (e :: rest) = some ([b], rest) := by
      simp only [shortEscape] at h
      -- One case per letter; the letter determines the byte.
      split_ifs at h <;> cases h <;> subst_vars <;> rfl
    simp [escapeByte, h, readChars, hread]
  | none =>
    have hquote : b ≠ 34 ∧ b ≠ 92 := by
      constructor <;> rintro rfl <;> simp [shortEscape] at h
    by_cases hctrl : b < 32
    · have hread := readEscape_unicode (UInt8.lt_iff_toNat_lt.mp hctrl) rest
      have hlit : lit "\\u00" = [92, byte 'u', 48, 48] := rfl
      simp only [escapeByte, h, if_pos hctrl, hlit, List.cons_append, List.nil_append]
      simp [readChars, hread]
    · simp [escapeByte, h, hctrl, readChars, hquote]

/-- The content of a printed string literal is read back. -/
private lemma readChars_escape (s : StdString) (rest : StdString) {n : ℕ} (hn : s.length < n) :
    readChars n (s.flatMap escapeByte ++ 34 :: rest) = some (s, rest) := by
  -- Each byte of `s` takes one unit of fuel, however long its escape is.
  induction s generalizing n with
  | nil =>
    obtain ⟨n, rfl⟩ := Nat.exists_eq_add_of_lt hn
    simp [readChars]
  | cons b s ih =>
    obtain ⟨n, rfl⟩ : ∃ m, n = m + 1 := ⟨n - 1, by grind⟩
    rw [List.flatMap_cons, List.append_assoc, readChars_escapeByte, ih (by grind)]
    rfl

private lemma length_le_escape (s : StdString) : s.length ≤ (s.flatMap escapeByte).length := by
  induction s with
  | nil => simp
  | cons b s ih =>
    have hpos : 0 < (escapeByte b).length := by
      rw [escapeByte]
      split <;> [simp; (split <;> simp [lit])]
    rw [List.flatMap_cons, List.length_append, List.length_cons]
    omega

/-- A printed string literal is read back when its content is UTF-8. -/
theorem readString_dumpString {s : StdString} (hs : s.isUtf8 = true) (rest : StdString) :
    readString (s.flatMap escapeByte ++ 34 :: rest) = some (s, rest) := by
  have hlen := length_le_escape s
  rw [readString, readChars_escape s rest (by rw [List.length_append]; omega)]
  simp [hs]

/-! ## Numbers -/

/-- What follows a printed value does not continue a number. -/
def Delimited (rest : StdString) : Prop := ∀ b ∈ rest.head?, isNumberByte b = false

private lemma isNumberByte_of_isDigit {b : UInt8} (h : isDigit b = true) :
    isNumberByte b = true := by
  simp [isNumberByte, h]

/-- The text of an integer is one token. -/
theorem isNumberByte_dumpInt (n : ℤ) : ∀ b ∈ dumpInt n, isNumberByte b = true := by
  intro b hb
  rw [dumpInt] at hb
  split at hb
  · rcases List.mem_cons.mp hb with rfl | hb
    · decide
    · exact isNumberByte_of_isDigit (isDigit_of_mem_toDecimal hb)
  · exact isNumberByte_of_isDigit (isDigit_of_mem_toDecimal hb)

/-- Splitting at the first byte that is no part of a number. -/
private lemma span_number {token rest : StdString}
    (htoken : ∀ b ∈ token, isNumberByte b = true) (hrest : Delimited rest) :
    (token ++ rest).takeWhile isNumberByte = token ∧
      (token ++ rest).dropWhile isNumberByte = rest := by
  rw [List.takeWhile_append_of_pos htoken, List.dropWhile_append_of_pos htoken]
  cases rest with
  | nil => simp
  | cons b rest =>
    have hb : isNumberByte b = false := hrest b (by simp)
    simp [hb]

/-- A printed number has no leading zero unless it is zero. -/
private lemma toDecimal_head (n : ℕ) :
    (toDecimal n).length = 1 ∨ (toDecimal n).head? ≠ some 48 := by
  by_cases hn : n = 0
  · exact .inl (by simp [toDecimal, hn])
  · refine .inr ?_
    -- The head of the text is the last digit of `Nat.digits`, which is not zero.
    have hne : Nat.digits 10 n ≠ [] := Nat.digits_ne_nil_iff_ne_zero.mpr hn
    have hlast := Nat.getLast_digit_ne_zero 10 hn
    have hlt := Nat.digits_lt_base (b := 10) (by norm_num) (List.getLast_mem hne)
    rw [toDecimal, if_neg hn, List.head?_reverse, List.getLast?_map,
      List.getLast?_eq_some_getLast hne, Option.map_some]
    generalize (Nat.digits 10 n).getLast hne = d at hlast hlt
    interval_cases d <;> first | exact absurd rfl hlast | decide

/-- A printed integer is a token of the grammar and denotes itself. -/
theorem integerOfToken_dumpInt (n : ℤ) : integerOfToken (dumpInt n) = some n := by
  obtain ⟨c, cs, hcs⟩ := List.exists_cons_of_ne_nil (toDecimal_ne_nil n.natAbs)
  have hall : (toDecimal n.natAbs).all isDigit = true :=
    List.all_eq_true.mpr fun b hb => isDigit_of_mem_toDecimal hb
  have hhead : ((toDecimal n.natAbs).length == 1 || (toDecimal n.natAbs).head? != some 48) =
      true := by
    simpa using toDecimal_head n.natAbs
  unfold dumpInt
  split
  · next hneg =>
    have hvalue : -((digitsValue (toDecimal n.natAbs) : ℕ) : ℤ) = n := by
      rw [digitsValue_toDecimal]
      omega
    rw [integerOfToken, hall, hhead, hvalue]
    simp [toDecimal_ne_nil]
  · next hnonneg =>
    have hvalue : ((digitsValue (toDecimal n.natAbs) : ℕ) : ℤ) = n := by
      rw [digitsValue_toDecimal]
      omega
    -- The first digit is no minus sign, so the other branch of the token reader applies.
    have hc : c ≠ 45 := by
      rintro rfl
      exact absurd (isDigit_of_mem_toDecimal (n := n.natAbs) (c := 45) (by rw [hcs]; simp))
        (by decide)
    rw [hcs] at hall hhead hvalue ⊢
    rw [integerOfToken.eq_def]
    split
    · simp_all
    · simp_all
    · rw [hall, hhead, hvalue]
      rfl

/-- A token with a byte that is neither a digit nor a minus sign is no integer. -/
theorem integerOfToken_eq_none {token : StdString} {c : UInt8} (hmem : c ∈ token)
    (hdigit : isDigit c = false) (hminus : c ≠ 45) : integerOfToken token = none := by
  have hall {ds : StdString} (hds : c ∈ ds) : ds.all isDigit = false := by
    rw [List.all_eq_false]
    exact ⟨c, hds, by rw [hdigit]; exact Bool.false_ne_true⟩
  rw [integerOfToken.eq_def]
  split
  · rfl
  · next ds =>
    rw [hall ((List.mem_cons.mp hmem).resolve_left hminus)]
    rfl
  · rw [hall hmem]
    rfl

/-! ## Values -/

section Values

variable {showReal : Double → StdString} {readReal : StdString → Option Double}
  {numbers : Double → Prop}

/-- The text of a floating-point number is a token of its own, and is read back. -/
structure ReadsBack (showReal : Double → StdString) (readReal : StdString → Option Double)
    (d : Double) : Prop where
  ne_nil : showReal d ≠ []
  token : ∀ b ∈ showReal d, isNumberByte b = true
  notInteger : integerOfToken (showReal d) = none
  read : readReal (showReal d) = some d

/-- A byte of a number is neither a blank nor a closing bracket. -/
private lemma punctuation_of_isNumberByte {c : UInt8} (hc : isNumberByte c = true) :
    isBlank c = false ∧ c ≠ 93 ∧ c ≠ 125 := by
  refine ⟨?_, ?_, ?_⟩
  · by_contra hblank
    simp only [isBlank, Bool.not_eq_false, Bool.or_eq_true, beq_iff_eq] at hblank
    rcases hblank with ((rfl | rfl) | rfl) | rfl <;> exact absurd hc (by decide)
  · rintro rfl
    exact absurd hc (by decide)
  · rintro rfl
    exact absurd hc (by decide)

/-- The first byte of a printed value: never a blank, a closing bracket or a number's part other
than its own. -/
private lemma dump_head (hreals : ∀ d, numbers d → ReadsBack showReal readReal d) {j : Json}
    (hj : Portable numbers j) :
    ∃ c t, dump showReal j = c :: t ∧ isBlank c = false ∧ c ≠ 93 ∧ c ≠ 125 := by
  cases hj with
  | @real d hd =>
    obtain ⟨c, cs, hcs⟩ := List.exists_cons_of_ne_nil (hreals d hd).ne_nil
    have hc := (hreals d hd).token c (by simp [hcs])
    exact ⟨c, cs, by rw [dump, hcs], punctuation_of_isNumberByte hc⟩
  | null => exact ⟨_, _, rfl, by decide⟩
  | boolean b => cases b <;> exact ⟨_, _, rfl, by decide⟩
  | @number n _ _ =>
    obtain ⟨c, cs, hcs⟩ : ∃ c cs, dumpInt n = c :: cs := List.exists_cons_of_ne_nil (by
      rw [dumpInt]
      split <;> simp [toDecimal_ne_nil])
    have hc := isNumberByte_dumpInt n c (by simp [hcs])
    refine ⟨c, cs, by rw [dump, hcs], ?_⟩
    exact punctuation_of_isNumberByte hc
  | string s => exact ⟨34, _, by rw [dump, dumpString], by decide⟩
  | @array xs _ =>
    cases xs with
    | nil => exact ⟨91, [93], by rw [dump]; rfl, by decide⟩
    | cons x xs => exact ⟨91, _, by rw [dump], by decide⟩
  | @object fields _ _ =>
    cases fields with
    | nil => exact ⟨123, [125], by rw [dump], by decide⟩
    | cons f fields => exact ⟨123, _, by rw [dump], by decide⟩

private lemma skipBlanks_of_head {c : UInt8} {t : StdString} (hc : isBlank c = false) :
    skipBlanks (c :: t) = c :: t := by
  simp [skipBlanks, hc]

private lemma delimited_cons {c : UInt8} {t : StdString} (hc : isNumberByte c = false) :
    Delimited (c :: t) := by
  simpa [Delimited] using hc

private lemma delimited_elements (xs : List Json) (rest : StdString) :
    Delimited (dumpElements showReal xs ++ rest) := by
  cases xs <;> exact delimited_cons (by decide)

private lemma delimited_members (fields : List (StdString × Json)) (rest : StdString) :
    Delimited (dumpMembers showReal fields ++ rest) := by
  cases fields <;> exact delimited_cons (by decide)

/-- Reading inverts printing on `j`: with enough fuel, and whatever follows the value. -/
private def Reads (showReal : Double → StdString) (readReal : StdString → Option Double)
    (j : Json) : Prop :=
  ∀ (n : ℕ) (rest : StdString), (dump showReal j).length ≤ n → Delimited rest →
    readValue readReal n (dump showReal j ++ rest) = some (j, rest)

/-- The elements after the first are read back when each of them is. -/
private lemma readElements_dump {xs : List Json} (hxs : ∀ x ∈ xs, Reads showReal readReal x)
    (n : ℕ) (rest : StdString) (hn : (dumpElements showReal xs).length ≤ n) :
    readElements readReal n (dumpElements showReal xs ++ rest) = some (xs, rest) := by
  -- The closing bracket alone needs a unit of fuel, so the fuel is never zero.
  induction xs generalizing n with
  | nil =>
    obtain ⟨n, rfl⟩ : ∃ m, n = m + 1 := ⟨n - 1, by simp [dumpElements] at hn; omega⟩
    simp [dumpElements, readElements, skipBlanks, isBlank]
  | cons x xs ih =>
    simp only [dumpElements, List.length_cons, List.length_append] at hn
    obtain ⟨n, rfl⟩ : ∃ m, n = m + 1 := ⟨n - 1, by omega⟩
    have hx := hxs x (by simp) n (dumpElements showReal xs ++ rest) (by omega)
      (delimited_elements xs rest)
    have htail := ih (fun y hy => hxs y (by simp [hy])) n (by omega)
    simp only [dumpElements, List.cons_append, List.append_assoc, readElements]
    rw [skipBlanks_of_head (by decide)]
    simp [hx, htail]

/-- A member is read back when its value is and its key is UTF-8. -/
private lemma readMember_dump {k : StdString} {v : Json} (hk : k.isUtf8 = true)
    (hv : Reads showReal readReal v) (n : ℕ) (rest : StdString)
    (hn : (dumpString k ++ 58 :: dump showReal v).length ≤ n) (hrest : Delimited rest) :
    readMember readReal n (dumpString k ++ 58 :: (dump showReal v ++ rest)) =
      some ((k, v), rest) := by
  rw [List.length_append, List.length_cons] at hn
  obtain ⟨n, rfl⟩ : ∃ m, n = m + 1 := ⟨n - 1, by omega⟩
  have hvalue := hv n rest (by omega) hrest
  simp only [dumpString, List.cons_append, List.append_assoc, List.nil_append, readMember]
  rw [skipBlanks_of_head (by decide)]
  simp only [readString_dumpString hk]
  rw [skipBlanks_of_head (by decide)]
  simp [hvalue]

/-- The members after the first are read back when each of them is. -/
private lemma readMembers_dump {fields : List (StdString × Json)}
    (hkeys : ∀ f ∈ fields, f.1.isUtf8 = true) (hfields : ∀ f ∈ fields, Reads showReal readReal f.2)
    (n : ℕ) (rest : StdString) (hn : (dumpMembers showReal fields).length ≤ n) :
    readMembers readReal n (dumpMembers showReal fields ++ rest) = some (fields, rest) := by
  induction fields generalizing n with
  | nil =>
    obtain ⟨n, rfl⟩ : ∃ m, n = m + 1 := ⟨n - 1, by simp [dumpMembers] at hn; omega⟩
    simp [dumpMembers, readMembers, skipBlanks, isBlank]
  | cons f fields ih =>
    obtain ⟨k, v⟩ := f
    simp only [dumpMembers, List.length_cons, List.length_append] at hn
    obtain ⟨n, rfl⟩ : ∃ m, n = m + 1 := ⟨n - 1, by omega⟩
    have hmember := readMember_dump (hkeys (k, v) (by simp)) (hfields (k, v) (by simp))
      n (dumpMembers showReal fields ++ rest)
      (by simp only [List.length_cons, List.length_append]; omega) (delimited_members fields rest)
    have htail := ih (fun g hg => hkeys g (by simp [hg])) (fun g hg => hfields g (by simp [hg]))
      n (by omega)
    simp only [dumpMembers, List.cons_append, List.append_assoc, readMembers]
    rw [skipBlanks_of_head (by decide)]
    simp [hmember, htail]

/-- Assigning sorted fields one after the other appends them. -/
private lemma foldl_assign (fields : List (StdString × Json)) :
    ∀ acc, ((acc ++ fields).map Prod.fst).Pairwise (· < ·) →
      fields.foldl (fun acc f => assign f.1 f.2 acc) acc = acc ++ fields := by
  induction fields with
  | nil => simp
  | cons f fields ih =>
    intro acc hsorted
    -- Every key filed so far is smaller, so the new field goes to the end.
    have happend : assign f.1 f.2 acc = acc ++ [f] := by
      clear ih
      induction acc with
      | nil => rfl
      | cons g acc ih =>
        have hlt : g.1 < f.1 := by
          rw [List.cons_append, List.map_cons, List.pairwise_cons] at hsorted
          exact hsorted.1 _ (by simp)
        rw [assign, if_neg fun hgt => Std.lt_irrefl (Std.lt_trans hlt hgt),
          if_neg fun heq => Std.lt_irrefl (heq ▸ hlt), ih (List.Pairwise.of_cons hsorted),
          List.cons_append]
    rw [List.foldl_cons, happend, ih _ (by simpa using hsorted)]
    simp

/-- A printed number is read back when its token is. -/
private lemma reads_token {j : Json} (hne : dump showReal j ≠ [])
    (hall : ∀ b ∈ dump showReal j, isNumberByte b = true)
    (hnumber : ∀ rest, Delimited rest →
      readNumber readReal (dump showReal j ++ rest) = some (j, rest)) :
    Reads showReal readReal j := by
  intro n rest hn hrest
  obtain ⟨c, t, hct⟩ := List.exists_cons_of_ne_nil hne
  have hread := hnumber rest hrest
  rw [hct] at hn hall hread ⊢
  obtain ⟨n, rfl⟩ : ∃ m, n = m + 1 := ⟨n - 1, by grind⟩
  have hc : isNumberByte c = true := hall c (by simp)
  obtain ⟨hblank, -⟩ := punctuation_of_isNumberByte hc
  -- No literal name, quote or bracket starts with a byte of a number.
  have hne : ∀ d, isNumberByte d = false → c ≠ d := by
    rintro d hd rfl
    simp [hc] at hd
  have hname : ∀ d s, isNumberByte d = false → startsWith (c :: t ++ rest) (d :: s) = false := by
    intro d s hd
    simp [startsWith, List.isPrefixOf, (hne d hd).symm]
  rw [List.cons_append, readValue, skipBlanks_of_head hblank]
  simp only [if_neg (hne 34 (by decide)), if_neg (hne 91 (by decide)),
    if_neg (hne 123 (by decide)), readScalar, ← List.cons_append]
  rw [if_neg, if_neg, if_neg, hread]
  all_goals
    rw [Bool.not_eq_true]
    exact hname _ _ (by decide)

/-- A printed integer is read back. -/
private lemma reads_number {i : ℤ} (hlo : -2 ^ 63 ≤ i) (hhi : i < 2 ^ 64) :
    Reads showReal readReal (.number i) := by
  have hne : dumpInt i ≠ [] := by
    rw [dumpInt]
    split <;> simp [toDecimal_ne_nil]
  refine reads_token (by rwa [dump]) (by rw [dump]; exact isNumberByte_dumpInt i) ?_
  intro rest hrest
  -- The token ends where the printed number does.
  obtain ⟨htake, hdrop⟩ := span_number (isNumberByte_dumpInt i) hrest
  simp only [dump, readNumber, htake, hdrop, integerOfToken_dumpInt]
  rw [if_pos ⟨hlo, hhi⟩]

/-- A printed floating-point number is read back. -/
private lemma reads_real {d : Double} (h : ReadsBack showReal readReal d) :
    Reads showReal readReal (.real d) := by
  refine reads_token (by rw [dump]; exact h.ne_nil) (by rw [dump]; exact h.token) ?_
  intro rest hrest
  obtain ⟨htake, hdrop⟩ := span_number h.token hrest
  simp only [dump, readNumber, htake, hdrop, h.notInteger, h.read]
  rfl

/-- A printed string is read back. -/
private lemma reads_string {s : StdString} (hs : s.isUtf8 = true) :
    Reads showReal readReal (.string s) := by
  intro n rest hn _
  obtain ⟨n, rfl⟩ : ∃ m, n = m + 1 := ⟨n - 1, by simp [dump, dumpString] at hn; omega⟩
  simp only [dump, dumpString, List.cons_append, List.append_assoc, List.nil_append, readValue]
  rw [skipBlanks_of_head (by decide)]
  simp [readString_dumpString hs]

/-- A printed array is read back when its elements are. -/
private lemma reads_array (hreals : ∀ d, numbers d → ReadsBack showReal readReal d)
    {xs : List Json} (hportable : ∀ x ∈ xs, Portable numbers x)
    (hxs : ∀ x ∈ xs, Reads showReal readReal x) : Reads showReal readReal (.array xs) := by
  intro n rest hn hrest
  cases xs with
  | nil =>
    obtain ⟨n, rfl⟩ : ∃ m, n = m + 1 := ⟨n - 1, by simp [dump, lit] at hn; omega⟩
    rfl
  | cons x xs =>
    simp only [dump, List.length_cons, List.length_append] at hn
    obtain ⟨n, rfl⟩ : ∃ m, n = m + 1 := ⟨n - 1, by omega⟩
    obtain ⟨c, t, hct, hblank, hclose, -⟩ := dump_head hreals (hportable x (by simp))
    have hx := hxs x (by simp) n (dumpElements showReal xs ++ rest) (by omega)
      (delimited_elements xs rest)
    have hlater : ∀ y ∈ xs, Reads showReal readReal y := fun y hy => hxs y (by simp [hy])
    have htail := readElements_dump hlater n rest (by omega)
    -- The first element does not start with the closing bracket.
    have hfirst : (skipBlanks (dump showReal x ++ (dumpElements showReal xs ++ rest))).head? ≠
        some 93 := by
      rw [hct, List.cons_append, skipBlanks_of_head hblank]
      simpa using hclose
    rw [dump, List.cons_append, List.append_assoc, readValue, skipBlanks_of_head (by decide)]
    simp [hfirst, hx, htail]

/-- A printed object is read back when its keys are sorted and its values are read back. -/
private lemma reads_object {fields : List (StdString × Json)}
    (hsorted : (fields.map Prod.fst).Pairwise (· < ·)) (hkeys : ∀ f ∈ fields, f.1.isUtf8 = true)
    (hfields : ∀ f ∈ fields, Reads showReal readReal f.2) :
    Reads showReal readReal (.object fields) := by
  intro n rest hn hrest
  cases fields with
  | nil =>
    obtain ⟨n, rfl⟩ : ∃ m, n = m + 1 := ⟨n - 1, by simp [dump] at hn; omega⟩
    rfl
  | cons f fields =>
    obtain ⟨k, v⟩ := f
    simp only [dump, List.length_cons, List.length_append] at hn
    obtain ⟨n, rfl⟩ : ∃ m, n = m + 1 := ⟨n - 1, by omega⟩
    have hmember := readMember_dump (hkeys (k, v) (by simp)) (hfields (k, v) (by simp)) n
      (dumpMembers showReal fields ++ rest)
      (by simp only [List.length_cons, List.length_append]; omega) (delimited_members fields rest)
    have hlater : ∀ g ∈ fields, Reads showReal readReal g.2 := fun g hg => hfields g (by simp [hg])
    have htail := readMembers_dump (fun g hg => hkeys g (by simp [hg])) hlater n rest (by omega)
    -- The first key starts with a quote, not with the closing brace.
    have hfirst : (skipBlanks (dumpString k ++ 58 :: (dump showReal v ++
        (dumpMembers showReal fields ++ rest)))).head? ≠ some 125 := by
      rw [dumpString, List.cons_append, skipBlanks_of_head (by decide)]
      simp
    -- The reader files the members one by one, which keeps sorted members as they are.
    have hassign := foldl_assign ((k, v) :: fields) [] (by simpa using hsorted)
    rw [List.nil_append] at hassign
    rw [dump, List.cons_append, readValue, skipBlanks_of_head (by decide)]
    simp only [List.append_assoc, List.cons_append] at hfirst ⊢
    simpa [hfirst, hmember, htail] using hassign

/-- Reading a printed value gives it back, whatever follows. -/
theorem read_dump (hreals : ∀ d, numbers d → ReadsBack showReal readReal d) {j : Json}
    (hj : Portable numbers j) (hutf8 : allUtf8 j = true) :
    ∀ (n : ℕ) (rest : StdString), (dump showReal j).length ≤ n → Delimited rest →
      readValue readReal n (dump showReal j ++ rest) = some (j, rest) := by
  show Reads showReal readReal j
  induction hj with
  | null =>
    intro n rest hn _
    obtain ⟨n, rfl⟩ : ∃ m, n = m + 1 := ⟨n - 1, by simp [dump, lit] at hn; omega⟩
    rfl
  | boolean b =>
    intro n rest hn _
    obtain ⟨n, rfl⟩ : ∃ m, n = m + 1 := ⟨n - 1, by cases b <;> simp [dump, lit] at hn <;> omega⟩
    cases b <;> rfl
  | number hlo hhi => exact reads_number hlo hhi
  | real hd => exact reads_real (hreals _ hd)
  | string s => exact reads_string (by simpa only [allUtf8] using hutf8)
  | array hxs ih =>
    have hmem := allUtf8_of_mem (by simpa [allUtf8] using hutf8)
    exact reads_array hreals hxs fun x hx => ih x hx (hmem x hx)
  | object hsorted hfields ih =>
    obtain ⟨hkeys, hvalues⟩ := allUtf8Members_iff.mp (by simpa [allUtf8] using hutf8)
    exact reads_object hsorted hkeys fun f hf => ih f hf (hvalues f hf)

/-- Parsing undoes printing, if it does so on the floating-point numbers. -/
theorem parse_dump_of_portable (hreals : ∀ d, numbers d → ReadsBack showReal readReal d)
    {j : Json} {t : StdString} (hj : Portable numbers j) (ht : dumpChecked showReal j = .ok t) :
    parse readReal t = .ok j := by
  rw [dumpChecked] at ht
  split at ht
  · next hutf8 =>
    cases ht
    have hread : readValue readReal _ (dump showReal j ++ []) = _ :=
      read_dump hreals hj hutf8 ((dump showReal j).length + 1) [] (by omega) (by simp [Delimited])
    rw [List.append_nil] at hread
    simp [parse, hread, skipBlanks]
  · cases ht

/-- Parsing undoes printing on canonical values. -/
theorem parse_dump {j : Json} {t : StdString} (hj : Canonical j)
    (ht : dumpChecked showReal j = .ok t) : parse readReal t = .ok j :=
  parse_dump_of_portable (fun _ => False.elim) (hj.portable fun _ => False) ht

end Values

end JsonText
