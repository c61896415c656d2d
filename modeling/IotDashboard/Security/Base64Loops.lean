import IotDashboard.Security.Base64
import Mathlib.Data.Nat.Bitwise

/-!
# The loops of the Base64 codecs

`Base64UrlEncode` and `B64Encode`, and their decoders, as they run: an index goes through the
bytes, the groups are packed into a 32-bit word by shifts and cut out of it again, and padding is
appended and popped one character at a time. The two encoders share their loop, and so do the two
decoders. What the loops compute is what the codecs of the model compute.

## Main definitions

* `Base64Loops.encodeLoop` and `Base64Loops.decodeLoop`: the loops over the groups;
* `Base64Loops.base64UrlEncode`, `base64UrlDecode`, `b64Encode` and `b64Decode`: the four codecs.

## Main results

* `Base64Loops.encodeLoop_eq` and `Base64Loops.decodeLoop_eq`: the loops go group by group;
* `Base64Loops.codecs_invert`: both codecs invert, and they differ in alphabet and padding only.
-/

namespace IotDashboard

open StdString

namespace Base64Loops

/-! ## The codecs -/

/-- `val` for the group at `i`. -/
def encodeWord (data : StdString) (i : ℕ) : UInt32 :=
  let val := (data.getD i 0).toUInt32 <<< 16
  let val := if i + 1 < data.length then val ||| (data.getD (i + 1) 0).toUInt32 <<< 8 else val
  if i + 2 < data.length then val ||| (data.getD (i + 2) 0).toUInt32 else val

/-- `kTable[val & 0x3F]`. -/
def tableAt (val : UInt32) : UInt8 := kTable.getD (val &&& 0x3F).toNat 0

/-- The loop of the encoders from `i` on. -/
def encodeLoop (data : StdString) (i : ℕ) (out : StdString) : StdString :=
  if i < data.length then
    let val := encodeWord data i
    encodeLoop data (i + 3) (out ++ [tableAt (val >>> 18), tableAt (val >>> 12),
      if i + 1 < data.length then tableAt (val >>> 6) else padding,
      if i + 2 < data.length then tableAt val else padding])
  else out
termination_by data.length - i

/-- `dec`. -/
def dec (c : UInt8) : UInt8 :=
  if byte 'A' ≤ c ∧ c ≤ byte 'Z' then c - byte 'A'
  else if byte 'a' ≤ c ∧ c ≤ byte 'z' then c - byte 'a' + 26
  else if byte '0' ≤ c ∧ c ≤ byte '9' then c - byte '0' + 52
  else if c = byte '+' then 62
  else if c = byte '/' then 63
  else 0

/-- `val` for the four characters at `i`. -/
def decodeWord (s : StdString) (i : ℕ) : UInt32 :=
  (dec (s.getD i 0)).toUInt32 <<< 18 ||| (dec (s.getD (i + 1) 0)).toUInt32 <<< 12 |||
    (dec (s.getD (i + 2) 0)).toUInt32 <<< 6 ||| (dec (s.getD (i + 3) 0)).toUInt32

/-- The loop of the decoders from `i` on. -/
def decodeLoop (s : StdString) (i : ℕ) (out : StdString) : StdString :=
  if i + 3 < s.length then
    let val := decodeWord s i
    let out := out ++ [(val >>> 16).toUInt8]
    let out := if s.getD (i + 2) 0 ≠ padding then out ++ [(val >>> 8 &&& 0xFF).toUInt8] else out
    let out := if s.getD (i + 3) 0 ≠ padding then out ++ [(val &&& 0xFF).toUInt8] else out
    decodeLoop s (i + 4) out
  else out
termination_by s.length - i

/-- `while (padded.size() % 4 != 0) padded += '='`. -/
def pad (s : StdString) : StdString :=
  if s.length % 4 ≠ 0 then pad (s ++ [padding]) else s
termination_by (4 - s.length % 4) % 4
decreasing_by
  rw [List.length_append, List.length_singleton]
  omega

/-- `while (!out.empty() && out.back() == '=') out.pop_back()`. -/
def strip (s : StdString) : StdString :=
  if s.getLast? = some padding then strip s.dropLast else s
termination_by s.length
decreasing_by
  have hne : s ≠ [] := by
    rintro rfl
    simp at *
  rw [List.length_dropLast]
  exact Nat.sub_one_lt (List.length_pos_iff.mpr hne).ne'

/-- `B64Encode`. -/
def b64Encode (data : StdString) : StdString := encodeLoop data 0 []

/-- `B64Decode`. -/
def b64Decode (s : StdString) : StdString := decodeLoop s 0 []

/-- `Base64UrlEncode`. -/
def base64UrlEncode (input : StdString) : StdString :=
  strip ((encodeLoop input 0 []).map toUrlAlphabet)

/-- `Base64UrlDecode`. -/
def base64UrlDecode (s : StdString) : StdString := decodeLoop (pad (s.map fromUrlAlphabet)) 0 []

/-! ## Words -/

private theorem toNat_shift (c : UInt8) {k : UInt32} (hk : k.toNat ≤ 24) :
    (c.toUInt32 <<< k).toNat = c.toNat * 2 ^ k.toNat := by
  have hlt : c.toNat * 2 ^ k.toNat < 2 ^ 32 :=
    calc c.toNat * 2 ^ k.toNat < 2 ^ 8 * 2 ^ k.toNat :=
          Nat.mul_lt_mul_of_pos_right c.toNat_lt (Nat.two_pow_pos _)
      _ = 2 ^ (8 + k.toNat) := (Nat.pow_add ..).symm
      _ ≤ 2 ^ 32 := Nat.pow_le_pow_right (by decide) (by omega)
  rw [UInt32.toNat_shiftLeft, UInt8.toNat_toUInt32, Nat.mod_eq_of_lt (by omega : k.toNat < 32),
    Nat.shiftLeft_eq, Nat.mod_eq_of_lt hlt]

/-- Words without common bits are added. -/
theorem toNat_or_of_dvd {v w : UInt32} {k : ℕ} (hv : 2 ^ k ∣ v.toNat) (hw : w.toNat < 2 ^ k) :
    (v ||| w).toNat = v.toNat + w.toNat := by
  obtain ⟨a, ha⟩ := hv
  rw [UInt32.toNat_or, ha, Nat.mul_comm, ← Nat.shiftLeft_eq, ← Nat.shiftLeft_add_eq_or_of_lt hw]

/-- The mask keeps six bits. -/
theorem tableAt_eq (val : UInt32) : tableAt val = encodeDigit val.toNat := by
  have hmask : (63 : UInt32).toNat = 2 ^ 6 - 1 := rfl
  rw [tableAt, encodeDigit, UInt32.toNat_and, hmask, Nat.and_two_pow_sub_one_eq_mod]

private theorem tableAt_shift (val : UInt32) {k : UInt32} (hk : k.toNat < 32) :
    tableAt (val >>> k) = encodeDigit (val.toNat / 2 ^ k.toNat) := by
  rw [tableAt_eq, UInt32.toNat_shiftRight, Nat.mod_eq_of_lt hk, Nat.shiftRight_eq_div_pow]

private theorem toNat_dec (c : UInt8) : (dec c).toNat = decodeDigit c := by
  rw [dec, decodeDigit]
  split_ifs with hupper hlower hdigit
  · exact UInt8.toNat_sub_of_le _ _ hupper.1
  · have hle : c.toNat ≤ 122 := UInt8.le_iff_toNat_le.mp hlower.2
    rw [UInt8.toNat_add, UInt8.toNat_sub_of_le _ _ hlower.1]
    show (c.toNat - 97 + 26) % 256 = _
    omega
  · have hle : c.toNat ≤ 57 := UInt8.le_iff_toNat_le.mp hdigit.2
    rw [UInt8.toNat_add, UInt8.toNat_sub_of_le _ _ hdigit.1]
    show (c.toNat - 48 + 52) % 256 = _
    omega
  · rfl
  · rfl
  · rfl

private theorem toNat_dec_lt (c : UInt8) : (dec c).toNat < 64 := by
  rw [toNat_dec, decodeDigit]
  split_ifs with hupper hlower hdigit
  · have hle : c.toNat ≤ 90 := UInt8.le_iff_toNat_le.mp hupper.2
    omega
  · have hle : c.toNat ≤ 122 := UInt8.le_iff_toNat_le.mp hlower.2
    omega
  · have hle : c.toNat ≤ 57 := UInt8.le_iff_toNat_le.mp hdigit.2
    omega
  · decide
  · decide
  · decide

/-- The cast to a byte keeps the last eight bits, with or without the mask. -/
theorem toUInt8_eq (val : UInt32) : val.toUInt8 = .ofNat val.toNat := by
  apply UInt8.toNat_inj.mp
  rw [UInt32.toNat_toUInt8, UInt8.toNat_ofNat']

private theorem toUInt8_mask (val : UInt32) : (val &&& 0xFF).toUInt8 = val.toUInt8 := by
  have hmask : (255 : UInt32).toNat = 2 ^ 8 - 1 := rfl
  apply UInt8.toNat_inj.mp
  rw [UInt32.toNat_toUInt8, UInt32.toNat_toUInt8, UInt32.toNat_and, hmask,
    Nat.and_two_pow_sub_one_eq_mod, Nat.mod_mod]

private theorem toUInt8_shift (val : UInt32) {k : UInt32} (hk : k.toNat < 32) :
    (val >>> k).toUInt8 = .ofNat (val.toNat / 2 ^ k.toNat) := by
  rw [toUInt8_eq, UInt32.toNat_shiftRight, Nat.mod_eq_of_lt hk, Nat.shiftRight_eq_div_pow]

/-! ## Loops -/

private theorem getD_drop (data : StdString) (i k : ℕ) :
    (data.drop i).getD k 0 = data.getD (i + k) 0 := by
  rw [List.getD_eq_getElem?_getD, List.getElem?_drop, List.getD_eq_getElem?_getD]

private theorem lt_length_drop (data : StdString) (i : ℕ) {k : ℕ} :
    k < (data.drop i).length ↔ i + k < data.length := by
  rw [List.length_drop]
  omega

/-- The groups of the encoders start over at the index. -/
theorem encodeWord_drop (data : StdString) (i : ℕ) :
    encodeWord (data.drop i) 0 = encodeWord data i := by
  simp only [encodeWord, getD_drop, lt_length_drop, Nat.add_zero, Nat.zero_add]

private theorem toNat_encodeWord_one (a : UInt8) : (encodeWord [a] 0).toNat = a.toNat * 2 ^ 16 :=
  toNat_shift a (by decide)

private theorem toNat_encodeWord_two (a b : UInt8) :
    (encodeWord [a, b] 0).toNat = a.toNat * 2 ^ 16 + b.toNat * 2 ^ 8 := by
  have ha := toNat_shift a (k := 16) (by decide)
  have hb := toNat_shift b (k := 8) (by decide)
  have hlt := b.toNat_lt
  show (a.toUInt32 <<< 16 ||| b.toUInt32 <<< 8).toNat = _
  rw [toNat_or_of_dvd (ha ▸ Nat.dvd_mul_left _ _), ha, hb]
  · rfl
  · rw [hb]
    show b.toNat * 2 ^ 8 < 2 ^ 16
    omega

private theorem toNat_encodeWord_three (a b c : UInt8) (rest : StdString) :
    (encodeWord (a :: b :: c :: rest) 0).toNat =
      a.toNat * 2 ^ 16 + b.toNat * 2 ^ 8 + c.toNat := by
  have hfirst := toNat_encodeWord_two a b
  have hlt := c.toNat_lt
  have hword : encodeWord (a :: b :: c :: rest) 0 = encodeWord [a, b] 0 ||| c.toUInt32 := by
    simp [encodeWord]
  rw [hword, toNat_or_of_dvd (k := 8), hfirst, UInt8.toNat_toUInt32]
  · rw [hfirst]
    omega
  · rw [UInt8.toNat_toUInt32]
    exact hlt

/-- The characters of one group, of which the last one may be short. -/
theorem encodeGroups_eq {group : StdString} (hpos : 0 < group.length) :
    encodeGroups group = [tableAt (encodeWord group 0 >>> 18), tableAt (encodeWord group 0 >>> 12),
      if 1 < group.length then tableAt (encodeWord group 0 >>> 6) else padding,
      if 2 < group.length then tableAt (encodeWord group 0) else padding] ++
        encodeGroups (group.drop 3) := by
  rw [tableAt_shift _ (by decide), tableAt_shift _ (by decide), tableAt_shift _ (by decide),
    tableAt_eq]
  match group with
  | [a] =>
    rw [toNat_encodeWord_one]
    rfl
  | [a, b] =>
    rw [toNat_encodeWord_two]
    rfl
  | a :: b :: c :: rest =>
    rw [toNat_encodeWord_three, if_pos (by simp), if_pos (by simp)]
    rfl

/-- The loop of the encoders appends the groups from the index on. -/
theorem encodeLoop_eq (data : StdString) (i : ℕ) (out : StdString) :
    encodeLoop data i out = out ++ encodeGroups (data.drop i) := by
  induction i, out using encodeLoop.induct data with
  | case1 i out hlt val ih =>
    rw [encodeLoop, if_pos hlt]
    refine ih.trans ?_
    simp only [val, ← encodeWord_drop data i, ← lt_length_drop data i]
    rw [List.append_assoc, ← List.drop_drop]
    congr 1
    have hpos : 0 < (data.drop i).length := (lt_length_drop data i).mpr hlt
    exact (encodeGroups_eq hpos).symm
  | case2 i out hge =>
    rw [encodeLoop, if_neg hge, List.drop_eq_nil_of_le (not_lt.mp hge)]
    exact (List.append_nil out).symm

private theorem decodeWord_drop (s : StdString) (i : ℕ) :
    decodeWord (s.drop i) 0 = decodeWord s i := by
  simp only [decodeWord, getD_drop, Nat.add_zero, Nat.zero_add]

private theorem toNat_decodeWord (a b c d : UInt8) (rest : StdString) :
    (decodeWord (a :: b :: c :: d :: rest) 0).toNat = decodeDigit a * 2 ^ 18 +
      decodeDigit b * 2 ^ 12 + decodeDigit c * 2 ^ 6 + decodeDigit d := by
  have ha := toNat_shift (dec a) (k := 18) (by decide)
  have hb := toNat_shift (dec b) (k := 12) (by decide)
  have hc := toNat_shift (dec c) (k := 6) (by decide)
  have hb' := toNat_dec_lt b
  have hc' := toNat_dec_lt c
  have hd' := toNat_dec_lt d
  simp only [toNat_dec, UInt32.reduceToNat] at ha hb hc hb' hc' hd'
  show ((dec a).toUInt32 <<< 18 ||| (dec b).toUInt32 <<< 12 ||| (dec c).toUInt32 <<< 6 |||
    (dec d).toUInt32).toNat = _
  have hab := toNat_or_of_dvd (v := (dec a).toUInt32 <<< 18) (w := (dec b).toUInt32 <<< 12)
    (k := 18) (by omega) (by omega)
  have habc := toNat_or_of_dvd (v := (dec a).toUInt32 <<< 18 ||| (dec b).toUInt32 <<< 12)
    (w := (dec c).toUInt32 <<< 6) (k := 12) (by omega) (by omega)
  rw [toNat_or_of_dvd (k := 6), habc, hab, ha, hb, hc, UInt8.toNat_toUInt32, toNat_dec]
  · omega
  · rw [UInt8.toNat_toUInt32, toNat_dec]
    exact hd'

/-- The bytes of one group, of which the last two may be missing. -/
theorem decodeGroups_eq {group : StdString} (hlt : 3 < group.length) :
    decodeGroups group = (decodeWord group 0 >>> 16).toUInt8 ::
      ((if group.getD 2 0 ≠ padding then [(decodeWord group 0 >>> 8 &&& 0xFF).toUInt8] else []) ++
        (if group.getD 3 0 ≠ padding then [(decodeWord group 0 &&& 0xFF).toUInt8] else []) ++
          decodeGroups (group.drop 4)) := by
  rw [toUInt8_mask, toUInt8_mask, toUInt8_shift _ (by decide), toUInt8_shift _ (by decide),
    toUInt8_eq]
  match group with
  | a :: b :: c :: d :: rest =>
    rw [toNat_decodeWord]
    rfl

private theorem decodeGroups_of_short {group : StdString} (hle : group.length ≤ 3) :
    decodeGroups group = [] := by
  match group with
  | [] => rfl
  | [_] => rfl
  | [_, _] => rfl
  | [_, _, _] => rfl

/-- The loop of the decoders appends what the groups from the index on give. -/
theorem decodeLoop_eq (s : StdString) (i : ℕ) (out : StdString) :
    decodeLoop s i out = out ++ decodeGroups (s.drop i) := by
  induction i, out using decodeLoop.induct s with
  | case1 i out hlt val first second third ih =>
    rw [decodeLoop, if_pos hlt]
    refine ih.trans ?_
    rw [decodeGroups_eq ((lt_length_drop s i).mpr hlt), decodeWord_drop, getD_drop, getD_drop,
      List.drop_drop]
    simp only [third, second, first, val]
    split_ifs <;> simp
  | case2 i out hge =>
    have hshort : (s.drop i).length ≤ 3 := not_lt.mp ((lt_length_drop s i).not.mpr hge)
    rw [decodeLoop, if_neg hge, decodeGroups_of_short hshort, List.append_nil]

private theorem pad_eq (s : StdString) :
    pad s = s ++ List.replicate ((4 - s.length % 4) % 4) padding := by
  induction s using pad.induct with
  | case1 s hne ih =>
    have hk : (4 - s.length % 4) % 4 = (4 - (s ++ [padding]).length % 4) % 4 + 1 := by
      rw [List.length_append, List.length_singleton]
      omega
    rw [pad, if_pos hne, ih, hk, List.append_assoc, List.replicate_succ]
    rfl
  | case2 s heq =>
    rw [pad, if_neg heq, not_not.mp heq]
    exact (List.append_nil s).symm

private theorem strip_eq (s : StdString) : strip s = s.rdropWhile (· == padding) := by
  induction s using List.reverseRecOn with
  | nil =>
    rw [strip]
    rfl
  | append_singleton s c ih =>
    rw [strip, List.getLast?_concat, List.dropLast_concat]
    by_cases hc : c = padding
    · rw [if_pos (congrArg some hc), ih, List.rdropWhile_concat_pos]
      simpa using hc
    · rw [if_neg fun h => hc (Option.some.inj h), List.rdropWhile_concat_neg]
      simpa using hc

/-! ## The codecs of the model -/

private theorem b64Encode_eq : b64Encode = IotDashboard.b64Encode := by
  funext data
  exact encodeLoop_eq data 0 []

private theorem b64Decode_eq : b64Decode = IotDashboard.b64Decode := by
  funext s
  exact decodeLoop_eq s 0 []

private theorem base64UrlEncode_eq : base64UrlEncode = IotDashboard.base64UrlEncode := by
  funext input
  rw [base64UrlEncode, strip_eq, encodeLoop_eq]
  rfl

private theorem base64UrlDecode_eq : base64UrlDecode = IotDashboard.base64UrlDecode := by
  funext s
  rw [base64UrlDecode, decodeLoop_eq, pad_eq]
  rfl

/-- A letter, a digit, `-` or `_`. -/
def IsUrlChar (c : UInt8) : Prop :=
  (byte 'A' ≤ c ∧ c ≤ byte 'Z') ∨ (byte 'a' ≤ c ∧ c ≤ byte 'z') ∨ (byte '0' ≤ c ∧ c ≤ byte '9') ∨
    c = byte '-' ∨ c = byte '_'

instance (c : UInt8) : Decidable (IsUrlChar c) :=
  inferInstanceAs (Decidable (_ ∨ _ ∨ _ ∨ _ ∨ _))

private theorem isUrlChar_of_mem_kTable : ∀ c ∈ kTable, IsUrlChar (toUrlAlphabet c) := by
  decide +kernel

private theorem padding_notMem_kTable : padding ∉ kTable := by decide

/-- A URL encoding is the standard one in the other alphabet and without the padding, which the
loop of the decoder restores. -/
theorem encoders_agree (x : StdString) :
    base64UrlEncode x = ((b64Encode x).filter (· ≠ padding)).map toUrlAlphabet ∧
      b64Encode x = pad ((base64UrlEncode x).map fromUrlAlphabet) := by
  obtain ⟨body, k, hbody, hmem, hk, hdvd, hurl⟩ := base64UrlEncode_eq_map x
  rw [b64Encode_eq, base64UrlEncode_eq, hurl, IotDashboard.b64Encode, hbody]
  constructor
  · have hkept : body.filter (· ≠ padding) = body := by
      refine List.filter_eq_self.mpr fun c hc => decide_eq_true ?_
      rintro rfl
      exact padding_notMem_kTable (hmem _ hc)
    have hdropped : (List.replicate k padding).filter (· ≠ padding) = [] := by
      refine List.filter_eq_nil_iff.mpr fun c hc => ?_
      simp [List.eq_of_mem_replicate hc]
    rw [List.filter_append, hkept, hdropped, List.append_nil]
  · have hlen : (4 - body.length % 4) % 4 = k := by omega
    rw [map_fromUrlAlphabet hmem, pad_eq, hlen]

/-- The decoders read a text and its form in the other alphabet alike. -/
theorem decoders_agree {body : StdString} {k : ℕ} (hbody : ∀ c ∈ body, c ∈ kTable) (hk : k < 4)
    (hdvd : 4 ∣ body.length + k) :
    base64UrlDecode (body.map toUrlAlphabet) = b64Decode (body ++ List.replicate k padding) := by
  have hlen : (4 - body.length % 4) % 4 = k := by omega
  rw [base64UrlDecode, map_fromUrlAlphabet hbody, pad_eq, hlen]
  rfl

/-- For every byte string: both codecs invert, the encodings keep to their alphabets, the encoders
are injective, and encoders and decoders agree up to the alphabet and the padding. -/
theorem codecs_invert :
    (∀ x, base64UrlDecode (base64UrlEncode x) = x ∧ b64Decode (b64Encode x) = x) ∧
    (∀ x, (∀ c ∈ base64UrlEncode x, IsUrlChar c) ∧ byte '.' ∉ base64UrlEncode x ∧
      byte '=' ∉ base64UrlEncode x) ∧
    (∀ x, 4 ∣ (b64Encode x).length ∧ byte '$' ∉ b64Encode x) ∧
    Function.Injective base64UrlEncode ∧ Function.Injective b64Encode ∧
    (∀ x, base64UrlEncode x = ((b64Encode x).filter (· ≠ padding)).map toUrlAlphabet ∧
      b64Encode x = pad ((base64UrlEncode x).map fromUrlAlphabet)) ∧
    ∀ (body : StdString) (k : ℕ), (∀ c ∈ body, c ∈ kTable) → k < 4 → 4 ∣ body.length + k →
      base64UrlDecode (body.map toUrlAlphabet) = b64Decode (body ++ List.replicate k padding) := by
  have hurl (x : StdString) : base64UrlDecode (base64UrlEncode x) = x := by
    rw [base64UrlDecode_eq, base64UrlEncode_eq, base64UrlDecode_base64UrlEncode]
  have hb64 (x : StdString) : b64Decode (b64Encode x) = x := by
    rw [b64Decode_eq, b64Encode_eq, b64Decode_b64Encode]
  have halphabet (x : StdString) : ∀ c ∈ base64UrlEncode x, IsUrlChar c := by
    obtain ⟨body, k, -, hmem, -, -, hmap⟩ := base64UrlEncode_eq_map x
    rw [base64UrlEncode_eq, hmap]
    intro c hc
    obtain ⟨d, hd, rfl⟩ := List.mem_map.mp hc
    exact isUrlChar_of_mem_kTable d (hmem d hd)
  refine ⟨fun x => ⟨hurl x, hb64 x⟩, fun x => ⟨halphabet x, fun hdot => ?_, fun hpad => ?_⟩,
    fun x => ⟨?_, ?_⟩, Function.LeftInverse.injective hurl, Function.LeftInverse.injective hb64,
    encoders_agree, fun body k => decoders_agree⟩
  · exact absurd (halphabet x _ hdot) (by decide)
  · exact absurd (halphabet x _ hpad) (by decide)
  · obtain ⟨body, k, hbody, -, -, hdvd⟩ := encodeGroups_eq_append x
    rw [b64Encode_eq, IotDashboard.b64Encode, hbody, List.length_append, List.length_replicate]
    exact hdvd
  · rw [b64Encode_eq]
    exact dollar_notMem_b64Encode x

end Base64Loops

end IotDashboard
