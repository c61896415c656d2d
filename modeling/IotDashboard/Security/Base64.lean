import IotDashboard.Foundation.StdString

/-!
# Base64

The two pairs of codecs of the security module: the standard alphabet with padding for password
hashes, and the URL alphabet without padding for tokens. The loops of the two pairs are the same
and are shared here; the decoders read any byte outside the alphabet as zero.

## Main results

* `decodeGroups_encodeGroups`: decoding inverts encoding, group by group;
* `base64UrlDecode_base64UrlEncode` and `b64Decode_b64Encode`: the codecs invert;
* `dot_notMem_base64UrlEncode`, `dollar_notMem_b64Encode`: the separators of tokens and of stored
  hashes do not occur in what is encoded.
-/

namespace IotDashboard

open StdString

/-- `kTable`. -/
def kTable : StdString :=
  lit "ABCDEFGHIJKLMNOPQRSTUVWXYZabcdefghijklmnopqrstuvwxyz0123456789+/"

/-- The padding character. -/
def padding : UInt8 := byte '='

/-- `kTable[n & 0x3F]`. -/
def encodeDigit (n : ℕ) : UInt8 := kTable.getD (n % 64) 0

/-- The encoding loop: three bytes give four characters, a shorter last group is padded. -/
def encodeGroups : StdString → StdString
  | [] => []
  | [a] =>
    let val := a.toNat * 2 ^ 16
    [encodeDigit (val / 2 ^ 18), encodeDigit (val / 2 ^ 12), padding, padding]
  | [a, b] =>
    let val := a.toNat * 2 ^ 16 + b.toNat * 2 ^ 8
    [encodeDigit (val / 2 ^ 18), encodeDigit (val / 2 ^ 12), encodeDigit (val / 2 ^ 6), padding]
  | a :: b :: c :: rest =>
    let val := a.toNat * 2 ^ 16 + b.toNat * 2 ^ 8 + c.toNat
    encodeDigit (val / 2 ^ 18) :: encodeDigit (val / 2 ^ 12) :: encodeDigit (val / 2 ^ 6) ::
      encodeDigit val :: encodeGroups rest

/-- `dec`: the value of a character, zero outside the alphabet. -/
def decodeDigit (c : UInt8) : ℕ :=
  if byte 'A' ≤ c ∧ c ≤ byte 'Z' then c.toNat - 65
  else if byte 'a' ≤ c ∧ c ≤ byte 'z' then c.toNat - 97 + 26
  else if byte '0' ≤ c ∧ c ≤ byte '9' then c.toNat - 48 + 52
  else if c = byte '+' then 62
  else if c = byte '/' then 63
  else 0

/-- The decoding loop: four characters give up to three bytes, an incomplete group is dropped. -/
def decodeGroups : StdString → StdString
  | a :: b :: c :: d :: rest =>
    let val :=
      decodeDigit a * 2 ^ 18 + decodeDigit b * 2 ^ 12 + decodeDigit c * 2 ^ 6 + decodeDigit d
    -- A padding character stands for a byte that is not there.
    UInt8.ofNat (val / 2 ^ 16) ::
      ((if c ≠ padding then [UInt8.ofNat (val / 2 ^ 8)] else []) ++
        (if d ≠ padding then [UInt8.ofNat val] else []) ++ decodeGroups rest)
  | _ => []

/-- `B64Encode`. -/
def b64Encode (data : StdString) : StdString := encodeGroups data

/-- `B64Decode`. -/
def b64Decode (s : StdString) : StdString := decodeGroups s

/-- `+` to `-` and `/` to `_`. -/
def toUrlAlphabet (c : UInt8) : UInt8 :=
  if c = byte '+' then byte '-' else if c = byte '/' then byte '_' else c

/-- `-` to `+` and `_` to `/`. -/
def fromUrlAlphabet (c : UInt8) : UInt8 :=
  if c = byte '-' then byte '+' else if c = byte '_' then byte '/' else c

/-- `Base64UrlEncode`. -/
def base64UrlEncode (input : StdString) : StdString :=
  ((encodeGroups input).map toUrlAlphabet).rdropWhile (· == padding)

/-- `Base64UrlDecode`. -/
def base64UrlDecode (s : StdString) : StdString :=
  -- Pad to a multiple of four.
  let padded := s.map fromUrlAlphabet
  decodeGroups (padded ++ List.replicate ((4 - padded.length % 4) % 4) padding)

/-! ## Digits -/

private lemma decodeDigit_encodeDigit_lt :
    ∀ n < 64, decodeDigit (encodeDigit n) = n ∧ encodeDigit n ∈ kTable := by decide +kernel

private lemma encodeDigit_mod (n : ℕ) : encodeDigit n = encodeDigit (n % 64) := by
  rw [encodeDigit, encodeDigit, Nat.mod_mod]

@[simp]
theorem decodeDigit_encodeDigit (n : ℕ) : decodeDigit (encodeDigit n) = n % 64 := by
  rw [encodeDigit_mod]
  exact (decodeDigit_encodeDigit_lt _ (Nat.mod_lt _ (by norm_num))).1

private theorem encodeDigit_mem (n : ℕ) : encodeDigit n ∈ kTable := by
  rw [encodeDigit_mod]
  exact (decodeDigit_encodeDigit_lt _ (Nat.mod_lt _ (by norm_num))).2

@[simp]
theorem encodeDigit_ne_padding (n : ℕ) : encodeDigit n ≠ padding := by
  intro h
  have hmem := encodeDigit_mem n
  rw [h] at hmem
  exact absurd hmem (by decide)

/-! ## Groups -/

/-- Decoding inverts encoding, group by group. -/
theorem decodeGroups_encodeGroups (x : StdString) : decodeGroups (encodeGroups x) = x := by
  -- The bytes of a group are its 24-bit value cut at 8-bit places; the digits cut it at 6-bit ones.
  have hcut : ∀ val < 2 ^ 24, val / 2 ^ 18 % 64 * 2 ^ 18 + val / 2 ^ 12 % 64 * 2 ^ 12 +
      val / 2 ^ 6 % 64 * 2 ^ 6 + val % 64 = val := by omega
  have hbyte : ∀ (b : UInt8) (n : ℕ), n % 256 = b.toNat → UInt8.ofNat n = b := by
    intro b n hn
    apply UInt8.toNat_inj.mp
    rw [UInt8.toNat_ofNat', hn]
  have hpad : decodeDigit padding = 0 := rfl
  induction x using encodeGroups.induct with
  | case1 => rfl
  | case2 a =>
    have ha := a.toNat_lt
    simp only [encodeGroups, decodeGroups, decodeDigit_encodeDigit, hpad, ne_eq, not_true_eq_false,
      if_false, List.append_nil]
    rw [hbyte a _ (by omega)]
  | case3 a b =>
    have ha := a.toNat_lt
    have hb := b.toNat_lt
    simp only [encodeGroups, decodeGroups, decodeDigit_encodeDigit, hpad, ne_eq,
      encodeDigit_ne_padding, not_true_eq_false, not_false_eq_true, if_true, if_false,
      List.append_nil]
    rw [hbyte a _ (by omega), hbyte b _ (by omega)]
  | case4 a b c rest ih =>
    have ha := a.toNat_lt
    have hb := b.toNat_lt
    have hc := c.toNat_lt
    have hval := hcut (a.toNat * 2 ^ 16 + b.toNat * 2 ^ 8 + c.toNat) (by omega)
    simp only [encodeGroups, decodeGroups, decodeDigit_encodeDigit, hval, ih, ne_eq,
      encodeDigit_ne_padding, not_false_eq_true, if_true, List.cons_append, List.nil_append]
    rw [hbyte a _ (by omega), hbyte b _ (by omega), hbyte c _ (by omega)]

/-- An encoded string is a run of characters of the alphabet, padded to whole groups. -/
theorem encodeGroups_eq_append (x : StdString) :
    ∃ body k, encodeGroups x = body ++ List.replicate k padding ∧ (∀ c ∈ body, c ∈ kTable) ∧
      k < 4 ∧ 4 ∣ body.length + k := by
  -- Only the last group can be short.
  induction x using encodeGroups.induct with
  | case1 => exact ⟨[], 0, by simp [encodeGroups]⟩
  | case2 a =>
    exact ⟨[encodeDigit _, encodeDigit _], 2, rfl, by simp [encodeDigit_mem], by simp⟩
  | case3 a b =>
    exact ⟨[encodeDigit _, encodeDigit _, encodeDigit _], 1, rfl, by simp [encodeDigit_mem],
      by simp⟩
  | case4 a b c rest ih =>
    obtain ⟨body, k, hbody, hmem, hk, hdvd⟩ := ih
    refine ⟨encodeDigit _ :: encodeDigit _ :: encodeDigit _ :: encodeDigit _ :: body, k,
      by rw [encodeGroups, hbody]; rfl, ?_, hk, ?_⟩
    · simpa [encodeDigit_mem] using hmem
    · simp only [List.length_cons]
      omega

/-! ## Codecs -/

/-- `B64Decode` inverts `B64Encode`. -/
theorem b64Decode_b64Encode (data : StdString) : b64Decode (b64Encode data) = data :=
  decodeGroups_encodeGroups data

private theorem urlAlphabet_of_mem_kTable : ∀ c ∈ kTable, fromUrlAlphabet (toUrlAlphabet c) = c ∧
    toUrlAlphabet c ≠ padding ∧ toUrlAlphabet c ≠ byte '.' ∧ c ≠ byte '$' := by decide +kernel

/-- The swap of the alphabets is undone. -/
theorem map_fromUrlAlphabet {body : StdString} (hbody : ∀ c ∈ body, c ∈ kTable) :
    (body.map toUrlAlphabet).map fromUrlAlphabet = body := by
  rw [List.map_map]
  exact (List.map_congr_left fun c hc => (urlAlphabet_of_mem_kTable c (hbody c hc)).1).trans
    (List.map_id _)

/-- A URL encoding is the alphabet part of the standard encoding, in the other alphabet. -/
theorem base64UrlEncode_eq_map (x : StdString) :
    ∃ body k, encodeGroups x = body ++ List.replicate k padding ∧ (∀ c ∈ body, c ∈ kTable) ∧
      k < 4 ∧ 4 ∣ body.length + k ∧ base64UrlEncode x = body.map toUrlAlphabet := by
  obtain ⟨body, k, hbody, hmem, hk, hdvd⟩ := encodeGroups_eq_append x
  refine ⟨body, k, hbody, hmem, hk, hdvd, ?_⟩
  have hpad : (List.replicate k padding).map toUrlAlphabet = List.replicate k padding := by
    rw [List.map_replicate]
    rfl
  -- The last character of the body is no padding, so the stripping stops there.
  have hkeep : (body.map toUrlAlphabet).rdropWhile (· == padding) = body.map toUrlAlphabet := by
    rw [List.rdropWhile_eq_self_iff]
    intro hne
    obtain ⟨c, hc, hlast⟩ := List.mem_map.mp (List.getLast_mem hne)
    rw [← hlast]
    simpa using (urlAlphabet_of_mem_kTable c (hmem c hc)).2.1
  rw [base64UrlEncode, hbody, List.map_append, hpad]
  refine Eq.trans ?_ hkeep
  clear hbody hk hdvd hpad
  induction k with
  | zero => rw [List.replicate_zero, List.append_nil]
  | succ k ih =>
    rw [List.replicate_succ', ← List.append_assoc, List.rdropWhile_concat_pos _ _ _ (by simp)]
    exact ih

/-- `Base64UrlDecode` inverts `Base64UrlEncode`. -/
theorem base64UrlDecode_base64UrlEncode (x : StdString) :
    base64UrlDecode (base64UrlEncode x) = x := by
  obtain ⟨body, k, hbody, hmem, hk, hdvd, hurl⟩ := base64UrlEncode_eq_map x
  -- The decoder adds exactly the padding that the encoder removed.
  have hlen : (4 - body.length % 4) % 4 = k := by omega
  rw [base64UrlDecode, hurl, map_fromUrlAlphabet hmem, hlen, ← hbody, decodeGroups_encodeGroups]

/-- A URL encoding never contains the separator of token parts. -/
theorem dot_notMem_base64UrlEncode (x : StdString) : byte '.' ∉ base64UrlEncode x := by
  obtain ⟨body, k, -, hmem, -, -, hurl⟩ := base64UrlEncode_eq_map x
  rw [hurl, List.mem_map]
  rintro ⟨c, hc, hdot⟩
  exact (urlAlphabet_of_mem_kTable c (hmem c hc)).2.2.1 hdot

private lemma ascii_urlAlphabet_of_mem_kTable :
    ∀ c ∈ kTable, toUrlAlphabet c ≤ 0x7F := by decide +kernel

/-- A URL encoding is ASCII text. -/
theorem ascii_base64UrlEncode (x : StdString) : ∀ b ∈ base64UrlEncode x, b ≤ 0x7F := by
  obtain ⟨body, k, -, hmem, -, -, hurl⟩ := base64UrlEncode_eq_map x
  rw [hurl]
  intro b hb
  obtain ⟨c, hc, rfl⟩ := List.mem_map.mp hb
  exact ascii_urlAlphabet_of_mem_kTable c (hmem c hc)

/-- An encoding never contains the separator of the fields of a stored hash. -/
theorem dollar_notMem_b64Encode (x : StdString) : byte '$' ∉ b64Encode x := by
  obtain ⟨body, k, hbody, hmem, -⟩ := encodeGroups_eq_append x
  rw [b64Encode, hbody, List.mem_append, List.mem_replicate]
  rintro (hc | ⟨-, hpad⟩)
  · exact (urlAlphabet_of_mem_kTable _ (hmem _ hc)).2.2.2 rfl
  · exact absurd hpad (by decide)

end IotDashboard
