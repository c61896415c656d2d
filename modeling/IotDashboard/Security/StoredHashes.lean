import IotDashboard.Security.PasswordHasher

/-!
# Stored password hashes

What `Hash` writes `Verify` reads back. Of all other texts `Verify` should accept none, but it reads
more than `Hash` writes: `stoul` skips blanks and a sign, stops at the first character that is no
digit and is cut to 32 bits, the decoder reads any character and drops a last group that is short,
and the length of the derived key is that of the stored one.

## Main definitions

* `PasswordHasher.WellFormed`: what `Hash` can write;
* `PasswordHasher.Readable`: what `Verify` can read;
* `PasswordHasher.RefusesMalformed`: no password verifies against the text unless it is well formed.

## Main results

* `PasswordHasher.verify_roundTrip`: the round trip;
* `PasswordHasher.refusesMalformed_iff`: the texts that are refused as they should be.
-/

namespace IotDashboard

namespace PasswordHasher

open StdString

private theorem intOfCount_of_lt {n : ℕ} (h : n < 2 ^ 31) : intOfCount n = n :=
  Int.bmod_eq_of_le (by omega) (by omega)

/-! ## The round trip -/

/-- What `Hash` writes is read back, and a candidate verifies exactly if the same key is derived
from it. How many iterations the verifier is configured with plays no part: `verify` takes their
count from the text. -/
theorem verify_roundTrip {V : Vendor} (hderives : V.DerivesKeys) {h : PasswordHasher}
    (hlo : 0 < h.iterations.toNat) (hhi : h.iterations.toNat < 2 ^ 31) (salt : Salt)
    (password : StdString) :
    ∃ stored, ∃ key : Bytes 32, h.hash V (some salt) password = .ok stored ∧
      readStored stored = some ⟨h.iterations.toNat, salt, key⟩ ∧
      (∀ candidate, verify V candidate stored = true ↔
        V.pbkdf2HmacSha256 candidate salt h.iterations.toNat 32 =
          V.pbkdf2HmacSha256 password salt h.iterations.toNat 32) ∧
      verify V password stored = true := by
  have hcount : intOfCount h.iterations.toNat = h.iterations.toNat := intOfCount_of_lt hhi
  obtain ⟨key, hkey⟩ := (hderives password salt h.iterations.toNat 32).mpr (by omega)
  have hkey' := hkey
  rw [← hcount] at hkey'
  have hstored := hash_eq hkey'
  refine ⟨_, key, hstored, readStored_of_hash hkey' hstored, fun candidate => ?_,
    verify_hash hstored⟩
  rw [verify_of_hash hkey' hstored, hcount, hkey]

/-- A hash made with two iterations. -/
theorem verify_roundTrip_twoIterations :
    ∃ stored, ∃ key : Bytes 32,
      hash Vendor.reference ⟨2⟩ (some ⟨List.replicate 16 7, rfl⟩) (lit "pw") = .ok stored ∧
      readStored stored = some ⟨2, List.replicate 16 7, key⟩ ∧
      (∀ candidate, verify Vendor.reference candidate stored = true ↔
        Vendor.reference.pbkdf2HmacSha256 candidate (List.replicate 16 7) 2 32 =
          Vendor.reference.pbkdf2HmacSha256 (lit "pw") (List.replicate 16 7) 2 32) ∧
      verify Vendor.reference (lit "pw") stored = true :=
  verify_roundTrip (h := ⟨2⟩) Vendor.derivesKeys_reference (by decide) (by decide)
    ⟨List.replicate 16 7, rfl⟩ (lit "pw")

/-! ## Texts that `Hash` cannot write -/

/-- The text is one that `Hash` can write. -/
def WellFormed (s : StdString) : Prop :=
  ∃ n, ∃ salt : Salt, ∃ key : Bytes 32, 0 < n ∧ n < 2 ^ 31 ∧
    s = layout (toDecimal n) (b64Encode salt) (b64Encode key)

/-- The text is one that `Verify` can read: two separators after the scheme, something that `stoul`
takes for a number whose low 32 bits are a positive `int`, and a group of four characters at least
in each of the other fields. -/
def Readable (s : StdString) : Prop :=
  ∃ count salt key n, s = layout count salt key ∧ byte '$' ∉ count ∧ byte '$' ∉ salt ∧
    stoul count = some n ∧ 0 < n % 2 ^ 32 ∧ n % 2 ^ 32 < 2 ^ 31 ∧ 4 ≤ salt.length ∧ 4 ≤ key.length

/-- Whatever verifies against the text, the text is a count, a salt and the key derived with them,
each written as `Hash` writes it. -/
def RefusesMalformed (s : StdString) : Prop :=
  ∀ V : Vendor, V.DerivesKeys → V.KeysExtend → ∀ password, verify V password s = true →
    ∃ n, ∃ salt : Salt, ∃ key : Bytes 32, 0 < n ∧
      s = layout (toDecimal n) (b64Encode salt) (b64Encode key) ∧
      V.pbkdf2HmacSha256 password salt n 32 = some key

/-- A byte is decoded as soon as there is one whole group. -/
theorem b64Decode_ne_nil_iff {s : StdString} : b64Decode s ≠ [] ↔ 4 ≤ s.length := by
  rw [b64Decode, decodeGroups.eq_def]
  split
  · simp
  · next hshort =>
    refine iff_of_false (fun hne => hne rfl) fun hlength => ?_
    match s, hlength with
    | a :: b :: c :: d :: rest, _ => exact hshort a b c d rest rfl

private theorem one_le_intOfCount_iff {n : ℕ} (h : n < 2 ^ 32) :
    1 ≤ intOfCount n ↔ 0 < n ∧ n < 2 ^ 31 := by
  have hword : ((2 ^ 32 : ℕ) : ℤ) = 4294967296 := by norm_num
  unfold intOfCount
  rw [Int.bmod_def, hword]
  split_ifs <;> omega

variable {V : Vendor} {s password : StdString} {st : Stored}

/-- What verifies against a text is read from it. -/
theorem readable_of_verify (hderives : V.DerivesKeys) (h : verify V password s = true) :
    Readable s := by
  obtain ⟨st, hread⟩ := exists_readStored_of_verify h
  obtain ⟨count, salt, key, rfl, hcount, hsalt⟩ := exists_layout_of_readStored hread
  rw [verify_of_readStored hread] at h
  rw [readStored_layout hcount hsalt] at hread
  cases hn : stoul count with
  | none =>
    rw [hn] at hread
    cases hread
  | some n =>
    simp only [hn, List.isEmpty_iff] at hread
    split at hread
    · cases hread
    · next hnonempty =>
      cases hread
      rw [not_or] at hnonempty
      -- A key is derived, so the count is positive.
      have hpositive : 1 ≤ intOfCount (n % 2 ^ 32) := by
        refine (hderives password (b64Decode salt) _ (b64Decode key).length).mp ?_
        exact ⟨⟨b64Decode key, rfl⟩, derivesKey_iff.mp h⟩
      obtain ⟨hlo, hhi⟩ := (one_le_intOfCount_iff (Nat.mod_lt _ (by norm_num))).mp hpositive
      exact ⟨count, salt, key, n, rfl, hcount, hsalt, hn, hlo, hhi,
        b64Decode_ne_nil_iff.mp hnonempty.1, b64Decode_ne_nil_iff.mp hnonempty.2⟩

/-- What can be read is read to a salt and a key. -/
theorem exists_readStored (h : Readable s) :
    ∃ n salt key, 0 < n ∧ n < 2 ^ 31 ∧ key ≠ [] ∧ readStored s = some ⟨n, salt, key⟩ := by
  obtain ⟨count, salt, key, n, rfl, hcount, hsalt, hn, hlo, hhi, hsaltLength, hkeyLength⟩ := h
  refine ⟨n % 2 ^ 32, b64Decode salt, b64Decode key, hlo, hhi, b64Decode_ne_nil_iff.mpr hkeyLength,
    ?_⟩
  rw [readStored_layout hcount hsalt, hn]
  simp [b64Decode_ne_nil_iff.mpr hkeyLength, b64Decode_ne_nil_iff.mpr hsaltLength]

/-! ## An adversary -/

/-- The first `length` bytes of a text that is continued by zeros. -/
def stream (base : StdString) (length : ℕ) : Bytes length :=
  ⟨(List.range length).map fun k => base.getD k 0, by simp⟩

/-- A key derivation that depends on the count only. -/
def streaming (base : ℤ → StdString) : Vendor :=
  { Vendor.reference with
    pbkdf2HmacSha256 := fun _ _ iterations length =>
      if 1 ≤ iterations then some (stream (base iterations) length) else none }

private theorem stream_length (base : StdString) : (stream base base.length).val = base := by
  refine List.ext_getElem (by simp [stream]) fun k hk hk' => ?_
  simp [stream, hk']

variable {base : ℤ → StdString}

private theorem derivesKeys_streaming : (streaming base).DerivesKeys := by
  intro password salt iterations length
  simp only [streaming]
  split <;> simp_all

private theorem keysExtend_streaming : (streaming base).KeysExtend := by
  intro password salt iterations m n key key' hle hkey hkey'
  simp only [streaming] at hkey hkey'
  split at hkey
  · next hpositive =>
    rw [if_pos hpositive] at hkey'
    cases hkey
    cases hkey'
    refine (List.IsPrefix.map _ ?_ : List.map _ _ <+: List.map _ _)
    rw [← Nat.sub_add_cancel hle, Nat.add_comm, List.range_add]
    exact List.prefix_append _ _
  · cases hkey

/-! ## All texts -/

/-- An adversary derives the key that any readable text stores, for the count of the text only. -/
theorem RefusesMalformed.wellFormed (hrefuses : RefusesMalformed s) (hreadable : Readable s) :
    WellFormed s := by
  obtain ⟨n, salt, key, hlo, hhi, hkey, hread⟩ := exists_readStored hreadable
  obtain ⟨b, bs, rfl⟩ := List.exists_cons_of_ne_nil hkey
  let V := streaming fun iterations => if iterations = n then b :: bs else [b + 1]
  have hverify : verify V [] s = true := by
    rw [verify_of_readStored hread, intOfCount_of_lt hhi]
    refine (@derivesKey_iff _ _ _ _ _ ⟨b :: bs, rfl⟩).mpr ?_
    simp only [V, streaming, if_true]
    rw [if_pos (by omega)]
    exact congrArg some (Subtype.ext (stream_length _))
  obtain ⟨n', salt', key', hpos, hs, hkey'⟩ :=
    hrefuses V derivesKeys_streaming keysExtend_streaming [] hverify
  have hbound : n' < 2 ^ 64 := by
    by_contra hlarge
    rw [hs, readStored_layout (dollar_notMem_toDecimal n') (dollar_notMem_b64Encode _),
      stoul_toDecimal_eq, if_pos (by omega)] at hread
    cases hread
  rw [hs, readStored_format hbound (ne_nil_of_bytes salt') (ne_nil_of_bytes key')] at hread
  have hkeys : key'.val = b :: bs := congrArg Stored.key (Option.some_inj.mp hread)
  have hcount : n' = n := by
    by_contra hother
    simp only [V, streaming] at hkey'
    rw [if_pos (by omega), if_neg (by exact_mod_cast hother), Option.some_inj] at hkey'
    rw [← hkey'] at hkeys
    -- The keys differ in their first byte.
    have hhead : b + 1 = b := List.head_eq_of_cons_eq hkeys
    simp at hhead
  exact ⟨n', salt', key', hpos, hcount ▸ hhi, hs⟩

/-- The texts that are refused unless they are well formed are those that cannot be read, and the
well-formed ones. -/
theorem refusesMalformed_iff (s : StdString) :
    RefusesMalformed s ↔ (Readable s → WellFormed s) := by
  refine ⟨RefusesMalformed.wellFormed, fun hwellFormed V hderives _ password hverify => ?_⟩
  obtain ⟨n, salt, key, hlo, hhi, rfl⟩ := hwellFormed (readable_of_verify hderives hverify)
  refine ⟨n, salt, key, hlo, rfl, ?_⟩
  rw [verify_of_readStored (readStored_format (by omega) (ne_nil_of_bytes salt)
    (ne_nil_of_bytes key)), Nat.mod_eq_of_lt (by omega), intOfCount_of_lt hhi] at hverify
  exact derivesKey_iff.mp hverify

/-- A stored hash of one iteration that was cut off after four characters of the key. -/
def truncatedHash : StdString :=
  lit "$pbkdf2-sha256$1$BwcHBwcHBwcHBwcHBwcHBw==$AAAA"

/-- The hash that was cut off can be read, with three bytes for a key. -/
theorem not_refusesMalformed_truncatedHash : ¬ RefusesMalformed truncatedHash := by
  intro hrefuses
  have hreadable : Readable truncatedHash :=
    ⟨lit "1", lit "BwcHBwcHBwcHBwcHBwcHBw==", lit "AAAA", 1, by decide⟩
  obtain ⟨n, salt, key, -, hhi, heq⟩ := hrefuses.wellFormed hreadable
  have hread : readStored truncatedHash = some ⟨1, List.replicate 16 7, [0, 0, 0]⟩ := by
    have hlayout : truncatedHash =
        layout (lit "1") (lit "BwcHBwcHBwcHBwcHBwcHBw==") (lit "AAAA") := rfl
    rw [hlayout, readStored_layout (by decide) (by decide)]
    rfl
  rw [heq, readStored_format (by omega) (ne_nil_of_bytes salt) (ne_nil_of_bytes key)] at hread
  have hkey : key.val = [0, 0, 0] := congrArg Stored.key (Option.some_inj.mp hread)
  have hlength := key.property
  rw [hkey] at hlength
  cases hlength

end PasswordHasher

end IotDashboard
