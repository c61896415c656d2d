import IotDashboard.Common.Vendor
import IotDashboard.Security.Base64

/-!
# Password hashing

`PasswordHasher`: PBKDF2 with a random salt, stored as
`$pbkdf2-sha256$<iterations>$<base64 salt>$<base64 hash>`.

## Main results

* `PasswordHasher.verify_of_hash`: a stored hash is read back to the iteration count, salt and key
  it was made from.
-/

namespace IotDashboard

open StdString

/-- What `RAND_bytes` wrote into the salt buffer. -/
abbrev Salt := Bytes 16

/-- `PasswordHasher`. -/
structure PasswordHasher where
  iterations : UInt32

namespace PasswordHasher

variable (V : Vendor)

/-- The text every stored hash starts with. -/
def scheme : StdString := lit "$pbkdf2-sha256$"

/-- `static_cast<int>` of a 32-bit count. -/
def intOfCount (n : ℕ) : ℤ := Int.bmod n (2 ^ 32)

/-- `Hash`; the salt is `none` when `RAND_bytes` fails. -/
def hash (h : PasswordHasher) (salt : Option Salt) (password : StdString) : Result StdString :=
  match salt with
  | none => .error .internalError
  | some salt =>
    match V.pbkdf2HmacSha256 password salt (intOfCount h.iterations.toNat) 32 with
    | none => .error .internalError
    | some key =>
      .ok (scheme ++ toDecimal h.iterations.toNat ++ [byte '$'] ++ b64Encode salt ++ [byte '$'] ++
        b64Encode key)

/-- The last step of `Verify`: derive a key as long as the expected one and compare. -/
def derivesKey (password salt : StdString) (iterations : ℤ) (expected : StdString) : Bool :=
  match V.pbkdf2HmacSha256 password salt iterations expected.length with
  | none => false
  | some computed => computed.val == expected

/-- `Verify`. -/
def verify (password storedHash : StdString) : Bool :=
  if ¬ storedHash.startsWith scheme then false
  else
    let rest := storedHash.substrFrom 15
    match rest.find (byte '$') 0 with
    | none => false
    | some d1 =>
      match stoul (rest.substr 0 d1) with
      | none => false
      | some count =>
        -- `static_cast<uint32_t>` of an `unsigned long`.
        let iterations := count % 2 ^ 32
        let rest := rest.substrFrom (d1 + 1)
        match rest.find (byte '$') 0 with
        | none => false
        | some d2 =>
          let salt := b64Decode (rest.substr 0 d2)
          let expected := b64Decode (rest.substrFrom (d2 + 1))
          -- The length of the derived key is that of the stored one.
          if salt.isEmpty ∨ expected.isEmpty then false
          else derivesKey V password salt (intOfCount iterations) expected

/-! ## Stored hashes -/

/-- What a stored hash says. -/
structure Stored where
  iterations : ℕ
  salt : StdString
  key : StdString

/-- What `Verify` reads before it derives a key. -/
def readStored (storedHash : StdString) : Option Stored :=
  if ¬ storedHash.startsWith scheme then none
  else
    let rest := storedHash.substrFrom 15
    match rest.find (byte '$') 0 with
    | none => none
    | some d1 =>
      match stoul (rest.substr 0 d1) with
      | none => none
      | some count =>
        let rest := rest.substrFrom (d1 + 1)
        match rest.find (byte '$') 0 with
        | none => none
        | some d2 =>
          let salt := b64Decode (rest.substr 0 d2)
          let expected := b64Decode (rest.substrFrom (d2 + 1))
          if salt.isEmpty ∨ expected.isEmpty then none
          else some ⟨count % 2 ^ 32, salt, expected⟩

/-- The parts of a stored hash, put together. -/
def layout (count salt key : StdString) : StdString :=
  scheme ++ (count ++ byte '$' :: (salt ++ byte '$' :: key))

variable {V} {count salt key stored password : StdString} {st : Stored}

/-- `Verify` derives a key by what it reads, and fails when it cannot read. -/
theorem verify_eq (password stored : StdString) :
    verify V password stored =
      match readStored stored with
      | none => false
      | some st => derivesKey V password st.salt (intOfCount st.iterations) st.key := by
  rw [verify, readStored]
  by_cases hscheme : ¬ stored.startsWith scheme
  · rw [if_pos hscheme, if_pos hscheme]
  · rw [if_neg hscheme, if_neg hscheme]
    dsimp only
    -- Each field is found before the next is looked for.
    cases find (stored.substrFrom 15) (byte '$') 0 with
    | none => rfl
    | some d1 =>
      dsimp only
      cases stoul ((stored.substrFrom 15).substr 0 d1) with
      | none => rfl
      | some count =>
        dsimp only
        cases find ((stored.substrFrom 15).substrFrom (d1 + 1)) (byte '$') 0 with
        | none => rfl
        | some d2 =>
          dsimp only
          split
          · rfl
          · rfl

/-- A stored hash that can be read is compared with the derived key. -/
theorem verify_of_readStored (h : readStored stored = some st) (password : StdString) :
    verify V password stored = derivesKey V password st.salt (intOfCount st.iterations) st.key := by
  rw [verify_eq, h]

/-- Only a stored hash that can be read verifies. -/
theorem exists_readStored_of_verify (h : verify V password stored = true) :
    ∃ st, readStored stored = some st := by
  rw [verify_eq] at h
  cases hread : readStored stored with
  | none =>
    rw [hread] at h
    cases h
  | some st => exact ⟨st, rfl⟩

/-- No field holds the separator, so the searches find the ones that were written. -/
theorem readStored_layout (hcount : byte '$' ∉ count) (hsalt : byte '$' ∉ salt) :
    readStored (layout count salt key) =
      match stoul count with
      | none => none
      | some n =>
        if (b64Decode salt).isEmpty ∨ (b64Decode key).isEmpty then none
        else some ⟨n % 2 ^ 32, b64Decode salt, b64Decode key⟩ := by
  have hstart : startsWith (layout count salt key) scheme = true := startsWith_iff.mpr ⟨_, rfl⟩
  have hrest : substrFrom (layout count salt key) 15 =
      count ++ byte '$' :: (salt ++ byte '$' :: key) := List.drop_left' rfl
  have htake : ∀ a b : StdString, substr (a ++ b) 0 a.length = a := by simp [substr]
  have hdrop : ∀ (a b : StdString) c, substrFrom (a ++ c :: b) (a.length + 1) = b := by
    simp [substrFrom]
  simp only [readStored, hstart, not_true_eq_false, if_false, hrest, find_append_cons hcount, htake,
    hdrop, find_append_cons hsalt]

/-- What can be read is laid out like a stored hash. -/
theorem exists_layout_of_readStored (h : readStored stored = some st) :
    ∃ count salt key, stored = layout count salt key ∧ byte '$' ∉ count ∧ byte '$' ∉ salt := by
  simp only [readStored] at h
  split at h
  · cases h
  · next hscheme =>
    obtain ⟨rest, rfl⟩ := startsWith_iff.mp (not_not.mp hscheme)
    have hrest : substrFrom (scheme ++ rest) 15 = rest := List.drop_left' rfl
    rw [hrest] at h
    split at h
    · cases h
    · next d1 hd1 =>
      split at h
      · cases h
      · split at h
        · cases h
        · next d2 hd2 =>
          -- The two searches cut the rest at its first two separators.
          obtain ⟨count, rest', hrest', hcount, rfl⟩ := eq_append_of_find hd1
          rw [List.drop_zero] at hrest'
          subst hrest'
          obtain ⟨salt, key, hkey, hsalt, rfl⟩ := eq_append_of_find hd2
          obtain rfl : rest' = salt ++ byte '$' :: key := by simpa [substrFrom] using hkey
          exact ⟨count, salt, key, rfl, hcount, hsalt⟩

/-- A number has no dollar sign. -/
theorem dollar_notMem_toDecimal (n : ℕ) : byte '$' ∉ toDecimal n := by
  intro hmem
  exact absurd (isDigit_of_mem_toDecimal hmem) (by decide)

/-- A text in the format is read back to what it was made from. -/
theorem readStored_format {n : ℕ} {salt key : StdString} (hn : n < 2 ^ 64) (hsalt : salt ≠ [])
    (hkey : key ≠ []) :
    readStored (layout (toDecimal n) (b64Encode salt) (b64Encode key)) =
      some ⟨n % 2 ^ 32, salt, key⟩ := by
  rw [readStored_layout (dollar_notMem_toDecimal n) (dollar_notMem_b64Encode salt),
    stoul_toDecimal hn]
  simp [b64Decode_b64Encode, hsalt, hkey]

/-- Comparing with a key whose length is asked for compares with that key. -/
lemma derivesKey_iff {n : ℕ} {V : Vendor} {password salt : StdString} {iterations : ℤ}
    {key : Bytes n} :
    derivesKey V password salt iterations key.val = true ↔
      V.pbkdf2HmacSha256 password salt iterations n = some key := by
  obtain ⟨key, rfl⟩ := key
  unfold derivesKey
  split <;> simp_all [Subtype.ext_iff]

/-- With a derived key, the hash is its layout with the salt. -/
theorem hash_eq {h : PasswordHasher} {salt : Salt} {key : Bytes 32}
    (hkey : V.pbkdf2HmacSha256 password salt (intOfCount h.iterations.toNat) 32 = some key) :
    h.hash V (some salt) password =
      .ok (layout (toDecimal h.iterations.toNat) (b64Encode salt) (b64Encode key)) := by
  rw [hash, hkey]
  simp [layout]

/-- A salt or key has a byte. -/
theorem ne_nil_of_bytes {n : ℕ} (b : Bytes (n + 1)) : b.val ≠ [] := by
  intro hnil
  have hlength := b.property
  rw [hnil] at hlength
  cases hlength

/-- The text that `Hash` makes is read back to the iteration count, salt and key. -/
theorem readStored_of_hash {h : PasswordHasher} {salt : Salt} {key : Bytes 32}
    (hkey : V.pbkdf2HmacSha256 password salt (intOfCount h.iterations.toNat) 32 = some key)
    (hstored : h.hash V (some salt) password = .ok stored) :
    readStored stored = some ⟨h.iterations.toNat, salt, key⟩ := by
  have hlt : h.iterations.toNat < 2 ^ 32 := h.iterations.toNat_lt
  rw [hash_eq hkey] at hstored
  cases hstored
  rw [readStored_format (by omega) (ne_nil_of_bytes salt) (ne_nil_of_bytes key),
    Nat.mod_eq_of_lt hlt]

/-- A stored hash is read back to the iteration count, salt and key it was made from: a candidate
verifies exactly if the same key is derived from it. -/
theorem verify_of_hash {V : Vendor} {h : PasswordHasher} {salt : Salt} {key : Bytes 32}
    {password stored : StdString}
    (hkey : V.pbkdf2HmacSha256 password salt (intOfCount h.iterations.toNat) 32 = some key)
    (hstored : h.hash V (some salt) password = .ok stored) (candidate : StdString) :
    verify V candidate stored = true ↔
      V.pbkdf2HmacSha256 candidate salt (intOfCount h.iterations.toNat) 32 = some key := by
  rw [verify_of_readStored (readStored_of_hash hkey hstored)]
  exact derivesKey_iff

/-- The password a hash was made from verifies. -/
theorem verify_hash {V : Vendor} {h : PasswordHasher} {salt : Option Salt}
    {password stored : StdString} (hstored : h.hash V salt password = .ok stored) :
    verify V password stored = true := by
  cases salt with
  | none => simp [hash] at hstored
  | some salt =>
    cases hkey : V.pbkdf2HmacSha256 password salt (intOfCount h.iterations.toNat) 32 with
    | none => simp [hash, hkey] at hstored
    | some key => exact (verify_of_hash hkey hstored password).mpr hkey

end PasswordHasher

end IotDashboard
