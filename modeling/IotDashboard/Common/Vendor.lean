import IotDashboard.Common.Error
import IotDashboard.Foundation.JsonReading
import IotDashboard.Foundation.JsonRoundTrip
import IotDashboard.Foundation.Sha256

/-!
# Third-party libraries

What the server takes from OpenSSL and from `nlohmann::json` is a parameter: the keyed hash, the
key derivation, and the conversion between JSON values and text. What the server relies on is
stated by named properties of that parameter.

## Main definitions

* `Vendor`: the library functions;
* `Vendor.ParseUndoesDump`, `Vendor.DumpsUtf8`, `Vendor.DumpsOnlyUtf8`, `Vendor.ParsesUtf8`,
  `Vendor.ParsesTextual`: what is relied on in the conversions;
* `Vendor.DerivesKeys`, `Vendor.KeysExtend`: what is relied on in the key derivation;
* `Vendor.reference`: an implementation, which reads no floating-point numbers.
-/

namespace IotDashboard

/-- The library functions that the server calls. -/
structure Vendor where
  /-- `HMAC(EVP_sha256(), key, data)`. -/
  hmacSha256 : StdString → StdString → Bytes 32
  /-- `PKCS5_PBKDF2_HMAC(password, salt, iterations, EVP_sha256(), length)`; `none` when it does
  not return 1. -/
  pbkdf2HmacSha256 : StdString → StdString → ℤ → (length : ℕ) → Option (Bytes length)
  /-- `nlohmann::json::parse(text)`. -/
  parse : StdString → Except JsonException Json
  /-- `j.dump()`. -/
  dump : Json → Except JsonException StdString

namespace Vendor

/-- Parsing a printed value gives the value back. -/
def ParseUndoesDump (V : Vendor) : Prop :=
  ∀ j t, j.Canonical → V.dump j = .ok t → V.parse t = .ok j

/-- Values of well-formed UTF-8 strings can be printed. -/
def DumpsUtf8 (V : Vendor) : Prop := ∀ j : Json, j.Utf8 → ∃ t, V.dump j = .ok t

/-- No other values can be printed. -/
def DumpsOnlyUtf8 (V : Vendor) : Prop := ∀ j t, V.dump j = .ok t → j.Utf8

/-- Parsed values hold well-formed UTF-8 strings. -/
def ParsesUtf8 (V : Vendor) : Prop := ∀ s j, V.parse s = .ok j → j.Utf8

/-- Parsed values are ones that text can carry: numbers that are out of range are errors. -/
def ParsesTextual (V : Vendor) : Prop := ∀ s j, V.parse s = .ok j → j.Textual

/-- The same for all values that text can carry, floating-point numbers included. -/
def RoundTrips (V : Vendor) : Prop := ∀ j t, j.Textual → V.dump j = .ok t → V.parse t = .ok j

/-- A key is derived for every positive count, and for no other. -/
def DerivesKeys (V : Vendor) : Prop :=
  ∀ password salt iterations length,
    (∃ key, V.pbkdf2HmacSha256 password salt iterations length = some key) ↔ 1 ≤ iterations

/-- A shorter key begins a longer one. -/
def KeysExtend (V : Vendor) : Prop :=
  ∀ {password salt iterations m n} {key : Bytes m} {key' : Bytes n}, m ≤ n →
    V.pbkdf2HmacSha256 password salt iterations m = some key →
    V.pbkdf2HmacSha256 password salt iterations n = some key' → key.val <+: key'.val

/-- The library functions written out. The texts of floating-point numbers are left out: they
are printed as `null` and not read. -/
def reference : Vendor where
  hmacSha256 key data := ⟨Sha256.hmac key data, Sha256.length_hmac key data⟩
  pbkdf2HmacSha256 password salt iterations length :=
    if 1 ≤ iterations then
      some ⟨Sha256.pbkdf2 password salt iterations.toNat length, Sha256.length_pbkdf2 ..⟩
    else none
  parse := JsonText.parse fun _ => none
  dump := JsonText.dumpChecked fun _ => StdString.lit "null"

/-- The reference library reads back what it prints. -/
theorem parseUndoesDump_reference : reference.ParseUndoesDump :=
  fun _ _ hj ht => JsonText.parse_dump hj ht

/-- The reference library prints all values of UTF-8 strings. -/
theorem dumpsUtf8_reference : reference.DumpsUtf8 :=
  fun _ hj => ⟨_, JsonText.dumpChecked_of_utf8 hj⟩

/-- The reference library prints no other values. -/
theorem dumpsOnlyUtf8_reference : reference.DumpsOnlyUtf8 :=
  fun _ _ ht => JsonText.utf8_of_dumpChecked ht

/-- What the reference library reads is UTF-8. -/
theorem parsesUtf8_reference : reference.ParsesUtf8 :=
  fun _ _ hj => JsonText.utf8_of_parse hj

/-- The reference library derives a key for each positive count, and for no other one. -/
theorem derivesKeys_reference : reference.DerivesKeys := by
  intro password salt iterations length
  simp only [reference]
  split <;> simp_all

end Vendor

end IotDashboard
