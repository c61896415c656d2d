import Mathlib.Algebra.Group.Nat.Defs
import Mathlib.Tactic.Common

/-!
# SHA-256, HMAC and PBKDF2

The hash function of FIPS 180-4 on byte lists, the keyed hash of RFC 2104 over it and the key
derivation of RFC 8018 over that. Nothing is proved about their strength; the results are the
lengths of their outputs.

* `Sha256.length_digest`, `Sha256.length_hmac`, `Sha256.length_pbkdf2`.
-/

namespace Sha256

/-- The eight working variables. -/
structure State where
  a : UInt32
  b : UInt32
  c : UInt32
  d : UInt32
  e : UInt32
  f : UInt32
  g : UInt32
  h : UInt32

/-- The initial hash value. -/
def initial : State :=
  ⟨0x6a09e667, 0xbb67ae85, 0x3c6ef372, 0xa54ff53a, 0x510e527f, 0x9b05688c, 0x1f83d9ab, 0x5be0cd19⟩

/-- The round constants. -/
def roundConstants : List UInt32 :=
  [0x428a2f98, 0x71374491, 0xb5c0fbcf, 0xe9b5dba5, 0x3956c25b, 0x59f111f1, 0x923f82a4, 0xab1c5ed5,
   0xd807aa98, 0x12835b01, 0x243185be, 0x550c7dc3, 0x72be5d74, 0x80deb1fe, 0x9bdc06a7, 0xc19bf174,
   0xe49b69c1, 0xefbe4786, 0x0fc19dc6, 0x240ca1cc, 0x2de92c6f, 0x4a7484aa, 0x5cb0a9dc, 0x76f988da,
   0x983e5152, 0xa831c66d, 0xb00327c8, 0xbf597fc7, 0xc6e00bf3, 0xd5a79147, 0x06ca6351, 0x14292967,
   0x27b70a85, 0x2e1b2138, 0x4d2c6dfc, 0x53380d13, 0x650a7354, 0x766a0abb, 0x81c2c92e, 0x92722c85,
   0xa2bfe8a1, 0xa81a664b, 0xc24b8b70, 0xc76c51a3, 0xd192e819, 0xd6990624, 0xf40e3585, 0x106aa070,
   0x19a4c116, 0x1e376c08, 0x2748774c, 0x34b0bcb5, 0x391c0cb3, 0x4ed8aa4a, 0x5b9cca4f, 0x682e6ff3,
   0x748f82ee, 0x78a5636f, 0x84c87814, 0x8cc70208, 0x90befffa, 0xa4506ceb, 0xbef9a3f7, 0xc67178f2]

/-- Rotation to the right. -/
def rotr (x n : UInt32) : UInt32 := (x >>> n) ||| (x <<< (32 - n))

/-- The big-endian bytes of a word. -/
def wordBytes (w : UInt32) : List UInt8 :=
  [(w >>> 24).toUInt8, (w >>> 16).toUInt8, (w >>> 8).toUInt8, w.toUInt8]

/-- The big-endian words of a byte list. -/
def words : List UInt8 → List UInt32
  | a :: b :: c :: d :: rest =>
    ((a.toUInt32 <<< 24) ||| (b.toUInt32 <<< 16) ||| (c.toUInt32 <<< 8) ||| d.toUInt32) ::
      words rest
  | _ => []

/-- The message followed by a one bit, zeros and its length in bits: whole 64-byte blocks. -/
def pad (msg : List UInt8) : List UInt8 :=
  -- The length in bits takes eight bytes.
  let bits := 8 * msg.length
  msg ++ 0x80 :: List.replicate ((119 - msg.length % 64) % 64) 0 ++
    wordBytes (UInt32.ofNat (bits / 2 ^ 32)) ++ wordBytes (UInt32.ofNat bits)

/-- One further word of the message schedule, kept newest first. -/
def extendSchedule (w : List UInt32) : List UInt32 :=
  let x := w.getD 14 0
  let y := w.getD 1 0
  let s0 := rotr x 7 ^^^ rotr x 18 ^^^ (x >>> 3)
  let s1 := rotr y 17 ^^^ rotr y 19 ^^^ (y >>> 10)
  (w.getD 15 0 + s0 + w.getD 6 0 + s1) :: w

/-- The sixty-four words of the message schedule of a block. -/
def schedule (block : List UInt8) : List UInt32 :=
  (Nat.repeat extendSchedule 48 (words block).reverse).reverse

/-- One round with its constant and its schedule word. -/
def round (s : State) (kw : UInt32 × UInt32) : State :=
  let s1 := rotr s.e 6 ^^^ rotr s.e 11 ^^^ rotr s.e 25
  let ch := (s.e &&& s.f) ^^^ (~~~s.e &&& s.g)
  let t1 := s.h + s1 + ch + kw.1 + kw.2
  let s0 := rotr s.a 2 ^^^ rotr s.a 13 ^^^ rotr s.a 22
  let maj := (s.a &&& s.b) ^^^ (s.a &&& s.c) ^^^ (s.b &&& s.c)
  ⟨t1 + s0 + maj, s.a, s.b, s.c, s.d + t1, s.e, s.f, s.g⟩

/-- The compression function. -/
def compress (s : State) (block : List UInt8) : State :=
  let t := (roundConstants.zip (schedule block)).foldl round s
  ⟨s.a + t.a, s.b + t.b, s.c + t.c, s.d + t.d, s.e + t.e, s.f + t.f, s.g + t.g, s.h + t.h⟩

/-- The bytes of a hash value. -/
def State.bytes (s : State) : List UInt8 :=
  [s.a, s.b, s.c, s.d, s.e, s.f, s.g, s.h].flatMap wordBytes

/-- SHA-256. -/
def digest (msg : List UInt8) : List UInt8 :=
  let padded := pad msg
  State.bytes ((List.range (padded.length / 64)).foldl
    (fun s i => compress s ((padded.drop (64 * i)).take 64)) initial)

/-- HMAC-SHA256. -/
def hmac (key msg : List UInt8) : List UInt8 :=
  -- A key longer than a block is hashed first.
  let short := if 64 < key.length then digest key else key
  let block := short ++ List.replicate (64 - short.length) 0
  digest (block.map (· ^^^ 0x5c) ++ digest (block.map (· ^^^ 0x36) ++ msg))

/-- One further iteration: the last hash and the sum of all hashes so far. -/
def iterate (password : List UInt8) (us : List UInt8 × List UInt8) : List UInt8 × List UInt8 :=
  let u := hmac password us.1
  (u, List.zipWith (· ^^^ ·) us.2 u)

/-- Block `i` of the derived key. -/
def deriveBlock (password salt : List UInt8) (iterations i : ℕ) : List UInt8 :=
  let u := hmac password (salt ++ wordBytes (UInt32.ofNat i))
  (Nat.repeat (iterate password) (iterations - 1) (u, u)).2

/-- PBKDF2 with HMAC-SHA256. -/
def pbkdf2 (password salt : List UInt8) (iterations keyLength : ℕ) : List UInt8 :=
  ((List.range ((keyLength + 31) / 32)).flatMap
    fun i => deriveBlock password salt iterations (i + 1)).take keyLength

@[simp]
theorem length_digest (msg : List UInt8) : (digest msg).length = 32 := rfl

/-- A keyed hash has 32 bytes. -/
@[simp]
theorem length_hmac (key msg : List UInt8) : (hmac key msg).length = 32 := length_digest _

/-- A derived block has 32 bytes. -/
theorem length_deriveBlock (password salt : List UInt8) (iterations i : ℕ) :
    (deriveBlock password salt iterations i).length = 32 := by
  -- The sum of hashes keeps the length of a hash.
  have hiterate : ∀ n us, us.2.length = 32 →
      (Nat.repeat (iterate password) n us).2.length = 32 := by
    intro n us hus
    induction n with
    | zero => exact hus
    | succ n ih => simp [Nat.repeat, iterate, ih]
  exact hiterate _ _ (length_hmac _ _)

/-- The derived key has the length asked for. -/
@[simp]
theorem length_pbkdf2 (password salt : List UInt8) (iterations keyLength : ℕ) :
    (pbkdf2 password salt iterations keyLength).length = keyLength := by
  rw [pbkdf2, List.length_take, List.length_flatMap]
  simp only [length_deriveBlock, List.map_const', List.length_range, List.sum_replicate_nat]
  omega

end Sha256
