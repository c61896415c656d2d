import IotDashboard.Common.Vendor
import IotDashboard.Foundation.Stateful
import IotDashboard.Security.AccessControl
import IotDashboard.Security.Base64

/-!
# JSON web tokens

`JwtHandler`: compact HS256 tokens, three base64url parts joined by dots. Times and lifetimes are
`int64_t` seconds, so an expiry past the range wraps.

## Main results

* `JwtHandler.SignedAs`: the signature check as a relation between a token and its signing input;
* `JwtHandler.signedAs_of_verify`: what `Verify` accepts passes the signature check;
* `JwtHandler.verify_of_generate`: what `Verify` makes of a generated token at any time.
-/

namespace IotDashboard

open StdString

/-- `JwtHandler`. -/
structure JwtHandler where
  secret : StdString

namespace JwtHandler

variable (V : Vendor) (h : JwtHandler)

/-- The separator of the parts of a token. -/
def dot : UInt8 := byte '.'

/-- `RoleToString` of the token module. -/
def roleToString : Role → StdString := AccessControl.roleToString

/-- `RoleFromString` of the token module. -/
def roleFromString : StdString → Role := AccessControl.roleFromString

/-- `Sign`. -/
def sign (data : StdString) : StdString := V.hmacSha256 h.secret data

/-- The token header. -/
def header : Json :=
  .mkObject [(lit "alg", .string (lit "HS256")), (lit "typ", .string (lit "JWT"))]

/-- The token payload. -/
def payload (claims : UserClaims) (iat exp : Int64) : Json :=
  .mkObject [(lit "sub", .string claims.userId), (lit "username", .string claims.username),
    (lit "role", .string (roleToString claims.role)), (lit "iat", .number iat.toInt),
    (lit "exp", .number exp.toInt)]

/-- The first two parts of a token, from the texts of its header and payload. -/
def signingInput (headerText payloadText : StdString) : StdString :=
  base64UrlEncode headerText ++ dot :: base64UrlEncode payloadText

/-- A signing input with its signature. -/
def signed (input : StdString) : StdString := input ++ dot :: base64UrlEncode (sign V h input)

/-- `Generate`. -/
def generate (now : Int64) (claims : UserClaims) (expirySeconds : Int64) :
    Except CxxException (Result StdString) := do
  let headerText ← liftJson (V.dump header)
  -- Nothing in the payload says which kind of token it is.
  let iat := now
  let exp := iat + expirySeconds
  let payloadText ← liftJson (V.dump (payload claims iat exp))
  return .ok (signed V h (signingInput headerText payloadText))

/-- Whether `CRYPTO_memcmp(a, b, min(a.size(), b.size()))` finds a difference or the sizes do. -/
def signatureDiffers (a b : StdString) : Bool :=
  let n := min a.length b.length
  a.take n != b.take n || a.length != b.length

/-- The second half of `Verify`: the decoded payload of a well-signed token. -/
def readClaims (now : Int64) (payloadJson : StdString) : Except CxxException (Result UserClaims) :=
  match V.parse payloadJson with
  | .error _ => return .error .authorizationFailed
  | .ok payload => do
    let exp ← liftJson (payload.value Json.getInt64 (lit "exp") 0)
    -- A token is still good in the second of its expiry.
    if exp < now then return .error .tokenExpired
    else
      let userId ← liftJson (payload.value Json.getString (lit "sub") [])
      let username ← liftJson (payload.value Json.getString (lit "username") [])
      let role ← liftJson (payload.value Json.getString (lit "role") (lit "Viewer"))
      return .ok ⟨userId, username, roleFromString role⟩

/-- `Verify`. -/
def verify (now : Int64) (token : StdString) : Except CxxException (Result UserClaims) :=
  match token.find dot 0 with
  | none => return .error .authorizationFailed
  | some d1 =>
    match token.find dot (d1 + 1) with
    | none => return .error .authorizationFailed
    | some d2 =>
      let input := token.substr 0 d2
      -- The rest after the second dot, which may hold further dots.
      let sigEncoded := token.substrFrom (d2 + 1)
      let expectedSig := base64UrlEncode (sign V h input)
      if signatureDiffers expectedSig sigEncoded then return .error .authorizationFailed
      else readClaims V now (base64UrlDecode (token.substr (d1 + 1) (d2 - d1 - 1)))

/-! ## The signature check -/

@[simp]
theorem signatureDiffers_eq_false_iff {a b : StdString} :
    signatureDiffers a b = false ↔ a = b := by
  simp only [signatureDiffers, Bool.or_eq_false_iff, bne_eq_false_iff_eq]
  constructor
  · -- With equal lengths the shorter length is the whole.
    rintro ⟨htake, hlen⟩
    rwa [hlen, Nat.min_self, List.take_length, ← hlen, List.take_length] at htake
  · rintro rfl
    exact ⟨rfl, rfl⟩

/-- The token is a signing input of two dot-free parts with this handler's signature on it. -/
def SignedAs (token head body : StdString) : Prop :=
  dot ∉ head ∧ dot ∉ body ∧ token = signed V h (head ++ dot :: body)

variable {V h}

/-- Two tokens with the same signing input are the same. -/
theorem eq_of_signedAs {t t' head body : StdString} (ht : SignedAs V h t head body)
    (ht' : SignedAs V h t' head body) : t = t' := by
  rw [ht.2.2, ht'.2.2]

/-- The three pieces that `Verify` cuts out of a token. -/
private lemma parts (head body sig : StdString) :
    substr (head ++ dot :: (body ++ dot :: sig)) 0 (head.length + 1 + body.length) =
      head ++ dot :: body ∧
    substrFrom (head ++ dot :: (body ++ dot :: sig)) (head.length + 1 + body.length + 1) = sig ∧
    substr (head ++ dot :: (body ++ dot :: sig)) (head.length + 1) body.length = body := by
  refine ⟨?_, ?_, ?_⟩
  · rw [substr, List.drop_zero, ← List.cons_append, ← List.append_assoc]
    exact List.take_left' (by simp; omega)
  · have htoken : head ++ dot :: (body ++ dot :: sig) = (head ++ dot :: body ++ [dot]) ++ sig := by
      simp
    rw [substrFrom, htoken]
    exact List.drop_left' (by simp; omega)
  · have htoken :
        head ++ dot :: (body ++ dot :: sig) = (head ++ [dot]) ++ (body ++ dot :: sig) := by
      simp
    rw [substr, htoken, List.drop_left' (by simp), List.take_left]

/-- `Verify` of a well-signed token reads its payload. -/
theorem verify_of_signedAs {token head body : StdString} (ht : SignedAs V h token head body)
    (now : Int64) : verify V h now token = readClaims V now (base64UrlDecode body) := by
  obtain ⟨hhead, hbody, rfl⟩ := ht
  -- The signature may be any text here; only the places of the two dots matter.
  generalize hsig : base64UrlEncode (sign V h (head ++ dot :: body)) = sig
  have htoken : signed V h (head ++ dot :: body) = head ++ dot :: (body ++ dot :: sig) := by
    simp [signed, hsig]
  have hfirst : find (head ++ dot :: (body ++ dot :: sig)) dot 0 = some head.length :=
    find_append_cons hhead
  have hsecond : find (head ++ dot :: (body ++ dot :: sig)) dot (head.length + 1) =
      some (head.length + 1 + body.length) := by
    have hfind := find_append_length (head ++ [dot]) (body ++ dot :: sig) dot
    rw [find_append_cons hbody] at hfind
    simpa using hfind
  obtain ⟨hinput, hrest, hbody'⟩ := parts head body sig
  have hlen : head.length + 1 + body.length - head.length - 1 = body.length := by omega
  rw [htoken]
  simp only [verify, hfirst, hsecond, hinput, hrest, hlen, hbody', hsig,
    signatureDiffers_eq_false_iff.mpr rfl, Bool.false_eq_true, if_false]

/-- A token passes the signature check, or `Verify` refuses it before reading anything. -/
theorem signedAs_or_verify_eq (now : Int64) (token : StdString) :
    (∃ head body, SignedAs V h token head body) ∨
      verify V h now token = .ok (.error .authorizationFailed) := by
  rw [verify]
  split
  · exact .inr rfl
  · next d1 hd1 =>
    split
    · exact .inr rfl
    · next d2 hd2 =>
      -- The two searches cut the token at its first two dots.
      obtain ⟨head, rest, htoken, hhead, rfl⟩ := eq_append_of_find hd1
      rw [List.drop_zero] at htoken
      subst htoken
      obtain ⟨body, sig, hrest, hbody, rfl⟩ := eq_append_of_find hd2
      obtain rfl : rest = body ++ dot :: sig := by simpa using hrest
      rw [Nat.zero_add]
      obtain ⟨hinput, hrest, -⟩ := parts head body sig
      simp only [hinput, hrest]
      split
      · exact .inr rfl
      · next hsame =>
        rw [Bool.not_eq_true, signatureDiffers_eq_false_iff] at hsame
        refine .inl ⟨head, body, hhead, hbody, ?_⟩
        rw [signed, hsame, List.append_assoc, List.cons_append]

/-- What `Verify` accepts passes the signature check. -/
theorem signedAs_of_verify {now : Int64} {token : StdString} {claims : UserClaims}
    (hverify : verify V h now token = .ok (.ok claims)) :
    ∃ head body, SignedAs V h token head body := by
  rcases signedAs_or_verify_eq (V := V) (h := h) now token with hsigned | hrefused
  · exact hsigned
  · rw [hrefused] at hverify
    cases hverify

/-! ## Generated tokens -/

/-- What `Generate` returns: the token over the printed header and payload. -/
theorem generate_eq_ok_iff {now e : Int64} {claims : UserClaims} {token : StdString} :
    generate V h now claims e = .ok (.ok token) ↔
      ∃ headerText payloadText, V.dump header = .ok headerText ∧
        V.dump (payload claims now (now + e)) = .ok payloadText ∧
        token = signed V h (signingInput headerText payloadText) := by
  unfold generate
  -- Printing the header or the payload may throw, and then there is no token.
  cases hheader : V.dump header with
  | error x => simp [bind, Except.bind]
  | ok headerText =>
    cases hpayload : V.dump (payload claims now (now + e)) with
    | error x => simp [bind, Except.bind, hpayload]
    | ok payloadText => simp [bind, Except.bind, pure, Except.pure, hpayload, eq_comm]

/-- A generated token passes the signature check. -/
theorem signedAs_of_generate {now e : Int64} {claims : UserClaims} {token : StdString}
    (hgen : generate V h now claims e = .ok (.ok token)) :
    ∃ headerText payloadText, V.dump (payload claims now (now + e)) = .ok payloadText ∧
      SignedAs V h token (base64UrlEncode headerText) (base64UrlEncode payloadText) := by
  obtain ⟨headerText, payloadText, -, hpayload, rfl⟩ := generate_eq_ok_iff.mp hgen
  exact ⟨headerText, payloadText, hpayload, dot_notMem_base64UrlEncode _,
    dot_notMem_base64UrlEncode _, rfl⟩

/-- The payload is canonical whatever the claims are. -/
theorem canonical_payload (claims : UserClaims) (iat exp : Int64) :
    (payload claims iat exp).Canonical := by
  -- The time stamps are 64-bit integers, the other fields are strings.
  have hint : ∀ n : Int64, Json.Canonical (.number n.toInt) := fun n =>
    .number n.le_toInt (lt_trans n.toInt_lt (by norm_num))
  refine Json.canonical_mkObject fun f hf => ?_
  simp only [List.mem_cons, List.not_mem_nil, or_false] at hf
  rcases hf with rfl | rfl | rfl | rfl | rfl
  · exact .string _
  · exact .string _
  · exact .string _
  · exact hint iat
  · exact hint exp

/-- UTF-8 claims can be put into a token. -/
theorem exists_generate (hdumps : V.DumpsUtf8) {claims : UserClaims}
    (huserId : claims.userId.isUtf8 = true) (husername : claims.username.isUtf8 = true)
    (now e : Int64) : ∃ token, generate V h now claims e = .ok (.ok token) := by
  obtain ⟨headerText, hheader⟩ := hdumps header (Json.utf8_mkObject fun f hf => by
    simp only [List.mem_cons, List.not_mem_nil, or_false] at hf
    rcases hf with rfl | rfl <;> exact ⟨rfl, .string rfl⟩)
  obtain ⟨payloadText, hpayload⟩ := hdumps (payload claims now (now + e))
    (Json.utf8_mkObject fun f hf => by
      simp only [List.mem_cons, List.not_mem_nil, or_false] at hf
      rcases hf with rfl | rfl | rfl | rfl | rfl
      · exact ⟨rfl, .string huserId⟩
      · exact ⟨rfl, .string husername⟩
      · exact ⟨rfl, .string (by cases claims.role <;> rfl)⟩
      · exact ⟨rfl, .number _⟩
      · exact ⟨rfl, .number _⟩)
  exact ⟨_, generate_eq_ok_iff.mpr ⟨headerText, payloadText, hheader, hpayload, rfl⟩⟩

/-- Other claims cannot: the payload is not printed. -/
theorem exists_generate_iff (hdumps : V.DumpsUtf8) (honly : V.DumpsOnlyUtf8) {claims : UserClaims}
    {now e : Int64} :
    (∃ result, generate V h now claims e = .ok result) ↔
      claims.userId.isUtf8 = true ∧ claims.username.isUtf8 = true := by
  constructor
  · rintro ⟨result, hgen⟩
    obtain ⟨headerText, -, hgen⟩ := Except.exists_of_bind_eq_ok hgen
    obtain ⟨payloadText, hpayload, -⟩ := Except.exists_of_bind_eq_ok hgen
    have hutf8 := honly _ payloadText (liftJson_eq_ok_iff.mp hpayload)
    have huserId : (payload claims now (now + e)).value Json.getString (lit "sub") [] =
        .ok claims.userId := by
      rw [payload, Json.value_mkObject]
      rfl
    have husername : (payload claims now (now + e)).value Json.getString (lit "username") [] =
        .ok claims.username := by
      rw [payload, Json.value_mkObject]
      rfl
    exact ⟨Json.isUtf8_of_value hutf8 rfl huserId, Json.isUtf8_of_value hutf8 rfl husername⟩
  · rintro ⟨huserId, husername⟩
    obtain ⟨token, hgen⟩ := exists_generate (h := h) hdumps huserId husername now e
    exact ⟨_, hgen⟩

/-- A token is ASCII text. -/
theorem isUtf8_of_generate {now e : Int64} {claims : UserClaims} {token : StdString}
    (hgen : generate V h now claims e = .ok (.ok token)) : token.isUtf8 = true := by
  obtain ⟨headerText, payloadText, -, -, rfl⟩ := generate_eq_ok_iff.mp hgen
  refine isUtf8_of_ascii fun b hb => ?_
  simp only [signed, signingInput, List.mem_append, List.mem_cons] at hb
  rcases hb with (hb | rfl | hb) | rfl | hb
  · exact ascii_base64UrlEncode _ b hb
  · decide
  · exact ascii_base64UrlEncode _ b hb
  · decide
  · exact ascii_base64UrlEncode _ b hb

/-- Reading a payload gives its claims back until it expires. -/
theorem readClaims_payload {payloadText : StdString} {claims : UserClaims} {iat exp : Int64}
    (hparse : V.parse payloadText = .ok (payload claims iat exp)) (now : Int64) :
    readClaims V now payloadText =
      .ok (if exp < now then .error .tokenExpired else .ok claims) := by
  have hexp : (payload claims iat exp).value Json.getInt64 (lit "exp") 0 = .ok exp := by
    show Except.ok (Int64.ofInt exp.toInt) = _
    rw [Int64.ofInt_toInt]
  have hsub : (payload claims iat exp).value Json.getString (lit "sub") [] =
      .ok claims.userId := rfl
  have husername : (payload claims iat exp).value Json.getString (lit "username") [] =
      .ok claims.username := rfl
  have hrole : (payload claims iat exp).value Json.getString (lit "role") (lit "Viewer") =
      .ok (AccessControl.roleToString claims.role) := rfl
  simp only [readClaims, hparse, hexp, hsub, husername, hrole, liftJson_ok, bind, Except.bind,
    pure, Except.pure, roleFromString, AccessControl.roleFromString_roleToString]
  split <;> rfl

/-- What `Verify` makes of a generated token: its claims until it expires. -/
theorem verify_of_generate (hjson : V.ParseUndoesDump) {iat e : Int64} {claims : UserClaims}
    {token : StdString} (hgen : generate V h iat claims e = .ok (.ok token)) (now : Int64) :
    verify V h now token =
      .ok (if iat + e < now then .error .tokenExpired else .ok claims) := by
  obtain ⟨headerText, payloadText, hdump, hsigned⟩ := signedAs_of_generate hgen
  -- The check passes, and decoding and parsing give back the payload that was printed.
  rw [verify_of_signedAs hsigned, base64UrlDecode_base64UrlEncode]
  exact readClaims_payload (hjson _ _ (canonical_payload _ _ _) hdump) now

/-- A generated token is accepted only with the claims it was made for, and only up to its
lifetime: an expiry that overflows lies in the past. -/
theorem accepted_of_generate (hjson : V.ParseUndoesDump) {iat e now : Int64}
    {claims claims' : UserClaims} {token : StdString}
    (hgen : generate V h iat claims e = .ok (.ok token))
    (hverify : verify V h now token = .ok (.ok claims')) :
    claims' = claims ∧ now ≤ iat + e := by
  rw [verify_of_generate hjson hgen] at hverify
  split at hverify
  · cases hverify
  · next hlive =>
    cases hverify
    exact ⟨rfl, Int64.not_lt.mp hlive⟩

end JwtHandler

end IotDashboard
