import IotDashboard.Security.AuthenticationService

/-!
# What `Verify` accepts

A token of `Generate` comes back with its claims until it expires. Over all byte strings `Verify`
should accept the well-signed tokens whose payload is an object with well-typed fields and an
expiry that is not past, and refuse the others with an error. The fields are read after the `try`
block, with a default for a missing expiry and a conversion to `int64_t`, and there it goes wrong.

## Main definitions

* `JwtHandler.Acceptable`: the tokens that should be accepted;
* `JwtHandler.VerifiesExactly`: `Verify` accepts these and refuses the others, and a revoked token
  has no other text.

## Main results

* `JwtHandler.verify_generate`: the round trip;
* `JwtHandler.verifiesExactly_iff`: the payloads on which `Verify` does what it should.
-/

namespace IotDashboard

namespace JwtHandler

open StdString

/-! ## The round trip -/

section RoundTrip

variable {V : Vendor} {h h' : JwtHandler} {claims : UserClaims}

/-- A handler with the same secret reads the claims back up to and including the last second. -/
theorem verify_generate (hjson : V.ParseUndoesDump) (hdumps : V.DumpsUtf8)
    (hsecret : h'.secret = h.secret) (huserId : claims.userId.isUtf8 = true)
    (husername : claims.username.isUtf8 = true) {issued e : Int64}
    (hlo : -2 ^ 63 ≤ issued.toInt + e.toInt) (hhi : issued.toInt + e.toInt < 2 ^ 63)
    (now : Int64) :
    ∃ token, h.generate V issued claims e = .ok (.ok token) ∧
      h'.verify V now token =
        .ok (if now.toInt ≤ issued.toInt + e.toInt then .ok claims else .error .tokenExpired) := by
  obtain ⟨token, hgen⟩ := exists_generate (h := h) hdumps huserId husername issued e
  obtain rfl : h' = h := by
    cases h
    cases h'
    exact congrArg JwtHandler.mk hsecret
  refine ⟨token, hgen, ?_⟩
  have hexp : (issued + e).toInt = issued.toInt + e.toInt := by
    rw [Int64.toInt_add, Int.bmod_eq_of_le (by omega) (by omega)]
  rw [verify_of_generate hjson hgen]
  by_cases hlive : now.toInt ≤ issued.toInt + e.toInt
  · rw [if_pos hlive, if_neg]
    rwa [Int64.not_lt, Int64.le_iff_toInt_le, hexp]
  · rw [if_neg hlive, if_pos]
    rwa [Int64.lt_iff_toInt_lt, hexp, ← not_le]

/-- A token for ten seconds, in its last second. -/
theorem verify_generate_lastSecond :
    ∃ token, JwtHandler.generate Vendor.reference ⟨lit "secret"⟩ 5
        ⟨lit "u-1", lit "alice", .operator⟩ 10 = .ok (.ok token) ∧
      JwtHandler.verify Vendor.reference ⟨lit "secret"⟩ 15 token =
        .ok (if (15 : Int64).toInt ≤ (5 : Int64).toInt + (10 : Int64).toInt
          then .ok ⟨lit "u-1", lit "alice", .operator⟩ else .error .tokenExpired) :=
  verify_generate (h := ⟨lit "secret"⟩) Vendor.parseUndoesDump_reference
    Vendor.dumpsUtf8_reference rfl (by decide) (by decide) (by decide) (by decide) 15

end RoundTrip

/-! ## Which tokens should be accepted -/

/-- The claims in a payload are strings where they are there. -/
def StringFields (fields : List (StdString × Json)) : Prop :=
  ∀ key, key = lit "sub" ∨ key = lit "username" ∨ key = lit "role" →
    ∀ v, Json.lookup key fields = some v → ∃ s, v = .string s

section

variable (V : Vendor) (h : JwtHandler)

/-- The token is well signed, and carries an object with well-typed claims and an expiry that is
not past. -/
def Acceptable (now : Int64) (token : StdString) : Prop :=
  ∃ head body fields exp, SignedAs V h token head body ∧
    V.parse (base64UrlDecode body) = .ok (.object fields) ∧ StringFields fields ∧
    Json.lookup (lit "exp") fields = some exp ∧ exp.AtLeast now.toInt

/-- Two tokens with one text before the second dot. -/
def SameInput (token token' : StdString) : Prop :=
  ∃ input sig sig', input.count dot = 1 ∧ token = input ++ dot :: sig ∧
    token' = input ++ dot :: sig'

/-- `Verify` returns, accepts what it should, and an accepted token has no other text: to revoke
the text is to revoke the token. -/
structure VerifiesExactly (now : Int64) (token : StdString) : Prop where
  returns : ∃ result, h.verify V now token = .ok result
  accepts : (∃ claims, h.verify V now token = .ok (.ok claims)) ↔ h.Acceptable V now token
  unique : ∀ {claims claims' now' token'}, h.verify V now token = .ok (.ok claims) →
    h.verify V now' token' = .ok (.ok claims') → SameInput token token' → token' = token
  revokes : ∀ {s : AuthenticationService} {claims claims' now' token'}, s.jwtHandler = h →
    s.validateToken V now token = .ok (.ok claims) → SameInput token token' →
    (s.logout token).validateToken V now' token' ≠ .ok (.ok claims')

end

/-- `Verify` can read the payload: it is an object whose expiry is a number, and the conversion to
`int64_t` leaves it on its side of the present. Without an expiry, or with an ill-typed claim, the
payload is past by what is read for the expiry. -/
def Readable (now : Int64) (payload : Json) : Prop :=
  ∃ fields, payload = .object fields ∧
    match Json.lookup (lit "exp") fields with
    | none => 0 < now
    | some exp => ∃ e, exp.getInt64 = .ok e ∧
      (StringFields fields → (now ≤ e ↔ exp.AtLeast now.toInt)) ∧ (¬ StringFields fields → e < now)

variable {V : Vendor} {h : JwtHandler} {now : Int64} {token text : StdString}
  {fields : List (StdString × Json)}

/-! ## Reading a payload -/

private theorem readClaims_of_expired {payload : Json} {e : Int64}
    (hparse : V.parse text = .ok payload)
    (hexp : payload.value Json.getInt64 (lit "exp") 0 = .ok e) (hpast : e < now) :
    readClaims V now text = .ok (.error .tokenExpired) := by
  simp only [readClaims, hparse, hexp, liftJson_ok, bind, Except.bind, if_pos hpast]
  rfl

/-- `value` for a string succeeds when the field is a string or not there. -/
theorem exists_value_getString_iff {key fallback : StdString} :
    (∃ s, (Json.object fields).value Json.getString key fallback = .ok s) ↔
      ∀ v, Json.lookup key fields = some v → ∃ s, v = .string s := by
  rw [Json.exists_value_iff]
  constructor
  · rintro ⟨fields', hfields, htyped⟩ v hv
    cases hfields
    obtain ⟨s, hs⟩ := htyped v hv
    exact ⟨s, Json.eq_string_of_getString hs⟩
  · refine fun h => ⟨fields, rfl, fun v hv => ?_⟩
    obtain ⟨s, rfl⟩ := h v hv
    exact ⟨s, rfl⟩

private theorem stringFields_iff (fields : List (StdString × Json)) :
    StringFields fields ↔
      (∃ s, (Json.object fields).value Json.getString (lit "sub") [] = .ok s) ∧
      (∃ s, (Json.object fields).value Json.getString (lit "username") [] = .ok s) ∧
      ∃ s, (Json.object fields).value Json.getString (lit "role") (lit "Viewer") = .ok s := by
  simp only [exists_value_getString_iff, StringFields, forall_eq_or_imp, forall_eq]

/-- A payload that is not past gives its claims if they are strings, and throws otherwise. -/
theorem readClaims_of_live {e : Int64} (hparse : V.parse text = .ok (.object fields))
    (hexp : (Json.object fields).value Json.getInt64 (lit "exp") 0 = .ok e) (hlive : now ≤ e) :
    (StringFields fields → ∃ claims, readClaims V now text = .ok (.ok claims)) ∧
      (¬ StringFields fields → ∃ x, readClaims V now text = .error x) := by
  rw [stringFields_iff]
  simp only [readClaims, hparse, hexp, liftJson_ok, bind, Except.bind,
    if_neg (Int64.not_lt.mpr hlive)]
  -- The three claims are read one after the other, and the first that is ill-typed ends it.
  rcases (Json.object fields).value Json.getString (lit "sub") [] with x | userId
  · refine ⟨?_, fun _ => ⟨_, rfl⟩⟩
    rintro ⟨⟨_, hsub⟩, -⟩
    cases hsub
  · rcases (Json.object fields).value Json.getString (lit "username") [] with x | username
    · refine ⟨?_, fun _ => ⟨_, rfl⟩⟩
      rintro ⟨-, ⟨_, husername⟩, -⟩
      cases husername
    · rcases (Json.object fields).value Json.getString (lit "role") (lit "Viewer") with x | role
      · refine ⟨?_, fun _ => ⟨_, rfl⟩⟩
        rintro ⟨-, -, _, hrole⟩
        cases hrole
      · exact ⟨fun _ => ⟨_, rfl⟩, fun hnot => absurd ⟨⟨_, rfl⟩, ⟨_, rfl⟩, _, rfl⟩ hnot⟩

/-- The payload is read without an exception, and accepted if it should be. -/
def ReadsExactly (V : Vendor) (now : Int64) (text : StdString) (payload : Json) : Prop :=
  (∃ result, readClaims V now text = .ok result) ∧
    ((∃ claims, readClaims V now text = .ok (.ok claims)) ↔
      ∃ fields exp, payload = .object fields ∧ StringFields fields ∧
        Json.lookup (lit "exp") fields = some exp ∧ exp.AtLeast now.toInt)

private theorem readsExactly_iff_of_value {e : Int64} (hparse : V.parse text = .ok (.object fields))
    (hexp : (Json.object fields).value Json.getInt64 (lit "exp") 0 = .ok e) :
    ReadsExactly V now text (.object fields) ↔
      (StringFields fields →
        (now ≤ e ↔ ∃ exp, Json.lookup (lit "exp") fields = some exp ∧ exp.AtLeast now.toInt)) ∧
      (¬ StringFields fields → e < now) := by
  have hshould : (∃ fields' exp, Json.object fields = .object fields' ∧ StringFields fields' ∧
      Json.lookup (lit "exp") fields' = some exp ∧ exp.AtLeast now.toInt) ↔
      StringFields fields ∧
        ∃ exp, Json.lookup (lit "exp") fields = some exp ∧ exp.AtLeast now.toInt := by
    constructor
    · rintro ⟨fields', exp, hobject, hstrings, hexp⟩
      cases hobject
      exact ⟨hstrings, exp, hexp⟩
    · rintro ⟨hstrings, exp, hexp⟩
      exact ⟨fields, exp, rfl, hstrings, hexp⟩
  rw [ReadsExactly, hshould]
  by_cases hlive : now ≤ e
  · obtain ⟨hstrings, hnot⟩ := readClaims_of_live hparse hexp hlive
    by_cases hfields : StringFields fields
    · obtain ⟨claims, hclaims⟩ := hstrings hfields
      simp [hclaims, hfields, hlive]
    · obtain ⟨x, hx⟩ := hnot hfields
      simp [hx, hfields, Int64.not_lt.mpr hlive]
  · rw [readClaims_of_expired hparse hexp (Int64.not_le.mp hlive)]
    simp [hlive, Int64.not_le.mp hlive]

private theorem readsExactly_iff {payload : Json} (hparse : V.parse text = .ok payload) :
    ReadsExactly V now text payload ↔ Readable now payload := by
  rcases payload with _ | _ | _ | _ | _ | _ | fields
  case object =>
    have hreadable : Readable now (.object fields) ↔
        match Json.lookup (lit "exp") fields with
        | none => 0 < now
        | some exp => ∃ e, exp.getInt64 = .ok e ∧
          (StringFields fields → (now ≤ e ↔ exp.AtLeast now.toInt)) ∧
          (¬ StringFields fields → e < now) := by
      simp only [Readable, Json.object.injEq, exists_eq_left']
    rw [hreadable]
    cases hlookup : Json.lookup (lit "exp") fields with
    | none =>
      have hexp : (Json.object fields).value Json.getInt64 (lit "exp") 0 = .ok 0 := by
        rw [Json.value, hlookup]
      rw [readsExactly_iff_of_value hparse hexp, hlookup]
      by_cases hfields : StringFields fields
      · simp [hfields]
      · simp [hfields]
    | some exp =>
      have hvalue : (Json.object fields).value Json.getInt64 (lit "exp") 0 = exp.getInt64 := by
        rw [Json.value, hlookup]
      cases hint : exp.getInt64 with
      | error x =>
        -- An expiry of another type throws.
        refine iff_of_false ?_ ?_
        · rintro ⟨⟨result, hresult⟩, -⟩
          simp [readClaims, hparse, hvalue, hint, bind, Except.bind] at hresult
        · rintro ⟨e, he, -⟩
          rw [hint] at he
          cases he
      | ok e =>
        rw [readsExactly_iff_of_value hparse (hvalue.trans hint), hlookup]
        simp [hint]
  -- What is no object has no fields to read.
  all_goals
    refine iff_of_false ?_ ?_
    · rintro ⟨⟨result, hresult⟩, -⟩
      simp [readClaims, hparse, Json.value, bind, Except.bind] at hresult
    · rintro ⟨fields, hobject, -⟩
      cases hobject

/-! ## The signing input -/

/-- A text is cut at its first dot in one way. -/
private lemma append_dot_inj {a a' b b' : StdString} (ha : dot ∉ a) (ha' : dot ∉ a')
    (heq : a ++ dot :: b = a' ++ dot :: b') : a = a' ∧ b = b' := by
  have hfind := find_append_cons (b := b) ha
  rw [heq, find_append_cons ha', Option.some_inj] at hfind
  obtain ⟨rfl, hrest⟩ := List.append_inj heq hfind.symm
  exact ⟨rfl, List.cons_injective hrest⟩

/-- The text before the second dot of a well-signed token is its signing input. -/
theorem eq_of_signedAs_append {input sig head body : StdString} (hcount : input.count dot = 1)
    (ht : SignedAs V h (input ++ dot :: sig) head body) : input = head ++ dot :: body := by
  obtain ⟨hhead, hbody, htoken⟩ := ht
  obtain ⟨a, b, rfl⟩ := List.append_of_mem (List.count_pos_iff.mp (hcount ▸ Nat.one_pos))
  have hnone : a.count dot + b.count dot = 0 := by
    rw [List.count_append, List.count_cons_self] at hcount
    omega
  have ha : dot ∉ a := List.count_eq_zero.mp (by omega)
  have hb : dot ∉ b := List.count_eq_zero.mp (by omega)
  rw [signed, List.append_assoc, List.append_assoc, List.cons_append, List.cons_append] at htoken
  obtain ⟨rfl, hrest⟩ := append_dot_inj ha hhead htoken
  obtain ⟨rfl, -⟩ := append_dot_inj hb hbody hrest
  rfl

private theorem signedAs_unique {head body head' body' : StdString}
    (ht : SignedAs V h token head body)
    (ht' : SignedAs V h token head' body') : head = head' ∧ body = body' := by
  have hcount : (head ++ dot :: body).count dot = 1 := by
    rw [List.count_append, List.count_cons_self, List.count_eq_zero.mpr ht.1,
      List.count_eq_zero.mpr ht.2.1]
  rw [ht.2.2, signed] at ht'
  exact append_dot_inj ht.1 ht'.1 (eq_of_signedAs_append hcount ht')

/-- Two accepted tokens with one signing input are the same. -/
theorem eq_of_sameInput {token' : StdString} {now' : Int64} {claims claims' : UserClaims}
    (hverify : h.verify V now token = .ok (.ok claims))
    (hverify' : h.verify V now' token' = .ok (.ok claims')) (hsame : SameInput token token') :
    token' = token := by
  obtain ⟨head, body, ht⟩ := signedAs_of_verify hverify
  obtain ⟨head', body', ht'⟩ := signedAs_of_verify hverify'
  obtain ⟨input, sig, sig', hcount, rfl, rfl⟩ := hsame
  rw [ht.2.2, ht'.2.2, ← eq_of_signedAs_append hcount ht, ← eq_of_signedAs_append hcount ht']

/-! ## All tokens -/

/-- To revoke an accepted token leaves no other text for it. -/
theorem validateToken_logout_ne {s : AuthenticationService} {token' : StdString} {now' : Int64}
    {claims claims' : UserClaims} (hvalid : s.validateToken V now token = .ok (.ok claims))
    (hsame : SameInput token token') :
    (s.logout token).validateToken V now' token' ≠ .ok (.ok claims') := by
  intro hvalid'
  rw [AuthenticationService.validateToken_eq_ok_iff] at hvalid hvalid'
  rw [eq_of_sameInput hvalid.2 hvalid'.2 hsame] at hvalid'
  exact hvalid'.1 (AuthenticationService.mem_revokedTokens_logout.mpr (.inl rfl))

private theorem verifiesExactly_iff_accepts :
    h.VerifiesExactly V now token ↔
      (∃ result, h.verify V now token = .ok result) ∧
        ((∃ claims, h.verify V now token = .ok (.ok claims)) ↔ h.Acceptable V now token) := by
  refine ⟨fun hexact => ⟨hexact.returns, hexact.accepts⟩, fun ⟨hreturns, haccepts⟩ => ?_⟩
  exact ⟨hreturns, haccepts, eq_of_sameInput, fun _ => validateToken_logout_ne⟩

/-- `Verify` does what it should on a token exactly when every payload that is well signed in it
can be read. -/
theorem verifiesExactly_iff (V : Vendor) (h : JwtHandler) (now : Int64) (token : StdString) :
    h.VerifiesExactly V now token ↔
      ∀ head body payload, SignedAs V h token head body →
        V.parse (base64UrlDecode body) = .ok payload → Readable now payload := by
  rw [verifiesExactly_iff_accepts]
  by_cases hsigned : ∃ head body, SignedAs V h token head body
  · obtain ⟨head, body, ht⟩ := hsigned
    rw [verify_of_signedAs ht]
    have hunique : ∀ {head' body'}, SignedAs V h token head' body' → body' = body :=
      fun ht' => (signedAs_unique ht' ht).2
    cases hparse : V.parse (base64UrlDecode body) with
    | error x =>
      -- What is no JSON is refused.
      have hread : readClaims V now (base64UrlDecode body) = .ok (.error .authorizationFailed) := by
        simp only [readClaims, hparse]
        rfl
      refine iff_of_true ⟨⟨_, hread⟩, ?_⟩ fun head' body' payload ht' hpayload => ?_
      · refine iff_of_false ?_ ?_
        · rintro ⟨claims, hclaims⟩
          rw [hread] at hclaims
          cases hclaims
        · rintro ⟨head', body', fields, exp, ht', hobject, -⟩
          rw [hunique ht', hparse] at hobject
          cases hobject
      · rw [hunique ht', hparse] at hpayload
        cases hpayload
    | ok payload =>
      have hacceptable : h.Acceptable V now token ↔
          ∃ fields exp, payload = .object fields ∧ StringFields fields ∧
            Json.lookup (lit "exp") fields = some exp ∧ exp.AtLeast now.toInt := by
        constructor
        · rintro ⟨head', body', fields, exp, ht', hobject, hfields⟩
          rw [hunique ht', hparse] at hobject
          cases hobject
          exact ⟨fields, exp, rfl, hfields⟩
        · rintro ⟨fields, exp, rfl, hfields⟩
          exact ⟨head, body, fields, exp, ht, hparse, hfields⟩
      rw [hacceptable]
      refine (readsExactly_iff hparse).trans ⟨fun hreadable head' body' payload' ht' hpayload => ?_,
        fun hall => hall head body payload ht hparse⟩
      rw [hunique ht', hparse] at hpayload
      cases hpayload
      exact hreadable
  · -- Without a signature nothing is read.
    have hrefused := (signedAs_or_verify_eq now token).resolve_left hsigned
    refine iff_of_true ⟨⟨_, hrefused⟩, iff_of_false ?_ ?_⟩ ?_
    · rintro ⟨claims, hclaims⟩
      rw [hrefused] at hclaims
      cases hclaims
    · rintro ⟨head, body, fields, exp, ht, -⟩
      exact hsigned ⟨head, body, ht⟩
    · intro head body payload ht
      exact absurd ⟨head, body, ht⟩ hsigned

/-- `Verify` reads the payload without an exception: it is an object, its expiry is a number if it
is there, and its claims are strings unless it is past. -/
def Harmless (now : Int64) (payload : Json) : Prop :=
  ∃ fields e, payload = .object fields ∧
    (Json.object fields).value Json.getInt64 (lit "exp") 0 = .ok e ∧ (now ≤ e → StringFields fields)

private theorem exists_readClaims_iff {payload : Json} (hparse : V.parse text = .ok payload) :
    (∃ result, readClaims V now text = .ok result) ↔ Harmless now payload := by
  constructor
  · rintro ⟨result, hresult⟩
    have hread := hresult
    rw [readClaims, hparse] at hread
    obtain ⟨e, hexp, -⟩ := Except.exists_of_bind_eq_ok hread
    rw [liftJson_eq_ok_iff] at hexp
    obtain ⟨fields, rfl, -⟩ := Json.exists_value_iff.mp ⟨e, hexp⟩
    refine ⟨fields, e, rfl, hexp, fun hlive => ?_⟩
    by_contra hnot
    obtain ⟨x, hx⟩ := (readClaims_of_live hparse hexp hlive).2 hnot
    rw [hresult] at hx
    cases hx
  · rintro ⟨fields, e, rfl, hexp, hstrings⟩
    by_cases hlive : now ≤ e
    · obtain ⟨claims, hclaims⟩ := (readClaims_of_live hparse hexp hlive).1 (hstrings hlive)
      exact ⟨_, hclaims⟩
    · exact ⟨_, readClaims_of_expired hparse hexp (Int64.not_le.mp hlive)⟩

/-- `Verify` returns unless a well-signed payload makes it throw. -/
theorem exists_verify_iff (V : Vendor) (h : JwtHandler) (now : Int64) (token : StdString) :
    (∃ result, h.verify V now token = .ok result) ↔
      ∀ head body payload, SignedAs V h token head body →
        V.parse (base64UrlDecode body) = .ok payload → Harmless now payload := by
  constructor
  · rintro ⟨result, hresult⟩ head body payload ht hparse
    rw [verify_of_signedAs ht] at hresult
    exact (exists_readClaims_iff hparse).mp ⟨result, hresult⟩
  · intro hall
    rcases signedAs_or_verify_eq now token with ⟨head, body, ht⟩ | hrefused
    · rw [verify_of_signedAs ht]
      cases hparse : V.parse (base64UrlDecode body) with
      | error x => exact ⟨.error .authorizationFailed, by rw [readClaims, hparse]; rfl⟩
      | ok payload => exact (exists_readClaims_iff hparse).mpr (hall head body payload ht hparse)
    · exact ⟨_, hrefused⟩

/-- The claims of an accepted token are well-formed UTF-8. -/
theorem isUtf8_of_verify (hparses : V.ParsesUtf8) {claims : UserClaims}
    (hverify : h.verify V now token = .ok (.ok claims)) :
    claims.userId.isUtf8 = true ∧ claims.username.isUtf8 = true := by
  obtain ⟨head, body, ht⟩ := signedAs_of_verify hverify
  rw [verify_of_signedAs ht, readClaims] at hverify
  cases hparse : V.parse (base64UrlDecode body) with
  | error x =>
    rw [hparse] at hverify
    cases hverify
  | ok payload =>
    rw [hparse] at hverify
    obtain ⟨e, -, hverify⟩ := Except.exists_of_bind_eq_ok hverify
    split at hverify
    · cases hverify
    · obtain ⟨userId, huserId, hverify⟩ := Except.exists_of_bind_eq_ok hverify
      obtain ⟨username, husername, hverify⟩ := Except.exists_of_bind_eq_ok hverify
      obtain ⟨role, -, hverify⟩ := Except.exists_of_bind_eq_ok hverify
      cases hverify
      have hutf8 := hparses _ _ hparse
      exact ⟨Json.isUtf8_of_value hutf8 rfl (liftJson_eq_ok_iff.mp huserId),
        Json.isUtf8_of_value hutf8 rfl (liftJson_eq_ok_iff.mp husername)⟩

/-- An object of well-typed fields whose expiry is a time from 1970 on can be read at any time. -/
theorem readable_of_numericValue (hfields : StringFields fields) {exp : Json} {q : ℚ}
    (hexp : Json.lookup (lit "exp") fields = some exp) (hq : exp.numericValue = some q)
    (hlo : 0 ≤ q) (hhi : q < 2 ^ 63) : Readable now (.object fields) := by
  refine ⟨fields, rfl, ?_⟩
  rw [hexp]
  obtain ⟨e, he⟩ : ∃ e, exp.getInt64 = .ok e := by
    cases exp with
    | number n => exact ⟨_, rfl⟩
    | real d => exact ⟨_, rfl⟩
    | _ => cases hq
  exact ⟨e, he, fun _ => (Json.atLeast_iff_of_getInt64 hq hlo hhi he now).symm,
    fun hnot => absurd hfields hnot⟩

/-- A well-signed token whose payload is an empty array. -/
def arrayToken : StdString := signed Vendor.reference ⟨lit "secret"⟩ (signingInput [] (lit "[]"))

/-- Looking for a claim in an array throws. -/
theorem not_verifiesExactly_arrayToken :
    ¬ JwtHandler.VerifiesExactly Vendor.reference ⟨lit "secret"⟩ 0 arrayToken := by
  have hthrows : JwtHandler.verify Vendor.reference ⟨lit "secret"⟩ 0 arrayToken =
      .error (.json (Json.typeError 306 "cannot use value() with array")) := by
    rw [arrayToken, signingInput, verify_of_signedAs
      ⟨dot_notMem_base64UrlEncode _, dot_notMem_base64UrlEncode _, rfl⟩,
      base64UrlDecode_base64UrlEncode]
    rfl
  rintro ⟨⟨result, hresult⟩, -⟩
  rw [hthrows] at hresult
  cases hresult

end JwtHandler

namespace AuthenticationService

/-- `RefreshToken` returns when `Verify` does: claims that were accepted can be put into a token. -/
theorem exists_refreshToken_iff {V : Vendor} {s : AuthenticationService} {now : Int64}
    {token : StdString} (hparses : V.ParsesUtf8) (hdumps : V.DumpsUtf8) :
    (∃ result, s.refreshToken V now token = .ok result) ↔
      ∃ result, s.jwtHandler.verify V now token = .ok result := by
  constructor
  · rintro ⟨result, hresult⟩
    obtain ⟨verified, hverify, -⟩ := Except.exists_of_bind_eq_ok hresult
    exact ⟨verified, hverify⟩
  · rintro ⟨result, hverify⟩
    rw [refreshToken, hverify]
    cases result with
    | error e => exact ⟨_, rfl⟩
    | ok claims =>
      show ∃ result, (if token ∈ s.revokedTokens then _ else _) = Except.ok result
      split
      · exact ⟨_, rfl⟩
      · obtain ⟨huserId, husername⟩ := JwtHandler.isUtf8_of_verify hparses hverify
        obtain ⟨access, haccess⟩ := JwtHandler.exists_generate hdumps huserId husername now
          s.config.accessTokenExpiry
        rw [haccess]
        exact ⟨_, rfl⟩

end AuthenticationService

end IotDashboard
