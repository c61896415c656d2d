import IotDashboard.Network.HttpRouter

/-!
# HTTP sessions

What `HttpSession` does with one request that the HTTP library has read: it splits the target at
the first question mark, copies the header fields under lower-cased names, answers pre-flight
requests itself, and turns an exception of the router into a 500.

## Main results

* `HttpSession.getHeader_beastToApp`: of several fields of one name the last is seen, whatever
  their letter case;
* `HttpSession.onRead_eq_of_unchanged`: a dispatch that leaves the state alone does so inside a
  session too.
-/

namespace IotDashboard

open StdString

/-- `bhttp::verb`; `other` stands for the verbs the server has no name for. -/
inductive Verb where
  | get
  | post
  | put
  | delete
  | patch
  | options
  | head
  | other (name : StdString)
deriving DecidableEq

/-- A request as the HTTP library hands it over: the fields in order, with their names as sent. -/
structure RawRequest where
  version : UInt32 := 11
  method : Verb
  target : StdString
  fields : List (StdString × StdString) := []
  body : StdString := []

namespace HttpSession

/-- The verb switch of `BeastToApp`. -/
def methodOfVerb : Verb → HttpMethod
  | .get => .get
  | .post => .post
  | .put => .put
  | .delete => .delete
  | .patch => .patch
  | .options => .options
  | .head => .head
  | .other _ => .unknown

/-- The header loop of `BeastToApp`. -/
def copyFields (fields : List (StdString × StdString)) : Headers :=
  fields.foldl (fun headers field => headers.insert (toLower field.1) field.2) ∅

/-- The path and the query of a target. -/
def splitTarget (target : StdString) : StdString × StdString :=
  match target.find (byte '?') 0 with
  | some qPos => (target.substr 0 qPos, target.substrFrom (qPos + 1))
  | none => (target, [])

/-- `BeastToApp`. -/
def beastToApp (bReq : RawRequest) : HttpRequest where
  method := methodOfVerb bReq.method
  target := bReq.target
  path := (splitTarget bReq.target).1
  query := (splitTarget bReq.target).2
  headers := copyFields bReq.fields
  body := bReq.body
  httpVersion := bReq.version

/-- The answer to a pre-flight request. -/
def preflight : HttpResponse :=
  ((({ status := 204 } : HttpResponse).setHeader
    (lit "access-control-allow-origin") (lit "*")).setHeader
    (lit "access-control-allow-methods") (lit "GET,POST,PUT,DELETE,PATCH,OPTIONS")).setHeader
    (lit "access-control-allow-headers") (lit "Authorization,Content-Type")

variable {σ : Type} (router : HttpRouter σ) (enableCors : Bool)

/-- `OnRead` for a request that was read without error. -/
def onRead (bReq : RawRequest) (s : σ) : HttpResponse × σ :=
  let appReq := beastToApp bReq
  -- A pre-flight request never reaches the router.
  if enableCors && appReq.method == .options then (preflight, s)
  else
    match (router.dispatch appReq {}).run s with
    | (.ok res, s') =>
      (if enableCors then res.setHeader (lit "access-control-allow-origin") (lit "*") else res, s')
    -- What the handler wrote before it threw stays written.
    | (.error _, s') =>
      (({} : HttpResponse).error 500 (lit "InternalError") (lit "Internal server error"), s')

/-- The value of the last field of a name, in any letter case. -/
def lastField (bReq : RawRequest) (name : StdString) : Option StdString :=
  (bReq.fields.reverse.find? (toLower ·.1 == name)).map Prod.snd

variable {router enableCors} {bReq : RawRequest} {s : σ}

/-- Looking up a copied header finds the last field of that name. -/
theorem lookup_copyFields (fields : List (StdString × StdString)) (key : StdString) :
    (copyFields fields).lookup key =
      (fields.reverse.find? (toLower ·.1 == key)).map Prod.snd := by
  -- The last field overwrites the earlier ones of its name.
  induction fields using List.reverseRecOn with
  | nil => simp [copyFields]
  | append_singleton fields field ih =>
    have hstep : copyFields (fields ++ [field]) =
        (copyFields fields).insert (toLower field.1) field.2 := by
      simp [copyFields]
    rw [hstep, List.reverse_append, List.reverse_singleton, List.singleton_append]
    by_cases hkey : toLower field.1 = key
    · subst hkey
      simp
    · rw [AList.lookup_insert_ne (Ne.symm hkey), ih, List.find?_cons_of_neg (by simp [hkey])]

/-- What a handler reads as a header is the last field of that name. -/
theorem getHeader_beastToApp (bReq : RawRequest) {name : StdString} (h : toLower name = name) :
    (beastToApp bReq).getHeader name = (lastField bReq name).getD [] := by
  rw [HttpRequest.getHeader, h, lastField]
  exact congrArg (Option.getD · []) (lookup_copyFields bReq.fields name)

/-- A session leaves the state where the dispatch left it, or does not dispatch at all. -/
theorem onRead_state (router : HttpRouter σ) (enableCors : Bool) (bReq : RawRequest) (s : σ) :
    (onRead router enableCors bReq s).2 = s ∨
      (onRead router enableCors bReq s).2 = ((router.dispatch (beastToApp bReq) {}).run s).2 := by
  rw [onRead]
  split
  · exact .inl rfl
  · right
    rcases (router.dispatch (beastToApp bReq) {}).run s with ⟨_ | _, s'⟩ <;> rfl

/-- A request that is no pre-flight request leaves the state where the dispatch left it. -/
theorem onRead_state_of_ne (h : (beastToApp bReq).method ≠ .options) :
    (onRead router enableCors bReq s).2 = ((router.dispatch (beastToApp bReq) {}).run s).2 := by
  have hpreflight : (enableCors && (beastToApp bReq).method == .options) = false := by simp [h]
  rw [onRead, hpreflight, if_neg Bool.false_ne_true]
  rcases (router.dispatch (beastToApp bReq) {}).run s with ⟨_ | _, s'⟩ <;> rfl

/-- A request whose dispatch changes nothing changes nothing. -/
theorem onRead_eq_of_unchanged (h : ((router.dispatch (beastToApp bReq) {}).run s).2 = s) :
    (onRead router enableCors bReq s).2 = s := by
  rcases onRead_state router enableCors bReq s with hsame | hdispatch
  · exact hsame
  · rw [hdispatch, h]

end HttpSession

end IotDashboard
