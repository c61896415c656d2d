import IotDashboard.Foundation.Double
import IotDashboard.Foundation.Utf8

/-!
# JSON values as `nlohmann::json` keeps them

An object is a `std::map`: its fields are sorted by key and a key occurs once. Integers are kept
apart from floating-point numbers; `number` stands for both the signed and the unsigned 64-bit
representation. The accessors throw what the library throws, with its texts.

* `Json.value`, `Json.atKey`, `Json.elements`: the accessors;
* `Json.Canonical`: the values the library itself can build without floating-point numbers;
* `Json.Portable`: the same with floating-point numbers of a kind;
* `Json.Utf8`: the values whose strings are well-formed UTF-8;
* `Json.Textual`: the values that JSON text can carry.
-/

/-- An exception of the library: its number and its text. -/
structure JsonException where
  id : ℕ
  what : StdString
deriving DecidableEq

/-- A JSON value. -/
inductive Json where
  | null
  | boolean (b : Bool)
  | number (n : ℤ)
  | real (d : Double)
  | string (s : StdString)
  | array (xs : List Json)
  | object (fields : List (StdString × Json))

namespace Json

open StdString

/-! ## Construction -/

/-- `std::map::emplace` on sorted fields: an existing key keeps its value. -/
def emplace (key : StdString) (v : Json) :
    List (StdString × Json) → List (StdString × Json)
  | [] => [(key, v)]
  | (k, w) :: fields =>
    if key < k then (key, v) :: (k, w) :: fields
    else if key = k then (k, w) :: fields
    else (k, w) :: emplace key v fields

/-- `map[key] = v` on sorted fields: an existing key takes the new value. -/
def assign (key : StdString) (v : Json) :
    List (StdString × Json) → List (StdString × Json)
  | [] => [(key, v)]
  | (k, w) :: fields =>
    if key < k then (key, v) :: (k, w) :: fields
    else if key = k then (k, v) :: fields
    else (k, w) :: assign key v fields

/-- The object of an initializer list of pairs. -/
def mkObject (fields : List (StdString × Json)) : Json :=
  object (fields.foldl (fun acc f => emplace f.1 f.2 acc) [])

/-! ## Access -/

/-- `type_name()`. -/
def typeName : Json → String
  | null => "null"
  | boolean _ => "boolean"
  | number _ | real _ => "number"
  | string _ => "string"
  | array _ => "array"
  | object _ => "object"

/-- `type_error` with the given number and text. -/
def typeError (id : ℕ) (text : String) : JsonException :=
  ⟨id, lit "[json.exception.type_error." ++ toDecimal id ++ lit "] " ++ lit text⟩

/-- `get<std::string>()`. -/
def getString : Json → Except JsonException StdString
  | string s => .ok s
  | j => .error (typeError 302 ("type must be string, but is " ++ j.typeName))

/-- `get<bool>()`. -/
def getBool : Json → Except JsonException Bool
  | boolean b => .ok b
  | j => .error (typeError 302 ("type must be boolean, but is " ++ j.typeName))

/-- The conversion of a double to `int64_t`; out of range, what the x86-64 instruction yields. -/
def int64OfDouble (d : Double) : Int64 :=
  match d.trunc with
  | some n => if -2 ^ 63 ≤ n ∧ n < 2 ^ 63 then Int64.ofInt n else Int64.minValue
  | none => Int64.minValue

/-- `get<int64_t>()`: an unsigned number above the signed range wraps. -/
def getInt64 : Json → Except JsonException Int64
  | number n => .ok (Int64.ofInt n)
  | real d => .ok (int64OfDouble d)
  | j => .error (typeError 302 ("type must be number, but is " ++ j.typeName))

/-- `get<double>()`. -/
def getDouble : Json → Except JsonException Double
  | number n => .ok (Double.ofInt n)
  | real d => .ok d
  | j => .error (typeError 302 ("type must be number, but is " ++ j.typeName))

/-- The value of a number. The numbers of JSON are finite. -/
def numericValue : Json → Option ℚ
  | number n => some n
  | real d => if d.isFinite then some d.toRat else none
  | _ => none

/-- The number is not less than `n`. -/
def AtLeast (n : ℤ) (j : Json) : Prop := ∃ q, j.numericValue = some q ∧ n ≤ q

/-- `get<json>()`. -/
def getJson (j : Json) : Except JsonException Json := .ok j

/-- `find(key)` among the fields of an object. -/
def lookup (key : StdString) (fields : List (StdString × Json)) : Option Json :=
  (fields.find? (·.1 == key)).map Prod.snd

/-- `j.value(key, fallback)`, with the conversion to the type of the fallback. -/
def value {α : Type} (get : Json → Except JsonException α) (j : Json) (key : StdString)
    (fallback : α) : Except JsonException α :=
  match j with
  | object fields =>
    match lookup key fields with
    | some v => get v
    | none => .ok fallback
  | _ => .error (typeError 306 ("cannot use value() with " ++ j.typeName))

/-- `j.at(key)`. -/
def atKey (j : Json) (key : StdString) : Except JsonException Json :=
  match j with
  | object fields =>
    match lookup key fields with
    | some v => .ok v
    | none =>
      .error ⟨403, lit "[json.exception.out_of_range.403] key '" ++ key ++ lit "' not found"⟩
  | _ => .error (typeError 304 ("cannot use at() with " ++ j.typeName))

/-- The values a range-based `for` over `j` visits. -/
def elements : Json → List Json
  | null => []
  | array xs => xs
  | object fields => fields.map Prod.snd
  | j => [j]

/-- The value is an object, and the field has the type that `get` reads unless it is not there. -/
def FieldTyped {α : Type} (get : Json → Except JsonException α) (j : Json) (key : StdString) :
    Prop :=
  ∃ fields, j = .object fields ∧ ∀ v, lookup key fields = some v → ∃ a, get v = .ok a

/-- That is when `value` returns. -/
theorem exists_value_iff {α : Type} {get : Json → Except JsonException α} {j : Json}
    {key : StdString} {fallback : α} :
    (∃ a, j.value get key fallback = .ok a) ↔ FieldTyped get j key := by
  cases j with
  | object fields =>
    rw [value]
    cases hlookup : lookup key fields with
    | none => exact iff_of_true ⟨fallback, rfl⟩ ⟨fields, rfl, fun v hv => by cases hlookup ▸ hv⟩
    | some v =>
      refine ⟨fun h => ⟨fields, rfl, fun v' hv' => ?_⟩, ?_⟩
      · rw [hlookup] at hv'
        cases hv'
        exact h
      · rintro ⟨fields', hfields, h⟩
        cases hfields
        exact h v hlookup
  | _ =>
    refine iff_of_false (fun ⟨a, ha⟩ => ?_) fun ⟨fields, hfields, _⟩ => ?_
    · cases ha
    · cases hfields

/-- Only a string is read as one. -/
theorem eq_string_of_getString {j : Json} {s : StdString} (h : j.getString = .ok s) :
    j = .string s := by
  cases j with
  | string t =>
    cases h
    rfl
  | _ => cases h

/-- Numbers from zero up to the range of `int64_t` are rounded down. -/
theorem toInt_of_getInt64 {j : Json} {q : ℚ} {n : Int64} (hq : j.numericValue = some q)
    (hlo : 0 ≤ q) (hhi : q < 2 ^ 63) (h : j.getInt64 = .ok n) : n.toInt = ⌊q⌋ := by
  have hfloor : 0 ≤ ⌊q⌋ := Int.floor_nonneg.mpr hlo
  have hlt : ⌊q⌋ < 2 ^ 63 := Int.floor_lt.mpr (by exact_mod_cast hhi)
  cases j with
  | number m =>
    cases hq
    cases h
    rw [Int.floor_intCast] at hfloor hlt ⊢
    exact Int64.toInt_ofInt_of_le (by omega) hlt
  | real d =>
    rw [numericValue] at hq
    split at hq
    · next hfinite =>
      cases hq
      cases h
      rw [int64OfDouble, Double.trunc_of_isFinite hfinite, if_pos hlo]
      dsimp only
      rw [if_pos ⟨by omega, hlt⟩]
      exact Int64.toInt_ofInt_of_le (by omega) hlt
    · cases hq
  | _ => cases hq

/-- Such numbers compare with an integer as what `get<int64_t>()` returns does. -/
theorem atLeast_iff_of_getInt64 {j : Json} {q : ℚ} {n : Int64} (hq : j.numericValue = some q)
    (hlo : 0 ≤ q) (hhi : q < 2 ^ 63) (h : j.getInt64 = .ok n) (m : Int64) :
    j.AtLeast m.toInt ↔ m ≤ n := by
  rw [Int64.le_iff_toInt_le, toInt_of_getInt64 hq hlo hhi h, Int.le_floor]
  simp [AtLeast, hq]

/-! ## Well-formed values -/

/-- No floating-point number occurs, integers fit their 64-bit representation, and the fields of
every object are sorted with distinct keys. -/
inductive Canonical : Json → Prop
  | null : Canonical null
  | boolean (b : Bool) : Canonical (boolean b)
  | number {n : ℤ} : -2 ^ 63 ≤ n → n < 2 ^ 64 → Canonical (number n)
  | string (s : StdString) : Canonical (string s)
  | array {xs : List Json} : (∀ x ∈ xs, Canonical x) → Canonical (array xs)
  | object {fields : List (StdString × Json)} :
      (fields.map Prod.fst).Pairwise (· < ·) → (∀ f ∈ fields, Canonical f.2) →
      Canonical (object fields)

/-- The same with floating-point numbers, as long as they are of a kind. -/
inductive Portable (numbers : Double → Prop) : Json → Prop
  | null : Portable numbers null
  | boolean (b : Bool) : Portable numbers (boolean b)
  | number {n : ℤ} : -2 ^ 63 ≤ n → n < 2 ^ 64 → Portable numbers (number n)
  | real {d : Double} : numbers d → Portable numbers (real d)
  | string (s : StdString) : Portable numbers (string s)
  | array {xs : List Json} : (∀ x ∈ xs, Portable numbers x) → Portable numbers (array xs)
  | object {fields : List (StdString × Json)} :
      (fields.map Prod.fst).Pairwise (· < ·) → (∀ f ∈ fields, Portable numbers f.2) →
      Portable numbers (object fields)

/-- A canonical value has no floating-point numbers, so it is portable. -/
theorem Canonical.portable {j : Json} (h : Canonical j) (numbers : Double → Prop) :
    Portable numbers j := by
  induction h with
  | null => exact .null
  | boolean b => exact .boolean b
  | number hlo hhi => exact .number hlo hhi
  | string s => exact .string s
  | array _ ih => exact .array ih
  | object hsorted _ ih => exact .object hsorted ih

/-- Every string and every key is well-formed UTF-8. -/
inductive Utf8 : Json → Prop
  | null : Utf8 null
  | boolean (b : Bool) : Utf8 (boolean b)
  | number (n : ℤ) : Utf8 (number n)
  | real (d : Double) : Utf8 (real d)
  | string {s : StdString} : s.isUtf8 = true → Utf8 (string s)
  | array {xs : List Json} : (∀ x ∈ xs, Utf8 x) → Utf8 (array xs)
  | object {fields : List (StdString × Json)} :
      (∀ f ∈ fields, f.1.isUtf8 = true) → (∀ f ∈ fields, Utf8 f.2) → Utf8 (object fields)

section Emplace

variable {key : StdString} {v : Json} {fields : List (StdString × Json)}

/-- What `emplace` stores was given or was already there. -/
theorem mem_emplace {f : StdString × Json} (h : f ∈ emplace key v fields) :
    f = (key, v) ∨ f ∈ fields := by
  induction fields with
  | nil => exact .inl (by simpa [emplace] using h)
  | cons g fields ih =>
    rw [emplace] at h
    split at h
    · simpa using h
    · split at h
      · exact .inr h
      · rcases List.mem_cons.mp h with rfl | h
        · exact .inr (by simp)
        · exact (ih h).imp_right fun h => by simp [h]

/-- `emplace` keeps the fields sorted. -/
theorem sorted_emplace (h : (fields.map Prod.fst).Pairwise (· < ·)) :
    ((emplace key v fields).map Prod.fst).Pairwise (· < ·) := by
  induction fields with
  | nil => simp [emplace]
  | cons g fields ih =>
    obtain ⟨hhead, htail⟩ := List.pairwise_cons.mp h
    rw [emplace]
    split
    · next hlt =>
      refine List.pairwise_cons.mpr ⟨fun k hk => ?_, h⟩
      rcases List.mem_cons.mp hk with rfl | hk
      · exact hlt
      · exact Std.lt_trans hlt (hhead k hk)
    · next hlt =>
      split
      · exact h
      · next hne =>
        -- The new key goes further back, past a smaller one.
        have hgt : g.1 < key := Std.lt_of_le_of_ne (Std.not_lt.mp hlt) (Ne.symm hne)
        refine List.pairwise_cons.mpr ⟨fun k hk => ?_, ih htail⟩
        obtain ⟨f, hf, rfl⟩ := List.mem_map.mp hk
        rcases mem_emplace hf with rfl | hf
        · exact hgt
        · exact hhead _ (List.mem_map_of_mem hf)

/-- The first field is found under its own key. -/
theorem lookup_cons (k : StdString) (f : StdString × Json) (fields : List (StdString × Json)) :
    lookup k (f :: fields) = if k = f.1 then some f.2 else lookup k fields := by
  by_cases hk : k = f.1
  · rw [if_pos hk, lookup, List.find?_cons_of_pos (by simp [hk])]
    rfl
  · rw [if_neg hk, lookup, List.find?_cons_of_neg (by simpa using Ne.symm hk)]
    rfl

/-- A key before all others is not there. -/
theorem lookup_of_lt (h : ∀ k ∈ fields.map Prod.fst, key < k) : lookup key fields = none := by
  rw [lookup, Option.map_eq_none_iff, List.find?_eq_none]
  intro f hf heq
  have hlt := h f.1 (List.mem_map_of_mem hf)
  rw [beq_iff_eq.mp heq] at hlt
  exact Std.lt_irrefl hlt

/-- What is filed under a key is what was there, or else the new value. -/
theorem lookup_emplace (h : (fields.map Prod.fst).Pairwise (· < ·)) (k : StdString) :
    lookup k (emplace key v fields) = (lookup k fields).or (if k = key then some v else none) := by
  induction fields with
  | nil => rw [emplace, lookup_cons]; rfl
  | cons g fields ih =>
    obtain ⟨hhead, htail⟩ := List.pairwise_cons.mp h
    rw [emplace]
    split
    · next hlt =>
      rw [lookup_cons]
      by_cases hk : k = key
      · -- The new key comes before all others.
        subst hk
        rw [if_pos rfl, if_pos rfl, lookup_of_lt]
        · rfl
        · intro k' hk'
          rcases List.mem_cons.mp hk' with rfl | hk'
          · exact hlt
          · exact Std.lt_trans hlt (hhead k' hk')
      · rw [if_neg hk, if_neg hk, Option.or_none]
    · split
      · next heq =>
        rw [lookup_cons]
        by_cases hk : k = g.1
        · rw [if_pos hk]
          rfl
        · rw [if_neg hk, if_neg (heq ▸ hk), Option.or_none]
      · rw [lookup_cons, lookup_cons, ih htail]
        split <;> rfl

end Emplace

/-- The fields of an initializer list, as the object keeps them. -/
def fieldsOf (fields : List (StdString × Json)) : List (StdString × Json) :=
  fields.foldl (fun acc f => emplace f.1 f.2 acc) []

theorem mkObject_eq (fields : List (StdString × Json)) :
    mkObject fields = object (fieldsOf fields) := rfl

/-- The last field of a list is filed last. -/
theorem fieldsOf_snoc (fields : List (StdString × Json)) (f : StdString × Json) :
    fieldsOf (fields ++ [f]) = emplace f.1 f.2 (fieldsOf fields) := by
  rw [fieldsOf, List.foldl_append]
  rfl

/-- The fields of an object are sorted, and come from the list. -/
theorem fieldsOf_spec (fields : List (StdString × Json)) :
    ((fieldsOf fields).map Prod.fst).Pairwise (· < ·) ∧ ∀ f ∈ fieldsOf fields, f ∈ fields := by
  induction fields using List.reverseRecOn with
  | nil => exact ⟨List.Pairwise.nil, fun f hf => hf⟩
  | append_singleton fields g ih =>
    rw [fieldsOf_snoc]
    refine ⟨sorted_emplace ih.1, fun f hf => ?_⟩
    rcases mem_emplace hf with rfl | hf
    · exact List.mem_append_right _ List.mem_cons_self
    · exact List.mem_append_left _ (ih.2 f hf)

/-- Of two values given for a key the first counts. -/
theorem lookup_fieldsOf (fields : List (StdString × Json)) (k : StdString) :
    lookup k (fieldsOf fields) = lookup k fields := by
  induction fields using List.reverseRecOn with
  | nil => rfl
  | append_singleton fields f ih =>
    rw [fieldsOf_snoc, lookup_emplace (fieldsOf_spec fields).1, ih, lookup, lookup,
      List.find?_append]
    cases List.find? (·.1 == k) fields with
    | some g => rfl
    | none =>
      rw [Option.map_none, Option.none_or, Option.none_or]
      exact (lookup_cons k f []).symm

/-- `value` on an initializer list. -/
theorem value_mkObject {α : Type} (get : Json → Except JsonException α)
    (fields : List (StdString × Json)) (key : StdString) (fallback : α) :
    (mkObject fields).value get key fallback =
      match lookup key fields with
      | some v => get v
      | none => .ok fallback := by
  rw [mkObject_eq, value, lookup_fieldsOf]

/-- `at` on an initializer list. -/
theorem atKey_mkObject {fields : List (StdString × Json)} {key : StdString} {v : Json}
    (h : lookup key fields = some v) : (mkObject fields).atKey key = .ok v := by
  rw [mkObject_eq, atKey, lookup_fieldsOf, h]

/-- An initializer list of canonical values gives a canonical object. -/
theorem canonical_mkObject {fields : List (StdString × Json)}
    (h : ∀ f ∈ fields, Canonical f.2) : Canonical (mkObject fields) :=
  .object (fieldsOf_spec fields).1 fun f hf => h f ((fieldsOf_spec fields).2 f hf)

/-- An object is portable if its fields are. -/
theorem portable_mkObject {numbers : Double → Prop} {fields : List (StdString × Json)}
    (h : ∀ f ∈ fields, Portable numbers f.2) : Portable numbers (mkObject fields) :=
  .object (fieldsOf_spec fields).1 fun f hf => h f ((fieldsOf_spec fields).2 f hf)

/-- An initializer list of UTF-8 values with UTF-8 keys gives a UTF-8 object. -/
theorem utf8_mkObject {fields : List (StdString × Json)}
    (h : ∀ f ∈ fields, f.1.isUtf8 = true ∧ Utf8 f.2) : Utf8 (mkObject fields) :=
  .object (fun f hf => (h f ((fieldsOf_spec fields).2 f hf)).1) fun f hf =>
    (h f ((fieldsOf_spec fields).2 f hf)).2

/-- The fields of a UTF-8 object are UTF-8. -/
theorem utf8_of_lookup {fields : List (StdString × Json)} {key : StdString} {v : Json}
    (hfields : ∀ f ∈ fields, Utf8 f.2) (h : lookup key fields = some v) : Utf8 v := by
  obtain ⟨f, hf, rfl⟩ := Option.map_eq_some_iff.mp h
  exact hfields f (List.mem_of_find?_eq_some hf)

/-- A string read from a UTF-8 object is UTF-8, as long as the fallback is. -/
theorem isUtf8_of_value {j : Json} {key fallback s : StdString} (hj : Utf8 j)
    (hfallback : fallback.isUtf8 = true) (h : value getString j key fallback = .ok s) :
    s.isUtf8 = true := by
  cases hj with
  | object _ hfields =>
    rw [value] at h
    split at h
    · next v hv =>
      have hutf8 := utf8_of_lookup hfields hv
      rw [eq_string_of_getString h] at hutf8
      cases hutf8
      assumption
    · cases h
      exact hfallback
  | _ => cases h

/-- The same for a value of any type. -/
theorem utf8_of_value {j fallback v : Json} {key : StdString} (hj : Utf8 j)
    (hfallback : Utf8 fallback) (h : value getJson j key fallback = .ok v) : Utf8 v := by
  cases hj with
  | object _ hfields =>
    rw [value] at h
    split at h
    · next hv =>
      cases h
      exact utf8_of_lookup hfields hv
    · cases h
      exact hfallback
  | _ => cases h

/-! ## Values that text can carry -/

/-- Text can carry the value: strings are well-formed and numbers are finite. -/
structure Textual (j : Json) : Prop where
  utf8 : j.Utf8
  portable : j.Portable fun d => d.isFinite = true

namespace Textual

variable {j v : Json} {key : StdString}

/-- A string is textual if it is UTF-8. -/
theorem string {s : StdString} (h : s.isUtf8 = true) : Textual (.string s) :=
  ⟨.string h, .string s⟩

theorem boolean (b : Bool) : Textual (.boolean b) := ⟨.boolean b, .boolean b⟩

/-- An integer is textual if it fits 64 bits, signed or not. -/
theorem number {n : ℤ} (hlo : -2 ^ 63 ≤ n) (hhi : n < 2 ^ 64) : Textual (.number n) :=
  ⟨.number n, .number hlo hhi⟩

/-- A floating-point number is textual if it is finite. -/
theorem real {d : Double} (h : d.isFinite = true) : Textual (.real d) := ⟨.real d, .real h⟩

/-- An array is textual if its elements are. -/
theorem array {xs : List Json} (h : ∀ x ∈ xs, Textual x) : Textual (.array xs) :=
  ⟨.array fun x hx => (h x hx).utf8, .array fun x hx => (h x hx).portable⟩

/-- An object is textual if its keys are UTF-8 and its values textual. -/
theorem mkObject {fields : List (StdString × Json)}
    (h : ∀ f ∈ fields, f.1.isUtf8 = true ∧ Textual f.2) : Textual (.mkObject fields) :=
  ⟨utf8_mkObject fun f hf => ⟨(h f hf).1, (h f hf).2.utf8⟩,
    portable_mkObject fun f hf => (h f hf).2.portable⟩

/-- The fields of a textual object are textual. -/
theorem of_mem_fields {fields : List (StdString × Json)} (h : Textual (.object fields))
    {f : StdString × Json} (hf : f ∈ fields) : Textual f.2 := by
  obtain ⟨hutf8, hportable⟩ := h
  cases hutf8 with
  | object _ hvalues =>
    cases hportable with
    | object _ hnumbers => exact ⟨hvalues f hf, hnumbers f hf⟩

/-- A field that is found is textual. -/
theorem of_lookup {fields : List (StdString × Json)} (h : Textual (.object fields))
    (hlookup : lookup key fields = some v) : Textual v := by
  obtain ⟨f, hf, rfl⟩ := Option.map_eq_some_iff.mp hlookup
  exact h.of_mem_fields (List.mem_of_find?_eq_some hf)

/-- What `at` finds is textual. -/
theorem of_atKey (h : Textual j) (hat : j.atKey key = .ok v) : Textual v := by
  rcases j with _ | _ | _ | _ | _ | _ | fields <;> try cases hat
  rw [atKey] at hat
  split at hat
  · next hlookup =>
    cases hat
    exact h.of_lookup hlookup
  · cases hat

/-- What `value` gives is textual if the default is. -/
theorem of_value {fallback : Json} (h : Textual j) (hfallback : Textual fallback)
    (hvalue : j.value getJson key fallback = .ok v) : Textual v := by
  rcases j with _ | _ | _ | _ | _ | _ | fields <;> try cases hvalue
  rw [value] at hvalue
  split at hvalue
  · next hlookup =>
    cases hvalue
    exact h.of_lookup hlookup
  · cases hvalue
    exact hfallback

/-- The elements of a textual array are textual. -/
theorem of_mem_elements (h : Textual j) : ∀ x ∈ j.elements, Textual x := by
  intro x hx
  rcases j with _ | b | n | d | s | xs | fields
  case null => exact absurd hx List.not_mem_nil
  case array =>
    obtain ⟨hutf8, hportable⟩ := h
    cases hutf8 with
    | array hvalues =>
      cases hportable with
      | array hnumbers => exact ⟨hvalues x hx, hnumbers x hx⟩
  case object =>
    obtain ⟨f, hf, rfl⟩ := List.mem_map.mp hx
    exact h.of_mem_fields hf
  all_goals
    obtain rfl := List.mem_singleton.mp hx
    exact h

/-- The string of a textual value is UTF-8. -/
theorem isUtf8 {s : StdString} (h : Textual j) (hget : j.getString = .ok s) :
    s.isUtf8 = true := by
  obtain ⟨hutf8, -⟩ := h
  cases hutf8 with
  | string hs =>
    cases hget
    exact hs
  | _ => cases hget

/-- The number of a textual value is finite. -/
theorem isFinite {d : Double} (h : Textual j) (hget : j.getDouble = .ok d) :
    d.isFinite = true := by
  obtain ⟨-, hportable⟩ := h
  cases hportable with
  | number hlo hhi =>
    cases hget
    exact Double.isFinite_ofInt hlo hhi
  | real hd =>
    cases hget
    exact hd
  | _ => cases hget

end Textual

end Json
