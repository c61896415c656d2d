import IotDashboard.Foundation.Json

/-!
# JSON text

A printer and a parser for JSON text: the compact form without blanks that `dump()` produces, and
the grammar that `parse` accepts. The decimal form of floating-point numbers is left to two
parameters, `showReal` and `readReal`; every other value is printed and read here.

## Main results

* `JsonText.dumpChecked_of_utf8`, `JsonText.utf8_of_dumpChecked`: the printer accepts the values
  whose strings are UTF-8, and no other ones;
* `JsonText.dumpString_of_plain`: the literal of a text without escapes.
-/

namespace JsonText

open Json StdString

/-! ## Printing -/

/-- A lower-case hexadecimal digit. -/
def hexDigit (n : ℕ) : UInt8 := if n < 10 then UInt8.ofNat (48 + n) else UInt8.ofNat (87 + n)

/-- The letter that follows the backslash in a two-byte escape. -/
def shortEscape (b : UInt8) : Option UInt8 :=
  -- The quote and the backslash stand for themselves; the others have letters.
  if b = 34 then some 34
  else if b = 92 then some 92
  else if b = 8 then some (byte 'b')
  else if b = 12 then some (byte 'f')
  else if b = 10 then some (byte 'n')
  else if b = 13 then some (byte 'r')
  else if b = 9 then some (byte 't')
  else none

/-- A byte inside a string literal. -/
def escapeByte (b : UInt8) : StdString :=
  match shortEscape b with
  | some e => [92, e]
  | none =>
    -- Other control characters take six bytes, everything else stands for itself.
    if b < 32 then lit "\\u00" ++ [hexDigit (b.toNat / 16), hexDigit (b.toNat % 16)] else [b]

/-- A string literal, quotes included. -/
def dumpString (s : StdString) : StdString := 34 :: (s.flatMap escapeByte ++ [34])

/-- A decimal integer. -/
def dumpInt (n : ℤ) : StdString :=
  if n < 0 then 45 :: toDecimal n.natAbs else toDecimal n.natAbs

mutual

/-- The compact text of a value. -/
def dump (showReal : Double → StdString) : Json → StdString
  | .null => lit "null"
  | .boolean true => lit "true"
  | .boolean false => lit "false"
  | .number n => dumpInt n
  | .real d => showReal d
  | .string s => dumpString s
  | .array [] => lit "[]"
  | .array (x :: xs) => 91 :: (dump showReal x ++ dumpElements showReal xs)
  | .object [] => [123, 125]
  | .object ((k, v) :: fields) =>
    123 :: (dumpString k ++ 58 :: dump showReal v ++ dumpMembers showReal fields)

/-- The elements after the first, with the closing bracket. -/
def dumpElements (showReal : Double → StdString) : List Json → StdString
  | [] => [93]
  | x :: xs => 44 :: (dump showReal x ++ dumpElements showReal xs)

/-- The members after the first, with the closing brace. -/
def dumpMembers (showReal : Double → StdString) : List (StdString × Json) → StdString
  | [] => [125]
  | (k, v) :: fields =>
    44 :: (dumpString k ++ 58 :: dump showReal v ++ dumpMembers showReal fields)

end

mutual

/-- Every string and key of the value is well-formed UTF-8. -/
def allUtf8 : Json → Bool
  | .string s => s.isUtf8
  | .array xs => allUtf8Elements xs
  | .object fields => allUtf8Members fields
  | _ => true

/-- `allUtf8` of the elements of an array. -/
def allUtf8Elements : List Json → Bool
  | [] => true
  | x :: xs => allUtf8 x && allUtf8Elements xs

/-- `allUtf8` of the members of an object. -/
def allUtf8Members : List (StdString × Json) → Bool
  | [] => true
  | (k, v) :: fields => k.isUtf8 && allUtf8 v && allUtf8Members fields

end

/-- `j.dump()`, which refuses strings that are not UTF-8. -/
def dumpChecked (showReal : Double → StdString) (j : Json) : Except JsonException StdString :=
  if allUtf8 j then .ok (dump showReal j) else .error (typeError 316 "invalid UTF-8 byte")

/-! ## Reading -/

/-- Blanks between tokens. -/
def isBlank (b : UInt8) : Bool := b == 32 || b == 9 || b == 10 || b == 13

/-- Drop leading blanks. -/
def skipBlanks (s : StdString) : StdString := s.dropWhile isBlank

/-- The value of a hexadecimal digit of either case. -/
def hexValue (b : UInt8) : Option ℕ :=
  if 48 ≤ b ∧ b ≤ 57 then some (b.toNat - 48)
  else if 97 ≤ b ∧ b ≤ 102 then some (b.toNat - 87)
  else if 65 ≤ b ∧ b ≤ 70 then some (b.toNat - 55)
  else none

/-- Four hexadecimal digits. -/
def readHex4 : StdString → Option (ℕ × StdString)
  | a :: b :: c :: d :: rest => do
    let a ← hexValue a
    let b ← hexValue b
    let c ← hexValue c
    let d ← hexValue d
    some (((a * 16 + b) * 16 + c) * 16 + d, rest)
  | _ => none

/-- The UTF-8 bytes of a code point. -/
def encodeUtf8 (n : ℕ) : StdString :=
  if n < 0x80 then [UInt8.ofNat n]
  else if n < 0x800 then [UInt8.ofNat (0xC0 + n / 64), UInt8.ofNat (0x80 + n % 64)]
  else if n < 0x10000 then
    [UInt8.ofNat (0xE0 + n / 4096), UInt8.ofNat (0x80 + n / 64 % 64), UInt8.ofNat (0x80 + n % 64)]
  else
    [UInt8.ofNat (0xF0 + n / 262144), UInt8.ofNat (0x80 + n / 4096 % 64),
      UInt8.ofNat (0x80 + n / 64 % 64), UInt8.ofNat (0x80 + n % 64)]

/-- What follows `\u`; a high surrogate must be followed by an escaped low one. -/
def readUnicode (s : StdString) : Option (StdString × StdString) :=
  match readHex4 s with
  | none => none
  | some (hi, rest) =>
    if 0xD800 ≤ hi ∧ hi ≤ 0xDBFF then
      -- A surrogate pair: the second half is escaped as well.
      match rest with
      | 92 :: 117 :: rest =>
        match readHex4 rest with
        | some (lo, rest) =>
          if 0xDC00 ≤ lo ∧ lo ≤ 0xDFFF then
            some (encodeUtf8 (0x10000 + (hi - 0xD800) * 1024 + (lo - 0xDC00)), rest)
          else none
        | none => none
      | _ => none
    else if 0xDC00 ≤ hi ∧ hi ≤ 0xDFFF then none
    else some (encodeUtf8 hi, rest)

/-- What follows a backslash: the bytes it stands for and the rest. -/
def readEscape : StdString → Option (StdString × StdString)
  | [] => none
  | e :: rest =>
    if e = 34 then some ([34], rest)
    else if e = 92 then some ([92], rest)
    else if e = byte '/' then some ([byte '/'], rest)
    else if e = byte 'b' then some ([8], rest)
    else if e = byte 'f' then some ([12], rest)
    else if e = byte 'n' then some ([10], rest)
    else if e = byte 'r' then some ([13], rest)
    else if e = byte 't' then some ([9], rest)
    else if e = byte 'u' then readUnicode rest
    else none

/-- The content of a string literal up to its closing quote. -/
def readChars : ℕ → StdString → Option (StdString × StdString)
  | 0, _ => none
  | _ + 1, [] => none
  | n + 1, b :: rest =>
    -- A quote ends the literal, a backslash starts an escape, and a control character is an error.
    if b = 34 then some ([], rest)
    else if b = 92 then
      match readEscape rest with
      | some (bytes, rest) => (readChars n rest).map fun p => (bytes ++ p.1, p.2)
      | none => none
    else if b < 32 then none
    else (readChars n rest).map fun p => (b :: p.1, p.2)

/-- A string literal after its opening quote; its content must be UTF-8. -/
def readString (s : StdString) : Option (StdString × StdString) :=
  match readChars (s.length + 1) s with
  | some (content, rest) => if content.isUtf8 then some (content, rest) else none
  | none => none

/-- The bytes of a number. -/
def isNumberByte (b : UInt8) : Bool :=
  isDigit b || b == 43 || b == 45 || b == 46 || b == byte 'e' || b == byte 'E'

/-- The integer that a token denotes, when it has neither fraction nor exponent. -/
def integerOfToken (token : StdString) : Option ℤ :=
  match token with
  | [] => none
  | 45 :: ds =>
    -- A leading zero is allowed only for zero itself.
    if ds.all isDigit && ds != [] && (ds.length == 1 || ds.head? != some 48) then
      some (-(digitsValue ds : ℤ))
    else none
  | ds =>
    if ds.all isDigit && (ds.length == 1 || ds.head? != some 48) then some (digitsValue ds)
    else none

/-- A number: an integer in 64-bit range, or a floating-point number. -/
def readNumber (readReal : StdString → Option Double) (s : StdString) :
    Option (Json × StdString) :=
  let token := s.takeWhile isNumberByte
  let rest := s.dropWhile isNumberByte
  match integerOfToken token with
  | some n =>
    -- Integers outside the range become floating-point numbers.
    if -2 ^ 63 ≤ n ∧ n < 2 ^ 64 then some (.number n, rest)
    else (readReal token).map fun d => (.real d, rest)
  | none => (readReal token).map fun d => (.real d, rest)

/-- A literal name or a number. -/
def readScalar (readReal : StdString → Option Double) (s : StdString) :
    Option (Json × StdString) :=
  if s.startsWith (lit "null") then some (.null, s.drop 4)
  else if s.startsWith (lit "true") then some (.boolean true, s.drop 4)
  else if s.startsWith (lit "false") then some (.boolean false, s.drop 5)
  else readNumber readReal s

mutual

/-- A value after optional blanks, and what follows it. -/
def readValue (readReal : StdString → Option Double) : ℕ → StdString → Option (Json × StdString)
  | 0, _ => none
  | n + 1, s =>
    match skipBlanks s with
    | [] => none
    | c :: rest =>
      if c = 34 then (readString rest).map fun p => (.string p.1, p.2)
      else if c = 91 then
        if (skipBlanks rest).head? = some 93 then some (.array [], (skipBlanks rest).tail)
        else
          match readValue readReal n rest with
          | some (x, rest) =>
            (readElements readReal n rest).map fun p => (.array (x :: p.1), p.2)
          | none => none
      else if c = 123 then
        if (skipBlanks rest).head? = some 125 then some (.object [], (skipBlanks rest).tail)
        else
          match readMember readReal n rest with
          | some (f, rest) =>
            -- Of two members with one key, the last counts.
            (readMembers readReal n rest).map fun p =>
              (.object ((f :: p.1).foldl (fun acc f => assign f.1 f.2 acc) []), p.2)
          | none => none
      else readScalar readReal (c :: rest)

/-- The elements after the first, up to the closing bracket. -/
def readElements (readReal : StdString → Option Double) :
    ℕ → StdString → Option (List Json × StdString)
  | 0, _ => none
  | n + 1, s =>
    match skipBlanks s with
    | 93 :: rest => some ([], rest)
    | 44 :: rest =>
      match readValue readReal n rest with
      | some (x, rest) => (readElements readReal n rest).map fun p => (x :: p.1, p.2)
      | none => none
    | _ => none

/-- A key and its value. -/
def readMember (readReal : StdString → Option Double) :
    ℕ → StdString → Option ((StdString × Json) × StdString)
  | 0, _ => none
  | n + 1, s =>
    match skipBlanks s with
    | 34 :: rest =>
      match readString rest with
      | some (key, rest) =>
        match skipBlanks rest with
        | 58 :: rest => (readValue readReal n rest).map fun p => ((key, p.1), p.2)
        | _ => none
      | none => none
    | _ => none

/-- The members after the first, up to the closing brace. -/
def readMembers (readReal : StdString → Option Double) :
    ℕ → StdString → Option (List (StdString × Json) × StdString)
  | 0, _ => none
  | n + 1, s =>
    match skipBlanks s with
    | 125 :: rest => some ([], rest)
    | 44 :: rest =>
      match readMember readReal n rest with
      | some (f, rest) => (readMembers readReal n rest).map fun p => (f :: p.1, p.2)
      | none => none
    | _ => none

end

/-- `parse(s)`: one value with nothing but blanks around it. -/
def parse (readReal : StdString → Option Double) (s : StdString) : Except JsonException Json :=
  match readValue readReal (s.length + 1) s with
  | some (j, rest) =>
    if skipBlanks rest = [] then .ok j
    else .error ⟨101, lit "[json.exception.parse_error.101] parse error"⟩
  | none => .error ⟨101, lit "[json.exception.parse_error.101] parse error"⟩
/-! ## What can be printed -/

section Printable

variable {showReal : Double → StdString}

/-- The printer looks at every element of an array. -/
theorem allUtf8_of_mem {xs : List Json} (h : allUtf8Elements xs = true) :
    ∀ x ∈ xs, allUtf8 x = true := by
  induction xs with
  | nil => simp
  | cons x xs ih =>
    simp only [allUtf8Elements, Bool.and_eq_true] at h
    exact List.forall_mem_cons.mpr ⟨h.1, ih h.2⟩

/-- The printer looks at the keys of an object and at its values. -/
theorem allUtf8Members_iff {fields : List (StdString × Json)} :
    allUtf8Members fields = true ↔
      (∀ f ∈ fields, f.1.isUtf8 = true) ∧ ∀ f ∈ fields, allUtf8 f.2 = true := by
  induction fields with
  | nil => simp [allUtf8Members]
  | cons f fields ih =>
    obtain ⟨k, v⟩ := f
    simp only [allUtf8Members, Bool.and_eq_true, ih, List.forall_mem_cons]
    tauto

/-- The printer accepts every value of UTF-8 strings. -/
theorem dumpChecked_of_utf8 {j : Json} (h : Utf8 j) :
    dumpChecked showReal j = .ok (dump showReal j) := by
  suffices hall : allUtf8 j = true by rw [dumpChecked, if_pos hall]
  induction h with
  | null | boolean _ | number _ | real _ => rfl
  | string hs => simpa [allUtf8] using hs
  | @array xs _ ih =>
    rw [allUtf8]
    induction xs with
    | nil => rfl
    | cons x xs ihxs => grind [allUtf8Elements]
  | object hkeys _ ih => simpa [allUtf8] using allUtf8Members_iff.mpr ⟨hkeys, ih⟩

private lemma utf8_of_allUtf8 (j : Json) (h : allUtf8 j = true) : Utf8 j := by
  match j with
  | .null => exact .null
  | .boolean b => exact .boolean b
  | .number n => exact .number n
  | .real d => exact .real d
  | .string s => exact .string (by simpa [allUtf8] using h)
  | .array xs =>
    exact .array fun x hx => utf8_of_allUtf8 x (allUtf8_of_mem (by simpa [allUtf8] using h) x hx)
  | .object fields =>
    obtain ⟨hkeys, hvalues⟩ := allUtf8Members_iff.mp (by simpa [allUtf8] using h)
    exact .object hkeys fun f hf => utf8_of_allUtf8 f.2 (hvalues f hf)
termination_by sizeOf j
decreasing_by
  · have := List.sizeOf_lt_of_mem hx
    simp
    omega
  · have := List.sizeOf_lt_of_mem hf
    obtain ⟨k, v⟩ := f
    simp at this ⊢
    omega

/-- The printer accepts no other value. -/
theorem utf8_of_dumpChecked {j : Json} {t : StdString} (h : dumpChecked showReal j = .ok t) :
    Utf8 j := by
  rw [dumpChecked] at h
  split at h
  · next hall => exact utf8_of_allUtf8 j hall
  · cases h

end Printable

/-! ## Texts without escapes -/

/-- A plain byte stands for itself. -/
theorem escapeByte_of_isPlain {b : UInt8} (h : isPlain b = true) : escapeByte b = [b] := by
  simp only [isPlain, Bool.and_eq_true, decide_eq_true_eq, bne_iff_ne] at h
  obtain ⟨⟨⟨hlo, -⟩, hquote⟩, hbackslash⟩ := h
  have hcontrol : ¬ b < 32 := UInt8.not_lt.mpr hlo
  have hshort : shortEscape b = none := by
    unfold shortEscape
    rw [if_neg hquote, if_neg hbackslash]
    -- The bytes that have letters are control characters.
    split_ifs with h h h h h
    all_goals
      first
      | rfl
      | exact absurd (h ▸ by decide) hcontrol
  rw [escapeByte, hshort]
  exact if_neg hcontrol

/-- The literal of a plain text is the text in quotation marks. -/
theorem dumpString_of_plain {s : StdString} (h : s.Plain) : dumpString s = 34 :: (s ++ [34]) := by
  suffices hescape : s.flatMap escapeByte = s by rw [dumpString, hescape]
  unfold Plain at h
  induction s with
  | nil => rfl
  | cons b s ih =>
    rw [List.all_cons, Bool.and_eq_true] at h
    rw [List.flatMap_cons, escapeByte_of_isPlain h.1, ih h.2]
    rfl

end JsonText
