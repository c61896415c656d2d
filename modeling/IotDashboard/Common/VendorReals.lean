import IotDashboard.Common.Vendor

/-!
# A vendor with floating-point numbers

`Vendor.reference` leaves out the texts of floating-point numbers. Here is a vendor that prints and
reads them; any text will do for a number as long as it is read back as that number.

## Main definitions

* `RealText.showReal`, `RealText.readReal`: the texts;
* `Vendor.withReals`: the vendor, which satisfies everything that is relied on.
-/

namespace IotDashboard

open StdString

namespace RealText

/-- A text for a floating-point number. Numbers without a fractional part have the text that both
libraries give them; for the others the bit pattern will do. -/
def showReal (d : Double) : StdString :=
  if d.trunc.map Double.ofInt = some d then JsonText.dumpInt (d.trunc.getD 0) ++ lit ".0"
  else JsonText.dumpInt d.bits.toNat ++ lit "e0"

/-- The number of such a text. -/
def readReal (token : StdString) : Option Double :=
  let head := JsonText.integerOfToken (token.take (token.length - 2))
  let tail := token.drop (token.length - 2)
  let number :=
    if tail = lit ".0" then head.map Double.ofInt
    else if tail = lit "e0" then head.map fun n => ⟨UInt64.ofNat n.toNat⟩
    else none
  number.filter (·.isFinite)

private theorem readReal_append (n : ℤ) {tail : StdString} (htail : tail.length = 2) :
    readReal (JsonText.dumpInt n ++ tail) =
      (if tail = lit ".0" then some (Double.ofInt n)
        else if tail = lit "e0" then some ⟨UInt64.ofNat n.toNat⟩ else none).filter
          (·.isFinite) := by
  have hlength : (JsonText.dumpInt n ++ tail).length - 2 = (JsonText.dumpInt n).length := by
    rw [List.length_append, htail, Nat.add_sub_cancel]
  rw [readReal, hlength, List.take_left, List.drop_left, JsonText.integerOfToken_dumpInt]
  rfl

private theorem readsBack_append {d : Double} {n : ℤ} {tail : StdString} {c : UInt8}
    (hshow : showReal d = JsonText.dumpInt n ++ tail)
    (htoken : tail.all JsonText.isNumberByte = true) (hc : c ∈ tail)
    (hdigit : isDigit c = false) (hminus : c ≠ 45)
    (hread : readReal (JsonText.dumpInt n ++ tail) = some d) :
    JsonText.ReadsBack showReal readReal d := by
  constructor
  · rw [hshow]
    exact List.append_ne_nil_of_right_ne_nil _ (List.ne_nil_of_mem hc)
  · rw [hshow]
    intro b hb
    rcases List.mem_append.mp hb with hb | hb
    · exact JsonText.isNumberByte_dumpInt n b hb
    · exact List.all_eq_true.mp htoken b hb
  · rw [hshow]
    exact JsonText.integerOfToken_eq_none (List.mem_append_right _ hc) hdigit hminus
  · rw [hshow, hread]

private theorem readsBack {d : Double} (hd : d.isFinite = true) :
    JsonText.ReadsBack showReal readReal d := by
  by_cases hwhole : d.trunc.map Double.ofInt = some d
  · obtain ⟨n, hn, hofInt⟩ := Option.map_eq_some_iff.mp hwhole
    have hshow : showReal d = JsonText.dumpInt n ++ lit ".0" := by
      rw [showReal, if_pos hwhole, hn]
      rfl
    refine readsBack_append (c := byte '.') hshow (by decide) (by decide) (by decide) (by decide) ?_
    rw [readReal_append n rfl, if_pos rfl, hofInt, Option.filter_some, if_pos hd]
  · have hshow : showReal d = JsonText.dumpInt d.bits.toNat ++ lit "e0" := by
      rw [showReal, if_neg hwhole]
    have hbits : (⟨UInt64.ofNat (d.bits.toNat : ℤ).toNat⟩ : Double) = d := by
      rw [Int.toNat_natCast, UInt64.ofNat_toNat]
    refine readsBack_append (c := byte 'e') hshow (by decide) (by decide) (by decide) (by decide) ?_
    rw [readReal_append _ rfl, if_neg (by decide), if_pos rfl, hbits, Option.filter_some, if_pos hd]

end RealText

open RealText in
/-- The server's library, with floating-point numbers. -/
def Vendor.withReals : Vendor :=
  { Vendor.reference with
    parse := JsonText.parse readReal
    dump := JsonText.dumpChecked showReal }

namespace Vendor

/-- The library with floating-point numbers reads back what it prints. -/
theorem roundTrips_withReals : withReals.RoundTrips := fun _ _ hj ht =>
  JsonText.parse_dump_of_portable (fun _ => RealText.readsBack) hj.portable ht

/-- It prints all values of UTF-8 strings. -/
theorem dumpsUtf8_withReals : withReals.DumpsUtf8 :=
  fun _ hj => ⟨_, JsonText.dumpChecked_of_utf8 hj⟩

/-- What it reads can be sent as text. -/
theorem parsesTextual_withReals : withReals.ParsesTextual := by
  refine fun s j hj => ⟨JsonText.utf8_of_parse hj, JsonText.portable_of_parse (fun _ _ hd => ?_) hj⟩
  exact (Option.filter_eq_some_iff.mp hd).2

end Vendor

end IotDashboard
