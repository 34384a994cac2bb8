import Recommend.Http.Percent
import Recommend.Proofs.Text.Bytes

/-!
Escapes are undone by reading them.

A text without percent signs of its own reads back from what is written with escapes,
whichever characters are escaped (`decode_encode`).
-/

namespace Recommend.Http.Percent

/-! ### One byte -/

theorem decode_cons_of_ne {b : UInt8} (h : b ≠ 37) (bs : Bytes) :
    decode (b :: bs) = b :: decode bs := by
  -- an escape takes three bytes, so the definition looks at two more
  match bs with
  | [] => rfl
  | [c] => rfl
  | c :: d :: bs => rw [decode, if_neg h]

/-- The two digits of a byte, as bytes. -/
theorem pair?_escape (b : UInt8) :
    pair? (UInt8.ofNat (Nat.digitChar (b.toNat / 16)).toUpper.toNat)
      (UInt8.ofNat (Nat.digitChar (b.toNat % 16)).toUpper.toNat) = some b := by
  -- upper case digits are read as what they stand for
  have hdigit : ∀ n < 16,
      hexValue? (UInt8.ofNat (Nat.digitChar n).toUpper.toNat) = some n := by decide
  have hlt : b.toNat < 256 := b.toNat_lt
  rw [pair?, hdigit (b.toNat / 16) (by omega), hdigit (b.toNat % 16) (by omega)]
  show some (UInt8.ofNat (16 * (b.toNat / 16) + b.toNat % 16)) = some b
  rw [Nat.div_add_mod, UInt8.ofNat_toNat]

/-- The bytes of an escape stand for the byte that is escaped. -/
theorem decode_escape_append (b : UInt8) (bs : Bytes) :
    decode ((escape b).flatMap String.utf8EncodeChar ++ bs) = b :: decode bs := by
  have hascii : ∀ n < 16, (Nat.digitChar n).toUpper.toNat < 128 := by decide
  have hlt : b.toNat < 256 := b.toNat_lt
  -- the three characters of an escape are three bytes
  have hbytes : (escape b).flatMap String.utf8EncodeChar =
      [37, UInt8.ofNat (Nat.digitChar (b.toNat / 16)).toUpper.toNat,
        UInt8.ofNat (Nat.digitChar (b.toNat % 16)).toUpper.toNat] := by
    rw [escape, List.flatMap_cons, List.flatMap_cons, List.flatMap_cons, List.flatMap_nil,
      Bytes.utf8EncodeChar_of_lt (hascii (b.toNat / 16) (by omega)),
      Bytes.utf8EncodeChar_of_lt (hascii (b.toNat % 16) (by omega)),
      Bytes.utf8EncodeChar_of_lt (c := '%') (by decide)]
    rfl
  rw [hbytes]
  show (if (37 : UInt8) = 37 then _ else _) = _
  rw [if_pos rfl, pair?_escape]
  rfl

/-! ### Texts -/

theorem ofText_toString (c : Char) : Bytes.ofText c.toString = String.utf8EncodeChar c := by
  rw [Bytes.ofText, String.toUTF8_eq_toByteArray]
  show (String.singleton c).toByteArray.data.toList = _
  rw [String.toByteArray_singleton, List.utf8Encode_singleton, List.toList_data_toByteArray]

theorem ofNat_toNat_ne_of_lt {c d : Char} (hc : c.toNat < 128) (hd : d.toNat < 128)
    (h : c ≠ d) : UInt8.ofNat c.toNat ≠ UInt8.ofNat d.toNat := by
  intro heq
  have hmod := congrArg UInt8.toNat heq
  rw [UInt8.toNat_ofNat', UInt8.toNat_ofNat'] at hmod
  have hnat : c.toNat = d.toNat := by omega
  apply h
  rw [← Char.ofNat_toNat c, hnat, Char.ofNat_toNat]

theorem decode_flatMap_escape (bs rest : Bytes) :
    decode ((bs.flatMap escape).flatMap String.utf8EncodeChar ++ rest) =
      bs ++ decode rest := by
  induction bs with
  | nil => rfl
  | cons b bs ih =>
    rw [List.flatMap_cons, List.flatMap_append, List.append_assoc, decode_escape_append, ih]
    rfl

/-- A text without percent signs reads back from its escaped form. -/
theorem decode_encode (reserved : Char → Bool) {cs : List Char} (h : '%' ∉ cs) :
    decode (Bytes.ofText (String.ofList (encode reserved cs))) =
      Bytes.ofText (String.ofList cs) := by
  rw [Bytes.ofText_ofList, Bytes.ofText_ofList]
  induction cs with
  | nil => rfl
  | cons c cs ih =>
    have hc : c ≠ '%' := fun heq => h (heq ▸ List.mem_cons_self)
    have htail := ih fun hmem => h (List.mem_cons_of_mem c hmem)
    rw [encode, List.flatMap_cons, List.flatMap_append, List.flatMap_cons, ← encode]
    split
    next => rw [ofText_toString, decode_flatMap_escape, htail]
    -- the character is kept; it is one byte, and that is not a percent sign
    next hplain =>
      have hlt : c.toNat < 128 := by
        simp only [Bool.or_eq_true, decide_eq_true_eq, not_or] at hplain
        omega
      have hbyte : UInt8.ofNat c.toNat ≠ 37 := ofNat_toNat_ne_of_lt hlt (by decide) hc
      rw [List.flatMap_cons, List.flatMap_nil, List.append_nil,
        Bytes.utf8EncodeChar_of_lt hlt, List.singleton_append, List.singleton_append,
        decode_cons_of_ne hbyte, htail]

end Recommend.Http.Percent
