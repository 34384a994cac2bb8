import Recommend.Proofs.Json.Reading

/-!
Values that read back from what is written for them.

`c.Recovers a` says so of one value and the codec `c`, in front of any text that does
not continue a numeral.  It holds of every text, also an optional one, and of every
whole number in range; a list recovers if its items do and an alternative if its value
does; a binary32 number recovers if it reads back on its own.
-/

namespace Recommend.Json

open Decimal

namespace Codec

variable {α β : Type}

/-- The value reads back from its written form, and the reader stops where that ends. -/
def Recovers (c : Codec α) (a : α) : Prop :=
  ∀ rest, Stops rest → c.read ((c.write a).chars ++ rest) = .ok (a, rest)

theorem Recovers.yields {c : Codec α} {a : α} (h : c.Recovers a) :
    c.Yields (c.write a).chars (.ok a) := h

theorem Yields.recovers {c : Codec α} {a : α} (h : c.Yields (c.write a).chars (.ok a)) :
    c.Recovers a := h

/-- A value that recovers reads back from its document. -/
theorem Recovers.decode_encode {c : Codec α} {a : α} (h : c.Recovers a) :
    c.decode (c.encode a) = .ok a := h.yields.decode

/-- A value reads back through a conversion that loses nothing of it. -/
theorem Recovers.via {c : Codec α} {forth : α → β} {back : β → α} {b : β}
    (h : c.Recovers (back b)) (hback : forth (back b) = b) :
    (c.via forth back).Recovers b := by
  intro rest hrest
  show (c.read ((c.write (back b)).chars ++ rest)).map _ = _
  rw [h rest hrest]
  show Except.ok (forth (back b), rest) = _
  rw [hback]

/-! ### Texts -/

/-- Every text reads back. -/
theorem recovers_text (s : String) : text.Recovers s := by
  intro rest _
  show text.read ((Json.text s).chars ++ rest) = _
  rw [chars, literal_append]
  exact literalBody_flatMap s rest

/-! ### Numbers -/

/-- A numeral is read as the number that it denotes. -/
theorem readNumber_text (n : Numeral) {rest : List Char} (h : Stops rest) :
    readNumber (n.text ++ rest) = denoted n rest := by
  rw [← finiteNumber_text n h]
  obtain ⟨c, cs, htext, hstart⟩ := (isNumeral_text n).exists_cons
  rw [htext, List.cons_append, readNumber, skipSpace_cons (isSpace_eq_false hstart)]
  exact if_pos hstart

/-- The numeral of a whole number that a 64-bit word can hold denotes that number. -/
theorem value?_ofInt {n : Int} (hlow : Int64.minValue.toInt ≤ n)
    (hhigh : n.toNat < UInt64.size) :
    (Numeral.ofInt n).value? = some (.integer n) := by
  have hmin : -9223372036854775808 ≤ n := hlow
  have hmax : n.toNat < 18446744073709551616 := hhigh
  have hwhole : (Numeral.ofInt n).fraction.isEmpty = true ∧
      (Numeral.ofInt n).exponent = none :=
    ⟨rfl, rfl⟩
  rw [Numeral.value?, if_pos hwhole, Numeral.ofInt]
  dsimp only
  -- negative numbers have a smaller range than the others
  by_cases hneg : n < 0
  · have hrange : 0 < n.natAbs ∧ n.natAbs ≤ Nat.pow 2 63 := by
      show 0 < n.natAbs ∧ n.natAbs ≤ 9223372036854775808
      omega
    have hn : -Int.ofNat n.natAbs = n := by
      show -(n.natAbs : Int) = n
      omega
    rw [if_pos (decide_eq_true hneg), if_pos hrange, hn]
  · have hrange : n.natAbs ≤ Numeral.maxSignificand := by
      show n.natAbs ≤ 18446744073709551615
      omega
    have hn : Int.ofNat n.natAbs = n := by
      show (n.natAbs : Int) = n
      omega
    rw [if_neg (fun h => hneg (of_decide_eq_true h)), if_pos hrange, hn]

/-- A whole number in range reads back. -/
theorem readInteger_ofInt {ofInt? : Int → Option α} {n : Int} {a : α}
    (hlow : Int64.minValue.toInt ≤ n) (hhigh : n.toNat < UInt64.size)
    (ha : ofInt? n = some a) {rest : List Char} (h : Stops rest) :
    readInteger ofInt? ((Json.ofInt n).chars ++ rest) = .ok (a, rest) := by
  rw [Json.ofInt, chars, readInteger, readNumber_text (.ofInt n) h, denoted,
    value?_ofInt hlow hhigh]
  dsimp only [bind, Except.bind]
  rw [ha]

theorem recovers_int32 (n : Int32) : int32.Recovers n := by
  intro rest hrest
  have hlow : -2147483648 ≤ n.toInt := Int32.le_toInt n
  have hhigh : n.toInt < 2147483648 := Int32.toInt_lt n
  have hmin : Int64.minValue.toInt ≤ n.toInt := by
    show -9223372036854775808 ≤ n.toInt
    omega
  have hmax : n.toInt.toNat < UInt64.size := by
    show n.toInt.toNat < 18446744073709551616
    omega
  exact readInteger_ofInt hmin hmax (int32OfInt?_toInt n) hrest

theorem recovers_int64 (n : Int64) : int64.Recovers n := by
  intro rest hrest
  have hhigh : n.toInt < 9223372036854775808 := Int64.toInt_lt n
  have hmax : n.toInt.toNat < UInt64.size := by
    show n.toInt.toNat < 18446744073709551616
    omega
  have hread : int64OfInt? n.toInt = some n := by
    rw [int64OfInt?, if_pos ⟨Int64.minValue_le_toInt n, Int64.toInt_le n⟩,
      Int64.ofInt_toInt]
  exact readInteger_ofInt (Int64.minValue_le_toInt n) hmax hread hrest

theorem ofNat_eq_ofInt (n : Nat) : Json.ofNat n = Json.ofInt n := by
  simp [Json.ofNat, Json.ofInt, Numeral.ofNat, Numeral.ofInt]

/-- Natural numbers are read within their own range, which is that of a 64-bit word or a
part of it. -/
theorem readInteger_ofNat {ofInt? : Int → Option α} {n : Nat} {a : α} (hn : n < UInt64.size)
    (ha : ofInt? n = some a) {rest : List Char} (h : Stops rest) :
    readInteger ofInt? ((Json.ofNat n).chars ++ rest) = .ok (a, rest) := by
  have hmin : Int64.minValue.toInt ≤ (n : Int) := by
    show -9223372036854775808 ≤ (n : Int)
    omega
  rw [ofNat_eq_ofInt]
  exact readInteger_ofInt hmin hn ha h

theorem recovers_uint64 (n : UInt64) : uint64.Recovers n := by
  intro rest hrest
  have hhigh : n.toNat < UInt64.size := n.toNat_lt
  have hread : uint64OfInt? (n.toNat : Int) = some n := by
    rw [uint64OfInt?, Int.toNat_natCast, if_pos ⟨Int.natCast_nonneg _, hhigh⟩,
      UInt64.ofNat_toNat]
  exact readInteger_ofNat hhigh hread hrest

theorem recovers_uint32 (n : UInt32) : uint32.Recovers n := by
  intro rest hrest
  have hhigh : n.toNat < 4294967296 := n.toNat_lt
  have hmax : n.toNat < UInt64.size := by
    show n.toNat < 18446744073709551616
    omega
  have hread : uint32OfInt? (n.toNat : Int) = some n := by
    rw [uint32OfInt?, Int.toNat_natCast, if_pos ⟨Int.natCast_nonneg _, hhigh⟩,
      UInt32.ofNat_toNat]
  exact readInteger_ofNat hmax hread hrest

/-- A number that reads back from its own text reads back in any document. -/
theorem recovers_single {x : Single} (h : single.decode (single.encode x) = .ok x) :
    single.Recovers x := by
  cases hnumeral : x.numeral? with
  | none =>
    -- what is written is `null`, and that is no number
    have hwrite : single.write x = .null := by simp [single, hnumeral]
    rw [encode, hwrite] at h
    cases h
  | some n =>
    have hwrite : single.write x = .number n := by simp [single, hnumeral]
    have hread : ∀ {rest : List Char}, Stops rest →
        single.read (n.text ++ rest) =
          (denoted n rest).map fun r => (Single.ofNumber r.1, r.2) := by
      intro rest hrest
      rw [← readNumber_text n hrest]
      rfl
    -- reading the text alone tells what the numeral denotes
    have hwhole := @hread [] trivial
    rw [List.append_nil] at hwhole
    rw [encode, hwrite, Json.compact, chars, decode, String.toList_ofList, decodeWhole,
      hwhole] at h
    intro rest hrest
    rw [hwrite, chars, hread hrest]
    unfold denoted at h ⊢
    cases hvalue : n.value? with
    | none =>
      rw [hvalue] at h
      cases h
    | some v =>
      rw [hvalue] at h
      have hx : Single.ofNumber v = x := Except.ok.inj h
      show Except.ok (Single.ofNumber v, rest) = _
      rw [hx]

/-! ### Optional values -/

theorem recovers_none (c : Codec α) : (option c).Recovers none := by
  intro rest _
  rfl

/-- A value that is there reads back unless its text could be taken for `null`. -/
theorem recovers_some {c : Codec α} {a : α} (h : c.Recovers a) {x : Char} {cs : List Char}
    (htext : (c.write a).chars = x :: cs) (hspace : isSpace x = false) (hnull : x ≠ 'n') :
    (option c).Recovers (some a) := by
  intro rest hrest
  have hread := h rest hrest
  show (option c).read ((c.write a).chars ++ rest) = _
  rw [htext, List.cons_append] at hread ⊢
  unfold option
  dsimp only
  rw [skipSpace_cons hspace]
  split
  next heq => exact absurd (List.cons.inj heq).1 hnull
  next =>
    rw [hread]
    rfl

/-- An optional text reads back: a literal is never taken for `null`. -/
theorem recovers_option_text (s : Option String) : (option text).Recovers s := by
  cases s with
  | none => exact recovers_none text
  | some s =>
    have htext : (text.write s).chars = literal s := by
      show (Json.text s).chars = literal s
      rw [chars]
    exact recovers_some (recovers_text s) htext rfl (by decide)

/-! ### Lists -/

/-- A list reads back if its items do. -/
theorem recovers_list {c : Codec α} {as : List α} (h : ∀ a ∈ as, c.Recovers a) :
    (list c).Recovers as := by
  have hitems : Sequence c.Yields ((as.map c.write).map chars) (.ok as) := by
    apply sequence_ok
    rw [List.map_map, List.forall₂_map_right_iff, List.forall₂_same]
    exact h
  apply Yields.recovers
  show (list c).Yields (Json.array (as.map c.write)).chars (.ok as)
  rw [chars_array]
  exact yields_list hitems (List.forall_mem_map.2 fun j _ => starts_chars j)

/-! ### Keys of maps -/

theorem escapeChar_digitChar (d : Fin 10) : escapeChar (digitChar d) = [digitChar d] := by
  revert d
  decide

theorem flatMap_escapeChar_natText (n : Nat) :
    (natText n).flatMap escapeChar = natText n := by
  obtain ⟨ds, htext, -, -, -⟩ := natText_eq_map n
  rw [htext, List.flatMap_map]
  have hescape : (fun d => escapeChar (digitChar d)) = fun d => [digitChar d] := by
    funext d
    exact escapeChar_digitChar d
  rw [hescape, ← List.map_eq_flatMap]

/-- Nothing in the digits of a number is escaped. -/
theorem flatMap_escapeChar_intText (n : Int) :
    (intText n).flatMap escapeChar = intText n := by
  rw [intText]
  split
  next =>
    rw [List.flatMap_cons, flatMap_escapeChar_natText]
    rfl
  next => exact flatMap_escapeChar_natText n.natAbs

theorem chars_ofInt (n : Int) : (Json.ofInt n).chars = intText n := by
  rw [Json.ofInt, chars, intText]
  split
  next hneg => simp [Numeral.text, Numeral.ofInt, hneg]
  next hpos => simp [Numeral.text, Numeral.ofInt, hpos]

theorem Key.read_int32 {c : Char} {cs : List Char} (hstart : c = '-' ∨ isDigit c = true)
    {n : Int32}
    {rest : List Char} (hread : Codec.int32.read (c :: cs) = .ok (n, '"' :: rest)) :
    Key.int32.read (c :: cs) = .ok (n, rest) := by
  rw [Key.int32]
  dsimp only
  rw [if_pos hstart, hread]
  rfl

/-- A number reads back as a member name. -/
theorem Key.recovers_int32 (n : Int32) : Key.int32.Recovers n := by
  intro rest
  have hwrite : Key.int32.write n = Decimal.ofInt n.toInt := rfl
  rw [hwrite, Decimal.ofInt, String.toList_ofList, flatMap_escapeChar_intText]
  -- the name is read as a number in front of the closing quote, which ends a numeral
  have hread := Codec.recovers_int32 n ('"' :: rest) rfl
  have hchars : (Codec.int32.write n).chars = intText n.toInt := chars_ofInt n.toInt
  obtain ⟨c, cs, htext, hstart⟩ := (isNumeral_text (.ofInt n.toInt)).exists_cons
  have hcons : intText n.toInt = c :: cs := by
    rw [← chars_ofInt, Json.ofInt, chars, htext]
  rw [hchars, hcons, List.cons_append] at hread
  rw [hcons, List.cons_append]
  exact Key.read_int32 hstart hread

/-! ### Alternatives -/

/-- An alternative with a value reads back if its value does. -/
theorem recovers_payload {cases : List (Case α)} {a : α} {name : String}
    {codec : Codec β} {inject : β → α} {project? : α → Option β} {b : β}
    (hwrite : cases.findSome? (·.write? a) = some (.object [(name, codec.write b)]))
    (hfind : cases.find? (·.name == name) = some (.payload name codec inject project?))
    (hb : codec.Recovers b) (ha : inject b = a) : (variant cases).Recovers a := by
  apply Yields.recovers
  rw [write_variant hwrite, chars_object, ← ha]
  exact yields_payload hfind hb.yields

end Codec

end Recommend.Json
