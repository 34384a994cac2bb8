import Recommend.Number.Single
import Recommend.Proofs.Number.Decimal
import Recommend.Proofs.Number.Rounding

/-!
What a numeral denotes.

A numeral of few digits has them all in its significand (`Numeral.significand_eq`),
whatever its layout, so laying out digits changes neither them nor their power of ten.
The binary64 number made of a significand and a power of ten is within three parts in `2
^ 53` of their product, and equal to it if the power of ten is small and the product is
a number of the format (`Binary64.scale?_eq`).
-/

namespace Recommend

/-! ### Digits -/

namespace Decimal

/-- Reading on from a number moves it to the left by as many places as are read. -/
theorem foldl_digits (ds : List (Fin 10)) (s : ℕ) :
    ds.foldl (fun n d => 10 * n + d.val) s = s * 10 ^ ds.length + value ds := by
  induction ds generalizing s with
  | nil => simp [value]
  | cons d ds ih =>
    rw [value, List.foldl_cons, List.foldl_cons, ih, ih, List.length_cons, pow_succ]
    ring

/-- The value of two lists of digits, one after the other. -/
theorem value_append (as bs : List (Fin 10)) :
    value (as ++ bs) = value as * 10 ^ bs.length + value bs := by
  rw [value, List.foldl_append]
  exact foldl_digits bs (value as)

theorem value_cons (d : Fin 10) (ds : List (Fin 10)) :
    value (d :: ds) = d.val * 10 ^ ds.length + value ds := by
  have hd : value [d] = d.val := by simp [value]
  rw [← List.singleton_append, value_append, hd]

/-- A digit more is one place more. -/
theorem append_digit (s : ℕ) (d : Fin 10) (ds : List (Fin 10)) :
    s * 10 ^ (d :: ds).length + value (d :: ds) =
      (10 * s + d.val) * 10 ^ ds.length + value ds := by
  rw [value_cons, List.length_cons, pow_succ]
  ring

theorem value_take_drop (k : ℕ) (ds : List (Fin 10)) :
    value (ds.take k) * 10 ^ (ds.drop k).length + value (ds.drop k) = value ds := by
  rw [← value_append, List.take_append_drop]

/-- A number of `n` digits is less than `10 ^ n`. -/
theorem value_lt (ds : List (Fin 10)) : value ds < 10 ^ ds.length := by
  induction ds with
  | nil => simp [value]
  | cons d ds ih =>
    have hd : d.val ≤ 9 := Nat.le_of_lt_succ d.isLt
    rw [value_cons, List.length_cons, pow_succ]
    -- the first digit is at most nine, and the others make less than one of its place
    nlinarith

/-- Zeros in front do not count. -/
theorem value_replicate_append (n : ℕ) (ds : List (Fin 10)) :
    value (List.replicate n 0 ++ ds) = value ds := by
  induction n with
  | zero => rfl
  | succ n ih =>
    rw [List.replicate_succ, List.cons_append, value_cons, ih, Fin.val_zero, zero_mul,
      zero_add]

theorem filterMap_digit?_map (ds : List (Fin 10)) :
    (ds.map digitChar).filterMap digit? = ds := by
  induction ds with
  | nil => rfl
  | cons d ds ih => rw [List.map_cons, List.filterMap_cons_some (digit?_digitChar d), ih]

/-- The digits in the text of a number spell it; that of a positive one starts with none
that is zero. -/
theorem exists_digits (n : ℕ) :
    ∃ ds, (natText n).filterMap digit? = ds ∧ value ds = n ∧ ds ≠ [] ∧
      (0 < n → 10 ^ (ds.length - 1) ≤ n) := by
  obtain ⟨ds, htext, hvalue, hne, hlead⟩ := natText_eq_map n
  refine ⟨ds, by rw [htext, filterMap_digit?_map], hvalue, hne, fun hpos => ?_⟩
  cases ds with
  | nil => exact absurd rfl hne
  | cons d ds =>
    -- a leading zero would be the only digit, and the number zero
    have hd : 1 ≤ d.val := by
      rw [Nat.one_le_iff_ne_zero]
      intro hzero
      obtain rfl : d = 0 := Fin.ext hzero
      have hnil := hlead ds rfl
      subst hnil
      have : value [0] = 0 := rfl
      omega
    rw [value_cons] at hvalue
    rw [List.length_cons, Nat.add_sub_cancel]
    calc 10 ^ ds.length ≤ d.val * 10 ^ ds.length := Nat.le_mul_of_pos_left _ hd
      _ ≤ n := by omega

end Decimal

/-! ### Significands -/

namespace Numeral

open Decimal

/-- If the digits fit, none is dropped before the point. -/
theorem leadingDigits_eq {ds : List (Fin 10)} {s : ℕ}
    (h : s * 10 ^ ds.length + value ds ≤ maxSignificand) :
    leadingDigits ds s = (s * 10 ^ ds.length + value ds, 0) := by
  induction ds generalizing s with
  | nil => simp [leadingDigits, value]
  | cons d ds ih =>
    rw [append_digit] at h ⊢
    -- what has been read is at most what all the digits make, so it fits too
    have hle : 10 * s + d.val ≤ (10 * s + d.val) * 10 ^ ds.length :=
      Nat.le_mul_of_pos_right _ (by positivity)
    rw [leadingDigits, if_pos (by omega), ih h]

/-- If the digits fit, none is dropped after the point. -/
theorem trailingDigits_eq {ds : List (Fin 10)} {s : ℕ}
    (h : s * 10 ^ ds.length + value ds ≤ maxSignificand) :
    trailingDigits ds s = (s * 10 ^ ds.length + value ds, ds.length) := by
  induction ds generalizing s with
  | nil => simp [trailingDigits, value]
  | cons d ds ih =>
    rw [append_digit] at h ⊢
    -- as before the point, but here each digit is counted
    have hle : 10 * s + d.val ≤ (10 * s + d.val) * 10 ^ ds.length :=
      Nat.le_mul_of_pos_right _ (by positivity)
    rw [trailingDigits, if_pos (by omega), ih h]
    rfl

/-- A numeral whose digits all fit has them all in its significand. -/
theorem significand_eq {n : Numeral}
    (h : n.whole * 10 ^ n.fraction.length + value n.fraction ≤ maxSignificand) :
    n.significand = (n.whole * 10 ^ n.fraction.length + value n.fraction,
      -(n.fraction.length : ℤ)) := by
  obtain ⟨ds, hdigits, hvalue, -, -⟩ := exists_digits n.whole
  have hwhole : 0 * 10 ^ ds.length + value ds = n.whole := by
    rw [zero_mul, zero_add, hvalue]
  have hle : n.whole ≤ n.whole * 10 ^ n.fraction.length :=
    Nat.le_mul_of_pos_right _ (by positivity)
  rw [significand, wholeDigits, hdigits, leadingDigits_eq (by omega), hwhole]
  dsimp only
  rw [trailingDigits_eq h]
  show (_, (0 : ℤ) - (n.fraction.length : ℤ)) = _
  rw [zero_sub]

/-- Wherever the point stands among the digits, the significand is made of all of them. -/
theorem significand_split (negative : Bool) {ds : List (Fin 10)}
    (h : value ds ≤ maxSignificand) (k : ℕ) (exponent : Option ℤ) :
    significand ⟨negative, value (ds.take k), ds.drop k, exponent⟩ =
      (value ds, -((ds.drop k).length : ℤ)) := by
  rw [significand_eq]
  · dsimp only
    rw [value_take_drop]
  · dsimp only
    rw [value_take_drop]
    exact h

/-- A numeral with a point or an exponent is read as a binary64 number. -/
theorem value?_eq {n : Numeral} {s : ℕ} {y e : ℤ}
    (hreal : n.fraction ≠ [] ∨ n.exponent ≠ none) (hsig : n.significand = (s, y))
    (hexp : n.exponent.getD 0 = e) (hlow : -maxExponent ≤ e) (hhigh : e ≤ maxExponent) :
    n.value? = (Binary64.scale? s (y + e)).map (Number.real n.negative) := by
  -- only digits without a point and without an exponent are a whole number
  have hnot : ¬(n.fraction.isEmpty = true ∧ n.exponent = none) := by
    rintro ⟨hfraction, hexponent⟩
    rcases hreal with h | h
    · exact h (List.isEmpty_iff.1 hfraction)
    · exact h hexponent
  rw [value?, if_neg hnot, units?, hsig]
  dsimp only
  rw [hexp, if_neg (not_lt.2 hhigh), if_neg (not_lt.2 hlow)]

/-- One digit before the point, the others after it, and the exponent that makes up for
them. -/
theorem value?_exponent (negative : Bool) {ds : List (Fin 10)} {x : ℤ} (hlen : 0 < ds.length)
    (hfits : value ds ≤ maxSignificand) (hlow : -maxExponent ≤ x + ds.length - 1)
    (hhigh : x + ds.length - 1 ≤ maxExponent) :
    value? ⟨negative, value (ds.take 1), ds.drop 1, some (x + ds.length - 1)⟩ =
      (Binary64.scale? (value ds) x).map (Number.real negative) := by
  rw [value?_eq (e := x + ds.length - 1) (.inr (by simp))
    (significand_split negative hfits 1 _) rfl hlow hhigh]
  congr 2
  rw [List.length_drop]
  show -((ds.length - 1 : ℕ) : ℤ) + (x + ds.length - 1) = x
  omega

/-- As many digits after the point as the power of ten says. -/
theorem value?_pointed (negative : Bool) {ds : List (Fin 10)} {x : ℤ} (hneg : x < 0)
    (hplaces : x.natAbs ≤ ds.length) (hfits : value ds ≤ maxSignificand) :
    value? ⟨negative, value (ds.take (ds.length - x.natAbs)),
        ds.drop (ds.length - x.natAbs), none⟩ =
      (Binary64.scale? (value ds) x).map (Number.real negative) := by
  have hlength : (ds.drop (ds.length - x.natAbs)).length = x.natAbs := by
    rw [List.length_drop]
    omega
  have hfraction : ds.drop (ds.length - x.natAbs) ≠ [] := by
    rw [← List.length_pos_iff, hlength]
    omega
  rw [value?_eq (e := 0) (.inl hfraction) (significand_split negative hfits _ _) rfl
    (by decide) (by decide), hlength]
  congr 2
  show -(x.natAbs : ℤ) + 0 = x
  omega

/-- A whole number with a zero after the point. -/
theorem value?_pointZero (negative : Bool) {n : ℕ} (hfits : n * 10 ≤ maxSignificand) :
    value? ⟨negative, n, [0], none⟩ =
      (Binary64.scale? (n * 10) (-1)).map (Number.real negative) := by
  have hsig : significand ⟨negative, n, [0], none⟩ = (n * 10, -1) := significand_eq hfits
  exact value?_eq (e := 0) (.inl (by simp)) hsig rfl (by decide) (by decide)

end Numeral

/-! ### Scaling by a power of ten -/

namespace Binary64

open Rounding

theorem unitsPerOne_eq : unitsPerOne = 2 ^ 1074 := by decide +kernel

theorem cast_unitsPerOne : (unitsPerOne : ℚ) = 2 ^ 1074 := by
  rw [unitsPerOne_eq, Nat.cast_pow, Nat.cast_ofNat]

theorem unitsPerOne_pos : (0 : ℚ) < unitsPerOne := by
  rw [cast_unitsPerOne]
  positivity

/-- There are units enough for everything here to have all its bits. -/
theorem le_unitsPerOne : (10 : ℚ) ^ 80 ≤ unitsPerOne := by
  exact_mod_cast (by decide +kernel : 10 ^ 80 ≤ unitsPerOne)

theorem ofNat_eq {n : ℕ} (hn : n < 2 ^ 53) : ofNat n = n * unitsPerOne := by
  rw [unitsPerOne_eq]
  refine toBits_eq_of_dyadic (k := 1074) Nat.one_pos hn ?_
  rw [Nat.cast_mul, Nat.cast_one, div_one, cast_unitsPerOne]

/-- A power of ten is rounded once. -/
theorem powerOfTen_close (e : ℕ) :
    |(powerOfTen e : ℚ) - 10 ^ e * unitsPerOne| ≤ 10 ^ e * unitsPerOne / 2 ^ 53 := by
  have hcast : ((Nat.pow 10 e * unitsPerOne : ℕ) : ℚ) / (1 : ℕ) = 10 ^ e * unitsPerOne := by
    rw [Nat.cast_mul, Nat.cast_one, div_one]
    congr 1
    exact Nat.cast_pow 10 e
  rw [← hcast]
  refine abs_toBits_sub_le_div Nat.one_pos ?_
  rw [hcast]
  -- a power of ten has more than 53 bits in front of the last unit
  have hpow : (1 : ℚ) ≤ 10 ^ e := one_le_pow₀ (by norm_num)
  have hunits := le_unitsPerOne
  nlinarith

/-- Five to the power of 22 is the last one of 53 bits. -/
theorem powerOfTen_eq {e : ℕ} (he : e ≤ 22) : powerOfTen e = 10 ^ e * unitsPerOne := by
  have hfive : 5 ^ e < 2 ^ 53 :=
    lt_of_le_of_lt (Nat.pow_le_pow_right (by decide) he) (by decide)
  have hsplit : 10 ^ e * unitsPerOne = 5 ^ e * 2 ^ (e + 1074) := by
    rw [unitsPerOne_eq, show 10 = 5 * 2 from rfl, mul_pow, pow_add, mul_assoc]
  rw [powerOfTen, ofNat, natPow_eq, hsplit]
  refine toBits_eq_of_dyadic Nat.one_pos hfive ?_
  rw [Nat.cast_one, div_one, Nat.cast_mul, Nat.cast_pow 2, Nat.cast_ofNat]

/-- Two roundings, of a divisor and of the quotient, are less than three. -/
theorem div_close {a p w d : ℚ} (ha : 0 < a) (hp : 0 < p) (hw : 0 < w)
    (hpw : |p - w| ≤ w / 2 ^ 53) (hd : |d - a / p| ≤ a / p / 2 ^ 53) :
    |d - a / w| ≤ 3 / 2 ^ 53 * (a / w) := by
  obtain ⟨hp₁, hp₂⟩ := abs_le.1 hpw
  obtain ⟨hd₁, hd₂⟩ := abs_le.1 hd
  have hz : 0 < a / p := div_pos ha hp
  have hcross : a / p * p = a / w * w := by
    rw [div_mul_cancel₀ a hp.ne', div_mul_cancel₀ a hw.ne']
  -- the divisor is off by one part in `2 ^ 53`, so the quotient is off by as much in
  -- the other direction
  have hlow : a / p * (1 - 1 / 2 ^ 53) ≤ a / w := by
    refine le_of_mul_le_mul_right ?_ hw
    rw [← hcross]
    nlinarith
  have hhigh : a / w ≤ a / p * (1 + 1 / 2 ^ 53) := by
    refine le_of_mul_le_mul_right ?_ hw
    rw [← hcross]
    nlinarith
  rw [abs_le]
  constructor <;> linarith

/-- Two roundings, of a factor and of the product, are less than three. -/
theorem mul_close {a p w d : ℚ} (ha : 0 < a) (hpw : |p - w| ≤ w / 2 ^ 53)
    (hd : |d - a * p| ≤ a * p / 2 ^ 53) : |d - a * w| ≤ 3 / 2 ^ 53 * (a * w) := by
  obtain ⟨hp₁, hp₂⟩ := abs_le.1 hpw
  obtain ⟨hd₁, hd₂⟩ := abs_le.1 hd
  have hlow : a * w * (1 - 1 / 2 ^ 53) ≤ a * p := by nlinarith
  have hhigh : a * p ≤ a * w * (1 + 1 / 2 ^ 53) := by nlinarith
  have hw : 0 ≤ a * w := by nlinarith
  rw [abs_le]
  constructor <;> linarith

theorem powerOfTen_pos (e : ℕ) : (0 : ℚ) < powerOfTen e := by
  have hclose := (abs_le.1 (powerOfTen_close e)).1
  have hw : (0 : ℚ) < 10 ^ e * unitsPerOne := mul_pos (by positivity) unitsPerOne_pos
  linarith

/-- A magnitude that stands for the product `v` of a significand and `10 ^ e`, or of its
inverse: it is near to `v`, and it is `v` if this is a number of the format and the
power of ten is one too. -/
structure Hits (d e : ℕ) (v : ℚ) : Prop where
  near : |(d : ℚ) - v| ≤ 3 / 2 ^ 53 * v
  eq : e ≤ 22 → ∀ n k : ℕ, n < 2 ^ 53 → v = n * 2 ^ k → (d : ℚ) = v

theorem cast_toBits_of_dyadic {num den n k : ℕ} {v : ℚ} (hden : 0 < den) (hn : n < 2 ^ 53)
    (hv : v = n * 2 ^ k) (hquot : (num : ℚ) / den = v) : (toBits 53 num den : ℚ) = v := by
  rw [toBits_eq_of_dyadic hden hn (hquot.trans hv), hv, Nat.cast_mul, Nat.cast_pow,
    Nat.cast_ofNat]

section Scaling

variable {s e : ℕ} (hpos : 0 < s) (hlt : s < 2 ^ 53)
include hpos hlt

/-- Dividing by a power of ten hits the quotient. -/
theorem hits_div (he : e ≤ 60) :
    Hits (div (ofNat s) (powerOfTen e)) e (s * unitsPerOne / 10 ^ e) := by
  have hU := unitsPerOne_pos
  have hs : (1 : ℚ) ≤ s := by exact_mod_cast hpos
  have hp := powerOfTen_pos e
  have hp' : 0 < powerOfTen e := by exact_mod_cast hp
  have hw : (0 : ℚ) < 10 ^ e * unitsPerOne := mul_pos (by positivity) hU
  have ha : (0 : ℚ) < s * unitsPerOne * unitsPerOne := mul_pos (mul_pos (by linarith) hU) hU
  have hnum : ((s * unitsPerOne * unitsPerOne : ℕ) : ℚ) =
      s * unitsPerOne * unitsPerOne := by
    rw [Nat.cast_mul, Nat.cast_mul]
  have hv : (s * unitsPerOne / 10 ^ e : ℚ) =
      s * unitsPerOne * unitsPerOne / (10 ^ e * unitsPerOne) := by
    field_simp
  -- the quotient has all its bits
  have hbits : (2 : ℚ) ^ 52 ≤ (s * unitsPerOne * unitsPerOne : ℕ) / powerOfTen e := by
    have hpow : (10 : ℚ) ^ e * unitsPerOne ≤ 10 ^ 60 * unitsPerOne :=
      mul_le_mul_of_nonneg_right (pow_le_pow_right₀ (by norm_num) he) hU.le
    have hlarge : (10 : ℚ) ^ 80 * unitsPerOne ≤ unitsPerOne * unitsPerOne :=
      mul_le_mul_of_nonneg_right le_unitsPerOne hU.le
    have hone : (unitsPerOne * unitsPerOne : ℚ) ≤ s * (unitsPerOne * unitsPerOne) :=
      le_mul_of_one_le_left (mul_pos hU hU).le hs
    rw [hnum, le_div_iff₀ hp]
    linarith [(abs_le.1 (powerOfTen_close e)).2]
  rw [div, ofNat_eq hlt, hv]
  -- both claims are about the same rounding: it is close in general, and exact on the
  -- numbers of the format
  refine ⟨div_close ha hp hw (powerOfTen_close e) ?_, fun hsmall n k hn hdyadic => ?_⟩
  · rw [← hnum]
    exact abs_toBits_sub_le_div hp' hbits
  · refine cast_toBits_of_dyadic hp' hn hdyadic ?_
    rw [hnum, powerOfTen_eq hsmall, Nat.cast_mul, Nat.cast_pow, Nat.cast_ofNat]

/-- Multiplying by a power of ten hits the product. -/
theorem hits_mul (e : ℕ) :
    Hits (mul (ofNat s) (powerOfTen e)) e (s * (10 ^ e * unitsPerOne)) := by
  have hU := unitsPerOne_pos
  have hU' : 0 < unitsPerOne := by exact_mod_cast hU
  have hs : (1 : ℚ) ≤ s := by exact_mod_cast hpos
  have hp := powerOfTen_pos e
  have hquot : ((s * unitsPerOne * powerOfTen e : ℕ) : ℚ) / unitsPerOne =
      s * powerOfTen e := by
    rw [Nat.cast_mul, Nat.cast_mul]
    field_simp
  -- the product has all its bits
  have hbits : (2 : ℚ) ^ 52 ≤ s * powerOfTen e := by
    have hone : (unitsPerOne : ℚ) ≤ 10 ^ e * unitsPerOne :=
      le_mul_of_one_le_left hU.le (one_le_pow₀ (by norm_num))
    have hpower : (powerOfTen e : ℚ) ≤ s * powerOfTen e := le_mul_of_one_le_left hp.le hs
    linarith [le_unitsPerOne, (abs_le.1 (powerOfTen_close e)).1]
  rw [mul, ofNat_eq hlt]
  refine ⟨mul_close (by linarith) (powerOfTen_close e) ?_, fun hsmall n k hn hdyadic => ?_⟩
  · rw [← hquot] at hbits ⊢
    exact abs_toBits_sub_le_div hU' hbits
  · refine cast_toBits_of_dyadic hU' hn hdyadic ?_
    rw [hquot, powerOfTen_eq hsmall, Nat.cast_mul, Nat.cast_pow, Nat.cast_ofNat]

/-- With so small an exponent there is no overflow. -/
theorem mul_lt_limit (he : e ≤ 60) : mul (ofNat s) (powerOfTen e) < limit := by
  have hnear := (abs_le.1 (hits_mul hpos hlt e).near).2
  have hs : (s : ℚ) ≤ 2 ^ 53 := by exact_mod_cast hlt.le
  have hpow : (10 : ℚ) ^ e ≤ 10 ^ 60 := pow_le_pow_right₀ (by norm_num) he
  have hproduct : (s : ℚ) * (10 ^ e * unitsPerOne) ≤ 2 ^ 53 * (10 ^ 60 * unitsPerOne) :=
    mul_le_mul hs (mul_le_mul_of_nonneg_right hpow unitsPerOne_pos.le)
      (mul_pos (by positivity) unitsPerOne_pos).le (by norm_num)
  have hlimit : (10 : ℚ) ^ 80 * unitsPerOne ≤ limit := by
    exact_mod_cast (by decide +kernel : 10 ^ 80 * unitsPerOne ≤ limit)
  have hcast : (mul (ofNat s) (powerOfTen e) : ℚ) < limit := by linarith [unitsPerOne_pos]
  exact_mod_cast hcast

/-- A significand is scaled by a power of ten with two roundings. -/
theorem scale?_eq {y : ℤ} (hlow : -60 ≤ y) (hhigh : y ≤ 39) :
    ∃ d, scale? s y = some d ∧ Hits d y.natAbs (s * 10 ^ y * unitsPerOne) := by
  rcases lt_or_ge y 0 with hy | hy
  · have hten : (s * 10 ^ y * unitsPerOne : ℚ) = s * unitsPerOne / 10 ^ y.natAbs := by
      obtain ⟨e, rfl⟩ : ∃ e : ℕ, y = -e := ⟨y.natAbs, by omega⟩
      rw [zpow_neg, zpow_natCast, Int.natAbs_neg, Int.natAbs_natCast]
      ring
    refine ⟨div (ofNat s) (powerOfTen y.natAbs), ?_, ?_⟩
    · rw [scale?, if_pos hy]
      dsimp only
      rw [scaleDown, if_pos (by rw [maxPower]; omega)]
    · rw [hten]
      exact hits_div hpos hlt (by omega)
  -- a power that is not negative is multiplied by, and there the limit has to be checked
  · obtain ⟨e, rfl⟩ : ∃ e : ℕ, y = e := ⟨y.toNat, by omega⟩
    rw [zpow_natCast, Int.natAbs_natCast, mul_assoc]
    refine ⟨mul (ofNat s) (powerOfTen e), ?_, hits_mul hpos hlt e⟩
    rw [scale?, if_neg (not_lt.2 hy), Int.toNat_natCast, if_pos (by rw [maxPower]; omega)]
    exact if_pos (mul_lt_limit hpos hlt (by omega))

end Scaling

end Binary64

/-! ### Layouts -/

namespace Single

open Decimal

/-- Laying out digits keeps them, with their power of ten; only a whole number gets one
zero more. -/
theorem value?_numeral (negative : Bool) {c : ℕ} {x : ℤ} (hpos : 0 < c) (hc : c < 2 ^ 28)
    (hlow : -60 ≤ x) (hhigh : x ≤ 39) :
    ∃ s y, (layout.numeral negative c x).value? =
        (Binary64.scale? s y).map (Number.real negative) ∧
      (s * 10 ^ y : ℚ) = c * 10 ^ x ∧ 0 < s ∧ s < 2 ^ 53 ∧ (s = c ∧ y = x ∨ y = -1) := by
  obtain ⟨ds, hdigits, rfl, hne, hlead⟩ := exists_digits c
  have hlen : 0 < ds.length := List.length_pos_iff.2 hne
  -- a number below `2 ^ 28` has few digits, so every exponent that is written is in range
  have hshort : ds.length - 1 < 2 ^ 28 :=
    lt_of_lt_of_le (Nat.lt_pow_self (by decide)) ((hlead hpos).trans hc.le)
  have hbound : (2 : ℕ) ^ 53 ≤ Numeral.maxSignificand := by decide
  have hmax : Numeral.maxExponent = 2147483647 := rfl
  rw [Layout.numeral, hdigits]
  dsimp only
  rw [if_neg hpos.ne']
  split
  next hexp =>
    refine ⟨value ds, x, ?_, rfl, hpos, by omega, .inl ⟨rfl, rfl⟩⟩
    exact Numeral.value?_exponent negative hlen (by omega) (by omega) (by omega)
  next hplain =>
    split
    next hneg =>
      refine ⟨value ds, x, ?_, rfl, hpos, by omega, .inl ⟨rfl, rfl⟩⟩
      have hplaces : x.natAbs ≤ (List.replicate (x.natAbs - ds.length) 0 ++ ds).length := by
        rw [List.length_append, List.length_replicate]
        omega
      -- the zeros in front change nothing
      have hvalue := value_replicate_append (x.natAbs - ds.length) ds
      rw [Numeral.value?_pointed negative hneg hplaces (by omega), hvalue]
    next hnonneg =>
      obtain ⟨k, rfl⟩ : ∃ k : ℕ, x = k := ⟨x.toNat, by omega⟩
      have hbig : value ds * 10 ^ k < 10 ^ 13 := by
        have hexp : k + ds.length ≤ 13 := by
          have : ¬(13 : ℤ) ≤ k + ds.length - 1 := fun h => hplain (.inr h)
          omega
        calc value ds * 10 ^ k < 10 ^ ds.length * 10 ^ k :=
              Nat.mul_lt_mul_of_pos_right (value_lt ds) (by positivity)
          _ = 10 ^ (k + ds.length) := by rw [pow_add, mul_comm]
          _ ≤ 10 ^ 13 := Nat.pow_le_pow_right (by decide) hexp
      refine ⟨value ds * 10 ^ k * 10, -1, ?_, ?_, by positivity, by omega, .inr rfl⟩
      · have hfits : value ds * 10 ^ k * 10 ≤ Numeral.maxSignificand := by omega
        exact Numeral.value?_pointZero negative hfits
      · rw [zpow_natCast]
        push_cast
        field_simp

end Single

end Recommend
