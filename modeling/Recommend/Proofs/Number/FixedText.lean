import Mathlib.Algebra.Order.Ring.Int
import Mathlib.Algebra.Ring.Int.Parity
import Recommend.Feature.Text
import Recommend.Proofs.Number.Numeral
import Recommend.Proofs.Number.Shortest

/-!
Numbers with three decimals.

A term spells a multiple of one thousandth (`FixedText`): perhaps a sign, digits, a
point and three digits.  It can be taken apart in one way only
(`FixedText.text_injective`), so it spells one number.

The term of a binary32 number is the multiple that is nearest to it, and of two that are
equally near the even one.  `IsNearest` says this about whole numbers, to which
thousandths are scaled.  The number is taken as the rational number it is, so there is
no case in which digits are lost before rounding.  That larger numbers do not have
smaller terms follows from being nearest alone (`IsNearest.mono`).
-/

namespace Recommend

/-! ### Nearest whole numbers -/

/-- No whole number is nearer, and if another one is as near then this one is even. -/
structure IsNearest (x : ℚ) (n : ℤ) : Prop where
  le : ∀ k : ℤ, |x - n| ≤ |x - k|
  even : ∀ k : ℤ, k ≠ n → |x - k| = |x - n| → Even n

namespace IsNearest

variable {x y : ℚ} {m n : ℤ}

/-- What is within a half is nearest, if it is even in the case of a tie. -/
theorem of_abs_le (hle : |x - n| ≤ 1 / 2) (heven : |x - n| = 1 / 2 → Even n) :
    IsNearest x n := by
  -- different whole numbers are one apart, so only one is nearer than a half
  have hapart : ∀ k : ℤ, k ≠ n → 1 ≤ |x - n| + |x - k| := by
    intro k hk
    have hdist : (1 : ℚ) ≤ |(k : ℚ) - n| := by exact_mod_cast Int.one_le_abs (sub_ne_zero.2 hk)
    calc (1 : ℚ) ≤ |(k : ℚ) - n| := hdist
      _ = |(x - n) - (x - k)| := by rw [sub_sub_sub_cancel_left]
      _ ≤ |x - n| + |x - k| := abs_sub _ _
  constructor
  · intro k
    by_cases hk : k = n
    · rw [hk]
    · have := hapart k hk
      linarith
  · intro k hk htie
    have := hapart k hk
    exact heven (by linarith)

/-- Rounding half to even does not prefer a sign. -/
theorem neg (h : IsNearest x n) : IsNearest (-x) (-n) := by
  -- the distances of the negated number are those of the number
  have hdist : ∀ k : ℤ, |-x - k| = |x - (-k : ℤ)| := by
    intro k
    rw [← abs_neg, Int.cast_neg]
    congr 1
    ring
  constructor
  · intro k
    rw [hdist, hdist, neg_neg]
    exact h.le (-k)
  · intro k hk htie
    rw [hdist, hdist, neg_neg] at htie
    exact (h.even (-k) (fun heq => hk (by rw [← heq, neg_neg])) htie).neg

/-- What is rounded up to `m` is not below the middle between `m` and a smaller number. -/
theorem middle_le (h : IsNearest x m) (hlt : n < m) : (m : ℚ) + n ≤ 2 * x := by
  have hcast : (n : ℚ) < m := by exact_mod_cast hlt
  have hup : (m : ℚ) - x ≤ |x - n| := by
    calc (m : ℚ) - x ≤ |m - x| := le_abs_self _
      _ = |x - m| := abs_sub_comm _ _
      _ ≤ |x - n| := h.le n
  -- the other number is below or above, and `m` is not farther away
  rcases abs_cases (x - n) with ⟨habs, -⟩ | ⟨habs, -⟩
  · linarith
  · linarith

/-- What is rounded down to `n` is not above the middle between `n` and a larger number. -/
theorem le_middle (h : IsNearest x n) (hlt : n < m) : 2 * x ≤ (m : ℚ) + n := by
  have hneg := h.neg.middle_le (Int.neg_lt_neg hlt)
  push_cast at hneg
  linarith

/-- What is larger is not rounded to less. -/
theorem mono (hx : IsNearest x m) (hy : IsNearest y n) (h : x ≤ y) : m ≤ n := by
  by_contra hlt
  rw [not_le] at hlt
  have hlow := hx.middle_le hlt
  have hhigh := hy.le_middle hlt
  -- both numbers are in the middle, so both are rounded to an even number, and one is
  -- nearer
  obtain rfl : x = y := by linarith
  have hmiddle : x = ((m : ℚ) + n) / 2 := by linarith
  have htie : |x - n| = |x - m| := by
    rw [← abs_neg, hmiddle]
    congr 1
    ring
  -- the whole number half way between two even ones is the number itself
  obtain ⟨a, rfl⟩ := hx.even n hlt.ne htie
  obtain ⟨b, rfl⟩ := hy.even _ hlt.ne' htie.symm
  have hzero : |x - (a + b : ℤ)| = 0 := by
    rw [abs_eq_zero, hmiddle]
    push_cast
    ring
  have hexact := hx.le (a + b)
  rw [hzero, abs_nonpos_iff, hmiddle] at hexact
  have hcast : ((b + b : ℤ) : ℚ) < (a + a : ℤ) := by exact_mod_cast hlt
  linarith

end IsNearest

/-- Rounding a quotient half to even gives the nearest whole number. -/
theorem isNearest_halfEven {num den : ℕ} (hden : 0 < den) :
    IsNearest ((num : ℚ) / den) (Rounding.halfEven num den : ℕ) := by
  obtain ⟨f, hnonneg, hlt, hq, hcases⟩ := Rounding.halfEven_cases num hden
  have hle := Rounding.abs_halfEven_sub_le num hden
  rw [abs_sub_comm] at hle
  apply IsNearest.of_abs_le
  · exact_mod_cast hle
  · intro htie
    rw [Int.cast_natCast, hq] at htie
    rw [Int.even_coe_nat, Nat.even_iff]
    -- a tie is possible only in the last two cases, where the result is even
    rcases hcases with ⟨hf, h⟩ | ⟨hf, h⟩ | ⟨-, heven, h⟩ | ⟨-, hodd, h⟩
    · rw [h, add_sub_cancel_left, abs_of_nonneg hnonneg] at htie
      linarith
    · rw [h] at htie
      push_cast at htie
      rw [add_sub_add_left_eq_sub, abs_of_nonpos (by linarith)] at htie
      linarith
    · rw [h, heven]
    · rw [h]
      omega

/-! ### Texts with three decimals -/

/-- A number as it is written with three decimals: perhaps a minus sign, digits that
start with a zero only if it is the only one, and three digits behind the point. -/
structure FixedText where
  negative : Bool
  whole : List (Fin 10)
  places : List (Fin 10)
  whole_ne_nil : whole ≠ []
  lead : ∀ tail, whole = 0 :: tail → tail = []
  length_places : places.length = 3

namespace FixedText

open Decimal

/-- The text, without its sign. -/
def unsigned (x : FixedText) : List Char :=
  x.whole.map digitChar ++ '.' :: x.places.map digitChar

/-- The text with its sign. -/
def text (x : FixedText) : String :=
  String.ofList (if x.negative then '-' :: x.unsigned else x.unsigned)

/-- The number that is spelled, in thousandths. -/
def thousandths (x : FixedText) : ℤ :=
  if x.negative then -(value (x.whole ++ x.places) : ℤ) else value (x.whole ++ x.places)

/-- The number that is spelled. -/
def number (x : FixedText) : ℚ := x.thousandths / 1000

/-- Without its sign a text starts with a digit. -/
theorem minus_ne_head (x : FixedText) (cs : List Char) : '-' :: cs ≠ x.unsigned := by
  obtain ⟨d, ds, hds⟩ := List.exists_cons_of_ne_nil x.whole_ne_nil
  rw [unsigned, hds]
  intro heq
  exact digitChar_ne (by decide) d (List.cons.inj heq).1.symm

/-- The point separates two lists of digits. -/
theorem unsigned_injective {x y : FixedText} (h : x.unsigned = y.unsigned) :
    x.whole = y.whole ∧ x.places = y.places := by
  have hpoint : digit? '.' = none := by decide
  obtain ⟨hwhole, -, hplaces⟩ := (List.append_cons_inj_of_notMem
    (notMem_map_digitChar hpoint x.whole) (notMem_map_digitChar hpoint x.places)).1 h
  exact ⟨map_digitChar_inj hwhole, map_digitChar_inj hplaces⟩

/-- A text can be taken apart in one way only. -/
theorem text_injective {x y : FixedText} (h : x.text = y.text) : x = y := by
  have hparts : x.negative = y.negative ∧ x.unsigned = y.unsigned := by
    have hchars := String.ofList_injective h
    -- a minus sign in one text only would be a digit of the other one
    cases hx : x.negative <;> cases hy : y.negative <;> rw [hx, hy] at hchars
    · exact ⟨rfl, hchars⟩
    · exact absurd hchars.symm (minus_ne_head x _)
    · exact absurd hchars (minus_ne_head y _)
    · exact ⟨rfl, (List.cons.inj hchars).2⟩
  obtain ⟨hsign, hunsigned⟩ := hparts
  obtain ⟨hwhole, hplaces⟩ := unsigned_injective hunsigned
  -- the other fields are proofs
  cases x
  cases y
  cases hsign
  cases hwhole
  cases hplaces
  rfl

/-- Thousandths are written in this way. -/
theorem exists_of_thousandths (negative : Bool) (n : ℕ) :
    ∃ x : FixedText, x.negative = negative ∧ x.unsigned = Single.thousandths n ∧
      value (x.whole ++ x.places) = n := by
  obtain ⟨whole, hwhole, hvalue, hne, hlead⟩ := natText_eq_map (n / 1000)
  obtain ⟨places, hplaces, hvalue', -, -⟩ := natText_eq_map (n % 1000)
  -- what is left of a whole has at most three digits, and zeros fill them up
  have hshort : places.length ≤ 3 := by
    have hlength : (natText (n % 1000)).length ≤ 3 :=
      (Nat.length_toDigits_le_iff (by decide) (by decide)).2 (Nat.mod_lt n (by decide))
    rwa [hplaces, List.length_map] at hlength
  refine ⟨⟨negative, whole, List.replicate (3 - places.length) 0 ++ places, hne, hlead, ?_⟩,
    rfl, ?_, ?_⟩
  · rw [List.length_append, List.length_replicate]
    omega
  · rw [unsigned, Single.thousandths, hwhole, hplaces, List.map_append, List.map_replicate,
      List.length_map]
    rfl
  · dsimp only
    rw [value_append, value_replicate_append, hvalue, hvalue', List.length_append,
      List.length_replicate, Nat.sub_add_cancel hshort]
    exact Nat.div_add_mod' n 1000

end FixedText

/-! ### Terms -/

namespace Single

/-- The rational number that a finite number is: its units of `2 ^ (-149)`, with its
sign. -/
def rational (negative : Bool) (m : Magnitude) : ℚ :=
  if negative then -(m.units / 2 ^ 149) else m.units / 2 ^ 149

/-- The thousandths that are written are the ones nearest to the number of units. -/
theorem isNearest_units (m : Magnitude) :
    IsNearest (1000 * (m.units / 2 ^ 149))
      (Rounding.halfEven (m.units * 1000) unitsPerOne : ℕ) := by
  have hscale : (1000 * (m.units / 2 ^ 149) : ℚ) = (m.units * 1000 : ℕ) / unitsPerOne := by
    rw [cast_unitsPerOne, Nat.cast_mul, Nat.cast_ofNat]
    ring
  rw [hscale]
  exact isNearest_halfEven (Nat.two_pow_pos 149)

/-- A term has three decimals and the sign of its number, and its thousandths are the
nearest ones. -/
theorem exists_fixedText (negative : Bool) (m : Magnitude) :
    ∃ x : FixedText, floatTerm (.finite negative m) = x.text ∧ x.negative = negative ∧
      IsNearest (1000 * rational negative m) x.thousandths := by
  obtain ⟨x, hsign, hunsigned, hvalue⟩ :=
    FixedText.exists_of_thousandths negative
      (Rounding.halfEven (m.units * 1000) unitsPerOne)
  have hnearest := isNearest_units m
  rw [← hvalue] at hnearest
  refine ⟨x, ?_, hsign, ?_⟩
  · rw [floatTerm, term, FixedText.text, hsign, hunsigned]
  · rw [FixedText.thousandths, rational, hsign]
    -- the sign is put before the digits after rounding, which does not depend on it
    cases negative with
    | false => exact hnearest
    | true =>
      rw [if_pos rfl, if_pos rfl, mul_neg]
      exact hnearest.neg

end Single

/-- Distances from multiples of one thousandth, scaled. -/
theorem abs_sub_div_thousand (v : ℚ) (k : ℤ) : |v - k / 1000| = |1000 * v - k| / 1000 := by
  have hscale : v - k / 1000 = (1000 * v - k) / 1000 := by ring
  rw [hscale, abs_div, abs_of_pos (by norm_num : (0 : ℚ) < 1000)]

/-- The term of a finite number has three decimals, the sign of the number even where it
spells zero, and spells the multiple of one thousandth that is nearest to the number, of
two the even one.  So a number that is not larger does not have a term that spells more. -/
theorem floatTerm_rounds_exactly (negative : Bool) (m : Magnitude) :
    (∃ x : FixedText, floatTerm (.finite negative m) = x.text ∧ x.negative = negative ∧
      (∀ k : ℤ, |Single.rational negative m - x.number| ≤ |Single.rational negative m - k / 1000|) ∧
      ∀ k : ℤ, k ≠ x.thousandths →
        |Single.rational negative m - k / 1000| = |Single.rational negative m - x.number| →
        Even x.thousandths) ∧
    ∀ (negative' : Bool) (m' : Magnitude) (x y : FixedText),
      floatTerm (.finite negative m) = x.text → floatTerm (.finite negative' m') = y.text →
      Single.rational negative m ≤ Single.rational negative' m' → x.number ≤ y.number := by
  obtain ⟨x, htext, hsign, hnearest⟩ := Single.exists_fixedText negative m
  constructor
  · refine ⟨x, htext, hsign, ?_, ?_⟩
    · intro k
      rw [FixedText.number, abs_sub_div_thousand, abs_sub_div_thousand]
      exact div_le_div_of_nonneg_right (hnearest.le k) (by norm_num)
    · intro k hk htie
      rw [FixedText.number, abs_sub_div_thousand, abs_sub_div_thousand] at htie
      exact hnearest.even k hk ((div_left_inj' (by norm_num)).1 htie)
  · intro negative' m' x' y' hx hy hle
    obtain ⟨y, htext', -, hnearest'⟩ := Single.exists_fixedText negative' m'
    -- a text spells one number, so these are the nearest ones again
    obtain rfl : x = x' := FixedText.text_injective (htext.symm.trans hx)
    obtain rfl : y = y' := FixedText.text_injective (htext'.symm.trans hy)
    have hthousandths : x.thousandths ≤ y.thousandths :=
      hnearest.mono hnearest' (mul_le_mul_of_nonneg_left hle (by norm_num))
    rw [FixedText.number, FixedText.number]
    exact div_le_div_of_nonneg_right (by exact_mod_cast hthousandths) (by norm_num)

/-- One sixteenth and three sixteenths are in the middle between two thousandths, and
one is rounded down and the other one up.  The least number below zero keeps its sign. -/
theorem floatTerm_rounds_exactly_sixteenths :
    ∃ (one three least : Magnitude) (x y : FixedText),
      Single.rational false one = 1 / 16 ∧ Single.rational false three = 3 / 16 ∧
      floatTerm (.finite false one) = x.text ∧ floatTerm (.finite false three) = y.text ∧
      x.text = "0.062" ∧ y.text = "0.188" ∧ Even x.thousandths ∧ x.number ≤ y.number ∧
      floatTerm (.finite true least) = "-0.000" := by
  let one : Magnitude := ⟨2 ^ 145, by decide +kernel⟩
  let three : Magnitude := ⟨3 * 2 ^ 145, by decide +kernel⟩
  let least : Magnitude := ⟨1, by decide +kernel⟩
  let x : FixedText := ⟨false, [0], [0, 6, 2], by decide, by simp, rfl⟩
  let y : FixedText := ⟨false, [0], [1, 8, 8], by decide, by simp, rfl⟩
  have hone : Single.rational false one = 1 / 16 := by norm_num [Single.rational, one]
  have hthree : Single.rational false three = 3 / 16 := by norm_num [Single.rational, three]
  have hx : floatTerm (.finite false one) = x.text := by decide +kernel
  have hy : floatTerm (.finite false three) = y.text := by decide +kernel
  obtain ⟨⟨x', hx', -, -, heven⟩, hmono⟩ := floatTerm_rounds_exactly false one
  obtain rfl : x = x' := FixedText.text_injective (hx.symm.trans hx')
  have hthousandths : x.thousandths = 62 := by decide +kernel
  refine ⟨one, three, least, x, y, hone, hthree, hx, hy, by decide +kernel,
    by decide +kernel, heven 63 (by rw [hthousandths]; decide) ?_,
    hmono false three x y hx hy ?_, by decide +kernel⟩
  · rw [hone, FixedText.number, hthousandths]
    norm_num [abs_of_pos, abs_of_neg]
  · rw [hone, hthree]
    norm_num

end Recommend
