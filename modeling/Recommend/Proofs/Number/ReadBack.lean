import Recommend.Proofs.Number.Numeral
import Recommend.Proofs.Number.Separation

/-!
Finite numbers read back.

The shortest digits of a number lie in its interval.  Reading them rounds twice, to 53
bits and then to 24, and the first rounding may move them by three parts in `2 ^ 53`.
They do not leave the interval on the way: digits that are so near to an end stand on a
grid that is coarse enough for `decimal_lt_end` and `end_lt_decimal`, and digits on an
end are a number of 53 bits and are not moved at all.
-/

namespace Recommend.Single

open Rounding

/-! ### Digits that have been moved -/

namespace Placed

variable {units t k c : ℕ} {x : ℤ} {r : ℚ} (h : Placed units t k) (hlt : units < 2 ^ 277)
  (hx : -60 ≤ x) (hx' : x ≤ 39) (hland : Landing units x c)
  (hclose : |r - c * spacing x| ≤ 3 / 2 ^ 53 * (c * spacing x))
include h

/-- The gap of a finite magnitude is one of the first 254. -/
theorem exponent_lt (hlt : units < 2 ^ 277) : k + 1 < 255 := by
  by_contra hk
  have ht := h.normal (by omega)
  have hpow : 2 ^ 23 * 2 ^ 254 ≤ t * 2 ^ k :=
    Nat.mul_le_mul ht (Nat.pow_le_pow_right (by decide) (by omega))
  rw [← h.eq, ← pow_add] at hpow
  omega

include hlt hx hx' hland hclose

/-- Digits below the upper end stay below it. -/
theorem lt_high_of_close (hne : 2 * t + 1 ≠ closeCall (k + 1))
    (hend : 4 * (c * spacing x) < (interval units).high) :
    4 * r < (interval units).high := by
  have hgap : (0 : ℚ) < 2 ^ k := by positivity
  have ht : (t : ℚ) ≤ 2 ^ 24 := by exact_mod_cast h.lt.le
  have hunits : (units : ℚ) ≤ 2 ^ 24 * 2 ^ k := by
    rw [h.cast_eq]
    exact mul_le_mul_of_nonneg_right ht hgap.le
  have hhigh := h.cast_high
  have hmoved := (abs_le.1 hclose).2
  rcases le_or_gt (c * spacing x) units with hbelow | habove
  -- digits below the magnitude have half a gap to go
  · linarith
  · by_contra hout
    -- the digits are so near to the end that the grid cannot be finer than the gaps
    have hcoarse : 7 * 2 ^ (k + 1) ≤ 20 * spacing x := by
      rw [pow_succ]
      rcases hland.above habove with hnear | hwide
      · linarith
      · linarith [h.low_le]
    have hends : ((interval units).high : ℚ) = (2 * t + 1 : ℕ) * 2 ^ (k + 1) := by
      rw [h.high_eq, Nat.cast_mul, Nat.cast_pow, Nat.cast_ofNat]
    have hn : 2 * t + 1 < endBound := by
      have : endBound = 2 * 2 ^ 24 := rfl
      have := h.lt
      omega
    rw [hends] at hend
    have := decimal_lt_end hx hx' (h.exponent_lt hlt) hcoarse hn hne hend
    rw [← hends] at this
    linarith

/-- Digits above the lower end stay above it. -/
theorem low_lt_of_close (hend : (interval units).low < 4 * (c * spacing x)) :
    (interval units).low < 4 * r := by
  have hgap : (0 : ℚ) < 2 ^ k := by positivity
  have ht : (t : ℚ) ≤ 2 ^ 24 := by exact_mod_cast h.lt.le
  have hunits : (units : ℚ) ≤ 2 ^ 24 * 2 ^ k := by
    rw [h.cast_eq]
    exact mul_le_mul_of_nonneg_right ht hgap.le
  have hhigh := h.cast_high
  have hmoved := (abs_le.1 hclose).1
  have hj := h.exponent_lt hlt
  rcases le_or_gt (units : ℚ) (c * spacing x) with habove | hbelow
  -- digits above the magnitude have a quarter of a gap to go
  · linarith [h.low_le]
  · by_contra hout
    have hland' := hland.below hbelow.le
    rcases h.cast_low with ⟨hlow, -⟩ | ⟨-, ht, hlow⟩
    -- inside a binade the ends of both sides are on one grid
    · have hcoarse : 7 * 2 ^ (k + 1) ≤ 20 * spacing x := by
        rw [pow_succ]
        rcases hland' with hnear | hwide
        · linarith
        · linarith
      have hends : ((interval units).low : ℚ) = (2 * t - 1 : ℕ) * 2 ^ (k + 1) := by
        rw [hlow, h.cast_eq, Nat.cast_sub (by have := h.pos; omega), pow_succ]
        push_cast
        ring
      have hn : 2 * t - 1 < endBound := by
        have : endBound = 2 * 2 ^ 24 := rfl
        have := h.lt
        omega
      rw [hends] at hend
      have := end_lt_decimal hx hx' hj hcoarse hn hend
      rw [← hends] at this
      linarith
    · -- below a power of two the ends are on a finer grid
      have hcoarse : 7 * 2 ^ k ≤ 20 * spacing x := by
        rcases hland' with hnear | hwide
        · linarith
        · linarith
      have hends : ((interval units).low : ℚ) = (2 ^ 25 - 1 : ℕ) * 2 ^ k := by
        rw [hlow, h.cast_eq, ht]
        push_cast
        ring
      rw [hends] at hend
      have := end_lt_decimal hx hx' (by omega) hcoarse (by decide) hend
      rw [← hends] at this
      linarith

/-- The digits of a number stay in its interval when they are moved a little, if they
are not moved from its ends. -/
theorem contains_of_close (hne : 2 * t + 1 ≠ closeCall (k + 1))
    (hexact : 4 * (c * spacing x) = (interval units).low ∨
      4 * (c * spacing x) = (interval units).high → r = c * spacing x) :
    (interval units).Contains r := by
  by_cases hend : 4 * (c * spacing x) = (interval units).low ∨
      4 * (c * spacing x) = (interval units).high
  · rw [hexact hend]
    exact hland.contains
  · rw [not_or] at hend
    have hlow := lt_of_le_of_ne hland.contains.low_le (Ne.symm hend.1)
    have hhigh := lt_of_le_of_ne hland.contains.le_high hend.2
    exact Interval.contains_of_lt (h.low_lt_of_close hlt hx hx' hland hclose hlow)
      (h.lt_high_of_close hlt hx hx' hland hclose hne hhigh)

end Placed

/-! ### Digits on an end -/

/-- The ends of an interval are numbers of few bits. -/
theorem Placed.exists_end {units t k : ℕ} (h : Placed units t k) {q : ℚ}
    (hend : q = (interval units).low ∨ q = (interval units).high) :
    ∃ n j : ℕ, 0 < n ∧ n < 2 ^ 25 ∧ q = n * 2 ^ j := by
  have hpos := h.pos
  have hlt := h.lt
  rcases hend with rfl | rfl
  · rcases h.low_eq with ⟨hlow, -⟩ | ⟨-, -, hlow⟩
    · exact ⟨2 * t - 1, k + 1, by omega, by omega, by rw [hlow]; push_cast; rfl⟩
    · exact ⟨2 ^ 25 - 1, k, by decide, by decide, by rw [hlow]; push_cast; rfl⟩
  · exact ⟨2 * t + 1, k + 1, by omega, by omega, by rw [h.high_eq]; push_cast; rfl⟩

/-- A decimal of few digits that has few bits is not far from one: the powers of five in
it are small. -/
theorem natAbs_le_of_dyadic {c n j : ℕ} {x : ℤ} (hc : 0 < c) (hc' : c < 2 ^ 28) (hn : 0 < n)
    (hn' : n < 2 ^ 25) (heq : 4 * (c * spacing x) = n * 2 ^ j) : x.natAbs ≤ 22 := by
  by_contra hx
  have hfive : 2 ^ 53 < 5 ^ x.natAbs :=
    lt_of_lt_of_le (by decide) (Nat.pow_le_pow_right (by decide) (not_le.1 hx))
  have hcoprime : ∀ i, Nat.Coprime (5 ^ x.natAbs) (2 ^ i) :=
    fun i => Nat.Coprime.pow _ _ (by decide)
  -- the power of five divides the digits, or the bits, and neither is large enough
  rcases lt_or_ge x 0 with hneg | hnonneg
  · have hnat : c * 2 ^ 151 = n * 2 ^ j * (5 ^ x.natAbs * 2 ^ x.natAbs) := by
      rw [spacing_of_neg hneg, natPow_eq, cast_unitsPerOne] at heq
      have hpos : (0 : ℚ) < (10 ^ x.natAbs : ℕ) := by positivity
      have heq' : (c * 2 ^ 151 : ℚ) = n * 2 ^ j * (10 ^ x.natAbs : ℕ) := by
        rw [← heq]
        field_simp
        ring
      rw [← mul_pow]
      exact_mod_cast heq'
    have hdvd : 5 ^ x.natAbs ∣ c := by
      refine (hcoprime 151).dvd_of_dvd_mul_right ?_
      rw [hnat]
      exact (Nat.dvd_mul_right _ _).mul_left _
    have := Nat.le_of_dvd hc hdvd
    omega
  · have hnat : c * (5 ^ x.natAbs * 2 ^ x.natAbs) * 2 ^ 151 = n * 2 ^ j := by
      rw [spacing_of_nonneg (not_lt.2 hnonneg), natPow_eq, cast_unitsPerOne,
        show x.toNat = x.natAbs by omega] at heq
      have heq' : (c * (10 ^ x.natAbs : ℕ) * 2 ^ 151 : ℚ) = n * 2 ^ j := by
        rw [← heq]
        ring
      rw [← mul_pow]
      exact_mod_cast heq'
    have hdvd : 5 ^ x.natAbs ∣ n := by
      refine (hcoprime j).dvd_of_dvd_mul_right ?_
      rw [← hnat]
      exact ((Nat.dvd_mul_right _ _).mul_left _).mul_right _
    have := Nat.le_of_dvd hn hdvd
    omega

/-! ### Numerals of finite numbers -/

/-- What is read for the numeral of a number, if it has one and that denotes something. -/
def readBack? (x : Single) : Option Single := (x.numeral?.bind Numeral.value?).map ofNumber

theorem ofUnits_magnitude (negative : Bool) (m : Magnitude) :
    ofUnits negative m.units = .finite negative m := by
  rw [ofUnits, dif_pos m.fits]

/-- The digits of a number, read as a binary64 number and taken in units, are still in
its interval. -/
theorem Placed.exists_scale {units t k c s : ℕ} {x y : ℤ} (h : Placed units t k)
    (hlt : units < 2 ^ 277) (hne : 2 * t + 1 ≠ closeCall (k + 1)) (hx : -60 ≤ x)
    (hx' : x ≤ 39) (hland : Landing units x c) (hc : c < 2 ^ 28) (hs : 0 < s)
    (hs' : s < 2 ^ 53) (hsame : (s * 10 ^ y : ℚ) = c * 10 ^ x)
    (hy : s = c ∧ y = x ∨ y = -1) :
    ∃ d, Binary64.scale? s y = some d ∧
      (interval units).Contains ((d * unitsPerOne : ℕ) / (Binary64.unitsPerOne : ℕ)) := by
  have hU := Binary64.unitsPerOne_pos
  have hunits : (0 : ℚ) < unitsPerOne := by
    rw [cast_unitsPerOne]
    positivity
  obtain ⟨d, hd, hhits⟩ := Binary64.scale?_eq (y := y) hs hs' (by omega) (by omega)
  refine ⟨d, hd, ?_⟩
  have hvalue : (c * spacing x : ℚ) = s * 10 ^ y * unitsPerOne := by
    rw [spacing, ← mul_assoc, hsame]
  -- a binary64 unit and a binary32 unit differ by a power of two, which scales every
  -- distance
  have hscale : (s * 10 ^ y * Binary64.unitsPerOne * (unitsPerOne / Binary64.unitsPerOne) : ℚ) =
      c * spacing x := by
    rw [hvalue, mul_assoc, mul_div_cancel₀ _ hU.ne']
  have hr : ((d * unitsPerOne : ℕ) / (Binary64.unitsPerOne : ℕ) : ℚ) - c * spacing x =
      (d - s * 10 ^ y * Binary64.unitsPerOne) * (unitsPerOne / Binary64.unitsPerOne) := by
    rw [sub_mul, hscale, Nat.cast_mul, mul_div_assoc]
  apply h.contains_of_close hlt hx hx' hland _ hne
  · -- on an end nothing is rounded
    intro hend
    obtain ⟨n, j, hn, hn', hq⟩ := h.exists_end hend
    have hsmall := natAbs_le_of_dyadic hland.pos hc hn hn' hq
    have hdyadic : (s * 10 ^ y * Binary64.unitsPerOne : ℚ) = n * 2 ^ (j + 923) := by
      have hpow : (2 : ℚ) ^ 1074 = 4 * 2 ^ 149 * 2 ^ 923 := by
        rw [show (4 : ℚ) = 2 ^ 2 by norm_num, ← pow_add, ← pow_add]
      rw [pow_add, ← mul_assoc, ← hq, hvalue, cast_unitsPerOne, Binary64.cast_unitsPerOne,
        hpow]
      generalize (2 : ℚ) ^ 923 = p
      ring
    rw [← sub_eq_zero, hr, hhits.eq (by omega) n (j + 923) (by omega) hdyadic, sub_self,
      zero_mul]
  · rw [hr, abs_mul, abs_of_pos (div_pos hunits hU), ← hscale, ← mul_assoc]
    exact mul_le_mul_of_nonneg_right hhits.near (div_pos hunits hU).le

/-- Zero, and the two numbers whose digits come too close to an end, are read one by
one. -/
theorem readBack?_special (negative : Bool) :
    ∀ units ∈ [0, 11420669 * 2 ^ 42, 11420669 * 2 ^ 43],
      readBack? (ofUnits negative units) = some (ofUnits negative units) := by
  cases negative <;> decide +kernel

/-- The ends that a decimal comes too close to belong to two magnitudes. -/
theorem Placed.mem_special {units t k : ℕ} (h : Placed units t k)
    (hclose : 2 * t + 1 = closeCall (k + 1)) :
    units ∈ [0, 11420669 * 2 ^ 42, 11420669 * 2 ^ 43] := by
  rw [closeCall] at hclose
  split at hclose
  next hk =>
    obtain rfl : t = 11420669 := by omega
    rw [h.eq]
    obtain rfl | rfl : k = 42 ∨ k = 43 := by omega
    · simp
    · simp
  next => omega

/-- **Finite numbers read back**: the numeral of a finite number denotes a number that
is rounded to it. -/
theorem readBack?_finite (negative : Bool) (m : Magnitude) :
    readBack? (.finite negative m) = some (.finite negative m) := by
  rw [← ofUnits_magnitude]
  by_cases hspecial : m.units ∈ [0, 11420669 * 2 ^ 42, 11420669 * 2 ^ 43]
  · exact readBack?_special negative m.units hspecial
  have hpos : 0 < m.units := by
    apply Nat.pos_of_ne_zero
    intro hzero
    exact hspecial (by simp [hzero])
  obtain ⟨t, k, h⟩ := exists_placed hpos m.fits
  have hlt : m.units < 2 ^ 277 := m.fits.lt
  obtain ⟨c, x, hshort, hx, hx', hland, hc⟩ := h.shortest_spec hlt
  obtain ⟨s, y, hvalue, hsame, hs, hs', hy⟩ := value?_numeral negative hland.pos hc hx hx'
  obtain ⟨d, hscale, hmem⟩ :=
    h.exists_scale hlt (fun hclose => hspecial (h.mem_special hclose)) hx hx'
      hland hc hs hs' hsame hy
  -- rounding to 24 bits is the last step, and the interval decides it
  have hround : toBits 24 (d * unitsPerOne) Binary64.unitsPerOne = m.units :=
    h.toBits_eq_of_contains (by exact_mod_cast Binary64.unitsPerOne_pos) hmem
  have hnumeral : numeral? (ofUnits negative m.units) =
      some (layout.numeral negative c x) := by
    rw [ofUnits_magnitude, numeral?, if_neg hpos.ne', hshort]
  rw [readBack?, hnumeral, Option.bind_some, hvalue, hscale, Option.map_some,
    Option.map_some, ofNumber, round, hround]

end Recommend.Single
