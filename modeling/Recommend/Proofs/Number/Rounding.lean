import Mathlib.Algebra.Order.Field.Rat
import Mathlib.Data.Nat.Cast.Order.Field
import Mathlib.Tactic.FieldSimp
import Mathlib.Tactic.Linarith
import Mathlib.Tactic.Positivity
import Mathlib.Tactic.Ring
import Recommend.Number.Rounding

/-!
How far rounding moves a quotient.

A quotient of natural numbers is taken as the rational number it is.  `halfEven` is the
natural number within a half of it, and `toBits` the number of the format within half a
gap.  Three statements are used afterwards: `toBits_eq` tells what a quotient is rounded
to, `abs_toBits_sub_le_div` bounds the relative error by half a unit in the last place,
and `toBits_eq_of_dyadic` says that a number of few bits stays what it is.
-/

namespace Recommend.Rounding

variable {num den n m k b : ℕ}

/-- The definitions are written with the function, the lemmas with the operator. -/
theorem natPow_eq (m n : ℕ) : Nat.pow m n = m ^ n := rfl

theorem Fits.lt {bits top : ℕ} (h : Fits bits top m) : m < 2 ^ top := h.2

/-! ### To natural numbers -/

/-- A whole number is below a quotient if it is below the whole part. -/
theorem natCast_le_div_iff (hden : 0 < den) :
    (m : ℚ) ≤ (num : ℚ) / den ↔ m ≤ num / den := by
  have hpos : (0 : ℚ) < den := by exact_mod_cast hden
  rw [le_div_iff₀ hpos, Nat.le_div_iff_mul_le hden]
  exact_mod_cast Iff.rfl

theorem div_lt_natCast_iff (hden : 0 < den) : (num : ℚ) / den < m ↔ num / den < m := by
  rw [← not_le, natCast_le_div_iff hden, not_le]

/-- The four ways of rounding a quotient, by the part `f` of it that is left over. -/
theorem halfEven_cases (num : ℕ) (hden : 0 < den) :
    ∃ f : ℚ, 0 ≤ f ∧ f < 1 ∧ (num : ℚ) / den = (num / den : ℕ) + f ∧
      (f < 1 / 2 ∧ halfEven num den = num / den ∨
        1 / 2 < f ∧ halfEven num den = num / den + 1 ∨
        f = 1 / 2 ∧ num / den % 2 = 0 ∧ halfEven num den = num / den ∨
        f = 1 / 2 ∧ num / den % 2 = 1 ∧ halfEven num den = num / den + 1) := by
  have hpos : (0 : ℚ) < den := by exact_mod_cast hden
  have hsplit : (num : ℚ) = den * (num / den : ℕ) + (num % den : ℕ) := by
    exact_mod_cast (Nat.div_add_mod num den).symm
  have hmod : ((num % den : ℕ) : ℚ) < den := by exact_mod_cast Nat.mod_lt num hden
  have hhalf : ∀ {r : ℕ}, (r : ℚ) / den < 1 / 2 ↔ 2 * r < den := by
    intro r
    rw [div_lt_iff₀ hpos, ← Nat.cast_lt (α := ℚ)]
    push_cast
    constructor <;> intro h <;> linarith
  have hhalf' : ∀ {r : ℕ}, 1 / 2 < (r : ℚ) / den ↔ den < 2 * r := by
    intro r
    rw [lt_div_iff₀ hpos, ← Nat.cast_lt (α := ℚ)]
    push_cast
    constructor <;> intro h <;> linarith
  -- the definition compares twice the remainder with the divisor, which is comparing
  -- its share with a half
  refine ⟨(num % den : ℕ) / den, by positivity, (div_lt_one hpos).2 hmod, ?_, ?_⟩
  · rw [eq_comm, hsplit]
    field_simp
  · rw [halfEven]
    split
    next hlt => exact .inl ⟨hhalf.2 hlt, rfl⟩
    next hge =>
      split
      next hgt => exact .inr (.inl ⟨hhalf'.2 hgt, rfl⟩)
      next hle =>
        have htie : ((num % den : ℕ) : ℚ) / den = 1 / 2 :=
          le_antisymm (not_lt.1 (mt hhalf'.1 hle)) (not_lt.1 (mt hhalf.1 hge))
        split
        next heven => exact .inr (.inr (.inl ⟨htie, heven, rfl⟩))
        next hodd => exact .inr (.inr (.inr ⟨htie, Nat.mod_two_ne_zero.1 hodd, rfl⟩))

/-- Rounding to a whole number moves by at most a half. -/
theorem abs_halfEven_sub_le (num : ℕ) (hden : 0 < den) :
    |(halfEven num den : ℚ) - (num : ℚ) / den| ≤ 1 / 2 := by
  obtain ⟨f, hnonneg, hlt, hq, h⟩ := halfEven_cases num hden
  rw [hq, abs_le]
  -- in each of the four cases the distance is `f` or `1 - f`
  rcases h with ⟨hf, h⟩ | ⟨hf, h⟩ | ⟨hf, -, h⟩ | ⟨hf, -, h⟩ <;> rw [h] <;> push_cast <;>
    constructor <;> linarith

/-- A number within a half is the one rounded to, if it is even in the case of a tie. -/
theorem halfEven_eq (hden : 0 < den) (hle : |(num : ℚ) / den - n| ≤ 1 / 2)
    (heven : |(num : ℚ) / den - n| = 1 / 2 → n % 2 = 0) : halfEven num den = n := by
  obtain ⟨f, hnonneg, hlt, hq, h⟩ := halfEven_cases num hden
  rw [hq] at hle heven
  generalize num / den = q at *
  obtain ⟨hlow, hhigh⟩ := abs_le.1 hle
  -- only the two neighbours of the quotient are near enough
  have hnext : n ≤ q + 1 := by
    have : (n : ℚ) < (q + 1 + 1 : ℕ) := by
      push_cast
      linarith
    exact Nat.lt_succ_iff.1 (by exact_mod_cast this)
  have hprev : q ≤ n := by
    have : (q : ℚ) < (n + 1 : ℕ) := by
      push_cast
      linarith
    exact Nat.lt_succ_iff.1 (by exact_mod_cast this)
  rcases Nat.eq_or_lt_of_le hprev with rfl | hn
  · -- the lower neighbour
    rcases h with ⟨hf, h⟩ | ⟨hf, h⟩ | ⟨hf, -, h⟩ | ⟨hf, hodd, h⟩
    · exact h
    · linarith
    · exact h
    · have := heven (by rw [hf]; norm_num)
      omega
  · -- the upper neighbour
    obtain rfl : n = q + 1 := by omega
    push_cast at hlow hhigh heven
    rcases h with ⟨hf, h⟩ | ⟨hf, h⟩ | ⟨hf, hev, h⟩ | ⟨hf, -, h⟩
    · linarith
    · exact h
    · have := heven (by rw [hf]; norm_num)
      omega
    · exact h

/-! ### To few bits -/

/-- A number of few bits has none to spare. -/
theorem surplus_of_lt (h : m < 2 ^ (b + 1)) : surplus (b + 1) m = 0 := by
  rw [surplus]
  rcases Nat.eq_zero_or_pos m with rfl | hpos
  · simp
  · have := (Nat.log2_lt hpos.ne').2 h
    omega

/-- The bits to spare are told by the binade. -/
theorem surplus_of_le (hle : 2 ^ (k + b) ≤ m) (hlt : m < 2 ^ (k + b + 1)) :
    surplus (b + 1) m = k := by
  have hne : m ≠ 0 := (lt_of_lt_of_le (by positivity) hle).ne'
  have hlog : m.log2 = k + b := (Nat.log2_eq_iff hne).2 ⟨hle, hlt⟩
  rw [surplus, hlog]
  omega

/-- What has surplus bits is as large as they say. -/
theorem le_of_surplus (h : 0 < surplus (b + 1) m) : 2 ^ (surplus (b + 1) m + b) ≤ m := by
  rw [surplus] at h ⊢
  have hne : m ≠ 0 := by
    rintro rfl
    simp at h
  rw [show m.log2 + 1 - (b + 1) + b = m.log2 by omega]
  exact Nat.log2_self_le hne

theorem lt_of_surplus (b m : ℕ) : m < 2 ^ (surplus (b + 1) m + b + 1) := by
  refine lt_of_lt_of_le Nat.lt_log2_self (Nat.pow_le_pow_right (by decide) ?_)
  rw [surplus]
  omega

/-- Dividing by the gap scales distances by it. -/
theorem div_mul_pow_sub (hden : 0 < den) (t : ℚ) :
    (num : ℚ) / (den * 2 ^ k : ℕ) - t = ((num : ℚ) / den - t * 2 ^ k) / 2 ^ k := by
  have hpos : (den : ℚ) ≠ 0 := by exact_mod_cast hden.ne'
  push_cast
  field_simp

/-- A number of the format within half a gap is the one rounded to, if its last bit is
zero in the case of a tie. -/
theorem toBits_eq (hden : 0 < den) (hk : surplus b (num / den) = k)
    (hle : |(num : ℚ) / den - n * 2 ^ k| ≤ 2 ^ k / 2)
    (heven : |(num : ℚ) / den - n * 2 ^ k| = 2 ^ k / 2 → n % 2 = 0) :
    toBits b num den = n * 2 ^ k := by
  have hgap : (0 : ℚ) < 2 ^ k := by positivity
  -- measured in gaps this is rounding to a whole number
  have hscale : |(num : ℚ) / (den * 2 ^ k : ℕ) - n| =
      |(num : ℚ) / den - n * 2 ^ k| / 2 ^ k := by
    rw [div_mul_pow_sub hden, abs_div, abs_of_pos hgap]
  rw [toBits, hk]
  show halfEven num (den * 2 ^ k) * 2 ^ k = n * 2 ^ k
  rw [halfEven_eq (n := n) (by positivity)]
  · rw [hscale, div_le_iff₀ hgap]
    linarith
  · intro htie
    rw [hscale, div_eq_iff hgap.ne'] at htie
    exact heven (by linarith)

/-- Rounding to a number of the format moves by at most half a gap. -/
theorem abs_toBits_sub_le (b num : ℕ) (hden : 0 < den) :
    |(toBits b num den : ℚ) - (num : ℚ) / den| ≤ 2 ^ surplus b (num / den) / 2 := by
  set k := surplus b (num / den)
  have hgap : (0 : ℚ) < 2 ^ k := by positivity
  have hround := abs_halfEven_sub_le num (Nat.mul_pos hden (Nat.two_pow_pos k))
  rw [abs_sub_comm, div_mul_pow_sub hden, abs_div, abs_of_pos hgap, div_le_iff₀ hgap,
    abs_sub_comm] at hround
  have hcast : (toBits b num den : ℚ) = halfEven num (den * 2 ^ k) * 2 ^ k := by
    show ((halfEven num (den * 2 ^ k) * 2 ^ k : ℕ) : ℚ) = _
    push_cast
    rfl
  rw [hcast]
  linarith

/-- The relative error of rounding, for quotients that have all the bits. -/
theorem abs_toBits_sub_le_div (hden : 0 < den) (h : (2 : ℚ) ^ b ≤ (num : ℚ) / den) :
    |(toBits (b + 1) num den : ℚ) - (num : ℚ) / den| ≤ (num : ℚ) / den / 2 ^ (b + 1) := by
  have hround := abs_toBits_sub_le (b + 1) num hden
  have hfloor : 2 ^ b ≤ num / den := by
    rw [← natCast_le_div_iff hden]
    exact_mod_cast h
  -- without surplus the gap is one, and otherwise the surplus says how large the
  -- quotient is
  have hgap : (2 : ℚ) ^ (surplus (b + 1) (num / den) + b) ≤ (num : ℚ) / den := by
    rcases Nat.eq_zero_or_pos (surplus (b + 1) (num / den)) with hzero | hpos
    · rw [hzero, zero_add]
      exact h
    · have := (natCast_le_div_iff hden).2 (le_of_surplus hpos)
      exact_mod_cast this
  rw [pow_add] at hgap
  rw [le_div_iff₀ (by positivity), pow_succ]
  -- half a gap is `2 ^ surplus / 2`, and the quotient is at least `2 ^ surplus * 2 ^ b`
  nlinarith [hround, hgap, pow_pos (two_pos : (0 : ℚ) < 2) b]

/-- A quotient that is a number of the format is not changed. -/
theorem toBits_eq_of_dyadic (hden : 0 < den) (hn : n < 2 ^ (b + 1))
    (h : (num : ℚ) / den = n * 2 ^ k) : toBits (b + 1) num den = n * 2 ^ k := by
  have hfloor : num / den = n * 2 ^ k := by
    refine le_antisymm ?_ ((natCast_le_div_iff hden).1 (by rw [h]; push_cast; rfl))
    refine Nat.lt_succ_iff.1 ((div_lt_natCast_iff hden).1 ?_)
    rw [h]
    push_cast
    linarith
  -- the gap `2 ^ s` of the format divides `2 ^ k`, so the quotient is a whole number
  -- of gaps
  obtain ⟨s, hs⟩ : ∃ s, surplus (b + 1) (num / den) = s := ⟨_, rfl⟩
  have hsk : s ≤ k := by
    rcases Nat.eq_zero_or_pos s with rfl | hpos
    · exact Nat.zero_le k
    · rw [← hs] at hpos
      have hlow := le_of_surplus hpos
      rw [hs, hfloor] at hlow
      have hpow : 2 ^ (s + b) < 2 ^ (b + 1 + k) := by
        rw [pow_add 2 (b + 1) k]
        exact lt_of_le_of_lt hlow (Nat.mul_lt_mul_of_pos_right hn (by positivity))
      have := (Nat.pow_lt_pow_iff_right (by decide)).1 hpow
      omega
  have hsplit : n * 2 ^ k = n * 2 ^ (k - s) * 2 ^ s := by
    rw [mul_assoc, ← pow_add, Nat.sub_add_cancel hsk]
  have hzero : (num : ℚ) / den - (n * 2 ^ (k - s) : ℕ) * 2 ^ s = 0 := by
    rw [h, sub_eq_zero]
    exact_mod_cast hsplit
  have hgap : (0 : ℚ) < 2 ^ s := by positivity
  rw [hsplit]
  -- the distance is zero, so there is neither an error nor a tie
  apply toBits_eq hden hs
  · rw [hzero, abs_zero]
    linarith
  · intro htie
    rw [hzero, abs_zero] at htie
    linarith

end Recommend.Rounding
