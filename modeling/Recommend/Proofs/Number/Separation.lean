import Mathlib.Tactic.LinearCombination
import Recommend.Proofs.Number.Shortest

/-!
Decimals keep away from the ends of intervals.

Between two neighbouring fractions, `a / b` and `p / q` with `p * b = a * q + 1`, every
fraction has a numerator of at least `a + p`.  So two such neighbours around the ratio
of a decimal grid to a binary one, with `2 ^ 25 ≤ a + p`, leave no room for an end `n /
c` with `n < 2 ^ 25` that is nearer than they are.  One grid for each binary exponent is
enough, the finest that is not much finer than the binary one: the coarser ones are
parts of it.

The neighbours are searched for and then checked, so nothing depends on how the search
works.  The check finds them far enough apart for three roundings to 53 bits, with one
exception: at two exponents, the numerator `closeCall`.
-/

namespace Recommend.Single

/-! ### Neighbouring fractions -/

/-- Two fractions `a / b` and `p / q`. -/
structure Bracket where
  a : ℕ
  b : ℕ
  p : ℕ
  q : ℕ

/-- A fraction between two neighbours has a numerator as large as theirs together. -/
theorem add_le_of_between {a b p q n c : ℕ} (hdet : p * b = a * q + 1)
    (hlow : a * c < n * b) (hhigh : n * q < p * c) : a + p ≤ n := by
  have hdet' : (p : ℤ) * b = a * q + 1 := by exact_mod_cast hdet
  have hlow' : (1 : ℤ) ≤ n * b - a * c := by
    have : (a : ℤ) * c < n * b := by exact_mod_cast hlow
    omega
  have hhigh' : (1 : ℤ) ≤ p * c - n * q := by
    have : (n : ℤ) * q < p * c := by exact_mod_cast hhigh
    omega
  -- the numerator is a combination of the two numerators, with positive coefficients
  have hn : (n : ℤ) = p * (n * b - a * c) + a * (p * c - n * q) := by
    linear_combination (-n : ℤ) * hdet'
  have : (a + p : ℤ) ≤ n := by
    rw [hn]
    nlinarith
  exact_mod_cast this

/-- The numerators of interval ends are smaller. -/
def endBound : ℕ := Nat.pow 2 25

/-- The fractions are neighbours around `num / den`, and their distance from it is more
than three parts in `2 ^ 53`, unless it is nothing or the upper one has the numerator to
be left out. -/
def Bracket.Clears (t : Bracket) (num den skip : ℕ) : Prop :=
  t.p * t.b = t.a * t.q + 1 ∧ endBound ≤ t.a + t.p ∧ 0 < t.q ∧ t.a < endBound ∧
    t.p < endBound ∧
    t.q * num < t.p * den ∧
    (t.a * den = t.b * num ∨
      2 ^ 53 * (t.a * den) + 3 * (t.b * num) < 2 ^ 53 * (t.b * num)) ∧
    (t.p = skip ∧ endBound < 2 * skip ∨
      2 ^ 53 * (t.q * num) + 3 * (t.q * num) < 2 ^ 53 * (t.p * den))

instance (t : Bracket) (num den skip : ℕ) : Decidable (t.Clears num den skip) :=
  inferInstanceAs (Decidable (_ ∧ _))

namespace Bracket.Clears

variable {t : Bracket} {num den skip n c : ℕ}

/-- The lower fraction has a denominator. -/
theorem b_pos (h : t.Clears num den skip) : 0 < t.b := by
  apply Nat.pos_of_ne_zero
  intro hb
  have hdet := h.1
  rw [hb] at hdet
  omega

/-- A neighbouring fraction is in lowest terms. -/
theorem coprime (h : t.Clears num den skip) : Nat.Coprime t.p t.q := by
  have hdvd : Nat.gcd t.p t.q ∣ t.a * t.q + 1 := by
    rw [← h.1]
    exact (Nat.gcd_dvd_left t.p t.q).mul_right t.b
  exact Nat.dvd_one.1 ((Nat.dvd_add_right ((Nat.gcd_dvd_right t.p t.q).mul_left t.a)).1 hdvd)

/-- An end below a decimal is well below it. -/
theorem below (h : t.Clears num den skip) (hn : n < endBound) (hc : c < 2 ^ 26)
    (hlt : n * den < c * num) :
    2 ^ 53 * (n * den) + 3 * (c * num) < 2 ^ 53 * (c * num) := by
  have hb := h.b_pos
  obtain ⟨hdet, hsum, hq, ha, hp, hhigh, hlow, -⟩ := h
  have hcpos : 0 < c := Nat.pos_of_mul_pos_right (Nat.zero_lt_of_lt hlt)
  -- the end is below the decimal, so it is below the upper neighbour
  have hright : n * t.q < t.p * c := by
    by_contra hge
    have h₁ : t.p * c * den ≤ n * t.q * den := Nat.mul_le_mul_right den (not_lt.1 hge)
    have h₂ : t.q * (n * den) ≤ t.q * (c * num) := Nat.mul_le_mul_left t.q hlt.le
    have h₃ : c * (t.q * num) < c * (t.p * den) := Nat.mul_lt_mul_of_pos_left hhigh hcpos
    linarith
  -- and it is not between the two, since its numerator is too small
  have hleft : n * t.b ≤ t.a * c := by
    by_contra hgt
    have := add_le_of_between hdet (not_le.1 hgt) hright
    omega
  apply Nat.lt_of_mul_lt_mul_right (a := t.b)
  rcases hlow with hexact | hgap
  · -- the grid itself has a point at `a / b`, and different fractions differ by a whole
    have hden : 0 < den := Nat.pos_of_mul_pos_left (Nat.zero_lt_of_lt hhigh)
    have hstrict : n * t.b + 1 ≤ t.a * c := by
      have : n * t.b * den < t.a * c * den := by
        have := Nat.mul_lt_mul_of_pos_right hlt hb
        have : c * (t.a * den) = c * (t.b * num) := by rw [hexact]
        linarith
      exact Nat.lt_of_mul_lt_mul_right this
    have hsmall : t.a * c ≤ 2 ^ 25 * 2 ^ 26 := Nat.mul_le_mul ha.le hc.le
    have h₁ : 3 * (t.a * c) * den < 2 ^ 53 * den :=
      Nat.mul_lt_mul_of_pos_right (by omega) hden
    have h₂ : (n * t.b + 1) * den ≤ t.a * c * den := Nat.mul_le_mul_right den hstrict
    have h₃ : c * (t.a * den) = c * (t.b * num) := by rw [hexact]
    linarith
  · have h₁ : n * t.b * den ≤ t.a * c * den := Nat.mul_le_mul_right den hleft
    have h₂ := Nat.mul_lt_mul_of_pos_left hgap hcpos
    linarith

/-- An end above a decimal is well above it, but for one numerator. -/
theorem above (h : t.Clears num den skip) (hn : n < endBound) (hne : n ≠ skip)
    (hc : c < 2 ^ 25) (hlt : c * num < n * den) :
    2 ^ 53 * (c * num) + 3 * (c * num) < 2 ^ 53 * (n * den) := by
  have hb := h.b_pos
  have hcoprime := h.coprime
  obtain ⟨hdet, hsum, hq, ha, hp, hright, hlow, hhigh⟩ := h
  have hpos : 0 < n * den := Nat.zero_lt_of_lt hlt
  have hden : 0 < den := Nat.pos_of_mul_pos_left hpos
  have hleft : t.a * den ≤ t.b * num := by
    rcases hlow with hexact | hgap
    · exact hexact.le
    · omega
  -- the end is above the lower neighbour, and not between the two
  have hbelow : t.a * c < n * t.b := by
    by_contra hge
    have h₁ : n * t.b * den ≤ t.a * c * den := Nat.mul_le_mul_right den (not_lt.1 hge)
    have h₂ : t.b * (c * num) < t.b * (n * den) := Nat.mul_lt_mul_of_pos_left hlt hb
    have h₃ : c * (t.a * den) ≤ c * (t.b * num) := Nat.mul_le_mul_left c hleft
    linarith
  have habove : t.p * c ≤ n * t.q := by
    by_contra hgt
    have := add_le_of_between hdet hbelow (not_le.1 hgt)
    omega
  apply Nat.lt_of_mul_lt_mul_right (a := t.q)
  rcases hhigh with ⟨hclose, hdouble⟩ | hgap
  -- the upper neighbour is too close; only a fraction equal to it could be as close,
  -- and that has the exceptional numerator
  · have hstrict : t.p * c + 1 ≤ n * t.q := by
      refine Nat.lt_of_le_of_ne habove fun heq => hne ?_
      have hdvd : t.p ∣ n := by
        apply hcoprime.dvd_of_dvd_mul_right
        rw [← heq]
        exact Nat.dvd_mul_right _ _
      rw [hclose] at hdvd
      -- twice the exceptional numerator is too large
      exact Nat.eq_of_dvd_of_lt_two_mul (Nat.pos_of_mul_pos_right hpos).ne' hdvd (by omega)
    have hsmall : t.p * c ≤ 2 ^ 25 * 2 ^ 25 := Nat.mul_le_mul hp.le hc.le
    have h₁ : 3 * (t.p * c) * den < 2 ^ 53 * den :=
      Nat.mul_lt_mul_of_pos_right (by omega) hden
    have h₂ : (t.p * c + 1) * den ≤ n * t.q * den := Nat.mul_le_mul_right den hstrict
    have h₃ : c * (t.q * num) ≤ c * (t.p * den) := Nat.mul_le_mul_left c hright.le
    linarith
  · have h₁ : t.p * c * den ≤ n * t.q * den := Nat.mul_le_mul_right den habove
    rcases Nat.eq_zero_or_pos c with rfl | hcpos
    · have := Nat.mul_pos hpos hq
      linarith
    · have h₂ := Nat.mul_lt_mul_of_pos_left hgap hcpos
      linarith

end Bracket.Clears

/-- Close in on a fraction from both sides, keeping the numerators below the bound; `r`
and `s` are the distances `b * num - a * den` and `p * den - q * num`. -/
def Bracket.closeIn (bound : ℕ) : ℕ → ℕ → ℕ → Bracket → Bracket
  | 0, _, _, t => t
  | fuel + 1, r, s, t =>
    if bound ≤ t.a + t.p then t
    else if s ≤ r then
      let m := min (r / s) ((bound - 1 - t.a) / t.p)
      closeIn bound fuel (r - m * s) s { t with a := t.a + m * t.p, b := t.b + m * t.q }
    else
      let room := (bound - 1 - t.p) / t.a
      let m := if r = 0 then room else min ((s - 1) / r) room
      closeIn bound fuel r (s - m * r) { t with p := t.p + m * t.a, q := t.q + m * t.b }

/-- The neighbours of `num / den`. -/
def bracket (num den : ℕ) : Bracket := Bracket.closeIn endBound 40 num den ⟨0, 1, 1, 0⟩

/-! ### Grids and ends -/

/-- The spacing of the multiples of `10 ^ (e - 60)`, in quarters of a unit and
multiplied by `10 ^ 60`. -/
def gridSpacing (e : ℕ) : ℕ := Nat.pow 10 e * Nat.pow 2 151

/-- The spacing of the ends of intervals, on the same scale. -/
def endSpacing (j : ℕ) : ℕ := Nat.pow 10 60 * Nat.pow 2 j

/-- The finest grid to be considered: seven fifths of the spacing of ends. -/
def finest (j : ℕ) : ℕ :=
  ((List.range 100).find? fun e => 7 * endSpacing j ≤ 5 * gridSpacing e).getD 0

/-- The numerator of an end that a decimal comes closer to, at two exponents. -/
def closeCall (j : ℕ) : ℕ := if j = 43 ∨ j = 44 then 22841339 else 0

/-- The check: for every binary exponent, the search found neighbours that are far
enough away. -/
theorem finest_clears : ∀ j < 255,
    (bracket (gridSpacing (finest j)) (endSpacing j)).Clears (gridSpacing (finest j))
      (endSpacing j) (closeCall j) := by
  decide +kernel

variable {j e c n : ℕ}

/-- The finest grid is at most as fine as any that may be considered. -/
theorem finest_spec (he : e < 100) (hcoarse : 7 * endSpacing j ≤ 5 * gridSpacing e) :
    finest j ≤ e ∧ 7 * endSpacing j ≤ 5 * gridSpacing (finest j) := by
  have hsat : decide (7 * endSpacing j ≤ 5 * gridSpacing e) = true := decide_eq_true hcoarse
  rw [finest]
  -- the exponent `e` passes the test itself, so the search finds one that is not larger
  cases hfind : (List.range 100).find? fun e => 7 * endSpacing j ≤ 5 * gridSpacing e with
  | none => exact absurd hsat (List.find?_eq_none.1 hfind e (List.mem_range.2 he))
  | some f =>
    obtain ⟨hf, -, hleast⟩ := List.find?_range_eq_some.1 hfind
    refine ⟨?_, of_decide_eq_true hf⟩
    by_contra hlt
    have := hleast e (not_le.1 hlt)
    simp [hsat] at this

/-- A multiple of a coarser grid is one of the finest grid. -/
theorem exists_mul_finest (he : e < 100) (hcoarse : 7 * endSpacing j ≤ 5 * gridSpacing e)
    (c : ℕ) : ∃ m, c * gridSpacing e = m * gridSpacing (finest j) := by
  refine ⟨c * 10 ^ (e - finest j), ?_⟩
  have hsplit : Nat.pow 10 e = 10 ^ (e - finest j) * Nat.pow 10 (finest j) := by
    show 10 ^ e = 10 ^ (e - finest j) * 10 ^ finest j
    rw [← pow_add, Nat.sub_add_cancel (finest_spec he hcoarse).1]
  rw [gridSpacing, gridSpacing, hsplit]
  ring

/-- A point of a grid below an end, in whole numbers. -/
theorem grid_lt_end (hj : j < 255) (he : e < 100)
    (hcoarse : 7 * endSpacing j ≤ 5 * gridSpacing e) (hn : n < endBound)
    (hne : n ≠ closeCall j) (hlt : c * gridSpacing e < n * endSpacing j) :
    2 ^ 53 * (c * gridSpacing e) + 3 * (c * gridSpacing e) <
      2 ^ 53 * (n * endSpacing j) := by
  obtain ⟨m, hm⟩ := exists_mul_finest he hcoarse c
  rw [hm] at hlt ⊢
  refine (finest_clears j hj).above hn hne ?_ hlt
  -- a larger multiple would be above every end
  by_contra hge
  have h₁ := Nat.mul_le_mul_left m (finest_spec he hcoarse).2
  have h₂ : n * endSpacing j ≤ m * endSpacing j :=
    Nat.mul_le_mul_right _ (hn.le.trans (not_lt.1 hge))
  linarith [Nat.zero_le (m * endSpacing j)]

/-- A point of a grid above an end, in whole numbers. -/
theorem end_lt_grid (hj : j < 255) (he : e < 100)
    (hcoarse : 7 * endSpacing j ≤ 5 * gridSpacing e)
    (hn : n < endBound) (hlt : n * endSpacing j < c * gridSpacing e) :
    2 ^ 53 * (n * endSpacing j) + 3 * (c * gridSpacing e) <
      2 ^ 53 * (c * gridSpacing e) := by
  obtain ⟨m, hm⟩ := exists_mul_finest he hcoarse c
  rw [hm] at hlt ⊢
  rcases Nat.lt_or_ge m (2 ^ 26) with hsmall | hlarge
  · exact (finest_clears j hj).below hn hsmall hlt
  · -- the decimal is more than twice the end
    have h₁ := Nat.mul_le_mul_left m (finest_spec he hcoarse).2
    have h₂ : 2 * n * endSpacing j ≤ m * endSpacing j := by
      refine Nat.mul_le_mul_right _ (le_trans ?_ hlarge)
      have : n < 2 ^ 25 := hn
      omega
    linarith [Nat.zero_le (n * endSpacing j)]

/-! ### In units -/

theorem cast_endSpacing (j : ℕ) : (endSpacing j : ℚ) = 10 ^ 60 * 2 ^ j := by
  show ((10 ^ 60 * 2 ^ j : ℕ) : ℚ) = _
  push_cast
  rfl

theorem cast_gridSpacing {x : ℤ} (hx : -60 ≤ x) :
    (gridSpacing (x + 60).toNat : ℚ) = 10 ^ 60 * (4 * spacing x) := by
  -- the power is taken in natural numbers, where the exponent is moved up by 60
  have hpow : ((Nat.pow 10 (x + 60).toNat : ℕ) : ℚ) = 10 ^ x * 10 ^ 60 := by
    have hcast : ((Nat.pow 10 (x + 60).toNat : ℕ) : ℚ) = 10 ^ (x + 60).toNat :=
      Nat.cast_pow 10 (x + 60).toNat
    rw [hcast, ← zpow_natCast, Int.toNat_of_nonneg (by omega), zpow_add₀ (by norm_num)]
    rfl
  have hunits : ((Nat.pow 2 151 : ℕ) : ℚ) = 4 * unitsPerOne := by
    exact_mod_cast (by decide +kernel : Nat.pow 2 151 = 4 * unitsPerOne)
  rw [gridSpacing, Nat.cast_mul, hpow, hunits, spacing]
  ring

/-- The same condition on the grid, in whole numbers. -/
theorem coarse_cast {x : ℤ} {j : ℕ} (hx : -60 ≤ x) (hcoarse : 7 * 2 ^ j ≤ 20 * spacing x) :
    7 * endSpacing j ≤ 5 * gridSpacing (x + 60).toNat := by
  have : (7 * endSpacing j : ℚ) ≤ 5 * gridSpacing (x + 60).toNat := by
    rw [cast_endSpacing, cast_gridSpacing hx]
    linarith
  exact_mod_cast this

/-- A decimal below an end stays below it when it grows by three parts in `2 ^ 53`. -/
theorem decimal_lt_end {x : ℤ} {j c n : ℕ} (hx : -60 ≤ x) (hx' : x ≤ 39) (hj : j < 255)
    (hcoarse : 7 * 2 ^ j ≤ 20 * spacing x) (hn : n < endBound) (hne : n ≠ closeCall j)
    (hlt : 4 * (c * spacing x) < n * 2 ^ j) :
    4 * (c * spacing x) + 3 / 2 ^ 53 * (4 * (c * spacing x)) < n * 2 ^ j := by
  have hlt' : (c * gridSpacing (x + 60).toNat : ℚ) < n * endSpacing j := by
    rw [cast_endSpacing, cast_gridSpacing hx]
    linarith
  have hgap :=
    grid_lt_end hj (by omega) (coarse_cast hx hcoarse) hn hne (by exact_mod_cast hlt')
  have hgap' :
      (2 ^ 53 * (c * gridSpacing (x + 60).toNat) +
        3 * (c * gridSpacing (x + 60).toNat) : ℚ) < 2 ^ 53 * (n * endSpacing j) := by
    exact_mod_cast hgap
  rw [cast_endSpacing, cast_gridSpacing hx] at hgap'
  linarith

/-- A decimal above an end stays above it when it shrinks by three parts in `2 ^ 53`. -/
theorem end_lt_decimal {x : ℤ} {j c n : ℕ} (hx : -60 ≤ x) (hx' : x ≤ 39) (hj : j < 255)
    (hcoarse : 7 * 2 ^ j ≤ 20 * spacing x) (hn : n < endBound)
    (hlt : n * 2 ^ j < 4 * (c * spacing x)) :
    n * 2 ^ j < 4 * (c * spacing x) - 3 / 2 ^ 53 * (4 * (c * spacing x)) := by
  have hlt' : (n * endSpacing j : ℚ) < c * gridSpacing (x + 60).toNat := by
    rw [cast_endSpacing, cast_gridSpacing hx]
    linarith
  have hgap :=
    end_lt_grid hj (by omega) (coarse_cast hx hcoarse) hn (by exact_mod_cast hlt')
  have hgap' : (2 ^ 53 * (n * endSpacing j) + 3 * (c * gridSpacing (x + 60).toNat) : ℚ) <
      2 ^ 53 * (c * gridSpacing (x + 60).toNat) := by
    exact_mod_cast hgap
  rw [cast_endSpacing, cast_gridSpacing hx] at hgap'
  linarith

end Recommend.Single
