import Recommend.Number.Single
import Recommend.Proofs.Number.Rounding

/-!
The shortest digits of a binary32 number.

The interval of a magnitude holds the rationals that round to it
(`toBits_eq_of_contains`), and a grid of decimals is tried by its two points around the
magnitude.  What is found on a grid lies in the interval, and the grid is not too fine
for it: the point is nearest, or the other one is out (`Landing`).  What is not found
says that the interval is narrower than the grid.
-/

namespace Recommend.Single

open Rounding

theorem cast_unitsPerOne : (unitsPerOne : ℚ) = 2 ^ 149 := by
  exact_mod_cast (by decide +kernel : unitsPerOne = 2 ^ 149)

/-! ### A magnitude in its binade -/

/-- The magnitude `units` is `t` gaps of `2 ^ k`, and this is all the precision there
is. -/
structure Placed (units t k : ℕ) : Prop where
  eq : units = t * 2 ^ k
  pos : 0 < t
  lt : t < 2 ^ 24
  normal : 0 < k → 2 ^ 23 ≤ t
  surplus : surplus 24 units = k

/-- A positive number of the format has its place in a binade. -/
theorem exists_placed {units : ℕ} (hpos : 0 < units) (hfits : Fits 24 277 units) :
    ∃ t k, Placed units t k := by
  obtain ⟨hmod, -⟩ := hfits
  obtain ⟨k, hk⟩ : ∃ k, Rounding.surplus 24 units = k := ⟨_, rfl⟩
  rw [hk] at hmod
  have hmod' : units % 2 ^ k = 0 := hmod
  -- the magnitude fits, so nothing is lost when it is divided by its gap
  have heq : units = units / 2 ^ k * 2 ^ k := by
    rw [Nat.div_mul_cancel (Nat.dvd_of_mod_eq_zero hmod')]
  refine ⟨units / 2 ^ k, k, heq, ?_, ?_, ?_, hk⟩
  · rw [Nat.pos_iff_ne_zero]
    intro hzero
    rw [hzero, zero_mul] at heq
    omega
  · rw [Nat.div_lt_iff_lt_mul (by positivity), ← pow_add]
    have := lt_of_surplus 23 units
    rw [hk] at this
    convert this using 2
    omega
  · intro hkpos
    rw [Nat.le_div_iff_mul_le (by positivity), ← pow_add]
    have := le_of_surplus (b := 23) (m := units) (by rw [hk]; exact hkpos)
    rw [hk] at this
    convert this using 2
    omega

/-- The number lies in the interval. -/
def Interval.Contains (i : Interval) (r : ℚ) : Prop :=
  if i.closed then (i.low : ℚ) ≤ 4 * r ∧ 4 * r ≤ i.high
  else (i.low : ℚ) < 4 * r ∧ 4 * r < i.high

namespace Interval

variable {i : Interval} {r : ℚ}

theorem Contains.low_le (h : i.Contains r) : (i.low : ℚ) ≤ 4 * r := by
  rw [Contains] at h
  split at h
  · exact h.1
  · exact h.1.le

theorem Contains.le_high (h : i.Contains r) : 4 * r ≤ i.high := by
  rw [Contains] at h
  split at h
  · exact h.2
  · exact h.2.le

/-- A number on an end of the interval lies in it only if the ends do. -/
theorem Contains.closed (h : i.Contains r) (hend : 4 * r = i.low ∨ 4 * r = i.high) :
    i.closed = true := by
  rw [Contains] at h
  split at h
  · assumption
  · obtain hlow | hhigh := hend
    · exact absurd hlow h.1.ne'
    · exact absurd hhigh h.2.ne

theorem contains_of_lt (hlow : (i.low : ℚ) < 4 * r) (hhigh : 4 * r < i.high) :
    i.Contains r := by
  rw [Contains]
  split
  · exact ⟨hlow.le, hhigh.le⟩
  · exact ⟨hlow, hhigh⟩

end Interval

/-- Below a power of two the gaps are half as wide, and the power is an even number of
them. -/
theorem toBits_eq_of_near_power {units num den k : ℕ} (hden : 0 < den)
    (hpower : units = 2 ^ 24 * 2 ^ k) (hbelow : (num : ℚ) / den < units)
    (hnear : 4 * (units : ℚ) - 2 * 2 ^ k ≤ 4 * ((num : ℚ) / den)) :
    toBits 24 num den = units := by
  have hgap : (0 : ℚ) < 2 ^ k := by positivity
  have hcast : (units : ℚ) = (2 ^ 24 : ℕ) * 2 ^ k := by exact_mod_cast hpower
  have hsurplus : Rounding.surplus 24 (num / den) = k := by
    push_cast at hcast
    refine surplus_of_le ((natCast_le_div_iff hden).1 ?_) ((div_lt_natCast_iff hden).1 ?_)
    · push_cast
      rw [pow_add]
      linarith
    · push_cast
      rw [pow_succ, pow_add]
      linarith
  rw [toBits_eq (n := 2 ^ 24) hden hsurplus]
  · exact hpower.symm
  · rw [← hcast, abs_sub_comm, abs_of_pos (by linarith)]
    linarith
  · intro _
    rfl

namespace Placed

variable {units t k : ℕ} (h : Placed units t k)
include h

/-- The upper end is half a gap above. -/
theorem high_eq : (interval units).high = (2 * t + 1) * 2 ^ (k + 1) := by
  show 4 * units + 2 * 2 ^ Rounding.surplus 24 units = _
  rw [h.surplus, h.eq]
  ring

/-- The ends belong to the interval of an even magnitude. -/
theorem closed_iff : (interval units).closed = true ↔ t % 2 = 0 := by
  show (units / 2 ^ Rounding.surplus 24 units % 2 == 0) = true ↔ _
  rw [h.surplus, h.eq, Nat.mul_div_cancel _ (by positivity), beq_iff_eq]

/-- The lower end is half a gap away, or a quarter of one below a power of two. -/
theorem low_eq :
    (interval units).low = (2 * t - 1) * 2 ^ (k + 1) ∧ (0 < k → 2 ^ 23 < t) ∨
      0 < k ∧ t = 2 ^ 23 ∧ (interval units).low = (2 ^ 25 - 1) * 2 ^ k := by
  -- the definition asks whether the magnitude is the least one of its binade
  have hbelow : (interval units).low =
      4 * units - 2 * if 0 < k ∧ units = 2 ^ (k + 23) then 2 ^ k / 2 else 2 ^ k := by
    rw [← h.surplus]
    rfl
  have hpow : units = 2 ^ (k + 23) ↔ t = 2 ^ 23 := by
    rw [h.eq, add_comm k 23, pow_add]
    exact Nat.mul_left_inj (by positivity)
  rw [hbelow]
  split
  next hedge =>
    obtain ⟨hk, hunits⟩ := hedge
    refine .inr ⟨hk, hpow.1 hunits, ?_⟩
    obtain ⟨k, rfl⟩ := Nat.exists_eq_succ_of_ne_zero hk.ne'
    rw [h.eq, hpow.1 hunits, pow_succ 2 k, Nat.mul_div_cancel _ (by decide)]
    omega
  next hinner =>
    refine .inl ⟨?_, fun hk => ?_⟩
    · rw [h.eq, pow_succ, Nat.sub_mul]
      congr 1
      · ring
      · ring
    · exact lt_of_le_of_ne (h.normal hk) fun ht => hinner ⟨hk, hpow.2 ht.symm⟩

theorem cast_eq : (units : ℚ) = t * 2 ^ k := by exact_mod_cast h.eq

theorem cast_high : ((interval units).high : ℚ) = 4 * units + 2 * 2 ^ k := by
  rw [h.high_eq, h.cast_eq]
  push_cast
  ring

theorem cast_low :
    ((interval units).low : ℚ) = 4 * units - 2 * 2 ^ k ∧ (0 < k → 2 ^ 23 < t) ∨
      0 < k ∧ t = 2 ^ 23 ∧ ((interval units).low : ℚ) = 4 * units - 2 ^ k := by
  rcases h.low_eq with ⟨hlow, ht⟩ | ⟨hk, ht, hlow⟩
  · refine .inl ⟨?_, ht⟩
    rw [hlow, h.cast_eq, Nat.cast_mul, Nat.cast_sub (by linarith [h.pos])]
    push_cast
    ring
  · refine .inr ⟨hk, ht, ?_⟩
    rw [hlow, h.cast_eq, ht]
    push_cast
    ring

/-- The lower end is at least a quarter of a gap below. -/
theorem low_le : ((interval units).low : ℚ) ≤ 4 * units - 2 ^ k := by
  have hgap : (0 : ℚ) < 2 ^ k := by positivity
  rcases h.cast_low with ⟨hlow, -⟩ | ⟨-, -, hlow⟩
  · linarith
  · exact hlow.le

/-- A quotient of the same binade within half a gap is rounded to the magnitude. -/
theorem toBits_eq_of_near {num den : ℕ} (hden : 0 < den)
    (hle : |(num : ℚ) / den - units| ≤ 2 ^ k / 2)
    (heven : |(num : ℚ) / den - units| = 2 ^ k / 2 → t % 2 = 0)
    (hnormal : 0 < k → (2 : ℚ) ^ (k + 23) ≤ (num : ℚ) / den) :
    toBits 24 num den = units := by
  have hgap : (0 : ℚ) < 2 ^ k := by positivity
  have ht : (t : ℚ) + 1 ≤ 2 ^ 24 := by exact_mod_cast h.lt
  rw [h.cast_eq] at hle heven
  -- the quotient is in the binade of the magnitude, so it has the same gap
  have htop : (num : ℚ) / den < (2 ^ (k + 23 + 1) : ℕ) := by
    push_cast
    rw [add_assoc, pow_add]
    nlinarith [(abs_le.1 hle).2]
  rw [div_lt_natCast_iff hden] at htop
  have hsurplus : Rounding.surplus 24 (num / den) = k := by
    rcases Nat.eq_zero_or_pos k with rfl | hk
    · exact surplus_of_lt htop
    · refine surplus_of_le ((natCast_le_div_iff hden).1 ?_) htop
      push_cast
      exact hnormal hk
  rw [toBits_eq hden hsurplus hle heven, h.eq]

/-- What lies in the interval of a magnitude is rounded to it. -/
theorem toBits_eq_of_contains {num den : ℕ} (hden : 0 < den)
    (hmem : (interval units).Contains ((num : ℚ) / den)) : toBits 24 num den = units := by
  have hgap : (0 : ℚ) < 2 ^ k := by positivity
  have hunits := h.cast_eq
  have hlow := hmem.low_le
  have hhigh := hmem.le_high
  rw [h.cast_high] at hhigh
  rcases le_or_gt (units : ℚ) ((num : ℚ) / den) with habove | hbelow
  · -- from the magnitude up
    have habs : |(num : ℚ) / den - units| = (num : ℚ) / den - units :=
      abs_of_nonneg (by linarith)
    apply h.toBits_eq_of_near hden
    · rw [habs]
      linarith
    · intro htie
      rw [habs] at htie
      refine h.closed_iff.1 (hmem.closed (.inr ?_))
      rw [h.cast_high]
      linarith
    · intro hk
      have ht : (2 ^ 23 : ℚ) ≤ t := by exact_mod_cast h.normal hk
      rw [add_comm k 23, pow_add]
      nlinarith
  · have habs : |(num : ℚ) / den - units| = units - (num : ℚ) / den := by
      rw [abs_sub_comm]
      exact abs_of_pos (by linarith)
    rcases h.cast_low with ⟨hend, ht⟩ | ⟨hk, ht, hend⟩
    · -- below the magnitude, in its binade
      apply h.toBits_eq_of_near hden
      · rw [habs]
        linarith
      · intro htie
        rw [habs] at htie
        refine h.closed_iff.1 (hmem.closed (.inl ?_))
        rw [hend]
        linarith
      · intro hk
        have ht : (2 ^ 23 + 1 : ℚ) ≤ t := by exact_mod_cast ht hk
        rw [add_comm k 23, pow_add]
        nlinarith
    · -- below a power of two
      obtain ⟨k, rfl⟩ : ∃ j, k = j + 1 := ⟨k - 1, by omega⟩
      apply toBits_eq_of_near_power (k := k) hden
      · rw [h.eq, ht, pow_succ 2 k]
        ring
      · exact hbelow
      · rw [hend, pow_succ] at hlow
        linarith

end Placed

/-! ### Grids of decimals -/

/-- The distance between multiples of `10 ^ x`, in units. -/
def spacing (x : ℤ) : ℚ := 10 ^ x * unitsPerOne

theorem spacing_pos (x : ℤ) : 0 < spacing x :=
  mul_pos (zpow_pos (by norm_num) x) (by exact_mod_cast Nat.two_pow_pos 149)

/-- A grid is ten times as wide as the next one. -/
theorem spacing_succ (x : ℤ) : spacing (x + 1) = 10 * spacing x := by
  rw [spacing, spacing, zpow_add_one₀ (by norm_num)]
  ring

theorem spacing_of_neg {x : ℤ} (hx : x < 0) :
    spacing x = unitsPerOne / (Nat.pow 10 x.natAbs : ℕ) := by
  obtain ⟨n, rfl⟩ : ∃ n : ℕ, x = -n := ⟨x.natAbs, by omega⟩
  have hpow : ((Nat.pow 10 n : ℕ) : ℚ) = 10 ^ n := Nat.cast_pow 10 n
  rw [spacing, zpow_neg, zpow_natCast, Int.natAbs_neg, Int.natAbs_natCast, hpow]
  field_simp

theorem spacing_of_nonneg {x : ℤ} (hx : ¬x < 0) :
    spacing x = unitsPerOne * (Nat.pow 10 x.toNat : ℕ) := by
  obtain ⟨n, rfl⟩ : ∃ n : ℕ, x = n := ⟨x.toNat, by omega⟩
  have hpow : ((Nat.pow 10 n : ℕ) : ℚ) = 10 ^ n := Nat.cast_pow 10 n
  rw [spacing, zpow_natCast, Int.toNat_natCast, hpow, mul_comm]

/-- Four times a decimal in units, as a quotient of natural numbers. -/
theorem quarters_eq (c : ℕ) (x : ℤ) :
    0 < (quarters c x).2 ∧
      ((quarters c x).1 : ℚ) / (quarters c x).2 = 4 * (c * spacing x) := by
  rw [quarters]
  split
  next hx =>
    refine ⟨Nat.pow_pos (by decide), ?_⟩
    rw [spacing_of_neg hx, Nat.cast_mul, Nat.cast_mul]
    ring
  next hx =>
    refine ⟨Nat.one_pos, ?_⟩
    rw [spacing_of_nonneg hx, Nat.cast_mul, Nat.cast_mul, Nat.cast_mul, Nat.cast_one]
    ring

theorem Interval.holds_iff {i : Interval} {c : ℕ} {x : ℤ} :
    i.holds c x = true ↔ i.Contains (c * spacing x) := by
  obtain ⟨hpos, hquot⟩ := quarters_eq c x
  rw [Interval.holds, Interval.Contains, ← hquot]
  revert hpos
  generalize quarters c x = p
  obtain ⟨num, den⟩ := p
  intro hpos
  have hpos' : (0 : ℚ) < den := by exact_mod_cast hpos
  dsimp only
  rw [le_div_iff₀ hpos', div_le_iff₀ hpos', lt_div_iff₀ hpos', div_lt_iff₀ hpos']
  split
  · rw [Bool.and_eq_true, decide_eq_true_eq, decide_eq_true_eq]
    norm_cast
  · rw [Bool.and_eq_true, decide_eq_true_eq, decide_eq_true_eq]
    norm_cast

/-- The two points around a magnitude, found by division. -/
theorem exists_onGrid?_eq (units : ℕ) (x : ℤ) :
    ∃ num den : ℕ, 0 < den ∧ (num : ℚ) / den = units / spacing x ∧
      onGrid? units x =
        if (decide (0 < num / den) && (interval units).holds (num / den) x) = true then
          if (interval units).holds (num / den + 1) x = true then some (halfEven num den)
          else some (num / den)
        else if (interval units).holds (num / den + 1) x = true then some (num / den + 1)
        else none := by
  obtain ⟨num, den, hden, hquot, hpair⟩ : ∃ num den : ℕ, 0 < den ∧
      (num : ℚ) / den = units / spacing x ∧
      (if x < 0 then (units * Nat.pow 10 x.natAbs, unitsPerOne)
        else (units, unitsPerOne * Nat.pow 10 x.toNat)) = (num, den) := by
    rcases lt_or_ge x 0 with hx | hx
    · refine ⟨units * Nat.pow 10 x.natAbs, unitsPerOne, Nat.two_pow_pos 149, ?_, if_pos hx⟩
      rw [spacing_of_neg hx, div_div_eq_mul_div, Nat.cast_mul]
    · refine ⟨units, unitsPerOne * Nat.pow 10 x.toNat,
        Nat.mul_pos (Nat.two_pow_pos 149) (Nat.pow_pos (by decide)), ?_,
        if_neg (not_lt.2 hx)⟩
      rw [spacing_of_nonneg (not_lt.2 hx), Nat.cast_mul]
  refine ⟨num, den, hden, hquot, ?_⟩
  rw [onGrid?, hpair]
  dsimp only
  generalize (decide (0 < _) && _) = down
  generalize Interval.holds _ (_ + 1) _ = up
  cases down <;> cases up <;> rfl

/-- A magnitude is tried on a grid by the points below and above it. -/
theorem onGrid?_eq (units : ℕ) (x : ℤ) :
    ∃ c near : ℕ, c * spacing x ≤ units ∧ units < (c + 1 : ℕ) * spacing x ∧
      |near * spacing x - units| ≤ spacing x / 2 ∧ (near = c ∨ near = c + 1) ∧
      onGrid? units x =
        if (decide (0 < c) && (interval units).holds c x) = true then
          if (interval units).holds (c + 1) x = true then some near else some c
        else if (interval units).holds (c + 1) x = true then some (c + 1)
        else none := by
  have hs := spacing_pos x
  obtain ⟨num, den, hden, hquot, heq⟩ := exists_onGrid?_eq units x
  refine ⟨num / den, halfEven num den, ?_, ?_, ?_, ?_, heq⟩
  · rw [← le_div_iff₀ hs, ← hquot]
    exact (natCast_le_div_iff hden).2 le_rfl
  · rw [← div_lt_iff₀ hs, ← hquot]
    exact (div_lt_natCast_iff hden).2 (Nat.lt_succ_self _)
  -- rounding moves the quotient by at most a half, and a point of the grid by half
  -- its spacing
  · have hscale : halfEven num den * spacing x - units =
        (halfEven num den - (num : ℚ) / den) * spacing x := by
      rw [hquot, sub_mul, div_mul_cancel₀ _ hs.ne']
    rw [hscale, abs_mul, abs_of_pos hs]
    nlinarith [abs_halfEven_sub_le num hden]
  · obtain ⟨_, _, _, _, h⟩ := halfEven_cases num hden
    tauto

/-- What is found for a magnitude on a grid: a point of its interval that is nearest to
it, or beyond which the interval ends. -/
structure Landing (units : ℕ) (x : ℤ) (c : ℕ) : Prop where
  pos : 0 < c
  contains : (interval units).Contains (c * spacing x)
  le : c * spacing x ≤ units + spacing x
  above : units < c * spacing x →
    2 * (c * spacing x - units) ≤ spacing x ∨
      4 * (c * spacing x - spacing x) ≤ (interval units).low
  below : c * spacing x ≤ units →
    2 * (units - c * spacing x) ≤ spacing x ∨
      (interval units).high ≤ 4 * (c * spacing x + spacing x)

namespace Placed

variable {units t k : ℕ} (h : Placed units t k)
include h

/-- What is below the magnitude and not in its interval is below the lower end. -/
theorem le_low_of_not_contains {r : ℚ} (hr : r ≤ units)
    (hout : ¬(interval units).Contains r) : 4 * r ≤ (interval units).low := by
  have hgap : (0 : ℚ) < 2 ^ k := by positivity
  have hhigh := h.cast_high
  by_contra hlow
  exact hout (Interval.contains_of_lt (by linarith) (by linarith))

/-- What is above the magnitude and not in its interval is above the upper end. -/
theorem high_le_of_not_contains {r : ℚ} (hr : units ≤ r)
    (hout : ¬(interval units).Contains r) : (interval units).high ≤ 4 * r := by
  have hgap : (0 : ℚ) < 2 ^ k := by positivity
  have hlow := h.low_le
  by_contra hhigh
  exact hout (Interval.contains_of_lt (by linarith) (by linarith))

/-- A number below the magnitude on the grid, if none of it is in the interval. -/
theorem le_low_of_not_down {c : ℕ} {x : ℤ} (hle : c * spacing x ≤ units)
    (hdown : ¬(decide (0 < c) && (interval units).holds c x) = true) :
    4 * (c * spacing x) ≤ (interval units).low := by
  rcases Nat.eq_zero_or_pos c with rfl | hpos
  · simp
  · apply h.le_low_of_not_contains hle
    rw [← Interval.holds_iff]
    intro hholds
    exact hdown (by simp [hpos, hholds])

/-- What is found on a grid has landed. -/
theorem landing {c : ℕ} {x : ℤ} (hfound : onGrid? units x = some c) :
    Landing units x c := by
  have hs := spacing_pos x
  obtain ⟨q, near, hle, hlt, hnear, hnext, heq⟩ := onGrid?_eq units x
  have hsucc : ((q + 1 : ℕ) : ℚ) * spacing x = q * spacing x + spacing x := by
    push_cast
    ring
  rw [heq] at hfound
  split at hfound
  next hdown =>
    rw [Bool.and_eq_true, decide_eq_true_eq, Interval.holds_iff] at hdown
    split at hfound
    next hup =>
      -- both points are in the interval, and the nearer one is taken
      rw [Interval.holds_iff] at hup
      obtain rfl := Option.some.inj hfound
      obtain ⟨hlow, hhigh⟩ := abs_le.1 hnear
      refine ⟨?_, ?_, by linarith, fun _ => .inl (by linarith), fun _ => .inl (by linarith)⟩
      · omega
      · rcases hnext with rfl | rfl
        · exact hdown.2
        · exact hup
    -- only the lower point is in the interval, which ends before the upper one
    next hup =>
      obtain rfl := Option.some.inj hfound
      rw [Interval.holds_iff] at hup
      refine ⟨hdown.1, hdown.2, by linarith, fun habove => absurd hle (not_le.2 habove),
        fun _ => ?_⟩
      rw [← hsucc]
      exact .inr (h.high_le_of_not_contains hlt.le hup)
  next hdown =>
    split at hfound
    -- only the upper point is in the interval
    next hup =>
      obtain rfl := Option.some.inj hfound
      rw [Interval.holds_iff] at hup
      refine ⟨Nat.succ_pos _, hup, by linarith, fun _ => ?_,
        fun hbelow => absurd hlt (not_lt.2 hbelow)⟩
      rw [hsucc, add_sub_cancel_right]
      exact .inr (h.le_low_of_not_down hle hdown)
    next => cases hfound

/-- A grid without a point in the interval is wider than the interval. -/
theorem le_spacing_of_none {x : ℤ} (hnone : onGrid? units x = none) :
    3 * 2 ^ k ≤ 4 * spacing x := by
  obtain ⟨q, near, hle, hlt, -, -, heq⟩ := onGrid?_eq units x
  rw [heq] at hnone
  split at hnone
  · split at hnone <;> cases hnone
  next hdown =>
    split at hnone
    · cases hnone
    next hup =>
      rw [Interval.holds_iff] at hup
      -- both points are outside, one at each end, and the interval is between them
      have hlow := h.le_low_of_not_down hle hdown
      have hhigh := h.high_le_of_not_contains hlt.le hup
      rw [h.cast_high] at hhigh
      push_cast at hhigh
      linarith [h.low_le]

end Placed

/-! ### The first grid with a hit -/

/-- The finest grid tried has a point for every magnitude. -/
theorem Placed.onGrid?_finest {units t k : ℕ} (h : Placed units t k) :
    onGrid? units (-60) ≠ none := by
  intro hnone
  have hgap : (1 : ℚ) ≤ 2 ^ k := one_le_pow₀ (by norm_num)
  have hwide := h.le_spacing_of_none hnone
  -- the points of this grid are closer to each other than any interval is wide
  have hfine : 4 * spacing (-60) < 3 := by
    rw [spacing_of_neg (by decide)]
    norm_num [unitsPerOne]
  linarith

theorem Placed.exists_first {units t k : ℕ} (h : Placed units t k) :
    ∃ c x, shortest units = (c, x) ∧ -60 ≤ x ∧ x ≤ 39 ∧ onGrid? units x = some c ∧
      (x = 39 ∨ onGrid? units (x + 1) = none) := by
  cases hfind : (List.range 100).findSome? fun i =>
      (onGrid? units (topExponent - Int.ofNat i)).map fun c =>
        (c, topExponent - Int.ofNat i) with
  | none =>
    -- the last grid tried has a point
    have hlast := List.findSome?_eq_none_iff.1 hfind 99 (by decide)
    exact absurd (Option.map_eq_none_iff.1 hlast) h.onGrid?_finest
  | some r =>
    obtain ⟨before, i, after, hrange, hr, hbefore⟩ := List.findSome?_eq_some_iff.1 hfind
    obtain ⟨c, hc, rfl⟩ := Option.map_eq_some_iff.1 hr
    have hi : i < 100 := List.mem_range.1 (by rw [hrange]; simp)
    have htop : topExponent = 39 := rfl
    have hshort : shortest units = (c, topExponent - Int.ofNat i) := by
      rw [shortest, hfind]
      rfl
    refine ⟨c, _, hshort, ?_, ?_, hc, ?_⟩
    · rw [htop]
      show -60 ≤ 39 - (i : ℤ)
      omega
    · rw [htop]
      show 39 - (i : ℤ) ≤ 39
      omega
    · cases i with
      | zero => exact .inl rfl
      | succ i =>
        -- the grid before was tried before
        have hmem : i ∈ before := by
          have hi' : i ∈ before ++ (i + 1) :: after := by
            rw [← hrange]
            exact List.mem_range.2 (by omega)
          have horder : List.Pairwise (· < ·) (before ++ (i + 1) :: after) := by
            rw [← hrange]
            exact List.pairwise_lt_range
          rcases List.mem_append.1 hi' with hmem | hmem
          · exact hmem
          · rcases List.mem_cons.1 hmem with heq | hmem
            · omega
            · have := List.rel_of_pairwise_cons (List.pairwise_append.1 horder).2.1 hmem
              omega
        have hnone := Option.map_eq_none_iff.1 (hbefore i hmem)
        refine .inr ?_
        rw [← hnone]
        congr 1
        show topExponent - ((i + 1 : ℕ) : ℤ) + 1 = topExponent - (i : ℤ)
        omega

/-- The digits of a magnitude land on their grid, and there are few of them. -/
theorem Placed.shortest_spec {units t k : ℕ} (h : Placed units t k)
    (hlt : units < 2 ^ 277) :
    ∃ c x, shortest units = (c, x) ∧ -60 ≤ x ∧ x ≤ 39 ∧ Landing units x c ∧ c < 2 ^ 28 := by
  obtain ⟨c, x, hshort, hlow, hhigh, hfound, hcoarser⟩ := h.exists_first
  have hland := h.landing hfound
  refine ⟨c, x, hshort, hlow, hhigh, hland, ?_⟩
  have hs := spacing_pos x
  -- ten times the spacing is wider than the interval
  have hwide : (units : ℚ) < (2 ^ 28 - 1) * spacing x := by
    rcases hcoarser with rfl | hnone
    · have htop : 2 ^ 277 < unitsPerOne * Nat.pow 10 39 := by decide +kernel
      calc (units : ℚ) < (unitsPerOne * Nat.pow 10 39 : ℕ) := by exact_mod_cast hlt.trans htop
        _ = spacing 39 := by
          rw [spacing_of_nonneg (by decide), Nat.cast_mul]
          rfl
        _ ≤ (2 ^ 28 - 1) * spacing 39 := le_mul_of_one_le_left hs.le (by norm_num)
    · have hgap := h.le_spacing_of_none hnone
      have ht : (t : ℚ) < 2 ^ 24 := by exact_mod_cast h.lt
      have hpos : (0 : ℚ) < 2 ^ k := by positivity
      rw [spacing_succ] at hgap
      rw [h.cast_eq]
      nlinarith
  have hc : (c : ℚ) < 2 ^ 28 := by
    have := hland.le
    nlinarith
  exact_mod_cast hc

end Recommend.Single
