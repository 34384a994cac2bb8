import Recommend.Number.Decimal

/-!
Decimal text reads back.

`natText_eq_map` is the only place where the digits of a number are taken apart: the
text of `n` is a list of digits that spells `n` and does not start with a superfluous
zero.
-/

namespace Recommend.Decimal

/-! ### Digits -/

@[simp] theorem digit?_digitChar (d : Fin 10) : digit? (digitChar d) = some d := by
  revert d
  decide

/-- A digit is no other character. -/
theorem digitChar_ne {c : Char} (h : digit? c = none) (d : Fin 10) : digitChar d ≠ c := by
  intro heq
  rw [← heq, digit?_digitChar] at h
  cases h

theorem notMem_map_digitChar {c : Char} (h : digit? c = none) (ds : List (Fin 10)) :
    c ∉ ds.map digitChar := by
  intro hmem
  obtain ⟨d, -, hd⟩ := List.mem_map.1 hmem
  exact digitChar_ne h d hd

theorem value_append_singleton (ds : List (Fin 10)) (d : Fin 10) :
    value (ds ++ [d]) = 10 * value ds + d.val := by
  rw [value, List.foldl_append]
  rfl

theorem natText_of_lt {n : Nat} (h : n < 10) : natText n = [digitChar ⟨n, h⟩] :=
  Nat.toDigits_of_lt_base h

/-- The digits before the last one are those of the quotient by ten. -/
theorem natText_of_le {n : Nat} (h : 10 ≤ n) :
    natText n = natText (n / 10) ++ [digitChar ⟨n % 10, Nat.mod_lt n (by decide)⟩] :=
  Nat.toDigits_of_base_le (by decide) h

/-- The text of a number is made of digits that spell it, the first of which is zero
only if it is the only one. -/
theorem natText_eq_map (n : Nat) :
    ∃ ds : List (Fin 10), natText n = ds.map digitChar ∧ value ds = n ∧ ds ≠ [] ∧
      ∀ tail, ds = 0 :: tail → tail = [] := by
  induction n using Nat.strongRecOn with
  | ind n ih =>
    rcases Nat.lt_or_ge n 10 with hlt | hge
    · refine ⟨[⟨n, hlt⟩], natText_of_lt hlt, by simp [value], by simp, ?_⟩
      intro tail h
      exact (List.cons.inj h).2.symm
    · -- the last digit is split off; what is before it is not zero
      obtain ⟨ds, htext, hvalue, hne, hlead⟩ := ih (n / 10) (by omega)
      refine ⟨ds ++ [⟨n % 10, Nat.mod_lt n (by decide)⟩], ?_, ?_, by simp, ?_⟩
      · rw [natText_of_le hge, htext, List.map_append]
        rfl
      · rw [value_append_singleton, hvalue]
        exact Nat.div_add_mod n 10
      · intro tail h
        cases ds with
        | nil => exact absurd rfl hne
        | cons d ds =>
          -- a leading zero of the longer list is one of the shorter, which is then zero
          have hzero : d = 0 := (List.cons.inj h).1
          subst hzero
          have hnil : ds = [] := hlead ds rfl
          subst hnil
          -- so the quotient is zero, although the number is at least ten
          have hquot : n / 10 = 0 := hvalue.symm
          omega

theorem natText_ne_nil (n : Nat) : natText n ≠ [] := Nat.toDigits_ne_nil

/-! ### Whole numbers -/

/-- Digits are read one by one. -/
theorem mapM_digit?_map (ds : List (Fin 10)) :
    (ds.map digitChar).mapM digit? = some ds := by
  induction ds with
  | nil => rfl
  | cons d ds ih => simp [List.mapM_cons, ih]

/-- Digits can be read back, so different ones are written differently. -/
theorem map_digitChar_inj {ds ds' : List (Fin 10)}
    (h : ds.map digitChar = ds'.map digitChar) : ds = ds' := by
  have hread := mapM_digit?_map ds
  rw [h, mapM_digit?_map] at hread
  exact (Option.some.inj hread).symm

theorem readNat?_natText (n : Nat) : readNat? (natText n) = some n := by
  obtain ⟨ds, htext, hvalue, hne, -⟩ := natText_eq_map n
  have hfull : (natText n).isEmpty = false := by simpa using natText_ne_nil n
  rw [readNat?, hfull, htext, mapM_digit?_map]
  simp [hvalue]

/-- Whole numbers read back, with their sign. -/
theorem readInt?_intText (n : Int) : readInt? (intText n) = some n := by
  rw [intText]
  split
  next hneg =>
    rw [readInt?, readNat?_natText, Option.map_some, Option.some.injEq]
    show -(n.natAbs : Int) = n
    omega
  next hpos =>
    -- the text starts with a digit, so no sign is taken off
    obtain ⟨ds, htext, -, hne, -⟩ := natText_eq_map n.natAbs
    have hread : readInt? (natText n.natAbs) =
        (readNat? (natText n.natAbs)).map Int.ofNat := by
      rw [htext]
      cases ds with
      | nil => exact absurd rfl hne
      | cons d ds =>
        rw [List.map_cons]
        -- neither sign is a digit, so of the three patterns only the last one is left
        unfold readInt?
        split
        next h => exact absurd (List.cons.inj h).1 (digitChar_ne (by decide) d)
        next h => exact absurd (List.cons.inj h).1 (digitChar_ne (by decide) d)
        next => rfl
    rw [hread, readNat?_natText, Option.map_some, Option.some.injEq]
    show (n.natAbs : Int) = n
    omega

/-- The text of a whole number is made of digits and perhaps a minus sign. -/
theorem mem_intText {n : Int} {c : Char} (h : c ∈ intText n) :
    c = '-' ∨ ∃ d, c = digitChar d := by
  obtain ⟨ds, htext, -, -, -⟩ := natText_eq_map n.natAbs
  -- with or without a sign in front, the rest is the text of the absolute value
  have hdigits : c ∈ natText n.natAbs → ∃ d, c = digitChar d := by
    intro hc
    rw [htext] at hc
    obtain ⟨d, -, rfl⟩ := List.mem_map.1 hc
    exact ⟨d, rfl⟩
  rw [intText] at h
  split at h
  · rcases List.mem_cons.1 h with hsign | hc
    · exact .inl hsign
    · exact .inr (hdigits hc)
  · exact .inr (hdigits h)

theorem intText_ne_nil (n : Int) : intText n ≠ [] := by
  rw [intText]
  split
  · exact List.cons_ne_nil _ _
  · exact natText_ne_nil n.natAbs

/-- What is in range is not changed by the check of the range. -/
@[simp] theorem int32OfInt?_toInt (n : Int32) : int32OfInt? n.toInt = some n := by
  have hlow : Int32.minValue.toInt ≤ n.toInt := Int32.minValue_le_toInt n
  have hhigh : n.toInt ≤ Int32.maxValue.toInt := Int32.toInt_le n
  rw [int32OfInt?, if_pos ⟨hlow, hhigh⟩, Int32.ofInt_toInt]

theorem readInt32?_ofInt (n : Int32) : readInt32? (ofInt n.toInt) = some n := by
  rw [readInt32?, ofInt, String.toList_ofList, readInt?_intText, Option.bind_some,
    int32OfInt?_toInt]

end Recommend.Decimal
