import Mathlib.Data.List.DropRight
import Recommend.Text.Blank

/-!
White space at the ends of a text.

Blank characters before or behind a text are lost when it is trimmed
(`trim_append_of_blank_left`, `trim_append_of_blank_right`), and a trimmed text does not
start with one.  What a text starts with, up to some character, is therefore the same
before and after trimming, unless that character stands in the white space before the
text (`trim_takeWhile`).
-/

namespace Recommend.Text

/-! ### White space at the ends -/

theorem trimEnd_eq_rdropWhile (cs : List Char) : trimEnd cs = cs.rdropWhile isBlank := rfl

/-- What is taken off the end of a text is blank. -/
theorem exists_blank_tail (cs : List Char) :
    ∃ tail, trimEnd cs ++ tail = cs ∧ ∀ c ∈ tail, isBlank c = true := by
  refine ⟨cs.rtakeWhile isBlank, ?_, ?_⟩
  · rw [trimEnd_eq_rdropWhile]
    exact List.rdropWhile_append_rtakeWhile
  · intro c hc
    exact List.mem_rtakeWhile_imp hc

theorem trim_append_of_blank_left {lead : List Char} (h : ∀ c ∈ lead, isBlank c = true)
    (cs : List Char) : trim (lead ++ cs) = trim cs := by
  rw [trim, trimStart, List.dropWhile_append_of_pos h]
  rfl

theorem trimEnd_append_of_blank {tail : List Char} (h : ∀ c ∈ tail, isBlank c = true)
    (cs : List Char) : trimEnd (cs ++ tail) = trimEnd cs := by
  rw [trimEnd, List.reverse_append, List.dropWhile_append_of_pos]
  · rfl
  · intro c hc
    exact h c (List.mem_reverse.1 hc)

theorem trim_of_blank {cs : List Char} (h : ∀ c ∈ cs, isBlank c = true) : trim cs = [] := by
  have hnil := trim_append_of_blank_left h []
  rwa [List.append_nil] at hnil

theorem trim_append_of_blank_right {tail : List Char} (h : ∀ c ∈ tail, isBlank c = true)
    (cs : List Char) : trim (cs ++ tail) = trim cs := by
  by_cases hcs : ∀ c ∈ cs, isBlank c = true
  · rw [trim_append_of_blank_left hcs, trim_of_blank h, trim_of_blank hcs]
  · -- something is left of the text, so its start is trimmed as it is without the tail
    have hstart : ¬(cs.dropWhile isBlank).isEmpty = true := by
      rw [List.isEmpty_iff, List.dropWhile_eq_nil_iff]
      exact hcs
    rw [trim, trimStart, List.dropWhile_append, if_neg hstart, trimEnd_append_of_blank h]
    rfl

theorem trim_trimStart (cs : List Char) : trim (trimStart cs) = trim cs := by
  rw [trim, trim, trimStart, trimStart, List.dropWhile_idempotent]

theorem not_blank_of_trimStart_eq_cons {c : Char} {cs rest : List Char}
    (h : trimStart cs = c :: rest) : isBlank c = false := by
  have hhead := List.head?_dropWhile_not isBlank cs
  rw [trimStart] at h
  simpa [h] using hhead

/-- A trimmed text does not start with white space. -/
theorem not_blank_of_trim_eq_cons {c : Char} {cs rest : List Char}
    (h : trim cs = c :: rest) : isBlank c = false := by
  -- trimming the end keeps the first character
  obtain ⟨tail, htail, -⟩ := exists_blank_tail (trimStart cs)
  rw [← trim, h, List.cons_append] at htail
  exact not_blank_of_trimStart_eq_cons htail.symm

theorem trim_ne_nil {c : Char} (h : isBlank c = false) (cs : List Char) :
    trim (c :: cs) ≠ [] := by
  intro hnil
  rw [trim, trimStart, List.dropWhile_cons_of_neg (by simp [h]), trimEnd_eq_rdropWhile,
    List.rdropWhile_eq_nil_iff] at hnil
  have hc := hnil c List.mem_cons_self
  rw [h] at hc
  cases hc

/-! ### Starts of a text -/

/-- Trimming a text first does not change what it starts with, up to white space, unless
the start ends within the white space before the text. -/
theorem trim_takeWhile {p : Char → Bool} {cs : List Char}
    (h : ∀ c ∈ cs.takeWhile isBlank, p c = true) :
    trim (cs.takeWhile p) = trim ((trim cs).takeWhile p) := by
  obtain ⟨tail, htail, hblank⟩ := exists_blank_tail (trimStart cs)
  -- the text is white space, its trimmed form and white space again
  have hcs : cs = cs.takeWhile isBlank ++ (trim cs ++ tail) := by
    rw [trim, htail]
    exact List.takeWhile_append_dropWhile.symm
  have hlead : ∀ c ∈ cs.takeWhile isBlank, isBlank c = true :=
    fun c hc => List.mem_takeWhile_imp hc
  calc trim (cs.takeWhile p)
      = trim ((cs.takeWhile isBlank ++ (trim cs ++ tail)).takeWhile p) := by rw [← hcs]
    _ = trim ((trim cs ++ tail).takeWhile p) := by
      rw [List.takeWhile_append_of_pos h, trim_append_of_blank_left hlead]
    _ = trim ((trim cs).takeWhile p) := by
      rw [List.takeWhile_append]
      split
      next hall =>
        -- the start reaches into the white space behind the text
        have hself : (trim cs).takeWhile p = trim cs :=
          (List.takeWhile_prefix p).eq_of_length hall
        rw [hself]
        apply trim_append_of_blank_right
        intro c hc
        exact hblank c ((List.takeWhile_sublist p).subset hc)
      next => rfl

/-- A start that ends within the white space before a text is blank. -/
theorem trim_takeWhile_of_blank {p : Char → Bool} {cs : List Char}
    (h : ¬∀ c ∈ cs.takeWhile isBlank, p c = true) : trim (cs.takeWhile p) = [] := by
  apply trim_of_blank
  intro c hc
  rw [← List.takeWhile_append_dropWhile (p := isBlank) (l := cs), List.takeWhile_append]
    at hc
  split at hc
  -- the start would reach beyond the white space
  next hall =>
    have hself := (List.takeWhile_prefix p).eq_of_length hall
    exact absurd (List.takeWhile_eq_self_iff.1 hself) h
  next => exact List.mem_takeWhile_imp ((List.takeWhile_sublist p).subset hc)

end Recommend.Text
