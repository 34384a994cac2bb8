import Recommend.Proofs.Text.Blank
import Recommend.Proofs.Text.Bytes

/-!
Pieces of text with separators between them.

`Joined separators pieces text` says that `text` is the pieces one after the other, with
some separator between any two; which one it is may change from place to place.  Pieces
without separators are found again by cutting (`Joined.splitAny_eq`).

A separator may be white space.  If the text is trimmed at its end, it loses the
separators there that are, together with the empty pieces behind them, and nothing else
as long as no piece ends with white space itself (`Joined.trimEnd`).
-/

namespace Recommend.Text

/-! ### Ends of a text -/

/-- The text does not start with white space. -/
def StartsPlain (cs : List Char) : Prop := cs.head?.any isBlank = false

/-- The text does not end with white space. -/
def EndsPlain (cs : List Char) : Prop := cs.getLast?.any isBlank = false

instance (cs : List Char) : Decidable (StartsPlain cs) :=
  inferInstanceAs (Decidable (cs.head?.any isBlank = false))

instance (cs : List Char) : Decidable (EndsPlain cs) :=
  inferInstanceAs (Decidable (cs.getLast?.any isBlank = false))

theorem trimStart_eq {cs : List Char} (h : StartsPlain cs) : trimStart cs = cs := by
  cases cs with
  | nil => rfl
  | cons c cs =>
    have hc : isBlank c = false := h
    rw [trimStart, List.dropWhile_cons_of_neg (by simp [hc])]

theorem trimEnd_eq {cs : List Char} (h : EndsPlain cs) : trimEnd cs = cs := by
  rw [trimEnd_eq_rdropWhile, List.rdropWhile_eq_self_iff]
  intro hne
  rw [EndsPlain, List.getLast?_eq_some_getLast hne] at h
  rw [show isBlank (cs.getLast hne) = false from h]
  exact Bool.false_ne_true

theorem StartsPlain.append {cs : List Char} (h : StartsPlain cs) (hne : cs ≠ [])
    (rest : List Char) : StartsPlain (cs ++ rest) := by
  rwa [StartsPlain, List.head?_append_of_ne_nil _ hne]

theorem EndsPlain.append {rest : List Char} (h : EndsPlain rest) (hne : rest ≠ [])
    (cs : List Char) : EndsPlain (cs ++ rest) := by
  rwa [EndsPlain, List.getLast?_append_of_ne_nil _ hne]

/-- Trimming reaches back into a text only if all that follows it is blank. -/
theorem trimEnd_append (cs rest : List Char) :
    trimEnd (cs ++ rest) =
      if trimEnd rest = [] then trimEnd cs else cs ++ trimEnd rest := by
  -- read backwards, what follows comes first
  rw [trimEnd, trimEnd, trimEnd, List.reverse_append, List.dropWhile_append]
  by_cases hrest : rest.reverse.dropWhile isBlank = []
  · rw [hrest]
    rfl
  · rw [if_neg (by rwa [List.isEmpty_iff]), if_neg (by rwa [List.reverse_eq_nil_iff]),
      List.reverse_append, List.reverse_reverse]

/-! ### Joined pieces -/

/-- The text is the pieces in their order, with a separator between any two. -/
inductive Joined (separators : String) : List (List Char) → List Char → Prop
  | nil : Joined separators [] []
  | single (piece : List Char) : Joined separators [piece] piece
  | cons (piece : List Char) {next : List Char} {pieces : List (List Char)} {mark : Char}
    {text : List Char} :
      mark ∈ separators.toList → Joined separators (next :: pieces) text →
        Joined separators (piece :: next :: pieces) (piece ++ mark :: text)

variable {separators : String} {piece : List Char} {pieces : List (List Char)}
  {text : List Char}

/-- A character of the text is a separator or belongs to a piece. -/
theorem Joined.mem (h : Joined separators pieces text) {c : Char} (hc : c ∈ text) :
    c ∈ separators.toList ∨ ∃ piece ∈ pieces, c ∈ piece := by
  induction h with
  | nil => cases hc
  | single piece => exact .inr ⟨piece, List.mem_singleton_self piece, hc⟩
  | cons piece hmark _ ih =>
    rcases List.mem_append.1 hc with hc | hc
    · exact .inr ⟨piece, List.mem_cons_self, hc⟩
    · rcases List.mem_cons.1 hc with rfl | hc
      · exact .inl hmark
      · rcases ih hc with hsep | ⟨piece', hmem, hc⟩
        · exact .inl hsep
        · exact .inr ⟨piece', List.mem_cons_of_mem piece hmem, hc⟩

theorem Joined.prefix (h : Joined separators (piece :: pieces) text) : piece <+: text := by
  cases h with
  | single => exact List.prefix_refl piece
  | cons => exact List.prefix_append _ _

/-- Only one empty piece makes an empty text. -/
theorem Joined.eq_nil (h : Joined separators (piece :: pieces) text) (htext : text = []) :
    piece = [] ∧ pieces = [] := by
  cases h with
  | single => exact ⟨htext, rfl⟩
  | cons => exact absurd htext (List.append_ne_nil_of_right_ne_nil _ (List.cons_ne_nil _ _))

/-- The last piece ends the text, if it is not empty. -/
theorem Joined.endsPlain (h : Joined separators pieces text)
    (hpieces : ∀ piece ∈ pieces, piece ≠ [] ∧ EndsPlain piece) : EndsPlain text := by
  induction h with
  | nil => rfl
  | single piece => exact (hpieces piece (List.mem_singleton_self piece)).2
  | cons piece _ hrest ih =>
    have hplain := ih fun p hp => hpieces p (List.mem_cons_of_mem piece hp)
    -- a text is empty only if its first piece is
    have hne :=
      fun hnil => (hpieces _ (List.mem_cons_of_mem piece List.mem_cons_self)).1
        (hrest.eq_nil hnil).1
    rw [← List.singleton_append, ← List.append_assoc]
    exact hplain.append hne _

/-- A text without separators is one piece. -/
theorem splitAny_of_notMem {cs : List Char} (h : ∀ c ∈ cs, c ∉ separators.toList) :
    splitAny separators cs = [cs] := by
  have hcs : ∀ c ∈ cs, separators.toList.contains c = false := by simpa using h
  have hnil : splitBy (fun c => separators.toList.contains c) [] = [[]] := rfl
  have hsplit := splitBy_append hcs hnil
  rwa [List.append_nil] at hsplit

/-- Cutting at the separators gives the pieces back. -/
theorem Joined.splitAny_eq (h : Joined separators pieces text) (hne : pieces ≠ [])
    (hpieces : ∀ piece ∈ pieces, ∀ c ∈ piece, c ∉ separators.toList) :
    splitAny separators text = pieces := by
  induction h with
  | nil => exact absurd rfl hne
  | single piece => exact splitAny_of_notMem (hpieces piece (List.mem_singleton_self piece))
  | cons piece hmark _ ih =>
    have hpiece := splitAny_of_notMem (hpieces piece List.mem_cons_self)
    have hrest :=
      ih (List.cons_ne_nil _ _) fun p hp => hpieces p (List.mem_cons_of_mem piece hp)
    rw [splitAny, splitBy_append_cons (by simpa using hmark), ← splitAny, ← splitAny,
      hpiece, hrest]
    rfl

/-- Trimming the end of joined pieces takes off empty pieces at the end, each with a
blank separator. -/
theorem Joined.trimEnd (h : Joined separators (piece :: pieces) text)
    (hends : ∀ p ∈ piece :: pieces, EndsPlain p) :
    ∃ kept n, Joined separators (piece :: kept) (trimEnd text) ∧
      pieces = kept ++ List.replicate n [] := by
  -- on how the text is joined; the pieces are made a variable for that
  generalize hall : piece :: pieces = all at h hends
  induction h generalizing piece pieces with
  | nil => cases hall
  | single piece' =>
    cases hall
    refine ⟨[], 0, ?_, rfl⟩
    rw [trimEnd_eq (hends piece' (List.mem_singleton_self _))]
    exact .single _
  | @cons piece' next rest mark text hmark _ ih =>
    cases hall
    have hpiece := trimEnd_eq (hends piece' List.mem_cons_self)
    obtain ⟨kept, n, hjoined, hrest⟩ :=
      ih rfl fun p hp => hends p (List.mem_cons_of_mem piece' hp)
    rw [← List.singleton_append, ← List.append_assoc, trimEnd_append]
    split
    next hnil =>
      -- nothing is left of what stands behind the separator
      obtain ⟨rfl, rfl⟩ := hjoined.eq_nil hnil
      rw [trimEnd_append]
      by_cases hblank : isBlank mark = true
      -- a blank separator goes, and with it the empty piece
      · have hmarks : Text.trimEnd [mark] = [] := by simp [Text.trimEnd, hblank]
        rw [if_pos hmarks, hpiece]
        exact ⟨[], n + 1, .single _, by rw [hrest]; rfl⟩
      -- any other separator stays and keeps the empty piece
      · have hmarks : Text.trimEnd [mark] = [mark] := by simp [Text.trimEnd, hblank]
        rw [hmarks, if_neg (List.cons_ne_nil _ _)]
        exact ⟨[[]], n, .cons piece' hmark (.single []), by rw [hrest]; rfl⟩
    next =>
      rw [List.append_assoc, List.singleton_append]
      exact ⟨next :: kept, n, .cons piece' hmark hjoined, by rw [hrest]; rfl⟩

end Recommend.Text
