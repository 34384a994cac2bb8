import Recommend.Proofs.Bulk.LoadOrder

/-!
Sources put together into one.

The last line of a source ends where the source does, whether or not there is a line
feed.  Put before another source, such a line would run on.  So a line feed goes between
the two, unless the first source ends with one or is empty (`seam`), and then the lines
of both are those of one source:

    bulkLines (glue first second) = bulkLines first ++ bulkLines second

This holds of bytes, not of text: a character cut in two by the end of a source stays
cut.  A source that needs no line feed is `Closed`, and that is what the induction is
about (`bulkLines_append`).
-/

namespace Recommend

/-! ### Lines at the end of a source -/

/-- Nothing stands behind the last line feed of a source. -/
def Closed (source : Bytes) : Prop := ∀ b, source.getLast? = some b → b = 10

/-- What has to stand between a source and the next one: a line feed if a line is left
open. -/
def seam (source : Bytes) : Bytes :=
  if source ≠ [] ∧ source.getLast? ≠ some 10 then [10] else []

/-- One source behind another. -/
def glue (first second : Bytes) : Bytes := first ++ seam first ++ second

theorem Closed.of_cons {b : UInt8} {source : Bytes} (h : Closed (b :: source)) :
    Closed source := by
  intro last hlast
  apply h
  rw [List.getLast?_cons, hlast]
  rfl

/-- A source with anything in it has a line. -/
theorem bulkLines_ne_nil {source : Bytes} (h : source ≠ []) : bulkLines source ≠ [] := by
  cases source with
  | nil => exact absurd rfl h
  | cons b source =>
    rw [bulkLines]
    split
    · simp
    · split <;> simp

/-- A byte that is no line feed goes to the front of the first line behind it. -/
theorem bulkLines_cons_of_ne {b : UInt8} (h : b ≠ 10) {source line : Bytes}
    {lines : List Bytes} (hlines : bulkLines source = line :: lines) :
    bulkLines (b :: source) = (b :: line) :: lines := by
  rw [bulkLines, if_neg h, hlines]

/-- What stands before a line feed is a line. -/
theorem bulkLines_append_cons {line : Bytes} (h : 10 ∉ line) (source : Bytes) :
    bulkLines (line ++ 10 :: source) = line :: bulkLines source := by
  induction line with
  | nil => rw [List.nil_append, bulkLines, if_pos rfl]
  | cons b line ih =>
    have hb : b ≠ 10 := fun heq => h (heq ▸ List.mem_cons_self)
    exact bulkLines_cons_of_ne hb (ih fun hmem => h (List.mem_cons_of_mem b hmem))

/-- Lines that are all closed stay as they are before other lines. -/
theorem bulkLines_append {first : Bytes} (h : Closed first) (second : Bytes) :
    bulkLines (first ++ second) = bulkLines first ++ bulkLines second := by
  induction first with
  | nil => rfl
  | cons b first ih =>
    have hrest := ih h.of_cons
    by_cases hb : b = 10
    · rw [List.cons_append, bulkLines, if_pos hb, hrest, bulkLines, if_pos hb,
        List.cons_append]
    · -- the line of this byte is closed further on, so it is not the last thing in the source
      have hne : first ≠ [] := by
        rintro rfl
        exact hb (h b rfl)
      obtain ⟨line, lines, hlines⟩ := List.exists_cons_of_ne_nil (bulkLines_ne_nil hne)
      rw [hlines, List.cons_append] at hrest
      rw [List.cons_append, bulkLines_cons_of_ne hb hrest, bulkLines_cons_of_ne hb hlines,
        List.cons_append]

/-- A line feed behind an open line only closes it. -/
theorem bulkLines_append_lf {source : Bytes} (hne : source ≠ [])
    (hopen : source.getLast? ≠ some 10) :
    bulkLines (source ++ [10]) = bulkLines source := by
  induction source with
  | nil => exact absurd rfl hne
  | cons b source ih =>
    cases source with
    | nil =>
      have hb : b ≠ 10 := by
        rintro rfl
        exact hopen rfl
      have hclosed : bulkLines [10] = [[]] := rfl
      rw [List.singleton_append, bulkLines_cons_of_ne hb hclosed, bulkLines, if_neg hb]
      rfl
    -- the line feed stays behind the rest, which is open as the whole is
    | cons b' source =>
      have hrest := ih (List.cons_ne_nil _ _) (by rwa [List.getLast?_cons_cons] at hopen)
      rw [List.cons_append, bulkLines, hrest]
      rfl

/-- The seam opens no line of its own. -/
theorem bulkLines_append_seam (source : Bytes) :
    bulkLines (source ++ seam source) = bulkLines source := by
  unfold seam
  split
  next h => exact bulkLines_append_lf h.1 h.2
  next => rw [List.append_nil]

/-- With its seam a source is closed. -/
theorem closed_append_seam (source : Bytes) : Closed (source ++ seam source) := by
  unfold seam
  split
  next =>
    intro b hb
    rw [List.getLast?_concat] at hb
    exact (Option.some.inj hb).symm
  -- without a line feed in the seam, the source is empty or ends with one itself
  next h =>
    rw [List.append_nil]
    intro b hb
    by_contra hne
    refine h ⟨?_, ?_⟩
    · rintro rfl
      cases hb
    · rw [hb]
      exact fun heq => hne (Option.some.inj heq)

/-- The lines of two sources put together are those of the first and then those of the
second. -/
theorem bulkLines_glue (first second : Bytes) :
    bulkLines (glue first second) = bulkLines first ++ bulkLines second := by
  rw [glue, bulkLines_append (closed_append_seam first), bulkLines_append_seam]

/-- The bytes are a letter and the start of a character of two bytes. -/
example : bulkLines (glue [0x61, 0xc3] [0xa9]) = [[0x61, 0xc3], [0xa9]] ∧
    bulkLines ([0x61, 0xc3] ++ [0xa9]) = [[0x61, 0xc3, 0xa9]] := by decide

/-! ### Builds -/

namespace Builder

theorem consume_append_lines (b : Builder) {first second joined : Bytes}
    (h : bulkLines joined = bulkLines first ++ bulkLines second) :
    (b.consume first).consume second = b.consume joined := by
  rw [consume, consume, consume, h, List.foldl_append]

/-- Taking in one source after the other is taking in the glued one. -/
theorem consumeAll_eq_consume_foldl (sources : List Bytes) (b : Builder) (source : Bytes) :
    (b.consume source).consumeAll sources = b.consume (sources.foldl glue source) := by
  induction sources generalizing source with
  | nil => rfl
  | cons next sources ih =>
    rw [List.foldl_cons, ← ih, ← b.consume_append_lines (bulkLines_glue source next)]
    rfl

/-- **Taking in several sources is taking in one.**  Whatever has been taken in before,
a source and then another leave the same records, the same postings in the same order
and the same statistics as the two put together, with a line feed between them if the
first one is not empty and does not end with one; and so do any number of sources. -/
theorem consume_glued (b : Builder) :
    (∀ first second, (b.consume first).consume second = b.consume (glue first second)) ∧
      ∀ sources, b.consumeAll sources = b.consume (sources.foldl glue []) := by
  constructor
  · intro first second
    exact b.consume_append_lines (bulkLines_glue first second)
  · intro sources
    exact b.consumeAll_eq_consume_foldl sources []

end Builder

end Recommend
