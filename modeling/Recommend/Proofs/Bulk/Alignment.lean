import Recommend.Proofs.Bulk.FirstWrite
import Recommend.Proofs.Text.Blank

/-!
Which column of a line its key is.

A line loses the white space at its ends, and is cut at the delimiters after that.  A
delimiter may be white space itself, as a tab is.  Then the delimiters at the start of
the line are gone before they can cut, and every column moves up.  A line is `Aligned`
if this does not happen: none of its leading white space is a delimiter.

For a line that is inserted, the key is its own first column, up to white space, exactly
if the line is aligned (`trim_key_eq_iff`).  A line that is not aligned has a blank
first column, and is read as if it began behind its white space; so it may well be
inserted (`addLine_shifts_columns`).  Without a blank delimiter every line is aligned.
-/

namespace Recommend

namespace BulkFormat

open Text (trim trimStart isBlank)

/-! ### Columns of a line -/

/-- The first column of a line as it stands: what comes before the first delimiter. -/
def firstColumn (f : BulkFormat) (line : List Char) : List Char :=
  line.takeWhile fun c => !f.between.toList.contains c

/-- None of the white space that a line starts with is a delimiter. -/
def Aligned (f : BulkFormat) (line : List Char) : Prop :=
  ∀ c ∈ line.takeWhile isBlank, c ∉ f.between.toList

theorem aligned_iff {f : BulkFormat} {line : List Char} :
    f.Aligned line ↔ ∀ c ∈ line.takeWhile isBlank,
      (!f.between.toList.contains c) = true := by
  simp [Aligned]

/-- A line that starts with no white space is aligned. -/
theorem aligned_trimStart (f : BulkFormat) (line : List Char) :
    f.Aligned (trimStart line) := by
  intro c hc
  cases hline : trimStart line with
  | nil => simp [hline] at hc
  | cons c' rest =>
    have hblank := Text.not_blank_of_trimStart_eq_cons hline
    simp [hline, hblank] at hc

/-- Without a blank delimiter every line is aligned. -/
theorem aligned_of_no_blank {f : BulkFormat} (h : ∀ c ∈ f.between.toList, isBlank c = false)
    (line : List Char) : f.Aligned line := by
  intro c hc hmem
  have hblank : isBlank c = true := List.mem_takeWhile_imp hc
  rw [h c hmem] at hblank
  cases hblank

/-- The key of a row is the first column of the trimmed line. -/
theorem toList_key_of_row {f : BulkFormat} {text key : String} {record : Record}
    (h : f.readLine text = .row key record) :
    key.toList = f.firstColumn (trim text.toList) := by
  obtain ⟨-, columns, hsplit, -⟩ := readLine_eq_row_iff.1 h
  obtain ⟨pieces, hpieces⟩ := Text.splitBy_eq_cons (fun c => f.between.toList.contains c)
    (trim text.toList)
  rw [Text.splitAny, hpieces] at hsplit
  exact (List.cons.inj hsplit).1.symm

/-- The key of a row is not blank. -/
theorem trim_key_ne_nil {f : BulkFormat} {text key : String} {record : Record}
    (h : f.readLine text = .row key record) : trim key.toList ≠ [] := by
  obtain ⟨hkey, -⟩ := readLine_row h
  have hcolumn := toList_key_of_row h
  cases hchars : key.toList with
  | nil => exact absurd (String.toList_eq_nil_iff.1 hchars) hkey
  | cons c rest =>
    -- the first character of the key is that of the trimmed line
    obtain ⟨more, hmore⟩ : f.firstColumn (trim text.toList) <+: trim text.toList :=
      List.takeWhile_prefix _
    rw [← hcolumn, hchars, List.cons_append] at hmore
    exact Text.trim_ne_nil (Text.not_blank_of_trim_eq_cons hmore.symm) rest

/-- The key of an aligned line is its first column, up to white space. -/
theorem trim_key_of_aligned {f : BulkFormat} {text key : String} {record : Record}
    (h : f.readLine text = .row key record) (haligned : f.Aligned text.toList) :
    trim key.toList = trim (f.firstColumn text.toList) := by
  rw [toList_key_of_row h]
  exact (Text.trim_takeWhile (aligned_iff.1 haligned)).symm

/-- A line that is not aligned has a blank first column. -/
theorem trim_firstColumn_of_not_aligned {f : BulkFormat} {line : List Char}
    (h : ¬f.Aligned line) : trim (f.firstColumn line) = [] := by
  rw [aligned_iff] at h
  exact Text.trim_takeWhile_of_blank h

/-- The key of a row is the first column of its line exactly if the line is aligned. -/
theorem trim_key_eq_iff {f : BulkFormat} {text key : String} {record : Record}
    (h : f.readLine text = .row key record) :
    trim key.toList = trim (f.firstColumn text.toList) ↔ f.Aligned text.toList := by
  constructor
  · intro heq
    by_contra hnot
    rw [trim_firstColumn_of_not_aligned hnot] at heq
    exact trim_key_ne_nil h heq
  · exact trim_key_of_aligned h

/-- Trimming the end of a line as well leaves its first column as it is, up to white
space. -/
theorem trim_firstColumn_trim (f : BulkFormat) (line : List Char) :
    trim (f.firstColumn (trim line)) = trim (f.firstColumn (trimStart line)) := by
  rw [← Text.trim_trimStart line]
  exact (Text.trim_takeWhile (aligned_iff.1 (f.aligned_trimStart line))).symm

/-- Whatever the delimiters are, the key of a row is the first column of its line behind
the white space that the line starts with. -/
theorem trim_key_eq_trimStart {f : BulkFormat} {text key : String} {record : Record}
    (h : f.readLine text = .row key record) :
    trim key.toList = trim (f.firstColumn (trimStart text.toList)) := by
  rw [toList_key_of_row h, trim_firstColumn_trim]

/-- A line has a row if that column is not blank. -/
theorem exists_row {f : BulkFormat} {text : String}
    (h : trim (f.firstColumn (trimStart text.toList)) ≠ []) :
    ∃ key record, f.readLine text = .row key record := by
  obtain ⟨pieces, hpieces⟩ := Text.splitBy_eq_cons (fun c => f.between.toList.contains c)
    (trim text.toList)
  have hcolumn : f.firstColumn (trim text.toList) ≠ [] := by
    intro hnil
    rw [← trim_firstColumn_trim, hnil] at h
    exact h rfl
  refine ⟨String.ofList (f.firstColumn (trim text.toList)), f.record pieces,
    readLine_eq_row_iff.2 ⟨?_, pieces, ?_, rfl⟩⟩
  · rwa [ne_eq, String.ofList_eq_empty_iff]
  · rw [String.toList_ofList]
    exact hpieces

end BulkFormat

namespace Builder

open Text (trim trimStart isBlank)

/-! ### Lines taken in -/

/-- A key that a text line brings in is that of its row. -/
theorem exists_row_of_mem_newKeys {b : Builder} {text key : String}
    (h : key ∈ b.newKeys (Bytes.ofText text)) :
    ∃ record, b.format.readLine text = .row key record := by
  obtain ⟨stats, hline⟩ | ⟨text', key', record, index, stats, htext, hrow, hins, hline⟩ :=
    b.addLine_cases (Bytes.ofText text)
  -- a line that leaves the index alone brings in no key
  · rw [newKeys_of_index_eq (by rw [hline])] at h
    cases h
  · have hindex : (b.addLine (Bytes.ofText text)).index = index := by rw [hline]
    rw [← hindex] at hins
    rw [newKeys_of_insert? hins, List.mem_singleton] at h
    obtain rfl := Option.some.inj ((Bytes.text?_ofText text).symm.trans htext)
    exact ⟨record, h ▸ hrow⟩

/-- A text line that has no row leaves the index as it is. -/
theorem index_of_no_row {b : Builder} {text : String}
    (h : ∀ key record, b.format.readLine text ≠ .row key record) :
    (b.addLine (Bytes.ofText text)).index = b.index := by
  obtain ⟨stats, hline⟩ | ⟨text', key, record, index, stats, htext, hrow, -, -⟩ :=
    b.addLine_cases (Bytes.ofText text)
  · rw [hline]
  · obtain rfl := Option.some.inj ((Bytes.text?_ofText text).symm.trans htext)
    exact absurd hrow (h key record)

/-- The key of the row of a line has a record once the line has been taken in. -/
theorem isSome_record?_of_row {b : Builder} {text key : String} {record : Record}
    (h : b.format.readLine text = .row key record) :
    ((b.addLine (Bytes.ofText text)).index.record? key).isSome = true := by
  obtain ⟨hkey, columns, hsplit, -⟩ := BulkFormat.readLine_eq_row_iff.1 h
  rw [addLine_index, BulkFormat.record?_enter, Option.isSome_or, Bool.or_eq_true]
  exact .inr (BulkFormat.isSome_recordOf?_iff.2 ⟨hkey, columns, text,
    Bytes.text?_ofText text, hsplit⟩)

/-- **A line is inserted under its own first column exactly if it is aligned.**
Whatever the delimiters and whatever has been taken in before, the key that a line
brings in is, up to white space, the first column of the line behind its leading white
space; and if that column is not blank, there is a record under it afterwards.  This is
the first column of the line as it stands iff none of the leading white space is a
delimiter.  An aligned line with a blank first column leaves records and postings as
they are.  Only a format with a blank delimiter has lines that are not aligned, and the
first column of such a line is blank. -/
theorem newKeys_first_column_iff (b : Builder) (text : String) :
    let line := Bytes.ofText text
    let first := b.format.firstColumn text.toList
    let kept := b.format.firstColumn (trimStart text.toList)
    (∀ key ∈ b.newKeys line,
      trim key.toList = trim kept ∧
        (trim key.toList = trim first ↔ b.format.Aligned text.toList)) ∧
    (trim kept ≠ [] → ∃ key, trim key.toList = trim kept ∧
      ((b.addLine line).index.record? key).isSome = true) ∧
    (b.format.Aligned text.toList → trim first = [] → (b.addLine line).index = b.index) ∧
    (¬b.format.Aligned text.toList → trim first = []) ∧
    ((∀ c ∈ b.format.between.toList, isBlank c = false) →
      b.format.Aligned text.toList) := by
  intro line first kept
  refine ⟨?_, ?_, ?_, BulkFormat.trim_firstColumn_of_not_aligned,
    fun h => BulkFormat.aligned_of_no_blank h text.toList⟩
  · intro key hkey
    obtain ⟨record, hrow⟩ := exists_row_of_mem_newKeys hkey
    exact ⟨BulkFormat.trim_key_eq_trimStart hrow, BulkFormat.trim_key_eq_iff hrow⟩
  · intro hkept
    obtain ⟨key, record, hrow⟩ := BulkFormat.exists_row hkept
    exact ⟨key, BulkFormat.trim_key_eq_trimStart hrow, isSome_record?_of_row hrow⟩
  · intro haligned hblank
    apply index_of_no_row
    intro key record hrow
    -- a row would have the blank first column for its key
    apply BulkFormat.trim_key_ne_nil hrow
    rw [BulkFormat.trim_key_of_aligned hrow haligned]
    exact hblank

/-- One of the delimiters is blank.  A line with spaces around its first column keeps it
as its key, and a line with nothing but a space before its first comma is left out. -/
theorem newKeys_first_column_of_tabs :
    let format : BulkFormat := ⟨[100, 101], "\t,", none⟩
    let b : Builder := ⟨format, .empty 100, {}⟩
    b.newKeys (Bytes.ofText "  k \tx ") = ["k "] ∧ format.Aligned "  k \tx ".toList ∧
      trim "k ".toList = trim (format.firstColumn "  k \tx ".toList) ∧
      format.Aligned " ,x\ty".toList ∧ trim (format.firstColumn " ,x\ty".toList) = [] ∧
      (b.addLine (Bytes.ofText " ,x\ty")).index = b.index := by
  intro format b
  have hkeys : b.newKeys (Bytes.ofText "  k \tx ") = ["k "] := by decide +kernel
  have haligned : format.Aligned "  k \tx ".toList := by
    rw [BulkFormat.aligned_iff, ← List.all_eq_true]
    decide +kernel
  have haligned' : format.Aligned " ,x\ty".toList := by
    rw [BulkFormat.aligned_iff, ← List.all_eq_true]
    decide +kernel
  have hblank : trim (format.firstColumn " ,x\ty".toList) = [] := by decide +kernel
  obtain ⟨hkey, -⟩ := newKeys_first_column_iff b "  k \tx "
  obtain ⟨-, -, hindex, -⟩ := newKeys_first_column_iff b " ,x\ty"
  refine ⟨hkeys, haligned, ?_, haligned', hblank, hindex haligned' hblank⟩
  exact (hkey "k " (by rw [hkeys]; exact List.mem_singleton_self _)).2.2 haligned

/-- The first column of a line is empty, and a tab divides it from the next one.  The
line is inserted all the same, under its second column, and its third column stands in
the place of the second. -/
theorem addLine_shifts_columns :
    let format : BulkFormat := ⟨[100, 101], "\t", none⟩
    let b : Builder := ⟨format, .empty 100, {}⟩
    let line := Bytes.ofText "\tx\ty"
    start format = .ok b ∧ format.firstColumn "\tx\ty".toList = [] ∧
      b.newKeys line = ["x"] ∧ trim "x".toList ≠ trim (format.firstColumn "\tx\ty".toList) ∧
      (b.addLine line).index.record? "x" = some (.ofList [(101, ["y"])]) ∧
      (b.addLine line).index.posting? 101 "y" = some ["x"] := by
  intro format b line
  refine ⟨rfl, by decide +kernel, by decide +kernel, by decide +kernel, by decide +kernel,
    by decide +kernel⟩

end Builder

end Recommend
