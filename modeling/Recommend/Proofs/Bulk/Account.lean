import Recommend.Proofs.Bulk.Alignment

/-!
The account that a build gives of its lines.

A line is of one of four kinds (`LineKind`).  The kind, and the key if there is one, are
read off the line alone: they depend on the delimiters and on nothing that has been
taken in before.  Three of the statistics count lines of a kind.  The other two share
the rows between them, and there the index comes in: the rows inserted are as many as
the records that came in, and the others had a key that was taken.

`Accounts b b' kinds` says all of this about a builder before and after lines of these
kinds.  One line keeps the account (`accounts_addLine`) and accounts add up
(`Accounts.trans`), so every run of lines has one (`accounts_foldl_addLine`).
-/

namespace Recommend

/-- What a line is good for. -/
inductive LineKind where
  | unreadable
  | empty
  | blankKey
  | row
  deriving DecidableEq

/-- The kind of a line that has been read. -/
def BulkLine.kind : BulkLine → LineKind
  | empty => .empty
  | blankKey => .blankKey
  | row _ _ => .row

namespace BulkFormat

open Text (trim)

/-! ### Kinds and keys of lines -/

/-- The kind of a line: whether it is UTF-8, holds anything but white space, and has a
first column that is not empty once the white space at its ends is gone. -/
def kind (f : BulkFormat) (line : Bytes) : LineKind :=
  match line.text? with
  | none => .unreadable
  | some text =>
    if trim text.toList = [] then .empty
    else if f.firstColumn (trim text.toList) = [] then .blankKey
    else .row

/-- The key of a line: its first column once the white space at its ends is gone, unless
that is empty. -/
def key? (f : BulkFormat) (line : Bytes) : Option String :=
  (line.text?.map fun text => String.ofList (f.firstColumn (trim text.toList))).filter
    fun key => key ≠ ""

variable {f : BulkFormat} {line : Bytes} {text : String}

theorem kind_of_no_text (h : line.text? = none) : f.kind line = .unreadable := by
  rw [kind, h]

theorem readLine_of_blank (h : trim text.toList = []) : f.readLine text = .empty := by
  rw [readLine, h]

theorem readLine_of_not_blank (h : trim text.toList ≠ []) {column : List Char}
    {columns : List (List Char)}
    (hsplit : Text.splitAny f.between (trim text.toList) = column :: columns) :
    f.readLine text =
      if column.isEmpty then .blankKey
      else .row (String.ofList column) (f.record columns) := by
  unfold readLine
  split
  next htrim => exact absurd htrim h
  next => rw [hsplit]

/-- The columns of a line start with its first one. -/
theorem exists_columns (f : BulkFormat) (cs : List Char) :
    ∃ columns, Text.splitAny f.between cs = f.firstColumn cs :: columns :=
  Text.splitBy_eq_cons _ cs

/-- Reading a line tells its kind. -/
theorem kind_eq_readLine_kind (h : line.text? = some text) :
    f.kind line = (f.readLine text).kind := by
  rw [kind, h]
  dsimp only
  -- both sides look at the trimmed line first and at its first column after that
  by_cases htrim : trim text.toList = []
  · rw [if_pos htrim, readLine_of_blank htrim, BulkLine.kind]
  · obtain ⟨columns, hsplit⟩ := f.exists_columns (trim text.toList)
    rw [if_neg htrim, readLine_of_not_blank htrim hsplit]
    by_cases hcolumn : f.firstColumn (trim text.toList) = []
    · rw [if_pos hcolumn, if_pos (List.isEmpty_iff.2 hcolumn), BulkLine.kind]
    · rw [if_neg hcolumn, if_neg (fun he => hcolumn (List.isEmpty_iff.1 he)), BulkLine.kind]

/-- A line with a row is of the kind of rows. -/
theorem kind_of_row? {row : String × Record} (h : f.row? line = some row) :
    f.kind line = .row := by
  obtain ⟨hkey, columns, ⟨text, htext, hsplit⟩, hrecord⟩ := row?_eq_some_iff.1 h
  rw [kind_eq_readLine_kind htext, readLine_eq_row_iff.2 ⟨hkey, columns, hsplit, hrecord⟩,
    BulkLine.kind]

/-- The key of a line is its trimmed first column, if there is something in it. -/
theorem key?_eq_some_iff {key : String} : f.key? line = some key ↔
    key ≠ "" ∧ ∃ text, line.text? = some text ∧
      f.firstColumn (trim text.toList) = key.toList := by
  rw [key?, Option.filter_eq_some_iff, Option.map_eq_some_iff, decide_eq_true_iff]
  constructor
  · rintro ⟨⟨text, htext, rfl⟩, hne⟩
    exact ⟨hne, text, htext, String.toList_ofList.symm⟩
  · rintro ⟨hne, text, htext, hcolumn⟩
    refine ⟨⟨text, htext, ?_⟩, hne⟩
    rw [hcolumn, String.ofList_toList]

/-- A line has a key iff it has a row, and the row is under that key. -/
theorem map_fst_row? (f : BulkFormat) (line : Bytes) :
    (f.row? line).map Prod.fst = f.key? line := by
  apply Option.ext
  intro key
  rw [key?_eq_some_iff, Option.map_eq_some_iff]
  constructor
  · rintro ⟨⟨key', record⟩, hrow, rfl⟩
    obtain ⟨hne, columns, ⟨text, htext, hsplit⟩, -⟩ := row?_eq_some_iff.1 hrow
    -- the key and the first column both stand at the front of the columns
    obtain ⟨columns', hsplit'⟩ := f.exists_columns (trim text.toList)
    exact ⟨hne, text, htext, (List.cons.inj (hsplit'.symm.trans hsplit)).1⟩
  · rintro ⟨hne, text, htext, hcolumn⟩
    obtain ⟨columns, hsplit⟩ := f.exists_columns (trim text.toList)
    rw [hcolumn] at hsplit
    exact ⟨_, row?_eq_some_iff.2 ⟨hne, columns, ⟨text, htext, hsplit⟩, rfl⟩, rfl⟩

/-- The lines that have a part in the record of a key are those with the key. -/
theorem isSome_recordOf?_iff_key? {key : String} :
    (f.recordOf? key line).isSome = true ↔ f.key? line = some key := by
  rw [← map_fst_row?, recordOf?]
  cases f.row? line with
  | none => simp
  | some row => by_cases hkey : row.1 = key <;> simp [hkey]

end BulkFormat

/-- An insertion makes the index larger by one record. -/
theorem Index.size_insert? {ix ix' : Index} {key : String} {record : Record}
    (h : ix.insert? key record = some ix') : ix'.size = ix.size + 1 := by
  -- only a key that is not taken is inserted
  have hnew : ¬ix.forward.contains key = true := by
    have hnone : ix.forward.find? key = none := record?_of_insert? h
    simp [SortedMap.contains, hnone]
  rw [eq_of_insert? h, Index.size, SortedMap.size_insert, if_neg hnew]
  rfl

attribute [ext] BuildStats

namespace Builder

/-! ### Accounts -/

/-- Between the two states of a builder, lines of these kinds have been taken in and
accounted for. -/
structure Accounts (b b' : Builder) (kinds : List LineKind) : Prop where
  lines : b'.stats.lines = b.stats.lines + kinds.length
  emptyLines : b'.stats.emptyLines = b.stats.emptyLines + kinds.count .empty
  blankKeys : b'.stats.blankKeys = b.stats.blankKeys + kinds.count .blankKey
  rows : b'.stats.inserted + b'.stats.duplicateKeys =
    b.stats.inserted + b.stats.duplicateKeys + kinds.count .row
  inserted : b'.stats.inserted + b.index.size = b.stats.inserted + b'.index.size

theorem Accounts.refl (b : Builder) : Accounts b b [] := ⟨rfl, rfl, rfl, rfl, rfl⟩

/-- Accounts add up. -/
theorem Accounts.trans {b b' b'' : Builder} {kinds kinds' : List LineKind}
    (h : Accounts b b' kinds) (h' : Accounts b' b'' kinds') :
    Accounts b b'' (kinds ++ kinds') where
  lines := by rw [h'.lines, h.lines, List.length_append, Nat.add_assoc]
  emptyLines := by rw [h'.emptyLines, h.emptyLines, List.count_append, Nat.add_assoc]
  blankKeys := by rw [h'.blankKeys, h.blankKeys, List.count_append, Nat.add_assoc]
  rows := by rw [h'.rows, h.rows, List.count_append, Nat.add_assoc]
  inserted := by
    have hfirst := h.inserted
    have hsecond := h'.inserted
    omega

/-- A row is inserted and its record comes in, or its key is taken. -/
theorem accounts_addRow {b b' : Builder} (hindex : b'.index = b.index)
    (hstats : b'.stats = { b.stats with lines := b.stats.lines + 1 }) (key : String)
    (record : Record) :
    Accounts b (b'.addRow key record) [.row] := by
  cases hold : b'.index.record? key with
  -- the index stays as it is, and the row counts as a repetition
  | some old =>
    rw [addRow_of_isSome (by rw [hold]; rfl), hindex, hstats]
    exact ⟨rfl, rfl, rfl, rfl, rfl⟩
  -- there is one record more, and one row inserted more
  | none =>
    have hins := Index.insert?_eq_some hold record
    have hsize := Index.size_insert? hins
    rw [addRow_of_insert? hins, hstats]
    rw [hindex] at hsize
    refine ⟨rfl, rfl, rfl, Nat.add_right_comm _ _ _, ?_⟩
    dsimp only
    rw [hindex, hsize]
    omega

/-- One line is accounted for by its kind. -/
theorem accounts_addLine (b : Builder) (line : Bytes) :
    Accounts b (b.addLine line) [b.format.kind line] := by
  unfold addLine
  cases htext : line.text? with
  | none =>
    rw [BulkFormat.kind_of_no_text htext]
    exact ⟨rfl, rfl, rfl, rfl, rfl⟩
  | some text =>
    rw [BulkFormat.kind_eq_readLine_kind htext]
    dsimp only
    unfold addText
    cases hread : b.format.readLine text with
    | empty => exact ⟨rfl, rfl, rfl, rfl, rfl⟩
    | blankKey => exact ⟨rfl, rfl, rfl, rfl, rfl⟩
    | row key record =>
      apply accounts_addRow
      · rfl
      · rfl

/-- A whole run of lines is accounted for by their kinds. -/
theorem accounts_foldl_addLine (lines : List Bytes) (b : Builder) :
    Accounts b (lines.foldl addLine b) (lines.map b.format.kind) := by
  induction lines generalizing b with
  | nil => exact Accounts.refl b
  | cons line lines ih =>
    -- the format is that of the start, so kinds mean the same all along the run
    have hrun := ih (b.addLine line)
    rw [addLine_format] at hrun
    exact (b.accounts_addLine line).trans hrun

/-- The statistics of a build are those of its lines, and it inserts as many rows as it
has records. -/
theorem accounts_consumeAll (b : Builder) (sources : List Bytes) :
    Accounts b (b.consumeAll sources) ((sources.flatMap bulkLines).map b.format.kind) := by
  rw [consumeAll_eq_foldl]
  exact accounts_foldl_addLine _ b

end Builder

end Recommend
