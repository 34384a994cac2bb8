import Mathlib.Data.List.Nodup
import Mathlib.Data.List.Zip
import Recommend.Proofs.Bulk.Account
import Recommend.Proofs.Bulk.Seam
import Recommend.Proofs.Text.Joined

/-!
Tables written in the bulk format, and what a build makes of them.

A row is written as its key and its columns with a delimiter between any two, and a
column as its values with an inner delimiter between any two (`Writes`).  Which of the
delimiters it is does not matter.  Keys and values are texts in which nothing cuts and
from which nothing is trimmed (`IsCell`).

Two things happen to a written row before it is read.  Its end is trimmed, and that may
take off empty columns; but an empty column adds nothing to a record
(`record_append_replicate`).  And where the fields of the columns are distinct, no
column adds to the values of another (`find?_record_of_distinct`).  So the row is read
back (`row?_of_writes`).

The main result is `buildFrom_of_writes`.
-/

namespace Recommend

/-! ### Lists that correspond -/

theorem nodup_map_fst_zip {α β : Type} {as : List α} (h : as.Nodup) (bs : List β) :
    ((as.zip bs).map Prod.fst).Nodup := by
  rw [List.zip_eq_zip_take_min, List.map_fst_zip (by simp)]
  exact h.sublist (List.take_sublist _ _)

/-- In lists that correspond, every element on the right has one on the left. -/
theorem exists_mem_of_forall₂ {α β : Type} {R : α → β → Prop} {as : List α} {bs : List β}
    (h : List.Forall₂ R as bs) {b : β} (hb : b ∈ bs) : ∃ a ∈ as, R a b := by
  induction h with
  | nil => cases hb
  | @cons a _ _ _ hab _ ih =>
    rcases List.mem_cons.1 hb with rfl | hb
    · exact ⟨a, List.mem_cons_self, hab⟩
    · obtain ⟨a', ha', hR⟩ := ih hb
      exact ⟨a', List.mem_cons_of_mem a ha', hR⟩

/-- Lists that correspond have the same images if their elements do. -/
theorem map_eq_map_of_forall₂ {α β γ : Type} {R : α → β → Prop} {as : List α}
    {bs : List β} {g : α → γ} {g' : β → γ} (h : List.Forall₂ R as bs)
    (heq : ∀ a ∈ as, ∀ b, R a b → g' b = g a) :
    bs.map g' = as.map g := by
  induction h with
  | nil => rfl
  | @cons a b as bs hab _ ih =>
    rw [List.map_cons, List.map_cons, heq a List.mem_cons_self b hab,
      ih fun a' ha' => heq a' (List.mem_cons_of_mem a ha')]

/-! ### Tables and their written forms -/

/-- A row of a table: its key, and the values of the columns after it. -/
structure BulkRow where
  key : String
  columns : List (List String)

/-- The record of a row: its columns that are not empty, each under its field. -/
def BulkRow.record (fields : List FieldId) (row : BulkRow) : Record :=
  .ofList ((fields.zip row.columns).filter fun column => !column.2.isEmpty)

/-- Where fields are distinct, a field of a row has the values of its column, unless the
column is empty. -/
theorem BulkRow.find?_record {fields : List FieldId} (h : fields.Nodup) (row : BulkRow)
    {field : FieldId} {values : List String} :
    (row.record fields).find? field = some values ↔
      values ≠ [] ∧ (field, values) ∈ fields.zip row.columns := by
  have hsublist : (fields.zip row.columns |>.filter fun column => !column.2.isEmpty).Sublist
      (fields.zip row.columns) := List.filter_sublist
  rw [record, SortedMap.find?_ofList
    ((nodup_map_fst_zip h row.columns).sublist (hsublist.map Prod.fst)),
    List.mem_filter, and_comm]
  simp

namespace BulkFormat

/-- The format can hold tables: there is a field for the key, the fields after it are
distinct, and the two delimiters have nothing in common with each other or with the ends
of lines. -/
structure HoldsTables (f : BulkFormat) (delimiter : String) : Prop where
  fields : f.fieldIds ≠ []
  distinct : f.fieldIds.tail.Nodup
  inner : f.inner = some delimiter
  inner_ne : delimiter ≠ ""
  disjoint : ∀ c ∈ delimiter.toList, c ∉ f.between.toList
  between_lf : '\n' ∉ f.between.toList
  inner_lf : '\n' ∉ delimiter.toList

/-- A text that can be a key or a value: it is not empty, has no line feed and no
delimiter in it, and has no white space at its ends. -/
structure IsCell (f : BulkFormat) (delimiter : String) (s : String) : Prop where
  ne_empty : s ≠ ""
  lf : '\n' ∉ s.toList
  between : ∀ c ∈ s.toList, c ∉ f.between.toList
  inner : ∀ c ∈ s.toList, c ∉ delimiter.toList
  starts : Text.StartsPlain s.toList
  ends : Text.EndsPlain s.toList

/-- A row of which the key and all values are such texts. -/
structure IsRow (f : BulkFormat) (delimiter : String) (row : BulkRow) : Prop where
  key : f.IsCell delimiter row.key
  values : ∀ values ∈ row.columns, ∀ value ∈ values, f.IsCell delimiter value

theorem all_not_contains_iff {cs ds : List Char} :
    (cs.all fun c => !ds.contains c) = true ↔ ∀ c ∈ cs, c ∉ ds := by simp

instance (f : BulkFormat) (delimiter : String) : Decidable (f.HoldsTables delimiter) :=
  decidable_of_iff
    (f.fieldIds ≠ [] ∧ f.fieldIds.tail.Nodup ∧ f.inner = some delimiter ∧ delimiter ≠ "" ∧
      (delimiter.toList.all fun c => !f.between.toList.contains c) = true ∧
      '\n' ∉ f.between.toList ∧ '\n' ∉ delimiter.toList)
    ⟨fun ⟨hfields, hdistinct, hinner, hne, hall, hlf, hlf'⟩ =>
      ⟨hfields, hdistinct, hinner, hne, all_not_contains_iff.1 hall, hlf, hlf'⟩,
    fun h => ⟨h.fields, h.distinct, h.inner, h.inner_ne, all_not_contains_iff.2 h.disjoint,
      h.between_lf, h.inner_lf⟩⟩

instance (f : BulkFormat) (delimiter s : String) : Decidable (f.IsCell delimiter s) :=
  decidable_of_iff
    (s ≠ "" ∧ '\n' ∉ s.toList ∧
      (s.toList.all fun c => !f.between.toList.contains c) = true ∧
      (s.toList.all fun c => !delimiter.toList.contains c) = true ∧
      Text.StartsPlain s.toList ∧ Text.EndsPlain s.toList)
    ⟨fun ⟨hne, hlf, hbetween, hinner, hstarts, hends⟩ =>
      ⟨hne, hlf, all_not_contains_iff.1 hbetween, all_not_contains_iff.1 hinner, hstarts,
        hends⟩,
    fun h => ⟨h.ne_empty, h.lf, all_not_contains_iff.2 h.between,
      all_not_contains_iff.2 h.inner, h.starts, h.ends⟩⟩

instance (f : BulkFormat) (delimiter : String) (row : BulkRow) :
    Decidable (f.IsRow delimiter row) :=
  decidable_of_iff
    (f.IsCell delimiter row.key ∧ ∀ values ∈ row.columns, ∀ value ∈ values,
      f.IsCell delimiter value)
    ⟨fun ⟨hkey, hvalues⟩ => ⟨hkey, hvalues⟩, fun h => ⟨h.key, h.values⟩⟩

/-- The text is a written form of the values of a column. -/
def WritesColumn (delimiter : String) (values : List String) (column : List Char) : Prop :=
  Text.Joined delimiter (values.map String.toList) column

/-- The line is a written form of the row. -/
def Writes (f : BulkFormat) (delimiter : String) (row : BulkRow) (line : List Char) :
    Prop :=
  ∃ columns, List.Forall₂ (WritesColumn delimiter) row.columns columns ∧
    Text.Joined f.between (row.key.toList :: columns) line

/-- The source is a written form of the table: a line for each row, with a line feed
behind it. -/
def WritesTable (f : BulkFormat) (delimiter : String) (table : List BulkRow)
    (source : Bytes) : Prop :=
  ∃ lines, List.Forall₂ (f.Writes delimiter) table lines ∧
    source = Bytes.ofText (String.ofList (lines.flatMap (· ++ ['\n'])))

variable {f : BulkFormat} {delimiter : String}

/-! ### Records of columns -/

/-- Empty columns behind the others add nothing. -/
theorem foldl_addColumn_append_replicate (f : BulkFormat) (n : Nat)
    (columns : List (List Char)) (fields : List FieldId) (record : Record) :
    ((columns ++ List.replicate n []).zip fields).foldl
        (fun record (c : List Char × FieldId) => f.addColumn record c.1 c.2) record =
      (columns.zip fields).foldl (fun record c => f.addColumn record c.1 c.2) record := by
  induction columns generalizing fields record with
  | nil =>
    induction n generalizing fields with
    | zero => rfl
    | succ n ih =>
      cases fields with
      | nil => rfl
      | cons field fields => exact ih fields
  | cons column columns ih =>
    cases fields with
    | nil => rfl
    | cons field fields => exact ih fields _

/-- Empty columns at the end of a line do not show in its record. -/
theorem record_append_replicate (f : BulkFormat) (columns : List (List Char)) (n : Nat) :
    f.record (columns ++ List.replicate n []) = f.record columns := by
  rw [record, record]
  exact congrArg _ (f.foldl_addColumn_append_replicate n columns _ _)

/-- Where fields are distinct, the field of a column has no other column. -/
theorem columnsOf_of_mem (hdistinct : f.fieldIds.tail.Nodup)
    {columns : List (List Char)} {column : List Char} {field : FieldId}
    (h : (column, field) ∈ columns.zip f.fieldIds.tail) :
    f.columnsOf columns field = [column] := by
  have hfields : ((columns.zip f.fieldIds.tail).map Prod.snd).Nodup := by
    rw [← List.zip_swap, List.map_map]
    exact nodup_map_fst_zip hdistinct columns
  -- the field has this column and, as fields are distinct, no other
  have hperm : ((columns.zip f.fieldIds.tail).filter fun c => c.2 = field).Perm
      [(column, field)] := by
    apply (List.perm_ext_iff_of_nodup ((List.Nodup.of_map _ hfields).filter _)
      (List.nodup_singleton _)).2
    intro c
    rw [List.mem_filter, List.mem_singleton, decide_eq_true_iff]
    constructor
    · rintro ⟨hc, hfield⟩
      exact List.inj_on_of_nodup_map hfields hc h hfield
    · rintro rfl
      exact ⟨h, rfl⟩
  rw [columnsOf, List.perm_singleton.1 hperm]
  rfl

/-- Where fields are distinct, a field holds the values of its own column, if there are
any. -/
theorem find?_record_of_distinct (hf : f.HoldsTables delimiter) (columns : List (List Char))
    (field : FieldId) (vs : List String) : (f.record columns).find? field = some vs ↔
      vs ≠ [] ∧ ∃ column, (column, field) ∈ columns.zip f.fieldIds.tail ∧
        values delimiter column = vs := by
  rw [find?_record_of_inner hf.inner hf.inner_ne]
  constructor
  · intro h
    split at h
    next => cases h
    next hne =>
      -- values come from some column of the field
      have hcolumns : f.columnsOf columns field ≠ [] := by
        intro hnil
        exact hne (by rw [hnil, List.flatMap_nil])
      obtain ⟨column, hcolumn⟩ := List.exists_mem_of_ne_nil _ hcolumns
      obtain ⟨c, hc, rfl⟩ := List.mem_map.1 hcolumn
      obtain ⟨hmem, hfield⟩ := List.mem_filter.1 hc
      obtain rfl := of_decide_eq_true hfield
      rw [columnsOf_of_mem hf.distinct hmem, List.flatMap_singleton] at h hne
      obtain rfl := Option.some.inj h
      exact ⟨hne, c.1, hmem, rfl⟩
  · rintro ⟨hne, column, hmem, rfl⟩
    rw [columnsOf_of_mem hf.distinct hmem, List.flatMap_singleton, if_neg hne]

/-- Columns that hold the values of a row make the record of the row. -/
theorem record_eq_of_map_values (hf : f.HoldsTables delimiter)
    {columns : List (List Char)} {row : BulkRow}
    (h : columns.map (values delimiter) = row.columns) :
    f.record columns = row.record f.fieldIds.tail := by
  apply SortedMap.ext_find?
  intro field
  apply Option.ext
  intro vs
  -- one side pairs columns with fields, the other fields with columns
  have hswap : ∀ column, (column, field) ∈ columns.zip f.fieldIds.tail ↔
      (field, column) ∈ f.fieldIds.tail.zip columns := by
    intro column
    rw [← List.zip_swap f.fieldIds.tail, List.mem_map]
    simp
  rw [find?_record_of_distinct hf, BulkRow.find?_record hf.distinct, ← h,
    List.zip_map_right]
  simp [hswap]

/-! ### Reading a written row -/

section Column

variable {vs : List String} {column : List Char}

/-- The values of a written column are read back. -/
theorem WritesColumn.values_eq (h : WritesColumn delimiter vs column)
    (hcells : ∀ value ∈ vs, f.IsCell delimiter value) : values delimiter column = vs := by
  by_cases hvs : vs = []
  -- an empty column is written as nothing, which would be cut into one empty piece
  · subst hvs
    cases h
    exact values_nil delimiter
  · have hpieces : Text.splitAny delimiter column = vs.map String.toList := by
      apply Text.Joined.splitAny_eq h
      · rwa [ne_eq, List.map_eq_nil_iff]
      · intro piece hpiece
        obtain ⟨value, hvalue, rfl⟩ := List.mem_map.1 hpiece
        exact (hcells value hvalue).inner
    have hnonempty : ∀ piece ∈ vs.map String.toList, (!piece.isEmpty) = true := by
      intro piece hpiece
      obtain ⟨value, hvalue, rfl⟩ := List.mem_map.1 hpiece
      simp [(hcells value hvalue).ne_empty]
    rw [values, hpieces, List.filter_eq_self.2 hnonempty, List.map_map]
    simp

/-- A written column does not end with white space. -/
theorem WritesColumn.endsPlain (h : WritesColumn delimiter vs column)
    (hcells : ∀ value ∈ vs, f.IsCell delimiter value) : Text.EndsPlain column := by
  apply Text.Joined.endsPlain h
  intro piece hpiece
  obtain ⟨value, hvalue, rfl⟩ := List.mem_map.1 hpiece
  exact ⟨by simp [(hcells value hvalue).ne_empty], (hcells value hvalue).ends⟩

/-- Nothing in a written column ends the column or the line. -/
theorem WritesColumn.notMem (hf : f.HoldsTables delimiter)
    (h : WritesColumn delimiter vs column)
    (hcells : ∀ value ∈ vs, f.IsCell delimiter value) {c : Char} (hc : c ∈ column) :
    c ∉ f.between.toList ∧ c ≠ '\n' := by
  rcases h.mem hc with hmark | ⟨piece, hpiece, hc⟩
  · exact ⟨hf.disjoint c hmark, fun heq => hf.inner_lf (heq ▸ hmark)⟩
  · obtain ⟨value, hvalue, rfl⟩ := List.mem_map.1 hpiece
    exact ⟨(hcells value hvalue).between c hc,
      fun heq => (hcells value hvalue).lf (heq ▸ hc)⟩

end Column

section Row

variable {row : BulkRow} {line : List Char}

/-- Key and columns of a row alike: none ends with white space, and nothing in them ends
the column or the line. -/
theorem endsPlain_and_notMem (hf : f.HoldsTables delimiter)
    (hrow : f.IsRow delimiter row) {columns : List (List Char)}
    (hcolumns : List.Forall₂ (WritesColumn delimiter) row.columns columns) :
    ∀ piece ∈ row.key.toList :: columns,
      Text.EndsPlain piece ∧ ∀ c ∈ piece, c ∉ f.between.toList ∧ c ≠ '\n' := by
  intro piece hpiece
  rcases List.mem_cons.1 hpiece with rfl | hpiece
  · refine ⟨hrow.key.ends, fun c hc => ⟨hrow.key.between c hc, ?_⟩⟩
    rintro rfl
    exact hrow.key.lf hc
  · obtain ⟨vs, hvs, hcolumn⟩ := exists_mem_of_forall₂ hcolumns hpiece
    have hcells := hrow.values vs hvs
    exact ⟨hcolumn.endsPlain hcells, fun c hc => hcolumn.notMem hf hcells hc⟩

/-- A written row takes up one line. -/
theorem Writes.lf_notMem (hf : f.HoldsTables delimiter) (hrow : f.IsRow delimiter row)
    (h : f.Writes delimiter row line) : '\n' ∉ line := by
  obtain ⟨columns, hcolumns, hline⟩ := h
  intro hlf
  rcases hline.mem hlf with hmark | ⟨piece, hpiece, hlf⟩
  · exact hf.between_lf hmark
  · exact ((endsPlain_and_notMem hf hrow hcolumns piece hpiece).2 _ hlf).2 rfl

/-- A written row is read back, whichever delimiters it is written with. -/
theorem row?_of_writes (hf : f.HoldsTables delimiter) (hrow : f.IsRow delimiter row)
    (h : f.Writes delimiter row line) :
    f.row? (Bytes.ofText (String.ofList line)) =
      some (row.key, row.record f.fieldIds.tail) := by
  obtain ⟨columns, hcolumns, hline⟩ := h
  have hpieces := endsPlain_and_notMem hf hrow hcolumns
  -- the line starts with its key, so it is trimmed at the end only
  have htrim : Text.trim line = Text.trimEnd line := by
    have hkey : row.key.toList ≠ [] := by simp [hrow.key.ne_empty]
    obtain ⟨rest, rfl⟩ := hline.prefix
    rw [Text.trim, Text.trimStart_eq (hrow.key.starts.append hkey rest)]
  -- what trimming takes off the end are empty columns
  obtain ⟨kept, n, hkept, rfl⟩ := hline.trimEnd fun piece hpiece => (hpieces piece hpiece).1
  have hsplit : Text.splitAny f.between (Text.trimEnd line) = row.key.toList :: kept := by
    apply hkept.splitAny_eq (List.cons_ne_nil _ _)
    intro piece hpiece c hc
    exact ((hpieces piece (List.mem_append_left (List.replicate n []) hpiece)).2 c hc).1
  have hvalues : (kept ++ List.replicate n []).map (values delimiter) = row.columns := by
    rw [map_eq_map_of_forall₂ hcolumns fun vs hvs column hcolumn =>
      hcolumn.values_eq (hrow.values vs hvs), List.map_id']
  apply row?_eq_some_iff.2
  refine ⟨hrow.key.ne_empty, kept, ⟨String.ofList line, Bytes.text?_ofText _, ?_⟩, ?_⟩
  · rw [String.toList_ofList, htrim, hsplit]
  · rw [← f.record_append_replicate kept n, record_eq_of_map_values hf hvalues]

end Row

/-! ### Reading a written table -/

/-- The bytes of lines with a line feed behind each of them. -/
theorem ofText_flatMap_lines (lines : List (List Char)) :
    Bytes.ofText (String.ofList (lines.flatMap (· ++ ['\n']))) =
      (lines.map fun line => Bytes.ofText (String.ofList line)).flatMap (· ++ [10]) := by
  induction lines with
  | nil => rfl
  | cons line lines ih =>
    rw [Bytes.ofText_ofList] at ih ⊢
    rw [List.flatMap_cons, List.flatMap_append, List.flatMap_append, ih, List.map_cons,
      List.flatMap_cons, Bytes.ofText_ofList]
    rfl

/-- Lines with a line feed behind each of them are read back. -/
theorem bulkLines_flatMap {lines : List Bytes} (h : ∀ line ∈ lines, 10 ∉ line) :
    bulkLines (lines.flatMap (· ++ [10])) = lines := by
  induction lines with
  | nil => rfl
  | cons line lines ih =>
    rw [List.flatMap_cons, List.append_assoc, List.singleton_append,
      bulkLines_append_cons (h line List.mem_cons_self),
      ih fun l hl => h l (List.mem_cons_of_mem line hl)]

/-- The lines of a written table hold its rows. -/
theorem WritesTable.map_row? {table : List BulkRow} {source : Bytes}
    (hf : f.HoldsTables delimiter) (htable : ∀ row ∈ table, f.IsRow delimiter row)
    (h : f.WritesTable delimiter table source) :
    (bulkLines source).map f.row? =
      (table.map fun row => (row.key, row.record f.fieldIds.tail)).map some := by
  obtain ⟨lines, hlines, rfl⟩ := h
  rw [ofText_flatMap_lines, bulkLines_flatMap]
  · rw [List.map_map, List.map_map]
    exact map_eq_map_of_forall₂ hlines fun row hrow line hline =>
      row?_of_writes hf (htable row hrow) hline
  · intro bytes hbytes
    obtain ⟨line, hmem, rfl⟩ := List.mem_map.1 hbytes
    obtain ⟨row, hrow, hline⟩ := exists_mem_of_forall₂ hlines hmem
    exact Bytes.lf_notMem_ofText (hline.lf_notMem hf (htable row hrow))

/-- Rows with distinct keys that are all new go in one after the other. -/
theorem forward_foldl_enter {rows : List (String × Record)} {lines : List Bytes}
    {ix : Index} (hrows : lines.map f.row? = rows.map some)
    (hdistinct : (rows.map Prod.fst).Nodup)
    (hnew : ∀ row ∈ rows, ix.record? row.1 = none) :
    (lines.foldl f.enter ix).forward =
      rows.foldl (fun m row => m.insert row.1 row.2) ix.forward := by
  induction rows generalizing lines ix with
  | nil =>
    rw [List.map_nil, List.map_eq_nil_iff] at hrows
    rw [hrows]
    rfl
  | cons row rows ih =>
    obtain ⟨line, lines, rfl, hline, hlines⟩ := List.map_eq_cons_iff.1 hrows
    rw [List.map_cons, List.nodup_cons] at hdistinct
    have hins := Index.insert?_eq_some (hnew row List.mem_cons_self) row.2
    rw [List.foldl_cons, List.foldl_cons, enter_of_row? hline, hins, Option.getD_some]
    apply ih hlines hdistinct.2
    intro row' hrow'
    -- the keys are distinct, so a key that was new before is new still
    have hne : row'.1 ≠ row.1 := by
      intro heq
      exact hdistinct.1 (heq ▸ List.mem_map_of_mem hrow')
    rw [Index.record?_insert? hins, if_neg hne]
    exact hnew row' (List.mem_cons_of_mem row hrow')

end BulkFormat

namespace Builder

/-- Lines that are all rows, and all come in, leave nothing else to account for. -/
theorem Accounts.stats_of_rows {b b' : Builder} {n : Nat}
    (h : Accounts b b' (List.replicate n .row)) (hstats : b.stats = {})
    (hsize : b'.index.size = b.index.size + n) :
    b'.stats = ⟨n, n, 0, 0, 0⟩ := by
  -- as many records came in as there were rows, so none was a repetition
  have hinserted : b'.stats.inserted = n := by
    have hrecords := h.inserted
    rw [hstats, hsize] at hrecords
    dsimp only at hrecords
    omega
  have hduplicates : b'.stats.duplicateKeys = 0 := by
    have hrows := h.rows
    rw [hstats, hinserted, List.count_replicate_self] at hrows
    dsimp only at hrows
    omega
  apply BuildStats.ext
  · simp [h.lines, hstats]
  · exact hinserted
  · simp [h.emptyLines, hstats, List.count_replicate]
  · simp [h.blankKeys, hstats, List.count_replicate]
  · exact hduplicates

/-- A source that holds rows with distinct keys and nothing else goes into an empty
index as it is. -/
theorem consume_of_rows {f : BulkFormat} {source : Bytes} {rows : List (String × Record)}
    (hrows : (bulkLines source).map f.row? = rows.map some)
    (hdistinct : (rows.map Prod.fst).Nodup)
    (keyField : FieldId) :
    let b : Builder := ⟨f, .empty keyField, {}⟩
    (b.consume source).index.forward = .ofList rows ∧
      (b.consume source).stats = ⟨rows.length, rows.length, 0, 0, 0⟩ := by
  intro b
  have hforward : (b.consume source).index.forward = .ofList rows := by
    rw [consume, foldl_addLine_index]
    exact BulkFormat.forward_foldl_enter hrows hdistinct fun _ _ => rfl
  -- every line has a row, so every line is of that kind
  have hkinds : (bulkLines source).map f.kind = List.replicate rows.length .row := by
    rw [List.eq_replicate_iff]
    constructor
    · have hlength := congrArg List.length hrows
      rw [List.length_map, List.length_map] at hlength
      rw [List.length_map, hlength]
    · intro kind hkind
      obtain ⟨line, hline, rfl⟩ := List.mem_map.1 hkind
      have hrow : f.row? line ∈ rows.map some := hrows ▸ List.mem_map_of_mem hline
      obtain ⟨row, -, hrow⟩ := List.mem_map.1 hrow
      exact BulkFormat.kind_of_row? hrow.symm
  refine ⟨hforward, ?_⟩
  have haccounts : Accounts b (b.consume source) (List.replicate rows.length .row) := by
    rw [← hkinds]
    exact accounts_foldl_addLine (bulkLines source) b
  apply haccounts.stats_of_rows rfl
  rw [Index.size, hforward, SortedMap.size_ofList hdistinct]
  exact (Nat.zero_add _).symm

end Builder

/-- **What is written is read back.**  Take a format with two delimiters that have
nothing in common, and a table of rows with distinct keys, in which no key and no value
is empty, contains a delimiter or a line feed, or has white space at its ends.  However
the table is written, with whichever delimiters, blank or not, a build from it inserts
every row.  The forward store then holds the rows and nothing else: under the key of
each its columns that are not empty, each under its field and with its values in order. -/
theorem buildFrom_of_writes {f : BulkFormat} {delimiter : String} {table : List BulkRow}
    {source : Bytes} (hf : f.HoldsTables delimiter)
    (hkeys : (table.map BulkRow.key).Nodup)
    (htable : ∀ row ∈ table, f.IsRow delimiter row)
    (hsource : f.WritesTable delimiter table source) :
    ∃ ix, buildFrom f [source] = .ok (ix, ⟨table.length, table.length, 0, 0, 0⟩) ∧
      ix.forward = .ofList (table.map fun row => (row.key, row.record f.fieldIds.tail)) ∧
      ∀ row ∈ table, ∃ record, ix.record? row.key = some record ∧
        ∀ field values, record.find? field = some values ↔
          values ≠ [] ∧ (field, values) ∈ f.fieldIds.tail.zip row.columns := by
  obtain ⟨keyField, fields, hfields⟩ := List.exists_cons_of_ne_nil hf.fields
  have hdistinct :
      ((table.map fun row => (row.key, row.record f.fieldIds.tail)).map Prod.fst).Nodup := by
    rwa [List.map_map]
  obtain ⟨hforward, hstats⟩ :=
    Builder.consume_of_rows (hsource.map_row? hf htable) hdistinct keyField
  rw [List.length_map] at hstats
  refine ⟨_, ?_, hforward, ?_⟩
  · rw [buildFrom, Builder.start, hfields, ← hstats]
    rfl
  · intro row hrow
    refine ⟨row.record f.fieldIds.tail, ?_,
      fun field values => BulkRow.find?_record hf.distinct row⟩
    rw [Index.record?, hforward, SortedMap.find?_ofList hdistinct]
    exact List.mem_map_of_mem hrow

/-- A tab divides columns and a space divides values.  The first row has an empty column
in the middle and is written with every delimiter there is, the second loses two empty
columns when it is trimmed, and the third has no columns at all. -/
theorem buildFrom_of_writes_of_tabs :
    let f : BulkFormat := ⟨[100, 101, 102, 103], "\t;", some " ,"⟩
    let table : List BulkRow :=
      [⟨"k1", [["a", "b", "c"], [], ["d"]]⟩, ⟨"k2", [["é"], [], []]⟩, ⟨"k3", []⟩]
    let source := Bytes.ofText "k1\ta b,c;\td\nk2;é\t\t\nk3\n"
    f.HoldsTables " ," ∧ (table.map BulkRow.key).Nodup ∧ (∀ row ∈ table, f.IsRow " ," row) ∧
      f.WritesTable " ," table source ∧
      ∃ ix, buildFrom f [source] = .ok (ix, ⟨3, 3, 0, 0, 0⟩) ∧
        ix.forward = .ofList [("k1", .ofList [(101, ["a", "b", "c"]), (103, ["d"])]),
          ("k2", .ofList [(101, ["é"])]), ("k3", .empty)] := by
  intro f table source
  have hf : f.HoldsTables " ," := by decide +kernel
  have hkeys : (table.map BulkRow.key).Nodup := by decide +kernel
  have htable : ∀ row ∈ table, f.IsRow " ," row := by decide +kernel
  have htab : '\t' ∈ f.between.toList := by decide +kernel
  have hsemicolon : ';' ∈ f.between.toList := by decide +kernel
  have hspace : ' ' ∈ " ,".toList := by decide +kernel
  have hcomma : ',' ∈ " ,".toList := by decide +kernel
  have hsource : f.WritesTable " ," table source := by
    have hfirst : f.Writes " ," ⟨"k1", [["a", "b", "c"], [], ["d"]]⟩ _ :=
      ⟨_, .cons (.cons _ hspace (.cons _ hcomma (.single _))) (.cons .nil (.cons (.single _) .nil)),
        .cons _ htab (.cons _ hsemicolon (.cons _ htab (.single _)))⟩
    have hsecond : f.Writes " ," ⟨"k2", [["é"], [], []]⟩ _ :=
      ⟨_, .cons (.single _) (.cons .nil (.cons .nil .nil)),
        .cons _ hsemicolon (.cons _ htab (.cons _ htab (.single _)))⟩
    have hthird : f.Writes " ," ⟨"k3", []⟩ _ := ⟨_, .nil, .single _⟩
    exact ⟨_, .cons hfirst (.cons hsecond (.cons hthird .nil)), by decide +kernel⟩
  obtain ⟨ix, hbuild, hforward, -⟩ := buildFrom_of_writes hf hkeys htable hsource
  refine ⟨hf, hkeys, htable, hsource, ix, hbuild, ?_⟩
  rw [hforward]
  decide +kernel

end Recommend
