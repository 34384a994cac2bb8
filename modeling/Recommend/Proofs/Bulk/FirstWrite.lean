import Recommend.Proofs.Bulk.LoadOrder
import Recommend.Proofs.Text.Bytes

/-!
The first line with a key determines its record.

A line with a key either enters its record under that key or, if the key is taken, does
nothing to the index (`enter`).  So the record of a key is that of the first line that
has the key (`record?_foldl_enter`), and a later one may as well be left out
(`foldl_enter_append_cons`).

What the record of a line holds is said field by field: with an inner delimiter the
values of all columns of the field, one column after the other
(`find?_record_of_inner`); without one the last column of the field that is not empty
(`find?_record_of_no_inner`).

The main result is `consumeAll_of_first_lines`.
-/

namespace Recommend

namespace BulkFormat

/-! ### The fields of a record -/

/-- The columns of a field, given the columns after the key. -/
def columnsOf (f : BulkFormat) (columns : List (List Char)) (field : FieldId) :
    List (List Char) :=
  ((columns.zip f.fieldIds.tail).filter fun c => c.2 = field).map Prod.fst

/-- A column only concerns its own field. -/
theorem find?_addColumn_of_ne (f : BulkFormat) (record : Record) (column : List Char)
    {field field' : FieldId} (h : field' ≠ field) :
    (f.addColumn record column field).find? field' = record.find? field' := by
  unfold addColumn
  split
  · rfl
  · split <;> exact SortedMap.find?_insert_of_ne _ _ h

theorem values_nil (delimiter : String) : values delimiter [] = [] := rfl

/-- With an inner delimiter a column adds its values to those of its field. -/
theorem getD_find?_addColumn_self {f : BulkFormat} {delimiter : String}
    (h : f.inner? = some delimiter) (record : Record) (column : List Char)
    (field : FieldId) :
    ((f.addColumn record column field).find? field).getD [] =
      (record.find? field).getD [] ++ values delimiter column := by
  unfold addColumn
  rw [h]
  cases column with
  | nil => simp [values_nil]
  | cons c column => simp

/-- With an inner delimiter the values of the columns of a field add up. -/
theorem getD_find?_foldl_addColumn {f : BulkFormat} {delimiter : String}
    (h : f.inner? = some delimiter) (columns : List (List Char × FieldId)) (record : Record)
    (field : FieldId) :
    ((columns.foldl
      (fun record c => f.addColumn record c.1 c.2) record).find? field).getD [] =
      (record.find? field).getD [] ++
        ((columns.filter fun c => c.2 = field).map Prod.fst).flatMap
          (values delimiter) := by
  induction columns generalizing record with
  | nil => simp
  | cons c columns ih =>
    rw [List.foldl_cons, ih]
    by_cases hc : c.2 = field
    · subst hc
      rw [getD_find?_addColumn_self h]
      simp
    · rw [find?_addColumn_of_ne f record c.1 (Ne.symm hc)]
      simp [hc]

/-- Without an inner delimiter a column replaces what its field holds, unless it is
empty. -/
theorem find?_addColumn_self {f : BulkFormat} (h : f.inner? = none) (record : Record)
    (column : List Char) (field : FieldId) :
    (f.addColumn record column field).find? field =
      if column.isEmpty then record.find? field else some [String.ofList column] := by
  unfold addColumn
  rw [h]
  cases column with
  | nil => rfl
  | cons c column => simp

/-- Without an inner delimiter the last column of a field that is not empty counts. -/
theorem find?_foldl_addColumn {f : BulkFormat} (h : f.inner? = none)
    (columns : List (List Char × FieldId)) (record : Record) (field : FieldId) :
    (columns.foldl (fun record c => f.addColumn record c.1 c.2) record).find? field =
      ((((columns.filter fun c => c.2 = field).map Prod.fst).filter
        fun column => !column.isEmpty).getLast?.map
          fun column => [String.ofList column]).or (record.find? field) := by
  induction columns generalizing record with
  | nil => simp
  | cons c columns ih =>
    rw [List.foldl_cons, ih]
    by_cases hc : c.2 = field
    · subst hc
      rw [find?_addColumn_self h]
      by_cases hempty : c.1.isEmpty = true
      · simp [hempty]
      · -- this column counts unless a later one does
        simp only [hempty, List.filter_cons, List.map_cons, decide_true, if_true,
          Bool.not_false, List.getLast?_cons, Option.map_some, Option.some_or]
        cases (((columns.filter fun c' => c'.2 = c.2).map Prod.fst).filter fun column =>
          !column.isEmpty).getLast? <;> simp
    · rw [find?_addColumn_of_ne f record c.1 (Ne.symm hc)]
      simp [hc]

theorem inner?_of_inner {f : BulkFormat} {delimiter : String} (h : f.inner = some delimiter)
    (hne : delimiter ≠ "") : f.inner? = some delimiter := by
  simp [inner?, h, hne]

theorem inner?_of_no_inner {f : BulkFormat} (h : f.inner = none ∨ f.inner = some "") :
    f.inner? = none := by
  rcases h with h | h <;> simp [inner?, h]

/-- A record keeps the fields that have a value. -/
theorem find?_record (f : BulkFormat) (columns : List (List Char)) (field : FieldId) :
    (f.record columns).find? field =
      (((columns.zip f.fieldIds.tail).foldl (fun record c => f.addColumn record c.1 c.2)
        .empty).find? field).filter fun values => !values.isEmpty := by
  rw [record, SortedMap.find?_filter]

theorem filter_nonempty_eq (o : Option (List String)) :
    (o.filter fun values => !values.isEmpty) =
      if o.getD [] = [] then none else some (o.getD []) := by
  cases o with
  | none => rfl
  | some values => cases values <;> simp

/-- With an inner delimiter a field holds the pieces of its columns that are not empty,
one column after the other. -/
theorem find?_record_of_inner {f : BulkFormat} {delimiter : String}
    (h : f.inner = some delimiter) (hne : delimiter ≠ "") (columns : List (List Char))
    (field : FieldId) :
    (f.record columns).find? field =
      if (f.columnsOf columns field).flatMap (values delimiter) = [] then none
      else some ((f.columnsOf columns field).flatMap (values delimiter)) := by
  have hvalues :=
    getD_find?_foldl_addColumn (inner?_of_inner h hne) (columns.zip f.fieldIds.tail)
      .empty field
  rw [SortedMap.find?_empty, Option.getD_none, List.nil_append] at hvalues
  rw [find?_record, filter_nonempty_eq, hvalues]
  rfl

/-- Without an inner delimiter a field holds its last column that is not empty. -/
theorem find?_record_of_no_inner {f : BulkFormat} (h : f.inner = none ∨ f.inner = some "")
    (columns : List (List Char)) (field : FieldId) :
    (f.record columns).find? field =
      ((f.columnsOf columns field).filter fun column => !column.isEmpty).getLast?.map
        fun column => [String.ofList column] := by
  rw [find?_record, find?_foldl_addColumn (inner?_of_no_inner h), SortedMap.find?_empty,
    Option.or_none, ← columnsOf]
  cases ((f.columnsOf columns field).filter fun column => !column.isEmpty).getLast? <;> rfl

/-! ### The row of a line -/

/-- The line is UTF-8, and without the white space at its ends it is cut into `key` and
the columns after it. -/
def Splits (f : BulkFormat) (line : Bytes) (key : String) (columns : List (List Char)) :
    Prop :=
  ∃ text, line.text? = some text ∧
    Text.splitAny f.between (Text.trim text.toList) = key.toList :: columns

/-- A line is cut in one way. -/
theorem Splits.key_eq {f : BulkFormat} {line : Bytes} {key key' : String}
    {columns columns' : List (List Char)} (h : f.Splits line key columns)
    (h' : f.Splits line key' columns') : key = key' := by
  obtain ⟨text, htext, hsplit⟩ := h
  obtain ⟨text', htext', hsplit'⟩ := h'
  obtain rfl := Option.some.inj (htext.symm.trans htext')
  exact String.toList_inj.1 (List.cons.inj (hsplit.symm.trans hsplit')).1

/-- A line is read as a row iff its first column is a key, and the record is that of the
columns after it. -/
theorem readLine_eq_row_iff {f : BulkFormat} {text key : String} {record : Record} :
    f.readLine text = .row key record ↔ key ≠ "" ∧ ∃ columns,
      Text.splitAny f.between (Text.trim text.toList) = key.toList :: columns ∧
        f.record columns = record := by
  unfold readLine
  split
  next htrim =>
    -- an empty line has one column, which is empty
    rw [htrim]
    constructor
    · intro h
      cases h
    · rintro ⟨hkey, columns, hsplit, -⟩
      have hnil : key.toList = [] := (List.cons.inj hsplit).1.symm
      exact absurd (String.toList_eq_nil_iff.1 hnil) hkey
  next =>
    split
    -- without any columns there is no key
    next hsplit => simp [hsplit]
    next first columns hsplit =>
      rw [hsplit]
      split
      -- a blank first column is no key
      next hfirst =>
        constructor
        · intro h
          cases h
        · rintro ⟨hkey, columns', heq, -⟩
          have hnil : key.toList = [] := by
            rw [← (List.cons.inj heq).1]
            exact List.isEmpty_iff.1 hfirst
          exact absurd (String.toList_eq_nil_iff.1 hnil) hkey
      next hfirst =>
        constructor
        · intro h
          injection h with hkey hrecord
          subst hkey hrecord
          refine ⟨?_, columns, by rw [String.toList_ofList], rfl⟩
          rw [ne_eq, String.ofList_eq_empty_iff]
          rintro rfl
          exact hfirst rfl
        · rintro ⟨-, columns', heq, rfl⟩
          obtain ⟨rfl, rfl⟩ := List.cons.inj heq
          rw [String.ofList_toList]

/-- The key of a line and its record, if it has a key. -/
def row? (f : BulkFormat) (line : Bytes) : Option (String × Record) :=
  line.text?.bind fun text =>
    match f.readLine text with
    | .row key record => some (key, record)
    | _ => none

/-- The row of a line, said by how the line is cut. -/
theorem row?_eq_some_iff {f : BulkFormat} {key : String} {line : Bytes} {record : Record} :
    f.row? line = some (key, record) ↔
      key ≠ "" ∧ ∃ columns, f.Splits line key columns ∧ f.record columns = record := by
  have hrow : f.row? line = some (key, record) ↔
      ∃ text, line.text? = some text ∧ f.readLine text = .row key record := by
    rw [row?, Option.bind_eq_some_iff]
    apply exists_congr
    intro text
    apply and_congr_right
    intro _
    cases f.readLine text <;> simp
  rw [hrow]
  constructor
  · rintro ⟨text, htext, hread⟩
    obtain ⟨hkey, columns, hsplit, hrecord⟩ := readLine_eq_row_iff.1 hread
    exact ⟨hkey, columns, ⟨text, htext, hsplit⟩, hrecord⟩
  · rintro ⟨hkey, columns, ⟨text, htext, hsplit⟩, hrecord⟩
    exact ⟨text, htext, readLine_eq_row_iff.2 ⟨hkey, columns, hsplit, hrecord⟩⟩

/-- The record of a line, if it has that key. -/
def recordOf? (f : BulkFormat) (key : String) (line : Bytes) : Option Record :=
  (f.row? line).bind fun row => if row.1 = key then some row.2 else none

theorem recordOf?_eq_some_iff {f : BulkFormat} {key : String} {line : Bytes}
    {record : Record} :
    f.recordOf? key line = some record ↔
      key ≠ "" ∧ ∃ columns, f.Splits line key columns ∧ f.record columns = record := by
  rw [← row?_eq_some_iff, recordOf?, Option.bind_eq_some_iff]
  constructor
  · rintro ⟨⟨key', record'⟩, hrow, hif⟩
    split at hif
    next hkey =>
      obtain rfl := Option.some.inj hif
      rw [← hkey]
      exact hrow
    next => cases hif
  · intro hrow
    exact ⟨(key, record), hrow, if_pos rfl⟩

theorem isSome_recordOf?_iff {f : BulkFormat} {key : String} {line : Bytes} :
    (f.recordOf? key line).isSome = true ↔ key ≠ "" ∧ ∃ columns,
      f.Splits line key columns := by
  rw [Option.isSome_iff_exists]
  simp only [recordOf?_eq_some_iff]
  constructor
  · rintro ⟨-, hkey, columns, hline, -⟩
    exact ⟨hkey, columns, hline⟩
  · rintro ⟨hkey, columns, hline⟩
    exact ⟨_, hkey, columns, hline, rfl⟩

/-! ### Entering lines -/

/-- What a line does to the index: a row goes in unless its key is taken. -/
def enter (f : BulkFormat) (ix : Index) (line : Bytes) : Index :=
  match f.row? line with
  | none => ix
  | some (key, record) => (ix.insert? key record).getD ix

theorem enter_of_row? {f : BulkFormat} {ix : Index} {line : Bytes} {key : String}
    {record : Record} (h : f.row? line = some (key, record)) :
    f.enter ix line = (ix.insert? key record).getD ix := by
  rw [enter, h]

theorem enter_of_no_row {f : BulkFormat} {line : Bytes} (h : f.row? line = none)
    (ix : Index) :
    f.enter ix line = ix := by
  rw [enter, h]

end BulkFormat

theorem Index.insert?_eq_none {ix : Index} {key : String}
    (h : (ix.record? key).isSome = true) (record : Record) :
    ix.insert? key record = none :=
  if_pos h

namespace BulkFormat

/-- A line whose key is taken does nothing. -/
theorem enter_of_taken {f : BulkFormat} {ix : Index} {line : Bytes} {key : String}
    {record : Record} (hrow : f.row? line = some (key, record))
    (htaken : (ix.record? key).isSome = true) :
    f.enter ix line = ix := by
  rw [enter_of_row? hrow, Index.insert?_eq_none htaken, Option.getD_none]

/-- A line gives its record to its key, unless the key has one. -/
theorem record?_enter (f : BulkFormat) (ix : Index) (line : Bytes) (key : String) :
    (f.enter ix line).record? key = (ix.record? key).or (f.recordOf? key line) := by
  cases hrow : f.row? line with
  | none => simp [enter_of_no_row hrow, recordOf?, hrow]
  | some row =>
    obtain ⟨key', record⟩ := row
    -- the key of the line is taken or not, and it is the key in question or not
    cases hold : ix.record? key' with
    | some old =>
      rw [enter_of_taken hrow (by rw [hold]; rfl)]
      by_cases hkey : key' = key
      · subst hkey
        simp [hold]
      · simp [recordOf?, hrow, hkey]
    | none =>
      have hins := Index.insert?_eq_some hold record
      rw [enter_of_row? hrow, hins, Option.getD_some, Index.record?_insert? hins]
      by_cases hkey : key' = key
      · subst hkey
        simp [recordOf?, hrow, hold]
      · simp [recordOf?, hrow, hkey, Ne.symm hkey]

/-- The record of a key is the one it had, or that of the first line with the key. -/
theorem record?_foldl_enter (f : BulkFormat) (lines : List Bytes) (ix : Index)
    (key : String) :
    (lines.foldl f.enter ix).record? key =
      (ix.record? key).or (lines.findSome? (f.recordOf? key)) := by
  induction lines generalizing ix with
  | nil => simp
  | cons line lines ih =>
    -- the first line comes between what was there and the lines after it
    rw [List.foldl_cons, ih, record?_enter, List.findSome?_cons, Option.or_assoc]
    cases f.recordOf? key line <;> simp

/-- A line with a key that an earlier line has may be left out. -/
theorem foldl_enter_append_cons {f : BulkFormat} {before after : List Bytes}
    {line earlier : Bytes} {key : String} {columns columns' : List (List Char)}
    (hline : f.Splits line key columns) (hmem : earlier ∈ before)
    (hearlier : f.Splits earlier key columns') (ix : Index) :
    (before ++ line :: after).foldl f.enter ix = (before ++ after).foldl f.enter ix := by
  have hnothing : f.enter (before.foldl f.enter ix) line = before.foldl f.enter ix := by
    by_cases hkey : key = ""
    -- no row is entered under the empty key, whichever line came earlier
    · refine enter_of_no_row (Option.eq_none_iff_forall_ne_some.2 ?_) _
      rintro ⟨key', record⟩ hrow
      obtain ⟨hkey', columns', hline', -⟩ := row?_eq_some_iff.1 hrow
      exact hkey' (hline'.key_eq hline |>.trans hkey)
    · refine enter_of_taken (row?_eq_some_iff.2 ⟨hkey, columns, hline, rfl⟩) ?_
      rw [record?_foldl_enter, Option.isSome_or, Bool.or_eq_true, List.findSome?_isSome_iff]
      exact .inr ⟨earlier, hmem, isSome_recordOf?_iff.2 ⟨hkey, columns', hearlier⟩⟩
  rw [List.foldl_append, List.foldl_append, List.foldl_cons, hnothing]

end BulkFormat

namespace Builder

theorem addRow_index (b : Builder) (key : String) (record : Record) :
    (b.addRow key record).index = (b.index.insert? key record).getD b.index := by
  cases hold : b.index.record? key with
  | some old =>
    have htaken : (b.index.record? key).isSome = true := by rw [hold]; rfl
    rw [addRow_of_isSome htaken, Index.insert?_eq_none htaken, Option.getD_none]
  | none =>
    have hins := Index.insert?_eq_some hold record
    rw [addRow_of_insert? hins, hins, Option.getD_some]

/-- To the index, taking in a line is entering it. -/
theorem addLine_index (b : Builder) (line : Bytes) :
    (b.addLine line).index = b.format.enter b.index line := by
  unfold addLine
  cases htext : line.text? with
  | none => rw [BulkFormat.enter_of_no_row (by rw [BulkFormat.row?, htext]; rfl)]
  | some text =>
    dsimp only
    unfold addText
    cases hread : b.format.readLine text with
    | empty =>
      rw [BulkFormat.enter_of_no_row (by rw [BulkFormat.row?, htext, Option.bind_some, hread])]
    | blankKey =>
      rw [BulkFormat.enter_of_no_row (by rw [BulkFormat.row?, htext, Option.bind_some, hread])]
    | row key record =>
      rw [BulkFormat.enter_of_row? (by rw [BulkFormat.row?, htext, Option.bind_some, hread])]
      exact addRow_index _ key record

/-- To the index, taking in lines is entering one after the other. -/
theorem foldl_addLine_index (lines : List Bytes) (b : Builder) :
    (lines.foldl addLine b).index = lines.foldl b.format.enter b.index := by
  induction lines generalizing b with
  | nil => rfl
  | cons line lines ih =>
    rw [List.foldl_cons, ih, addLine_format, addLine_index, List.foldl_cons]

/-- After a build the record of a key is that of the first line with the key. -/
theorem record?_consumeAll {format : BulkFormat} {b : Builder} (h : start format = .ok b)
    (sources : List Bytes) (key : String) :
    (b.consumeAll sources).index.record? key =
      (sources.flatMap bulkLines).findSome? (format.recordOf? key) := by
  obtain ⟨hformat, hstored⟩ := stored_start h
  -- a build starts from an index without records
  have hnone : b.index.record? key = none := by
    have hout : ¬(b.index.record? key).isSome = true := by
      simp [← hstored.derived.mem_order]
    simpa using hout
  rw [consumeAll_eq_foldl, foldl_addLine_index, BulkFormat.record?_foldl_enter, hnone,
    hformat, Option.none_or]

/-- **The first line with a key determines its record, and no other line has a part in
it.**  A key has a record iff it is not empty and some line has it as its first column.
The record is read off the first such line: with an inner delimiter a field holds the
pieces of its columns, without one its last column, in either case without what is
empty.  A line whose key comes earlier, in whichever source, could be left out. -/
theorem consumeAll_of_first_lines {format : BulkFormat} {b : Builder}
    (h : start format = .ok b) (sources : List Bytes) :
    let ix := (b.consumeAll sources).index
    let lines := sources.flatMap bulkLines
    (∀ key, (ix.record? key).isSome = true ↔
      key ≠ "" ∧ ∃ line ∈ lines, ∃ columns, format.Splits line key columns) ∧
    (∀ before line after key columns, lines = before ++ line :: after → key ≠ "" →
      format.Splits line key columns → (∀ l ∈ before, ∀ cs, ¬format.Splits l key cs) →
      ∃ record, ix.record? key = some record ∧ ∀ field,
        (∀ delimiter, format.inner = some delimiter → delimiter ≠ "" →
          let values := (format.columnsOf columns field).flatMap fun column =>
            ((Text.splitAny delimiter column).filter fun v => !v.isEmpty).map String.ofList
          record.find? field = if values = [] then none else some values) ∧
        (format.inner = none ∨ format.inner = some "" →
          record.find? field =
            ((format.columnsOf columns field).filter
              fun column => !column.isEmpty).getLast?.map
                fun column => [String.ofList column])) ∧
    ∀ before line after key columns, lines = before ++ line :: after →
      format.Splits line key columns → (∃ l ∈ before, ∃ cs, format.Splits l key cs) →
      ix = ((before ++ after).foldl addLine b).index := by
  intro ix lines
  have hrecord : ∀ key, ix.record? key = lines.findSome? (format.recordOf? key) :=
    record?_consumeAll h sources
  refine ⟨?_, ?_, ?_⟩
  · intro key
    rw [hrecord, List.findSome?_isSome_iff]
    constructor
    · rintro ⟨line, hmem, hsome⟩
      obtain ⟨hkey, hline⟩ := BulkFormat.isSome_recordOf?_iff.1 hsome
      exact ⟨hkey, line, hmem, hline⟩
    · rintro ⟨hkey, line, hmem, hline⟩
      exact ⟨line, hmem, BulkFormat.isSome_recordOf?_iff.2 ⟨hkey, hline⟩⟩
  · intro before line after key columns hlines hkey hline hfirst
    -- the lines before it do not have the key, so the search comes to this one
    have hbefore : before.findSome? (format.recordOf? key) = none := by
      rw [List.findSome?_eq_none_iff]
      intro l hl
      rw [← Option.not_isSome_iff_eq_none, BulkFormat.isSome_recordOf?_iff]
      rintro ⟨-, cs, hcs⟩
      exact hfirst l hl cs hcs
    have hrow : format.recordOf? key line = some (format.record columns) :=
      BulkFormat.recordOf?_eq_some_iff.2 ⟨hkey, columns, hline, rfl⟩
    refine ⟨format.record columns, ?_, fun field => ⟨?_, ?_⟩⟩
    · rw [hrecord, hlines, List.findSome?_append, hbefore, List.findSome?_cons, hrow]
      rfl
    · intro delimiter hinner hne
      exact BulkFormat.find?_record_of_inner hinner hne columns field
    · intro hinner
      exact BulkFormat.find?_record_of_no_inner hinner columns field
  · rintro before line after key columns hlines hline ⟨earlier, hmem, columns', hearlier⟩
    obtain ⟨hformat, -⟩ := stored_start h
    show (b.consumeAll sources).index = _
    rw [consumeAll_eq_foldl, foldl_addLine_index, foldl_addLine_index, hformat]
    have hlines' : sources.flatMap bulkLines = before ++ line :: after := hlines
    rw [hlines', BulkFormat.foldl_enter_append_cons hline hmem hearlier]

/-- A key that comes again in a later source, a field at two columns with an empty one
between them, and a column without a field. -/
theorem consumeAll_of_first_lines_repeated_key :
    let format : BulkFormat := ⟨[100, 101, 102, 101], ",", some ":"⟩
    let b : Builder := ⟨format, .empty 100, {}⟩
    let sources := [Bytes.ofText " a,p::q,,r,s\n", Bytes.ofText "b,x\na,z\n"]
    let ix := (b.consumeAll sources).index
    start format = .ok b ∧
      (∃ record, ix.record? "a" = some record ∧ record.find? 101 = some ["p", "q", "r"]) ∧
      ix = ([Bytes.ofText " a,p::q,,r,s", Bytes.ofText "b,x"].foldl addLine b).index := by
  intro format b sources ix
  have hstart : start format = .ok b := rfl
  have hfirst : format.Splits (Bytes.ofText " a,p::q,,r,s") "a"
      [['p', ':', ':', 'q'], [], ['r'], ['s']] := ⟨_, Bytes.text?_ofText _, by decide⟩
  have hlater : format.Splits (Bytes.ofText "a,z") "a" [['z']] :=
    ⟨_, Bytes.text?_ofText _, by decide⟩
  obtain ⟨-, hrecord, hleft⟩ := consumeAll_of_first_lines hstart sources
  refine ⟨hstart, ?_, ?_⟩
  · obtain ⟨record, hsome, hfields⟩ :=
      hrecord [] _ [Bytes.ofText "b,x", Bytes.ofText "a,z"] "a" _
        (by decide +kernel) (by decide) hfirst (by simp)
    exact ⟨record, hsome, (hfields 101).1 ":" rfl (by decide)⟩
  · exact hleft [Bytes.ofText " a,p::q,,r,s", Bytes.ofText "b,x"] _ [] "a" _
      (by decide +kernel) hlater ⟨_, List.mem_cons_self, _, hfirst⟩

end Builder

end Recommend
