import Mathlib.Data.List.Flatten
import Recommend.Proofs.Bulk.FirstWrite
import Recommend.Proofs.Snapshot.Layout

/-!
An index is no larger than the sources it is built from.

Keys and values are pieces of lines, so their characters stand in the line in the same
order (`List.Sublist`), and there are no more of them than characters.  `Index.Bounded n
ix` says that none of the counts and texts of an index is larger than `n`.  A row adds
at most the length of its line to each of them (`Bounded.insert?`), so all of them
together stay below the number of bytes that were read (`bounded_consumeAll`), and a
build whose sources have fewer than `2 ^ 64` bytes can be written (`Bounded.sized`).
-/

namespace Recommend

open Listing (textSize countLimit)

/-! ### Texts and pieces -/

/-- A text with fewer characters takes fewer bytes. -/
theorem textSize_le_of_sublist {s s' : String} (h : s.toList.Sublist s'.toList) :
    textSize s ≤ textSize s' := by
  rw [textSize, textSize, Bytes.ofText_eq_flatMap, Bytes.ofText_eq_flatMap]
  exact (h.flatMap String.utf8EncodeChar).length_le

/-- A character takes a byte or more. -/
theorem length_le_textSize (s : String) : s.toList.length ≤ textSize s := by
  rw [textSize, Bytes.ofText_eq_flatMap]
  apply length_le_length_flatMap
  intro c _ hnil
  have hpos := Char.utf8Size_pos c
  rw [← String.length_utf8EncodeChar, hnil] at hpos
  cases hpos

namespace Text

/-- The pieces of a text hold only what the text holds, in its order. -/
theorem flatten_splitBy_sublist (p : Char → Bool) (cs : List Char) :
    (splitBy p cs).flatten.Sublist cs := by
  rw [flatten_splitBy]
  exact List.filter_sublist

/-- Trimming takes characters off. -/
theorem trim_sublist (cs : List Char) : (trim cs).Sublist cs := by
  have hend : (trimEnd (trimStart cs)).Sublist (trimStart cs) := by
    rw [← List.reverse_sublist, trimEnd, List.reverse_reverse]
    exact List.dropWhile_sublist _
  exact hend.trans (List.dropWhile_sublist _)

end Text

/-- The lines of a source hold only what the source holds, in its order. -/
theorem flatten_bulkLines_sublist (source : Bytes) :
    (bulkLines source).flatten.Sublist source := by
  induction source with
  | nil => exact List.Sublist.refl _
  | cons b source ih =>
    rw [bulkLines]
    split
    -- a line feed is left out, any other byte goes to the line behind it
    next => exact ih.cons b
    next =>
      split
      next hlines =>
        rw [hlines] at ih
        exact ih.cons_cons b
      next line lines hlines =>
        rw [hlines] at ih
        exact ih.cons_cons b

/-- The lines of all sources hold no more bytes than the sources. -/
theorem length_flatten_flatMap_bulkLines_le (sources : List Bytes) :
    (sources.flatMap bulkLines).flatten.length ≤ sources.flatten.length := by
  induction sources with
  | nil => exact Nat.le_refl _
  | cons source sources ih =>
    have hsource := (flatten_bulkLines_sublist source).length_le
    rw [List.flatMap_cons, List.flatten_append, List.length_append, List.flatten_cons,
      List.length_append]
    omega

/-! ### Records -/

/-- A field of the record has at most `n` values, and none of them has more than `n`
bytes. -/
def Record.Bounded (n : Nat) (record : Record) : Prop :=
  ∀ field values, record.find? field = some values →
    values.length ≤ n ∧ ∀ s ∈ values, textSize s ≤ n

theorem Record.Bounded.mono {n m : Nat} {record : Record} (h : Record.Bounded n record)
    (hle : n ≤ m) :
    Record.Bounded m record := by
  intro field values hvalues
  obtain ⟨hlength, htexts⟩ := h field values hvalues
  exact ⟨Nat.le_trans hlength hle, fun s hs => Nat.le_trans (htexts s hs) hle⟩

namespace BulkFormat

theorem map_fst_zip_sublist (columns : List (List Char)) (fields : List FieldId) :
    ((columns.zip fields).map Prod.fst).Sublist columns := by
  induction columns generalizing fields with
  | nil => exact List.Sublist.refl _
  | cons column columns ih =>
    cases fields with
    | nil => exact List.nil_sublist _
    | cons field fields => exact (ih fields).cons_cons column

/-- The columns of a field hold only what all columns hold, in their order. -/
theorem flatten_columnsOf_sublist (f : BulkFormat) (columns : List (List Char))
    (field : FieldId) :
    (f.columnsOf columns field).flatten.Sublist columns.flatten := by
  have hfilter : (f.columnsOf columns field).Sublist
      ((columns.zip f.fieldIds.tail).map Prod.fst) :=
    List.filter_sublist.map Prod.fst
  exact (hfilter.trans (map_fst_zip_sublist columns f.fieldIds.tail)).flatten

/-- The values of a column hold only what the column holds, in its order. -/
theorem flatMap_values_sublist (delimiter : String) (column : List Char) :
    ((values delimiter column).flatMap String.toList).Sublist column := by
  have hpieces : (values delimiter column).flatMap String.toList =
      ((Text.splitAny delimiter column).filter fun v => !v.isEmpty).flatten := by
    rw [values, List.flatMap_map, List.flatten_eq_flatMap]
    simp
  rw [hpieces]
  exact List.filter_sublist.flatten.trans (Text.flatten_splitBy_sublist _ column)

/-- The values of a field are cut from the columns, without any character standing in
two of them. -/
theorem flatMap_values_record_sublist {f : BulkFormat} {columns : List (List Char)}
    {field : FieldId} {values : List String}
    (h : (f.record columns).find? field = some values) :
    (values.flatMap String.toList).Sublist columns.flatten := by
  have hcolumns := flatten_columnsOf_sublist f columns field
  by_cases hinner : f.inner = none ∨ f.inner = some ""
  · -- one column makes up the only value
    rw [find?_record_of_no_inner hinner, Option.map_eq_some_iff] at h
    obtain ⟨column, hcolumn, rfl⟩ := h
    have hmem : column ∈ f.columnsOf columns field :=
      List.mem_of_mem_filter (List.mem_of_getLast? hcolumn)
    simpa using (List.sublist_flatten_of_mem hmem).trans hcolumns
  · obtain ⟨delimiter, hdelimiter, hne⟩ : ∃ d, f.inner = some d ∧ d ≠ "" := by
      rw [not_or] at hinner
      obtain ⟨d, hd⟩ := Option.ne_none_iff_exists'.1 hinner.1
      exact ⟨d, hd, fun hempty => hinner.2 (hempty ▸ hd)⟩
    rw [find?_record_of_inner hdelimiter hne] at h
    split at h
    next => cases h
    next =>
      obtain rfl := Option.some.inj h
      rw [List.flatMap_assoc]
      refine List.Sublist.trans ?_ hcolumns
      rw [List.flatten_eq_flatMap]
      exact List.Sublist.flatMap_right _ fun column _ =>
        flatMap_values_sublist delimiter column

/-- A row is no larger than its line. -/
theorem bounded_of_readLine {f : BulkFormat} {line : Bytes} {text key : String}
    {record : Record} (htext : line.text? = some text)
    (hrow : f.readLine text = .row key record) :
    0 < line.length ∧ textSize key ≤ line.length ∧ Record.Bounded line.length record := by
  have hsize : textSize text = line.length := by rw [textSize, Bytes.ofText_of_text? htext]
  have hlength := length_le_textSize text
  obtain ⟨hkey, columns, hsplit, rfl⟩ := readLine_eq_row_iff.1 hrow
  -- key and columns are cut from the line, one behind the other
  have hpieces : (key.toList :: columns).flatten.Sublist text.toList := by
    rw [← hsplit]
    exact (Text.flatten_splitBy_sublist _ _).trans (Text.trim_sublist _)
  rw [List.flatten_cons] at hpieces
  have hfirst : key.toList.Sublist text.toList :=
    (List.sublist_append_left _ _).trans hpieces
  refine ⟨?_, ?_, ?_⟩
  · have hpos : 0 < key.toList.length := by
      rw [List.length_pos_iff, ne_eq, String.toList_eq_nil_iff]
      exact hkey
    have hle := hfirst.length_le
    omega
  · rw [← hsize]
    exact textSize_le_of_sublist hfirst
  · intro field values hvalues
    have htidy := f.tidy_record columns field values hvalues
    have hcut : (values.flatMap String.toList).Sublist text.toList :=
      (flatMap_values_record_sublist hvalues).trans
        ((List.sublist_append_right _ _).trans hpieces)
    constructor
    · -- no value is empty, so each has a character of its own
      have hcount : values.length ≤ (values.flatMap String.toList).length := by
        apply length_le_length_flatMap
        intro s hs hempty
        rw [String.toList_eq_nil_iff] at hempty
        exact htidy.2.2 (hempty ▸ hs)
      have hle := hcut.length_le
      omega
    · intro s hs
      rw [← hsize]
      apply textSize_le_of_sublist
      rw [List.flatMap_def] at hcut
      exact (List.sublist_flatten_of_mem (List.mem_map_of_mem hs)).trans hcut

end BulkFormat

/-! ### Indexes -/

namespace Index

/-- None of the counts of an index is larger than `n`, and none of its texts has more
than `n` bytes. -/
structure Bounded (n : Nat) (ix : Index) : Prop where
  size_le : ix.size ≤ n
  record_le : ∀ key record, ix.record? key = some record → textSize key ≤ n ∧
    Record.Bounded n record
  terms_le : ∀ field postings, ix.postings? field = some postings → postings.size ≤ n
  posting_le : ∀ field term keys, ix.posting? field term = some keys →
    textSize term ≤ n ∧ keys.length ≤ n ∧ ∀ key ∈ keys, textSize key ≤ n

theorem bounded_empty (keyField : FieldId) : (empty keyField).Bounded 0 where
  size_le := Nat.le_refl 0
  record_le _ _ h := by cases h
  terms_le _ _ h := by cases h
  posting_le _ _ _ h := by cases h

/-- Entering a key under values makes a term of each of them at most. -/
theorem size_foldl_post_le (key : String) (values : List String) (postings : Postings) :
    (values.foldl (post key) postings).size ≤ postings.size + values.length := by
  induction values generalizing postings with
  | nil => exact Nat.le_refl _
  | cons v values ih =>
    have hpost : (post key postings v).size ≤ postings.size + 1 :=
      SortedMap.size_insert_le _ _ _
    have hrest := ih (post key postings v)
    rw [List.foldl_cons, List.length_cons]
    omega

theorem Bounded.mono {n m : Nat} {ix : Index} (h : ix.Bounded n) (hle : n ≤ m) :
    ix.Bounded m where
  size_le := Nat.le_trans h.size_le hle
  record_le key record hrecord := by
    obtain ⟨hkey, hbounded⟩ := h.record_le key record hrecord
    exact ⟨Nat.le_trans hkey hle, hbounded.mono hle⟩
  terms_le field postings hpostings :=
    Nat.le_trans (h.terms_le field postings hpostings) hle
  posting_le field term keys hkeys := by
    obtain ⟨hterm, hlength, htexts⟩ := h.posting_le field term keys hkeys
    exact ⟨Nat.le_trans hterm hle, Nat.le_trans hlength hle,
      fun key hkey => Nat.le_trans (htexts key hkey) hle⟩

/-- A field without postings has no terms to count. -/
theorem Bounded.size_postings_le {n : Nat} {ix : Index} (h : ix.Bounded n) (field : FieldId) :
    ((ix.postings? field).getD .empty).size ≤ n := by
  cases hpostings : ix.postings? field with
  | none => exact Nat.zero_le n
  | some postings => exact h.terms_le field postings hpostings

theorem Bounded.listed_le {n : Nat} {ix : Index} (h : ix.Bounded n) (field : FieldId)
    (term : String) :
    ((ix.posting? field term).getD []).length ≤ n ∧
      ∀ key ∈ (ix.posting? field term).getD [], textSize key ≤ n := by
  cases hposting : ix.posting? field term with
  | none => simp
  | some keys => exact (h.posting_le field term keys hposting).2

/-- A record adds at most its own size to each of the counts. -/
theorem Bounded.insert? {n m : Nat} {ix ix' : Index} {key : String} {record : Record}
    (h : ix.Bounded n) (hpos : 0 < m) (hkey : textSize key ≤ m)
    (hrecord : Record.Bounded m record) (hins : ix.insert? key record = some ix') :
    ix'.Bounded (n + m) := by
  have hn : n ≤ n + m := Nat.le_add_right n m
  have hm : m ≤ n + m := Nat.le_add_left m n
  constructor
  case size_le =>
    -- one record more is no more than the size of the record, as that is not 0
    have hsize : ix'.size ≤ ix.size + 1 := by
      rw [eq_of_insert? hins]
      exact SortedMap.size_insert_le _ _ _
    have hold := h.size_le
    omega
  case record_le =>
    intro key' record' hrecord'
    rw [record?_insert? hins] at hrecord'
    split at hrecord'
    next heq =>
      subst heq
      obtain rfl := Option.some.inj hrecord'
      exact ⟨Nat.le_trans hkey hm, hrecord.mono hm⟩
    next => exact (h.mono hn).record_le key' record' hrecord'
  case terms_le =>
    intro field postings hpostings
    rw [postings?_insert? hins] at hpostings
    cases hvalues : record.find? field with
    | none =>
      rw [hvalues] at hpostings
      exact (h.mono hn).terms_le field postings hpostings
    | some values =>
      rw [hvalues] at hpostings
      -- each value makes one new term at most
      obtain rfl := Option.some.inj hpostings
      have hlength := (hrecord field values hvalues).1
      have hfold := size_foldl_post_le key values ((ix.postings? field).getD .empty)
      have hold := h.size_postings_le field
      omega
  case posting_le =>
    intro field term keys hkeys
    rw [posting?_insert? hins] at hkeys
    split at hkeys
    next hterm =>
      -- the key stands behind the others, as often as the record holds the term
      obtain rfl := Option.some.inj hkeys
      cases hvalues : record.find? field with
      | none => simp [hvalues] at hterm
      | some values =>
        rw [hvalues, Option.getD_some] at hterm
        obtain ⟨hlength, htexts⟩ := hrecord field values hvalues
        have hcount : values.count term ≤ values.length := List.count_le_length
        have hold := h.listed_le field term
        refine ⟨Nat.le_trans (htexts term hterm) hm, ?_, ?_⟩
        · rw [List.length_append, List.length_replicate, Option.getD_some]
          omega
        · intro key' hmem
          rcases List.mem_append.1 hmem with hmem | hmem
          · exact Nat.le_trans (hold.2 key' hmem) hn
          · rw [List.eq_of_mem_replicate hmem]
            exact Nat.le_trans hkey hm
    next => exact (h.mono hn).posting_le field term keys hkeys

/-- An index of small counts and texts can be written. -/
theorem Bounded.sized {n : Nat} {ix : Index} (h : ix.Bounded n) (hn : n < countLimit) :
    ix.Sized countLimit := by
  refine ⟨Nat.lt_of_le_of_lt h.size_le hn, ?_, ?_⟩
  · rintro ⟨key, record⟩ he
    obtain ⟨hkey, hrecord⟩ := h.record_le key record (SortedMap.mem_toList_iff.1 he)
    refine ⟨Nat.lt_of_le_of_lt hkey hn, ?_⟩
    rintro ⟨field, values⟩ hv
    obtain ⟨hlength, htexts⟩ := hrecord field values (SortedMap.mem_toList_iff.1 hv)
    exact ⟨Nat.lt_of_le_of_lt hlength hn, fun s hs => Nat.lt_of_le_of_lt (htexts s hs) hn⟩
  · rintro ⟨field, postings⟩ he
    have hpostings : ix.postings? field = some postings := SortedMap.mem_toList_iff.1 he
    refine ⟨Nat.lt_of_le_of_lt (h.terms_le field postings hpostings) hn, ?_⟩
    rintro ⟨term, keys⟩ hp
    have hposting : ix.posting? field term = some keys := by
      rw [posting?, hpostings, Option.bind_some]
      exact SortedMap.mem_toList_iff.1 hp
    obtain ⟨hterm, hlength, htexts⟩ := h.posting_le field term keys hposting
    exact ⟨Nat.lt_of_le_of_lt hterm hn, Nat.lt_of_le_of_lt hlength hn,
      fun key hkey => Nat.lt_of_le_of_lt (htexts key hkey) hn⟩

end Index

/-! ### Builds -/

namespace Builder

/-- One line adds at most its length. -/
theorem bounded_addLine {n : Nat} {b : Builder} (h : b.index.Bounded n) (line : Bytes) :
    (b.addLine line).index.Bounded (n + line.length) := by
  obtain ⟨stats, hline⟩ | ⟨text, key, record, index, stats, htext, hrow, hins, hline⟩ :=
    b.addLine_cases line
  · rw [hline]
    exact h.mono (Nat.le_add_right n _)
  · obtain ⟨hpos, hkey, hrecord⟩ := BulkFormat.bounded_of_readLine htext hrow
    rw [hline]
    exact h.insert? hpos hkey hrecord hins

/-- A whole run of lines adds at most all their bytes. -/
theorem bounded_foldl_addLine (lines : List Bytes) {n : Nat} {b : Builder}
    (h : b.index.Bounded n) :
    (lines.foldl addLine b).index.Bounded (n + lines.flatten.length) := by
  induction lines generalizing n b with
  | nil => exact h
  | cons line lines ih =>
    have hrun := ih (bounded_addLine h line)
    rw [List.foldl_cons, List.flatten_cons, List.length_append, ← Nat.add_assoc]
    exact hrun

/-- All that a build leaves is bounded by the number of bytes it has read. -/
theorem bounded_consumeAll {format : BulkFormat} {b : Builder} (h : start format = .ok b)
    (sources : List Bytes) :
    (b.consumeAll sources).index.Bounded sources.flatten.length := by
  have hstart : b.index.Bounded 0 := by
    obtain ⟨keyField, fields, -, rfl⟩ := start_eq_ok h
    exact Index.bounded_empty keyField
  have hrun := bounded_foldl_addLine (sources.flatMap bulkLines) hstart
  rw [Nat.zero_add] at hrun
  rw [consumeAll_eq_foldl]
  exact hrun.mono (length_flatten_flatMap_bulkLines_le sources)

end Builder

end Recommend
