import Recommend.Bulk.Builder
import Recommend.Proofs.Index.Postings

/-!
What a build leaves in the stores, and in which order.

A line does one of two things (`addLine_cases`): it changes the statistics only, or it
inserts one record under a key that was not there.  Everything about whole builds
follows from these two cases by induction over the lines:

* the order of loading is the order in which keys come into the forward store
  (`loadOrder`);
* records are tidy: a key is not empty, a field of a record is one of the columns after
  the key, and has at least one value and no empty one (`Tidy`);
* the inverted store is derived from the records in that order (`Index.Derived`).

The main result is `consumeAll_stores`.
-/

namespace Recommend

/-! ### Tidy records -/

/-- Every field of the record is one of `fields`, has a value, and has no empty value. -/
def Tidy (fields : List FieldId) (record : Record) : Prop :=
  ∀ field values, record.find? field = some values → field ∈ fields ∧ values ≠ [] ∧
    "" ∉ values

namespace BulkFormat

/-- What the columns read so far have put into a record; a list of values may still be
empty. -/
def Partial (fields : List FieldId) (record : Record) : Prop :=
  ∀ field values, record.find? field = some values → field ∈ fields ∧ "" ∉ values

/-- Pieces with nothing in them are no values. -/
theorem empty_notMem_values (delimiter : String) (column : List Char) :
    "" ∉ values delimiter column := by
  unfold values
  intro h
  obtain ⟨piece, hpiece, heq⟩ := List.mem_map.1 h
  rw [String.ofList_eq_empty_iff] at heq
  subst heq
  simp at hpiece

/-- Putting values without an empty one under a field keeps a record partial. -/
theorem Partial.insert {fields : List FieldId} {record : Record} (h : Partial fields record)
    {field : FieldId} (hfield : field ∈ fields) {values : List String}
    (hvalues : "" ∉ values) :
    Partial fields (record.insert field values) := by
  intro field' values' hfind
  by_cases hf : field' = field
  · subst hf
    rw [SortedMap.find?_insert_self] at hfind
    obtain rfl := Option.some.inj hfind
    exact ⟨hfield, hvalues⟩
  · rw [SortedMap.find?_insert_of_ne _ _ hf] at hfind
    exact h field' values' hfind

/-- One column keeps a record partial. -/
theorem Partial.addColumn {f : BulkFormat} {fields : List FieldId} {record : Record}
    (h : Partial fields record) {field : FieldId} (hfield : field ∈ fields)
    (column : List Char) :
    Partial fields (f.addColumn record column field) := by
  unfold BulkFormat.addColumn
  split
  · exact h
  · rename_i hcolumn
    split
    · -- the values found here go behind those of an earlier column of the field
      refine h.insert hfield ?_
      rw [List.mem_append, not_or]
      refine ⟨?_, empty_notMem_values _ column⟩
      cases hold : record.find? field with
      | none => simp
      | some values => exact (h field values hold).2
    -- one value, which is the column and not empty
    · refine h.insert hfield ?_
      rw [List.mem_singleton]
      intro heq
      exact hcolumn (by rw [String.ofList_eq_empty_iff.1 heq.symm]; rfl)

/-- A whole run of columns keeps a record partial. -/
theorem Partial.foldl_addColumn {f : BulkFormat} {fields : List FieldId}
    (columns : List (List Char × FieldId)) (hcolumns : ∀ c ∈ columns, c.2 ∈ fields)
    {record : Record} (h : Partial fields record) :
    Partial fields (columns.foldl (fun record c => f.addColumn record c.1 c.2) record) := by
  induction columns generalizing record with
  | nil => exact h
  | cons c columns ih =>
    rw [List.foldl_cons]
    apply ih (fun c' hc' => hcolumns c' (List.mem_cons_of_mem _ hc'))
    exact h.addColumn (hcolumns c List.mem_cons_self) c.1

/-- The record of a line is tidy. -/
theorem tidy_record (f : BulkFormat) (columns : List (List Char)) :
    Tidy f.fieldIds.tail (f.record columns) := by
  intro field values hfind
  have hpartial : Partial f.fieldIds.tail
      ((columns.zip f.fieldIds.tail).foldl (fun record c =>
        f.addColumn record c.1 c.2) .empty) := by
    apply Partial.foldl_addColumn
    · rintro ⟨column, field'⟩ hmem
      exact (List.of_mem_zip hmem).2
    · intro field' values' h
      cases h
  -- the last step of reading a record drops the fields that got no value
  rw [BulkFormat.record, SortedMap.find?_filter, Option.filter_eq_some_iff] at hfind
  obtain ⟨hfield, hempty⟩ := hpartial field values hfind.1
  refine ⟨hfield, ?_, hempty⟩
  rintro rfl
  simp at hfind

/-- A row has a key that is not empty, and a tidy record. -/
theorem readLine_row {f : BulkFormat} {line key : String} {record : Record}
    (h : f.readLine line = .row key record) : key ≠ "" ∧ Tidy f.fieldIds.tail record := by
  unfold readLine at h
  split at h
  · cases h
  · split at h
    · cases h
    · rename_i first columns _
      split at h
      · cases h
      -- the branches before this one read something else than a row
      · rename_i hfirst
        injection h with hkey hrecord
        subst hkey hrecord
        refine ⟨?_, f.tidy_record columns⟩
        rw [ne_eq, String.ofList_eq_empty_iff]
        rintro rfl
        exact hfirst rfl

end BulkFormat

namespace Builder

/-! ### One line -/

/-- A row under a key that is taken is counted, and nothing else. -/
theorem addRow_of_isSome {b : Builder} {key : String}
    (h : (b.index.record? key).isSome = true) (record : Record) :
    b.addRow key record =
      ⟨b.format, b.index, { b.stats with duplicateKeys := b.stats.duplicateKeys + 1 }⟩ := by
  rw [addRow, if_pos h]

/-- A row under a new key is inserted: such a key is never refused. -/
theorem addRow_of_insert? {b : Builder} {key : String} {record : Record} {index : Index}
    (h : b.index.insert? key record = some index) :
    b.addRow key record =
      ⟨b.format, index, { b.stats with inserted := b.stats.inserted + 1 }⟩ := by
  have hnew : ¬(b.index.record? key).isSome = true := by simp [Index.record?_of_insert? h]
  rw [addRow, if_neg hnew, h]

/-- A line changes the statistics only, or it inserts a row under a new key. -/
theorem addLine_cases (b : Builder) (line : Bytes) :
    (∃ stats, b.addLine line = ⟨b.format, b.index, stats⟩) ∨
      ∃ text key record index stats, line.text? = some text ∧
        b.format.readLine text = .row key record ∧ b.index.insert? key record = some index ∧
        b.addLine line = ⟨b.format, index, stats⟩ := by
  unfold addLine
  cases htext : line.text? with
  | none => exact .inl ⟨_, rfl⟩
  | some text =>
    dsimp only
    unfold addText
    cases hread : b.format.readLine text with
    | empty => exact .inl ⟨_, rfl⟩
    | blankKey => exact .inl ⟨_, rfl⟩
    | row key record =>
      cases hrecord : b.index.record? key with
      | some old => exact .inl ⟨_, addRow_of_isSome (by simp [hrecord]) record⟩
      | none =>
        have hins := Index.insert?_eq_some hrecord record
        exact .inr ⟨text, key, record, _, _, rfl, hread, hins, addRow_of_insert? hins⟩

theorem addLine_format (b : Builder) (line : Bytes) :
    (b.addLine line).format = b.format := by
  obtain ⟨stats, h⟩ | ⟨_, _, _, _, _, _, _, _, h⟩ := b.addLine_cases line <;> rw [h]

/-! ### The order of loading -/

/-- The keys that a line brings into the forward store. -/
def newKeys (b : Builder) (line : Bytes) : List String :=
  (b.addLine line).index.forward.keys.filter fun key => !b.index.forward.contains key

/-- The keys that lines bring in, in the order in which they come in. -/
def loadedBy : Builder → List Bytes → List String
  | _, [] => []
  | b, line :: lines => b.newKeys line ++ loadedBy (b.addLine line) lines

/-- The keys that sources bring in, in the order in which they come in. -/
def loadOrder (b : Builder) (sources : List Bytes) : List String :=
  b.loadedBy (sources.flatMap bulkLines)

/-- Taking in sources is taking in their lines, one source after the other. -/
theorem consumeAll_eq_foldl (b : Builder) (sources : List Bytes) :
    b.consumeAll sources = (sources.flatMap bulkLines).foldl addLine b := by
  rw [List.foldl_flatMap]
  rfl

theorem newKeys_of_index_eq {b : Builder} {line : Bytes}
    (h : (b.addLine line).index = b.index) : b.newKeys line = [] := by
  unfold newKeys
  rw [h, List.filter_eq_nil_iff]
  intro key hkey
  simp [SortedMap.mem_keys_iff.1 hkey]

/-- A row that is inserted brings in its own key and no other. -/
theorem newKeys_of_insert? {b : Builder} {line : Bytes} {key : String} {record : Record}
    (h : b.index.insert? key record = some (b.addLine line).index) :
    b.newKeys line = [key] := by
  unfold newKeys
  rw [Index.eq_of_insert? h, ← List.perm_singleton]
  -- neither list has repetitions, so it is enough to compare their members
  apply (List.perm_ext_iff_of_nodup (List.Pairwise.filter _ (SortedMap.nodup_keys _)) (by simp)).2
  intro key'
  have hnew : b.index.forward.contains key = false := by
    simpa [Index.record?, SortedMap.contains] using Index.record?_of_insert? h
  rw [List.mem_filter, SortedMap.mem_keys_iff, SortedMap.contains_insert,
    List.mem_singleton]
  constructor
  · rintro ⟨rfl | hold, hout⟩
    · rfl
    · simp [hold] at hout
  · rintro rfl
    simp [hnew]

/-! ### Stores of builds -/

/-- What lines leave behind: tidy records under keys that are not empty, and the
postings derived from them in the order of loading. -/
structure Stored (fields : List FieldId) (ix : Index) (order : List String) : Prop where
  derived : ix.Derived order
  key_ne : ∀ key record, ix.record? key = some record → key ≠ ""
  tidy : ∀ key record, ix.record? key = some record → Tidy fields record

/-- A tidy record under a new key keeps the stores in order. -/
theorem Stored.insert? {fields : List FieldId} {ix ix' : Index} {order : List String}
    (h : Stored fields ix order) {key : String} {record : Record} (hkey : key ≠ "")
    (htidy : Tidy fields record) (hins : ix.insert? key record = some ix') :
    Stored fields ix' (order ++ [key]) := by
  refine ⟨h.derived.insert? hins, ?_, ?_⟩
  · intro key' record' hrecord'
    rw [Index.record?_insert? hins] at hrecord'
    split at hrecord'
    · rename_i heq
      exact heq ▸ hkey
    · exact h.key_ne key' record' hrecord'
  · intro key' record' hrecord'
    rw [Index.record?_insert? hins] at hrecord'
    split at hrecord'
    · obtain rfl := Option.some.inj hrecord'
      exact htidy
    · exact h.tidy key' record' hrecord'

/-- One line keeps the stores in order, and its key goes to the end. -/
theorem Stored.addLine {b : Builder} {order : List String}
    (h : Stored b.format.fieldIds.tail b.index order) (line : Bytes) :
    Stored b.format.fieldIds.tail (b.addLine line).index (order ++ b.newKeys line) := by
  obtain ⟨stats, hline⟩ | ⟨_, key, record, index, stats, _, hrow, hins, hline⟩ :=
    b.addLine_cases line
  -- only the statistics change
  · have hindex : (b.addLine line).index = b.index := by rw [hline]
    rw [newKeys_of_index_eq hindex, hindex, List.append_nil]
    exact h
  -- a row goes in under a new key
  · have hindex : (b.addLine line).index = index := by rw [hline]
    rw [← hindex] at hins
    rw [newKeys_of_insert? hins]
    obtain ⟨hkey, htidy⟩ := BulkFormat.readLine_row hrow
    exact h.insert? hkey htidy hins

/-- A whole run of lines keeps the stores in order. -/
theorem Stored.foldl_addLine (lines : List Bytes) {b : Builder} {order : List String}
    (h : Stored b.format.fieldIds.tail b.index order) :
    Stored b.format.fieldIds.tail (lines.foldl Builder.addLine b).index
      (order ++ b.loadedBy lines) := by
  induction lines generalizing b order with
  | nil => simpa [loadedBy] using h
  | cons line lines ih =>
    -- the fields are those of the format, which every line leaves alone
    have hstep := h.addLine line
    rw [← addLine_format b line] at hstep
    have hrun := ih hstep
    rw [addLine_format] at hrun
    simpa [loadedBy, List.append_assoc] using hrun

/-- A build starts with nothing, and with the first field of its format as the key
field. -/
theorem start_eq_ok {format : BulkFormat} {b : Builder} (h : start format = .ok b) :
    ∃ keyField fields, format.fieldIds = keyField :: fields ∧
      b = ⟨format, .empty keyField, {}⟩ := by
  unfold start at h
  split at h
  next => cases h
  next keyField fields hfields =>
    cases h
    exact ⟨keyField, fields, hfields, rfl⟩

theorem stored_start {format : BulkFormat} {b : Builder} (h : start format = .ok b) :
    b.format = format ∧ Stored format.fieldIds.tail b.index [] := by
  obtain ⟨keyField, fields, -, rfl⟩ := start_eq_ok h
  refine ⟨rfl, Index.derived_empty keyField, ?_, ?_⟩
  · intro key record hrecord
    cases hrecord
  · intro key record hrecord
    cases hrecord

/-- A build leaves its stores in order. -/
theorem stored_consumeAll {format : BulkFormat} {b : Builder} (h : start format = .ok b)
    (sources : List Bytes) :
    Stored format.fieldIds.tail (b.consumeAll sources).index (b.loadOrder sources) := by
  obtain ⟨hformat, hstored⟩ := stored_start h
  rw [← hformat] at hstored ⊢
  rw [consumeAll_eq_foldl, loadOrder]
  simpa using hstored.foldl_addLine (sources.flatMap bulkLines)

/-- **The inverted store is the one that the records and the order of loading give.**
Records are tidy, a field has postings iff a record carries it, and the posting of a
term is there iff a record holds the term; it is then the keys in the order of loading,
each as often as its record holds the term. -/
theorem consumeAll_stores {format : BulkFormat} {b : Builder} (h : start format = .ok b)
    (sources : List Bytes) :
    let ix := (b.consumeAll sources).index
    let order := b.loadOrder sources
    (order.Nodup ∧ ∀ key, key ∈ order ↔ (ix.record? key).isSome = true) ∧
      (∀ key record, ix.record? key = some record → key ≠ "" ∧
        ∀ field values, record.find? field = some values →
          field ∈ format.fieldIds.tail ∧ values ≠ [] ∧ "" ∉ values) ∧
      (∀ field, (ix.postings? field).isSome = true ↔
        ∃ key record, ix.record? key = some record ∧ record.contains field = true) ∧
      ∀ field term,
        ((ix.posting? field term).isSome = true ↔
          ∃ key record values, ix.record? key = some record ∧
            record.find? field = some values ∧
            term ∈ values) ∧
        ∀ keys, ix.posting? field term = some keys →
          keys ≠ [] ∧
          keys = order.flatMap fun key =>
            List.replicate ((ix.values key field).count term) key := by
  intro ix order
  have hstored : Stored format.fieldIds.tail ix order := stored_consumeAll h sources
  refine ⟨⟨hstored.derived.nodup, hstored.derived.mem_order⟩, ?_,
    hstored.derived.postings_isSome, ?_⟩
  · intro key record hrecord
    exact ⟨hstored.key_ne key record hrecord, hstored.tidy key record hrecord⟩
  · intro field term
    refine ⟨hstored.derived.posting_isSome field term, ?_⟩
    intro keys hkeys
    refine ⟨hstored.derived.posting_ne_nil field term keys hkeys, ?_⟩
    have hocc := hstored.derived.posting_eq field term
    rwa [hkeys, Option.getD_some] at hocc

/-- A field at two columns, a value held twice, a key that comes again and one that is
blank. -/
theorem consumeAll_stores_of_repetitions :
    let format : BulkFormat := ⟨[100, 101, 101], ",", some ":"⟩
    let b : Builder := ⟨format, .empty 100, {}⟩
    let sources := [Bytes.ofText "a,x:y,x\nb,x\n", Bytes.ofText "a,z\n,x\nc,:,y"]
    let ix := (b.consumeAll sources).index
    start format = .ok b ∧ b.loadOrder sources = ["a", "b", "c"] ∧
      ix.posting? 101 "x" = some ["a", "a", "b"] ∧
      ["a", "a", "b"] = (b.loadOrder sources).flatMap fun key =>
        List.replicate ((ix.values key 101).count "x") key := by
  intro format b sources ix
  have hstart : start format = .ok b := rfl
  have hposting : ix.posting? 101 "x" = some ["a", "a", "b"] := by decide +kernel
  refine ⟨hstart, by decide +kernel, hposting, ?_⟩
  obtain ⟨_, _, _, hpostings⟩ := consumeAll_stores hstart sources
  exact ((hpostings 101 "x").2 _ hposting).2

end Builder

end Recommend
