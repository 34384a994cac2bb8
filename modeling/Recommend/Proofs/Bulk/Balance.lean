import Mathlib.Data.List.Dedup
import Recommend.Proofs.Bulk.Account

/-!
The statistics of a build balance.

Every line is counted, and counted once more by what became of it, unless it is not
UTF-8.  The kinds of lines give most of that (`Accounts`).  What is left is to say which
lines there are, without reading byte by byte (`segments`), and which of them share a
key: a build has as many records as its lines have different keys (`size_consumeAll`),
and every other line with a key is a repetition.

Nothing goes wrong on the way.  Read by position, a line could be asked for a column
that it does not have, and a row could be refused by the index although its key was
looked up before.  `addLine?` is a line taken in with both as failures, and it never
fails (`addLine?_eq_some`).
-/

namespace Recommend

/-! ### Lines as pieces between line feeds -/

/-- All pieces but the last one, if nothing stands in that. -/
def dropOpen (pieces : List Bytes) : List Bytes :=
  if pieces.getLast? = some [] then pieces.dropLast else pieces

/-- The pieces of a source between its line feeds; a line feed at the end opens no
piece. -/
def segments (source : Bytes) : List Bytes := dropOpen (source.splitOn 10)

theorem dropOpen_cons_cons (piece piece' : Bytes) (pieces : List Bytes) :
    dropOpen (piece :: piece' :: pieces) = piece :: dropOpen (piece' :: pieces) := by
  rw [dropOpen, dropOpen, List.getLast?_cons_cons, List.dropLast_cons_cons]
  split <;> rfl

/-- The lines of a source are its pieces between line feeds. -/
theorem bulkLines_eq_segments (source : Bytes) : bulkLines source = segments source := by
  induction source with
  | nil => rfl
  | cons b source ih =>
    obtain ⟨piece, pieces, hpieces⟩ :=
      List.exists_cons_of_ne_nil (List.splitOnP_ne_nil (· == (10 : UInt8)) source)
    rw [segments, List.splitOn, hpieces] at ih
    rw [segments, List.splitOn, List.splitOnP_cons_eq_if_modifyHead, hpieces, bulkLines, ih]
    by_cases hb : b = 10
    · rw [if_pos hb, if_pos (beq_iff_eq.2 hb), dropOpen_cons_cons]
    · rw [if_neg hb, if_neg (mt beq_iff_eq.1 hb), List.modifyHead_cons]
      -- the byte joins the first piece; one that was last and empty is open no longer
      cases pieces with
      | nil => cases piece <;> simp [dropOpen]
      | cons piece' pieces => rw [dropOpen_cons_cons, dropOpen_cons_cons]

/-! ### Reading by position -/

/-- The elements from one position up to another one, if the two are in order and in
range. -/
def slice? {α : Type} (l : List α) (start stop : Nat) : Option (List α) :=
  if start ≤ stop ∧ stop ≤ l.length then some ((l.take stop).drop start) else none

/-- Behind the first element, the elements up to a position are in range if it is. -/
theorem slice?_cons {α : Type} {l : List α} {n : Nat} (h : n ≤ l.length) (a : α) :
    slice? (a :: l) 1 (n + 1) = some (l.take n) := by
  rw [slice?, if_pos ⟨Nat.le_add_left 1 n, Nat.succ_le_succ h⟩]
  rfl

namespace BulkFormat

/-- Read a line by positions: the key at the first one, and from the second one on as
many columns as there are both columns and fields.  There is no result if a position is
out of range. -/
def readLine? (f : BulkFormat) (line : String) : Option BulkLine := do
  if Text.trim line.toList = [] then return .empty
  let columns := Text.splitAny f.between (Text.trim line.toList)
  let width := min columns.length f.fieldIds.length
  let key ← columns[0]?
  if width = 0 ∨ key = [] then return .blankKey
  let values ← slice? columns 1 width
  let fields ← slice? f.fieldIds 1 width
  let record :=
    (values.zip fields).foldl (fun record c => f.addColumn record c.1 c.2) .empty
  return .row (String.ofList key) (record.filter fun _ values => !values.isEmpty)

variable {f : BulkFormat}

/-- A record takes the columns and the fields up to the shorter of the two lists. -/
theorem record_eq_take {keyField : FieldId} {fields : List FieldId}
    (h : f.fieldIds = keyField :: fields) (columns : List (List Char)) :
    let width := min columns.length fields.length
    f.record columns =
      (((columns.take width).zip (fields.take width)).foldl
        (fun record c => f.addColumn record c.1 c.2) .empty).filter
          fun _ values => !values.isEmpty := by
  intro width
  rw [record, h, List.tail_cons, List.zip_eq_zip_take_min]

/-- With a field for the key, no position of a line is out of range, and what is read is
the line. -/
theorem readLine?_eq_some (h : f.fieldIds ≠ []) (line : String) :
    f.readLine? line = some (f.readLine line) := by
  unfold readLine?
  by_cases htrim : Text.trim line.toList = []
  · rw [if_pos htrim, readLine_of_blank htrim]
    rfl
  · obtain ⟨columns, hsplit⟩ := f.exists_columns (Text.trim line.toList)
    obtain ⟨keyField, fields, hfields⟩ := List.exists_cons_of_ne_nil h
    rw [if_neg htrim, readLine_of_not_blank htrim hsplit, hsplit, record_eq_take hfields,
      hfields]
    generalize f.firstColumn (Text.trim line.toList) = key
    -- the first position is the key's in both lists, so both are cut one place further on
    have hwidth : min (key :: columns).length (keyField :: fields).length =
        min columns.length fields.length + 1 := Nat.succ_min_succ _ _
    dsimp only
    rw [hwidth, slice?_cons (Nat.min_le_left _ _), slice?_cons (Nat.min_le_right _ _)]
    cases key with
    | nil => simp
    | cons c key => simp

end BulkFormat

namespace Builder

/-- Add what has been read of a line; there is no result if the index refuses a row. -/
def addRead? (b : Builder) : BulkLine → Option Builder
  | .empty => some { b with stats := { b.stats with emptyLines := b.stats.emptyLines + 1 } }
  | .blankKey =>
    some { b with stats := { b.stats with blankKeys := b.stats.blankKeys + 1 } }
  | .row key record =>
    if (b.index.record? key).isSome then
      some { b with stats := { b.stats with duplicateKeys := b.stats.duplicateKeys + 1 } }
    else do
      let index ← b.index.insert? key record
      return { b with index, stats := { b.stats with inserted := b.stats.inserted + 1 } }

/-- Take in one line, by positions. -/
def addLine? (b : Builder) (line : Bytes) : Option Builder :=
  let b := { b with stats := { b.stats with lines := b.stats.lines + 1 } }
  match line.text? with
  | none => some b
  | some text => b.format.readLine? text >>= b.addRead?

/-- Take in sources one after the other, up to the first failure. -/
def consumeAll? (b : Builder) (sources : List Bytes) : Option Builder :=
  (sources.flatMap segments).foldlM addLine? b

/-! ### No line fails -/

/-- A row is only put to the index if its key is new, and then it is not refused. -/
theorem addRead?_row (b : Builder) (key : String) (record : Record) :
    b.addRead? (.row key record) = some (b.addRow key record) := by
  cases hold : b.index.record? key with
  | some old =>
    have htaken : (b.index.record? key).isSome = true := by rw [hold]; rfl
    rw [addRead?, if_pos htaken, addRow_of_isSome htaken]
  | none =>
    have hnew : ¬(b.index.record? key).isSome = true := by simp [hold]
    have hins := Index.insert?_eq_some hold record
    rw [addRead?, if_neg hnew, hins, addRow_of_insert? hins]
    rfl

/-- A line that is taken in by positions does not fail, and is taken in as ever. -/
theorem addLine?_eq_some {b : Builder} (h : b.format.fieldIds ≠ []) (line : Bytes) :
    b.addLine? line = some (b.addLine line) := by
  unfold addLine? addLine
  cases line.text? with
  | none => rfl
  | some text =>
    dsimp only
    rw [BulkFormat.readLine?_eq_some h, Option.bind_eq_bind, Option.bind_some, addText]
    dsimp only
    cases b.format.readLine text with
    | empty => rfl
    | blankKey => rfl
    | row key record => exact addRead?_row _ key record

/-- No line of a run fails. -/
theorem foldlM_addLine? (lines : List Bytes) {b : Builder} (h : b.format.fieldIds ≠ []) :
    lines.foldlM addLine? b = some (lines.foldl addLine b) := by
  induction lines generalizing b with
  | nil => rfl
  | cons line lines ih =>
    rw [List.foldlM_cons, addLine?_eq_some h, Option.bind_eq_bind, Option.bind_some,
      List.foldl_cons]
    -- a line leaves the format alone, so there is a field for the key in the next step
    apply ih
    rwa [addLine_format]

end Builder

/-! ### Lines with a key -/

namespace BulkFormat

variable {f : BulkFormat}

/-- A line is a row iff it has a key. -/
theorem kind_eq_row_iff {line : Bytes} :
    f.kind line = .row ↔ (f.key? line).isSome = true := by
  rw [← map_fst_row?, Option.isSome_map]
  cases htext : line.text? with
  | none => simp [kind_of_no_text htext, row?, htext]
  | some text =>
    rw [kind_eq_readLine_kind htext, row?, htext, Option.bind_some]
    cases f.readLine text <;> simp [BulkLine.kind]

/-- A line is unreadable iff it is not UTF-8. -/
theorem kind_eq_unreadable_iff {line : Bytes} :
    f.kind line = .unreadable ↔ line.text?.isNone = true := by
  cases htext : line.text? with
  | none => simp [kind_of_no_text htext]
  | some text =>
    rw [kind_eq_readLine_kind htext]
    cases f.readLine text <;> simp [BulkLine.kind]

theorem count_row (f : BulkFormat) (lines : List Bytes) :
    (lines.map f.kind).count .row = (lines.filterMap f.key?).length := by
  rw [List.length_filterMap_eq_countP, List.count, List.countP_map]
  apply List.countP_congr
  intro line _
  rw [← kind_eq_row_iff, Function.comp_apply, beq_iff_eq]

theorem count_unreadable (f : BulkFormat) (lines : List Bytes) :
    (lines.map f.kind).count .unreadable = lines.countP fun line => line.text?.isNone := by
  rw [List.count, List.countP_map]
  apply List.countP_congr
  intro line _
  rw [← kind_eq_unreadable_iff, Function.comp_apply, beq_iff_eq]

end BulkFormat

/-- Every line is of one kind. -/
theorem LineKind.length_eq_sum_count (kinds : List LineKind) :
    kinds.length =
      kinds.count .row + kinds.count .empty + kinds.count .blankKey + kinds.count .unreadable := by
  induction kinds with
  | nil => rfl
  | cons kind kinds ih => cases kind <;> simp [ih] <;> omega

namespace Builder

variable {format : BulkFormat} {b : Builder}

/-- A build has a record for each key of its lines, and no other. -/
theorem size_consumeAll (h : start format = .ok b) (sources : List Bytes) :
    (b.consumeAll sources).index.size =
      ((sources.flatMap bulkLines).filterMap format.key?).dedup.length := by
  rw [Index.size, ← SortedMap.length_keys]
  -- neither list has repetitions, so they are as long as each other if they have the same
  -- keys
  apply List.Perm.length_eq
  apply (List.perm_ext_iff_of_nodup (SortedMap.nodup_keys _) (List.nodup_dedup _)).2
  intro key
  have hrecord := record?_consumeAll h sources key
  have hkeys : key ∈ (b.consumeAll sources).index.forward.keys ↔
      ((b.consumeAll sources).index.record? key).isSome = true := SortedMap.mem_keys_iff
  rw [hkeys, hrecord, List.findSome?_isSome_iff, List.mem_dedup, List.mem_filterMap]
  simp only [BulkFormat.isSome_recordOf?_iff_key?]

/-- A build starts from zero, so its statistics are those of its lines. -/
theorem stats_consumeAll (h : start format = .ok b) (sources : List Bytes) :
    let built := b.consumeAll sources
    let kinds := (sources.flatMap bulkLines).map format.kind
    built.stats.lines = kinds.length ∧ built.stats.emptyLines = kinds.count .empty ∧
      built.stats.blankKeys = kinds.count .blankKey ∧
      built.stats.inserted + built.stats.duplicateKeys = kinds.count .row ∧
      built.stats.inserted = built.index.size := by
  obtain ⟨keyField, fields, -, rfl⟩ := start_eq_ok h
  obtain ⟨hlines, hempty, hblank, hrows, hinserted⟩ :=
    accounts_consumeAll ⟨format, .empty keyField, {}⟩ sources
  have hsize : (Index.empty keyField).size = 0 := rfl
  dsimp only at hlines hempty hblank hrows hinserted
  rw [Nat.zero_add] at hlines hempty hblank hrows hinserted
  rw [hsize, Nat.add_zero] at hinserted
  exact ⟨hlines, hempty, hblank, hrows, hinserted⟩

/-- A build never fails once it has started. -/
theorem consumeAll?_eq_some (h : start format = .ok b) (sources : List Bytes) :
    b.consumeAll? sources = some (b.consumeAll sources) := by
  obtain ⟨keyField, fields, hfields, rfl⟩ := start_eq_ok h
  have hfirst : format.fieldIds ≠ [] := by simp [hfields]
  rw [consumeAll?, ← funext bulkLines_eq_segments, foldlM_addLine? _ hfirst,
    consumeAll_eq_foldl]

/-- **The statistics of a build balance.**  The lines are the pieces between the line
feeds of the sources, and each is counted.  It is counted once more as inserted, empty,
without a key or a repetition, unless it is not UTF-8; which lines are empty or without
a key can be seen from the line alone.  As many rows are inserted as there are records,
and there are as many repetitions as there are more lines with a key than different
keys.  No line is read at a position that it does not have, and no row is refused by the
index. -/
theorem consumeAll_balances (h : start format = .ok b) (sources : List Bytes) :
    let built := b.consumeAll sources
    let lines := sources.flatMap segments
    let keys := lines.filterMap format.key?
    built.stats.lines = lines.length ∧
      built.stats.lines = built.stats.inserted + built.stats.emptyLines + built.stats.blankKeys +
        built.stats.duplicateKeys + lines.countP (fun line => line.text?.isNone) ∧
      built.stats.emptyLines = (lines.map format.kind).count .empty ∧
      built.stats.blankKeys = (lines.map format.kind).count .blankKey ∧
      built.stats.inserted = built.index.size ∧
      built.stats.duplicateKeys + keys.dedup.length = keys.length ∧
      b.consumeAll? sources = some built := by
  dsimp only
  rw [← funext bulkLines_eq_segments]
  obtain ⟨hlines, hempty, hblank, hrows, hinserted⟩ := stats_consumeAll h sources
  have hkinds := LineKind.length_eq_sum_count ((sources.flatMap bulkLines).map format.kind)
  rw [BulkFormat.count_row] at hrows hkinds
  rw [BulkFormat.count_unreadable] at hkinds
  refine ⟨?_, ?_, hempty, hblank, hinserted, ?_, consumeAll?_eq_some h sources⟩
  · rw [hlines, List.length_map]
  -- rows, empty lines, blank keys and unreadable lines are all the lines there are
  · omega
  · rw [← size_consumeAll h, ← hrows, ← hinserted, Nat.add_comm]

/-- Two sources with a key in both of them, an empty line, one that is not UTF-8, one
with a blank first column, one with more columns than fields, and a last one that is not
closed. -/
theorem consumeAll_balances_of_repetitions :
    let format : BulkFormat := ⟨[100, 101], ",", none⟩
    let b : Builder := ⟨format, .empty 100, {}⟩
    let sources :=
      [Bytes.ofText "a,x,y\n\nb\n", [0x61, 0xff, 10] ++ Bytes.ofText ",x\nb,z\na"]
    let built := b.consumeAll sources
    let lines :=
      [Bytes.ofText "a,x,y", [], Bytes.ofText "b", [0x61, 0xff], Bytes.ofText ",x",
      Bytes.ofText "b,z", Bytes.ofText "a"]
    start format = .ok b ∧ sources.flatMap segments = lines ∧
      lines.filterMap format.key? = ["a", "b", "b", "a"] ∧ built.stats = ⟨7, 2, 1, 1, 2⟩ ∧
      built.index.size = 2 ∧ b.consumeAll? sources = some built := by
  intro format b sources built lines
  have hstart : start format = .ok b := rfl
  obtain ⟨-, -, -, -, -, -, hsafe⟩ := consumeAll_balances hstart sources
  exact ⟨hstart, by decide +kernel, by decide +kernel, by decide +kernel, by decide +kernel,
    hsafe⟩

end Builder

end Recommend
