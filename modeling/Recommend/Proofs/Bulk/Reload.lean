import Recommend.Proofs.Bulk.Account

/-!
Loading more, and loading the same again.

An index only ever grows (`Index.GrowsTo`): a record that is there stays as it is, and a
posting gets keys at its end and nowhere else.  A row that goes in does no more than
that (`growsTo_insert?`), and growing twice is growing, so it holds of every source.

A line whose key is taken leaves the index alone.  Once a source has been taken in, the
keys of all its lines are taken, whichever of the lines it was that brought them in.  So
the source changes nothing when it comes again, and the account of its kinds says what
it adds to the statistics (`Accounts.eq_of_index`).
-/

namespace Recommend

/-- The statistics after more lines of these kinds, if every row among them has a key
that is taken. -/
def BuildStats.repeated (stats : BuildStats) (kinds : List LineKind) : BuildStats where
  lines := stats.lines + kinds.length
  inserted := stats.inserted
  emptyLines := stats.emptyLines + kinds.count .empty
  blankKeys := stats.blankKeys + kinds.count .blankKey
  duplicateKeys := stats.duplicateKeys + kinds.count .row

namespace Index

variable {ix ix' ix'' : Index}

/-! ### Growing -/

/-- The second index has what the first one has: its records as they are, and its
postings with keys added at the end. -/
structure GrowsTo (ix ix' : Index) : Prop where
  keyField : ix'.keyField = ix.keyField
  record : ∀ key record, ix.record? key = some record → ix'.record? key = some record
  posting : ∀ field term keys, ix.posting? field term = some keys →
    ∃ keys', ix'.posting? field term = some keys' ∧ keys <+: keys'

theorem GrowsTo.refl (ix : Index) : ix.GrowsTo ix where
  keyField := rfl
  record _ _ h := h
  posting _ _ keys h := ⟨keys, h, List.prefix_refl keys⟩

theorem GrowsTo.trans (h : ix.GrowsTo ix') (h' : ix'.GrowsTo ix'') : ix.GrowsTo ix'' where
  keyField := h'.keyField.trans h.keyField
  record key record hrecord := h'.record key record (h.record key record hrecord)
  posting field term keys hkeys := by
    obtain ⟨keys', hkeys', hprefix⟩ := h.posting field term keys hkeys
    obtain ⟨keys'', hkeys'', hprefix'⟩ := h'.posting field term keys' hkeys'
    exact ⟨keys'', hkeys'', hprefix.trans hprefix'⟩

/-- A record that goes in under a new key is all that changes. -/
theorem growsTo_insert? {key : String} {record : Record}
    (h : ix.insert? key record = some ix') :
    ix.GrowsTo ix' where
  keyField := by rw [eq_of_insert? h]
  record key' record' hrecord' := by
    -- the new key had no record before
    have hne : key' ≠ key := by
      rintro rfl
      rw [record?_of_insert? h] at hrecord'
      cases hrecord'
    rw [record?_insert? h, if_neg hne, hrecord']
  posting field term keys hkeys := by
    rw [posting?_insert? h, hkeys]
    split
    next => exact ⟨_, rfl, List.prefix_append _ _⟩
    next => exact ⟨keys, rfl, List.prefix_refl keys⟩

end Index

namespace BulkFormat

/-! ### Lines whose keys are taken -/

variable {f : BulkFormat}

/-- A line whose key is taken, if it has one, does nothing. -/
theorem enter_of_key_taken {ix : Index} {line : Bytes}
    (h : ∀ key, f.key? line = some key → (ix.record? key).isSome = true) :
    f.enter ix line = ix := by
  cases hrow : f.row? line with
  | none => exact enter_of_no_row hrow ix
  | some row =>
    apply enter_of_taken hrow
    apply h
    rw [← map_fst_row?, hrow, Option.map_some]

/-- Lines whose keys are all taken do nothing. -/
theorem foldl_enter_of_keys_taken {ix : Index} (lines : List Bytes)
    (h : ∀ line ∈ lines, ∀ key, f.key? line = some key → (ix.record? key).isSome = true) :
    lines.foldl f.enter ix = ix := by
  induction lines with
  | nil => rfl
  | cons line lines ih =>
    rw [List.foldl_cons, enter_of_key_taken (h line List.mem_cons_self)]
    exact ih fun l hl => h l (List.mem_cons_of_mem line hl)

/-- After a run of lines the keys of all of them are taken. -/
theorem isSome_record?_foldl_enter {lines : List Bytes} {line : Bytes} {key : String}
    (hmem : line ∈ lines) (hkey : f.key? line = some key) (ix : Index) :
    ((lines.foldl f.enter ix).record? key).isSome = true := by
  rw [record?_foldl_enter, Option.isSome_or, Bool.or_eq_true, List.findSome?_isSome_iff]
  exact .inr ⟨line, hmem, isSome_recordOf?_iff_key?.2 hkey⟩

end BulkFormat

namespace Builder

/-! ### Builds -/

/-- A line lets the index grow. -/
theorem growsTo_addLine (b : Builder) (line : Bytes) :
    b.index.GrowsTo (b.addLine line).index := by
  obtain ⟨stats, hline⟩ | ⟨_, key, record, index, stats, _, _, hins, hline⟩ :=
    b.addLine_cases line
  · rw [hline]
    exact Index.GrowsTo.refl b.index
  · rw [hline]
    exact Index.growsTo_insert? hins

/-- A whole run of lines lets the index grow. -/
theorem growsTo_foldl_addLine (lines : List Bytes) (b : Builder) :
    b.index.GrowsTo (lines.foldl addLine b).index := by
  induction lines generalizing b with
  | nil => exact Index.GrowsTo.refl b.index
  | cons line lines ih => exact (b.growsTo_addLine line).trans (ih (b.addLine line))

/-- Lines that leave the index alone have keys that are taken, as far as they have any. -/
theorem Accounts.eq_of_index {b b' : Builder} {kinds : List LineKind}
    (h : Accounts b b' kinds) (hformat : b'.format = b.format)
    (hindex : b'.index = b.index) :
    b' = ⟨b.format, b.index, b.stats.repeated kinds⟩ := by
  -- as many rows are inserted as records come in, which is none
  have hinserted : b'.stats.inserted = b.stats.inserted := by
    have hsize := h.inserted
    rw [hindex] at hsize
    omega
  have hduplicates : b'.stats.duplicateKeys = b.stats.duplicateKeys + kinds.count .row := by
    have hrows := h.rows
    omega
  rw [BuildStats.repeated, ← h.lines, ← h.emptyLines, ← h.blankKeys, ← hinserted,
    ← hduplicates, ← hformat, ← hindex]

theorem foldl_addLine_format (lines : List Bytes) (b : Builder) :
    (lines.foldl addLine b).format = b.format := by
  induction lines generalizing b with
  | nil => rfl
  | cons line lines ih => rw [List.foldl_cons, ih, addLine_format]

/-- Lines that have been taken in change nothing when they come again, and are counted
by their kinds. -/
theorem foldl_addLine_again {lines again : List Bytes} (h : ∀ line ∈ again, line ∈ lines)
    (b : Builder) :
    let loaded := lines.foldl addLine b
    let kinds := again.map b.format.kind
    again.foldl addLine loaded =
      ⟨loaded.format, loaded.index, loaded.stats.repeated kinds⟩ := by
  intro loaded kinds
  have hformat : loaded.format = b.format := foldl_addLine_format lines b
  have hindex : (again.foldl addLine loaded).index = loaded.index := by
    rw [foldl_addLine_index, hformat]
    apply BulkFormat.foldl_enter_of_keys_taken
    intro line hline key hkey
    -- each of these lines was taken in before, so its key has a record now
    show ((lines.foldl addLine b).index.record? key).isSome = true
    rw [foldl_addLine_index]
    exact BulkFormat.isSome_record?_foldl_enter (h line hline) hkey b.index
  have haccounts := accounts_foldl_addLine again loaded
  rw [hformat] at haccounts
  exact haccounts.eq_of_index (foldl_addLine_format again loaded) hindex

/-- **Loading only appends, and loading the same again changes nothing.**  Whatever has
been taken in before, a source leaves every record as it is and adds keys only at the
end of a posting, and its lines are counted by their kinds.  A source that is among
those taken in already leaves both stores exactly as they are; no row of it is inserted,
each of its lines is counted once more, and all its lines with a key are counted as
repetitions. -/
theorem consume_again (b : Builder) :
    (∀ source, b.index.GrowsTo (b.consume source).index ∧
      Accounts b (b.consume source) ((bulkLines source).map b.format.kind)) ∧
    ∀ before source after,
      let loaded := b.consumeAll (before ++ source :: after)
      loaded.consume source = ⟨loaded.format, loaded.index,
        loaded.stats.repeated ((bulkLines source).map b.format.kind)⟩ := by
  constructor
  · intro source
    exact ⟨growsTo_foldl_addLine (bulkLines source) b,
      accounts_foldl_addLine (bulkLines source) b⟩
  · intro before source after loaded
    have hmem : ∀ line ∈ bulkLines source,
        line ∈ (before ++ source :: after).flatMap bulkLines := by
      intro line hline
      exact List.mem_flatMap.2 ⟨source, List.mem_append_right before List.mem_cons_self,
        hline⟩
    have hagain := foldl_addLine_again hmem b
    rw [← consumeAll_eq_foldl] at hagain
    exact hagain

/-- The source that comes again has a line with a key of an earlier source and other
values, two lines of its own with one key, an empty line, one with a blank key and one
that is not UTF-8. -/
theorem consume_again_of_repetitions :
    let b : Builder := ⟨⟨[100, 101], ",", none⟩, .empty 100, {}⟩
    let source := Bytes.ofText "a,y\nb,x\n \nb,z\n,x\n" ++ [0xff]
    let loaded := b.consumeAll [Bytes.ofText "a,x\n", source]
    (b.consume (Bytes.ofText "a,x\n")).index.posting? 101 "x" = some ["a"] ∧
      loaded.index.posting? 101 "x" = some ["a", "b"] ∧
      loaded.stats = ⟨7, 2, 1, 1, 2⟩ ∧
      loaded.consume source = ⟨loaded.format, loaded.index, ⟨13, 2, 2, 2, 5⟩⟩ := by
  intro b source loaded
  have hstats : loaded.stats = ⟨7, 2, 1, 1, 2⟩ := by decide +kernel
  have hkinds : (bulkLines source).map b.format.kind =
      [.row, .row, .empty, .row, .blankKey, .unreadable] := by decide +kernel
  obtain ⟨-, hagain⟩ := consume_again b
  have hsource := hagain [Bytes.ofText "a,x\n"] source []
  rw [hkinds] at hsource
  refine ⟨by decide +kernel, by decide +kernel, hstats, hsource.trans ?_⟩
  show (⟨loaded.format, loaded.index, loaded.stats.repeated _⟩ : Builder) = _
  rw [hstats]
  rfl

end Builder

end Recommend
