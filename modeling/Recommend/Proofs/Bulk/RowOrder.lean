import Recommend.Proofs.Bulk.Account
import Recommend.Proofs.Index.Projection
import Recommend.Proofs.Index.Scan

/-!
The order of lines that have nothing to do with each other.

Two lines matter to each other only if they have the same key: the first of them gives
the record.  So lines may change places as long as those with one key stay in their
order (`BulkFormat.Reordered`).  The two builds then pass through different states, but
they end with the same records, since the record of a key is that of the first line with
the key, and the lines with the key are the same on both sides.

The rest is a comparison of two indexes with the same records, each derived in an order
of its own.  The orders are permutations of each other, and so is all that is listed in
them: postings, what a clause finds, and the items of a search that is not cut off.
-/

namespace Recommend

namespace Index

/-! ### The same records in two orders -/

section SameRecords

variable {ix ix' : Index} {order order' : List String}

theorem record?_eq (hforward : ix.forward = ix'.forward) : ix.record? = ix'.record? := by
  funext key
  rw [record?, record?, hforward]

/-- The same keys are loaded in either order. -/
theorem perm_order (h : ix.Derived order) (h' : ix'.Derived order')
    (hforward : ix.forward = ix'.forward) :
    order.Perm order' := by
  apply (List.perm_ext_iff_of_nodup h.nodup h'.nodup).2
  intro key
  rw [h.mem_order, h'.mem_order, record?_eq hforward]

theorem values_eq (hforward : ix.forward = ix'.forward) : ix.values = ix'.values := by
  funext key field
  rw [values, values, record?_eq hforward]

theorem carries_iff (hforward : ix.forward = ix'.forward) (field : FieldId) :
    ix.Carries field ↔ ix'.Carries field := by
  rw [Carries, Carries, record?_eq hforward]

theorem holds_eq (hforward : ix.forward = ix'.forward) : ix.holds = ix'.holds := by
  funext key e
  unfold holds
  rw [values_eq hforward]

/-- A posting lists the same keys in either order. -/
theorem perm_posting? (h : ix.Derived order) (h' : ix'.Derived order')
    (hforward : ix.forward = ix'.forward) (field : FieldId) (term : String) :
    Option.Rel List.Perm (ix.posting? field term) (ix'.posting? field term) := by
  have hsome : (ix.posting? field term).isSome = true ↔
      (ix'.posting? field term).isSome = true := by
    rw [h.posting_isSome, h'.posting_isSome, record?_eq hforward]
  have hlists : ((ix.posting? field term).getD []).Perm
      ((ix'.posting? field term).getD []) := by
    rw [h.posting_eq, h'.posting_eq, occurrences, occurrences, values_eq hforward]
    exact (perm_order h h' hforward).flatMap_right _
  -- a posting is there on both sides or on neither
  cases hkeys : ix.posting? field term with
  | none =>
    cases hkeys' : ix'.posting? field term with
    | none => exact .none
    | some keys' => simp [hkeys, hkeys'] at hsome
  | some keys =>
    cases hkeys' : ix'.posting? field term with
    | none => simp [hkeys, hkeys'] at hsome
    | some keys' =>
      rw [hkeys, hkeys'] at hlists
      exact .some hlists

/-- A clause finds the same keys in either order. -/
theorem perm_scan (hforward : ix.forward = ix'.forward) (horder : order.Perm order')
    (clause : SearchClause) : (ix.scan order clause).Perm (ix'.scan order' clause) := by
  unfold scan
  simp only [carries_iff hforward, holds_eq hforward]
  split
  next => exact horder.filter _
  next => exact .refl _

/-- The same keys are matched in either order. -/
theorem perm_matched_matched (h : ix.Derived order) (h' : ix'.Derived order')
    (hforward : ix.forward = ix'.forward) (clauses : List SearchClause) :
    (ix.matched order clauses).Perm (ix'.matched order' clauses) := by
  have horder := perm_order h h' hforward
  apply (List.perm_ext_iff_of_nodup (h.nodup.filter _) (h'.nodup.filter _)).2
  intro key
  rw [← matched, ← matched, mem_matched_iff, mem_matched_iff, List.mem_flatMap,
    List.mem_flatMap]
  simp only [(perm_scan hforward horder _).mem_iff]

/-- A search that is not cut off selects all keys that are matched. -/
theorem perm_select (h : ix.Derived order) {clauses : List SearchClause} {cap : Nat}
    (hcap : (ix.matched order clauses).length ≤ cap) :
    (ix.select clauses cap).Perm (ix.matched order clauses) := by
  have hmatched : ((clauses.flatMap (ix.scan order)).eraseDups).Perm
      (ix.matched order clauses) :=
    perm_matched h.nodup clauses
  rw [select_eq_take h, List.take_of_length_le (by rwa [hmatched.length_eq])]
  exact hmatched

/-- Items are read off the records, so they are the same in either order. -/
theorem items_eq (hkeyField : ix.keyField = ix'.keyField)
    (hforward : ix.forward = ix'.forward) :
    ix.items = ix'.items := by
  funext requested keys
  unfold items project
  rw [hkeyField, record?_eq hforward]

end SameRecords

end Index

namespace BulkFormat

/-! ### Lines in another order -/

variable {f : BulkFormat} {lines lines' : List Bytes}

/-- The same lines in another order, in which the lines with one key still follow each
other as they did. -/
structure Reordered (f : BulkFormat) (lines lines' : List Bytes) : Prop where
  perm : lines.Perm lines'
  sameKey : ∀ key, (lines.filter fun line => f.key? line = some key) =
    lines'.filter fun line => f.key? line = some key

/-- Only the keys that lines have need to be looked at. -/
theorem reordered_iff : f.Reordered lines lines' ↔
    lines.Perm lines' ∧ ∀ key ∈ lines.filterMap f.key?,
      (lines.filter fun line => f.key? line = some key) =
        lines'.filter fun line => f.key? line = some key := by
  constructor
  · rintro ⟨hperm, hkeys⟩
    exact ⟨hperm, fun key _ => hkeys key⟩
  · rintro ⟨hperm, hkeys⟩
    refine ⟨hperm, fun key => ?_⟩
    by_cases hkey : key ∈ lines.filterMap f.key?
    · exact hkeys key hkey
    · -- no line has this key, on either side
      have hnone : ∀ line ∈ lines, f.key? line ≠ some key := by
        intro line hline heq
        exact hkey (List.mem_filterMap.2 ⟨line, hline, heq⟩)
      rw [List.filter_eq_nil_iff.2 fun line hline => by simpa using hnone line hline,
        List.filter_eq_nil_iff.2
          fun line hline => by simpa using hnone line (hperm.mem_iff.2 hline)]

instance : Decidable (f.Reordered lines lines') := decidable_of_iff _ reordered_iff.symm

/-- Only the lines with a key have a part in its record. -/
theorem findSome?_recordOf? (f : BulkFormat) (key : String) (lines : List Bytes) :
    lines.findSome? (f.recordOf? key) =
      (lines.filter fun line => f.key? line = some key).findSome? (f.recordOf? key) := by
  induction lines with
  | nil => rfl
  | cons line lines ih =>
    by_cases hkey : f.key? line = some key
    · rw [List.filter_cons_of_pos (by simpa using hkey), List.findSome?_cons,
        List.findSome?_cons, ih]
    · have hnone : f.recordOf? key line = none := by
        rwa [← isSome_recordOf?_iff_key?, Option.not_isSome_iff_eq_none] at hkey
      rw [List.filter_cons_of_neg (by simpa using hkey), List.findSome?_cons, hnone, ih]

/-- Lines in another order leave the same records. -/
theorem Reordered.forward_eq (h : f.Reordered lines lines') (ix : Index) :
    (lines.foldl f.enter ix).forward = (lines'.foldl f.enter ix).forward := by
  apply SortedMap.ext_find?
  intro key
  show (lines.foldl f.enter ix).record? key = (lines'.foldl f.enter ix).record? key
  -- the record of a key comes from the lines with that key, and those are the same
  rw [record?_foldl_enter, record?_foldl_enter, f.findSome?_recordOf? key lines,
    f.findSome?_recordOf? key lines', h.sameKey]

end BulkFormat

namespace Builder

/-! ### Builds -/

/-- Lines of the same kinds that bring in equally many records have the same account. -/
theorem Accounts.stats_eq {b b₁ b₂ : Builder} {kinds₁ kinds₂ : List LineKind}
    (h₁ : Accounts b b₁ kinds₁) (h₂ : Accounts b b₂ kinds₂)
    (hkinds : kinds₁.Perm kinds₂) (hsize : b₁.index.size = b₂.index.size) :
    b₁.stats = b₂.stats := by
  have hinserted : b₁.stats.inserted = b₂.stats.inserted := by
    have hi₁ := h₁.inserted
    have hi₂ := h₂.inserted
    omega
  apply BuildStats.ext
  · rw [h₁.lines, h₂.lines, hkinds.length_eq]
  · exact hinserted
  · rw [h₁.emptyLines, h₂.emptyLines, hkinds.count_eq]
  · rw [h₁.blankKeys, h₂.blankKeys, hkinds.count_eq]
  · have hr₁ := h₁.rows
    have hr₂ := h₂.rows
    rw [hkinds.count_eq] at hr₁
    omega

/-- **The order of unrelated rows does not matter.**  If the lines of some sources are
those of others in another order, in which lines with one key follow each other as
before, the two builds have the same statistics and the same records.  Their postings
list the same keys, each as often, and clauses match the same keys; and a search that is
allowed all the keys it matches has the same items in either index. -/
theorem consumeAll_of_reordered {format : BulkFormat} {b : Builder}
    (h : start format = .ok b)
    {sources sources' : List Bytes}
    (hlines : format.Reordered (sources.flatMap bulkLines) (sources'.flatMap bulkLines)) :
    let built := b.consumeAll sources
    let built' := b.consumeAll sources'
    built.stats = built'.stats ∧ built.index.forward = built'.index.forward ∧
      (∀ field term, Option.Rel List.Perm (built.index.posting? field term)
        (built'.index.posting? field term)) ∧
      (∀ clauses, (built.index.matched (b.loadOrder sources) clauses).Perm
        (built'.index.matched (b.loadOrder sources') clauses)) ∧
      ∀ request : InvertedRequest,
        (built.index.matched (b.loadOrder sources) request.clauses).length ≤
          request.maxResults.toNat →
        ∃ items items', built.index.answerInverted request = .ok ⟨items⟩ ∧
          built'.index.answerInverted request = .ok ⟨items'⟩ ∧ items.Perm items' := by
  intro built built'
  obtain ⟨hformat, -⟩ := stored_start h
  have hderived : built.index.Derived (b.loadOrder sources) :=
    (stored_consumeAll h sources).derived
  have hderived' : built'.index.Derived (b.loadOrder sources') :=
    (stored_consumeAll h sources').derived
  have hforward : built.index.forward = built'.index.forward := by
    show (b.consumeAll sources).index.forward = (b.consumeAll sources').index.forward
    rw [consumeAll_eq_foldl, consumeAll_eq_foldl, foldl_addLine_index, foldl_addLine_index,
      hformat]
    exact hlines.forward_eq b.index
  have hkeyField : built.index.keyField = built'.index.keyField := by
    show (b.consumeAll sources).index.keyField = (b.consumeAll sources').index.keyField
    rw [consumeAll_eq_foldl, consumeAll_eq_foldl, foldl_addLine_keyField,
      foldl_addLine_keyField]
  have hmatched := Index.perm_matched_matched hderived hderived' hforward
  refine ⟨?_, hforward, Index.perm_posting? hderived hderived' hforward, hmatched, ?_⟩
  · have hsize : built.index.size = built'.index.size := by
      rw [Index.size, Index.size, hforward]
    exact (accounts_consumeAll b sources).stats_eq (accounts_consumeAll b sources')
      (hlines.perm.map b.format.kind) hsize
  · intro request hcap
    -- the cap cuts off neither search, as equally many keys are matched
    have hcap' : (built'.index.matched (b.loadOrder sources') request.clauses).length ≤
        request.maxResults.toNat := by
      rwa [← (hmatched request.clauses).length_eq]
    have hselect : (built.index.select request.clauses request.maxResults.toNat).Perm
        (built'.index.select request.clauses request.maxResults.toNat) :=
      (Index.perm_select hderived hcap).trans
        ((hmatched request.clauses).trans (Index.perm_select hderived' hcap').symm)
    refine ⟨_, _, rfl, rfl, ?_⟩
    rw [Index.items_eq hkeyField hforward]
    exact hselect.filterMap _

/-- Two lines with one key stay in their order; between and around them an empty line,
one with a blank key, one that is not UTF-8 and the row of another key have moved.  The
keys that hold `x` are loaded in the opposite order. -/
theorem consumeAll_of_reordered_lines :
    let format : BulkFormat := ⟨[100, 101], ",", none⟩
    let b : Builder := ⟨format, .empty 100, {}⟩
    let sources := [Bytes.ofText "a,x\nb,x\n \na,y\n,x\n" ++ [0xff]]
    let sources' := [[0xff, 10], Bytes.ofText ",x\nb,x\na,x\na,y\n "]
    let built := b.consumeAll sources
    let built' := b.consumeAll sources'
    let request : InvertedRequest := ⟨[⟨.ofList [(101, .matching (.bytes "x"))]⟩], 2, []⟩
    start format = .ok b ∧
      format.Reordered (sources.flatMap bulkLines) (sources'.flatMap bulkLines) ∧
      built.index.posting? 101 "x" = some ["a", "b"] ∧
        built'.index.posting? 101 "x" = some ["b", "a"] ∧
      built.stats = built'.stats ∧ built.index.forward = built'.index.forward ∧
      ∃ items items', built.index.answerInverted request = .ok ⟨items⟩ ∧
        built'.index.answerInverted request = .ok ⟨items'⟩ ∧ items.Perm items' := by
  intro format b sources sources' built built' request
  have hstart : start format = .ok b := rfl
  have hlines : format.Reordered (sources.flatMap bulkLines)
      (sources'.flatMap bulkLines) := by
    decide +kernel
  obtain ⟨hstats, hforward, -, -, hanswer⟩ := consumeAll_of_reordered hstart hlines
  exact ⟨hstart, hlines, by decide +kernel, by decide +kernel, hstats, hforward,
    hanswer request (by decide +kernel)⟩

end Builder

end Recommend
