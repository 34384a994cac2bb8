import Mathlib.Data.List.Forall2
import Recommend.Index.Search
import Recommend.Proofs.Bulk.LoadOrder

/-!
Search over postings against a scan of the records.

`scan ix order clause` looks at no posting: it goes through the keys in their order of
loading and keeps those whose record holds every term that the clause asks for.  Where
the stores agree (`Derived`), what the search finds for a clause is the scan, but for
repetitions:

    (ix.matching clause).eraseDups = ix.scan order clause

so the keys of a whole search are the first ones of the scans of its clauses, each key
counted once (`select_eq_take`).  What narrowing does to the keys found so far is said
first, and without any assumption on the stores (`narrow_some`, `narrow_none`).
-/

namespace Recommend.Index

/-! ### Narrowing -/

/-- Whether the posting that an item asks for lists a key; an item without a term asks
for none. -/
def admits (ix : Index) (key : String) (e : FieldId × SearchItem) : Bool :=
  match e.2.term? with
  | none => true
  | some term => ((ix.posting? e.1 term).getD []).contains key

/-- The posting that an item asks for. -/
def asked? (ix : Index) (e : FieldId × SearchItem) : Option (List String) :=
  e.2.term?.map fun term => (ix.posting? e.1 term).getD []

theorem admits_of_term? {ix : Index} {field : FieldId} {item : SearchItem} {term : String}
    (h : item.term? = some term) (key : String) :
    ix.admits key (field, item) = ((ix.posting? field term).getD []).contains key := by
  simp [admits, h]

theorem admits_of_no_term {ix : Index} {field : FieldId} {item : SearchItem}
    (h : item.term? = none) (key : String) : ix.admits key (field, item) = true := by
  simp [admits, h]

/-- Keys that have been found are kept iff every remaining posting lists them, provided
that every remaining field has postings. -/
theorem narrow_some (ix : Index) (items : List (FieldId × SearchItem))
    (found : List String) :
    ix.narrow items (some found) =
      if items.all fun e => (ix.postings? e.1).isSome then
        found.filter fun key => items.all (ix.admits key)
      else [] := by
  induction items generalizing found with
  | nil => simp [narrow]
  | cons e items ih =>
    obtain ⟨field, item⟩ := e
    rw [narrow]
    cases hpostings : ix.postings? field with
    -- a field without postings ends the search with no key
    | none => simp [hpostings]
    | some postings =>
      have hkeys : ∀ term,
          (postings.find? term).getD [] = (ix.posting? field term).getD [] := by
        intro term
        simp [posting?, hpostings]
      simp only [hkeys, List.all_cons, hpostings, Option.isSome_some, Bool.true_and]
      cases hterm : item.term? with
      | none => simp only [ih, admits_of_no_term hterm, Bool.true_and]
      | some term =>
        have hfilter : (found.filter fun key =>
              ix.admits key (field, item) && items.all (ix.admits key)) =
            (found.filter ((ix.posting? field term).getD []).contains).filter
              fun key => items.all (ix.admits key) := by
          rw [List.filter_filter]
          apply List.filter_congr
          intro key _
          rw [admits_of_term? hterm, Bool.and_comm]
        rw [hfilter, ← ih]
        -- an early return leaves no key, and so does narrowing no key
        dsimp only
        split
        · rename_i hempty
          have hnext : found.filter ((ix.posting? field term).getD []).contains = [] := by
            rcases Bool.or_eq_true_iff.1 hempty with h | h
            · simp [List.isEmpty_iff.1 h]
            · exact List.isEmpty_iff.1 h
          rw [hnext, ih]
          simp
        · rfl

/-- A search that has found nothing yet takes the first posting that is asked for, and
narrows it by all of them. -/
theorem narrow_none (ix : Index) (items : List (FieldId × SearchItem)) :
    ix.narrow items none =
      if items.all fun e => (ix.postings? e.1).isSome then
        ((items.findSome? ix.asked?).getD []).filter fun key => items.all (ix.admits key)
      else [] := by
  induction items with
  | nil => simp [narrow]
  | cons e items ih =>
    obtain ⟨field, item⟩ := e
    rw [narrow]
    cases hpostings : ix.postings? field with
    | none => simp [hpostings]
    | some postings =>
      have hkeys : ∀ term,
          (postings.find? term).getD [] = (ix.posting? field term).getD [] := by
        intro term
        simp [posting?, hpostings]
      simp only [hkeys, List.all_cons, hpostings, Option.isSome_some, Bool.true_and,
        List.findSome?_cons]
      cases hterm : item.term? with
      | none =>
        have hasked : ix.asked? (field, item) = none := by simp [asked?, hterm]
        simp only [ih, admits_of_no_term hterm, Bool.true_and, hasked]
      | some term =>
        have hasked : ix.asked? (field, item) =
            some ((ix.posting? field term).getD []) := by
          simp [asked?, hterm]
        -- the keys of the first posting stand in it anyway
        have hfilter : (((ix.posting? field term).getD []).filter fun key =>
              ix.admits key (field, item) && items.all (ix.admits key)) =
            ((ix.posting? field term).getD []).filter fun key =>
              items.all (ix.admits key) := by
          apply List.filter_congr
          intro key hkey
          rw [admits_of_term? hterm, List.contains_iff_mem.2 hkey, Bool.true_and]
        simp only [hasked, Option.getD_some]
        rw [hfilter, ← narrow_some]
        split
        · rename_i hempty
          have hnil : (ix.posting? field term).getD [] = [] := by
            rcases Bool.or_eq_true_iff.1 hempty with h | h <;> exact List.isEmpty_iff.1 h
          rw [hnil, narrow_some]
          simp
        · rfl

/-! ### The scan -/

/-- Whether the record of a key holds the term that an item asks for. -/
def holds (ix : Index) (key : String) (e : FieldId × SearchItem) : Bool :=
  match e.2.term? with
  | none => true
  | some term => (ix.values key e.1).contains term

/-- The keys, in the given order, whose records hold every term that a clause asks for.
A clause that asks for no term finds nothing, and neither does one that names a field of
no record. -/
def scan (ix : Index) (order : List String) (clause : SearchClause) : List String :=
  if (∀ e ∈ clause.items.toList, ix.Carries e.1) ∧
      ∃ e ∈ clause.items.toList, e.2.term?.isSome = true then
    order.filter fun key => clause.items.toList.all (ix.holds key)
  else []

section Derived

variable {ix : Index} {order : List String}

theorem mem_order_of_mem_values (h : ix.Derived order) {key term : String} {field : FieldId}
    (hterm : term ∈ ix.values key field) : key ∈ order := by
  rw [h.mem_order, Option.isSome_iff_ne_none]
  intro hnone
  simp [values, hnone] at hterm

/-- A posting lists the keys whose records hold its term. -/
theorem mem_posting_iff (h : ix.Derived order) {key term : String} {field : FieldId} :
    key ∈ (ix.posting? field term).getD [] ↔ term ∈ ix.values key field := by
  rw [h.posting_eq, occurrences, List.mem_flatMap]
  constructor
  · rintro ⟨key', _, hrep⟩
    obtain ⟨hcount, rfl⟩ := List.mem_replicate.1 hrep
    exact List.count_pos_iff.1 (Nat.pos_of_ne_zero hcount)
  · intro hterm
    refine ⟨key, mem_order_of_mem_values h hterm, List.mem_replicate.2 ⟨?_, rfl⟩⟩
    exact Nat.ne_of_gt (List.count_pos_iff.2 hterm)

/-- Where the stores agree, a key stands in a posting iff its record holds the term. -/
theorem admits_eq_holds (h : ix.Derived order) (key : String) (e : FieldId × SearchItem) :
    ix.admits key e = ix.holds key e := by
  unfold admits holds
  split
  · rfl
  · rw [Bool.eq_iff_iff, List.contains_iff_mem, List.contains_iff_mem, mem_posting_iff h]

end Derived

/-! ### Repetitions -/

section Repetitions

variable {α : Type} [BEq α] [LawfulBEq α]

/-- A run of one element counts once, if the element does not come again. -/
theorem eraseDups_replicate_append {a : α} {n : Nat} {l : List α} (h : a ∉ l) :
    (List.replicate n a ++ l).eraseDups = (if 0 < n then [a] else []) ++ l.eraseDups := by
  cases n with
  | zero => simp
  | succ n =>
    have hrun : (List.replicate n a).filter (fun b => !b == a) = [] := by
      rw [List.filter_eq_nil_iff]
      intro b hb
      simp [List.eq_of_mem_replicate hb]
    have hrest : l.filter (fun b => !b == a) = l := by
      rw [List.filter_eq_self]
      intro b hb
      have : b ≠ a := by
        rintro rfl
        exact h hb
      simpa using this
    rw [List.replicate_succ, List.cons_append, List.eraseDups_cons, List.filter_append,
      hrun, hrest]
    simp

/-- Repeating the elements of a list in place and dropping repetitions keeps those that
were repeated at least once. -/
theorem eraseDups_flatMap_replicate (n : α → Nat) {l : List α} (h : l.Nodup) :
    (l.flatMap fun a => List.replicate (n a) a).eraseDups =
      l.filter fun a => decide (0 < n a) := by
  induction l with
  | nil => rfl
  | cons a l ih =>
    obtain ⟨hout, hl⟩ := List.nodup_cons.1 h
    have hrest : a ∉ l.flatMap fun a => List.replicate (n a) a := by
      intro hmem
      obtain ⟨b, hb, hrep⟩ := List.mem_flatMap.1 hmem
      exact hout (List.eq_of_mem_replicate hrep ▸ hb)
    rw [List.flatMap_cons, eraseDups_replicate_append hrest, ih hl, List.filter_cons]
    by_cases hn : 0 < n a <;> simp [hn]

end Repetitions

/-! ### One clause -/

/-- What a posting lists of a selection of keys, each counted once. -/
theorem eraseDups_filter_posting {ix : Index} {order : List String} (h : ix.Derived order)
    (field : FieldId) (term : String) (p : String → Bool) :
    (((ix.posting? field term).getD []).filter p).eraseDups =
      order.filter fun key => (ix.values key field).contains term && p key := by
  -- the selection can be made before the keys are repeated
  have hcollect : ((ix.posting? field term).getD []).filter p =
      order.flatMap fun key =>
        List.replicate (if p key then (ix.values key field).count term else 0) key := by
    rw [h.posting_eq, occurrences, List.filter_flatMap]
    apply List.flatMap_congr
    intro key _
    rw [List.filter_replicate]
    cases p key <;> simp
  rw [hcollect, eraseDups_flatMap_replicate _ h.nodup]
  apply List.filter_congr
  intro key _
  by_cases hp : p key = true <;> simp [hp, List.count_pos_iff]

/-- **What the search finds for a clause is the scan, but for repetitions.** -/
theorem eraseDups_matching {ix : Index} {order : List String} (h : ix.Derived order)
    (clause : SearchClause) : (ix.matching clause).eraseDups = ix.scan order clause := by
  unfold matching scan
  generalize clause.items.toList = items
  have hknown : (items.all fun e => (ix.postings? e.1).isSome) = true ↔
      ∀ e ∈ items, ix.Carries e.1 := by
    simp [List.all_eq_true, h.postings_isSome]
  have hadmits : ∀ key, items.all (ix.admits key) = items.all (ix.holds key) := by
    intro key
    congr 1
    funext e
    exact admits_eq_holds h key e
  rw [narrow_none]
  by_cases hfields : ∀ e ∈ items, ix.Carries e.1
  · rw [if_pos (hknown.2 hfields)]
    simp only [hadmits]
    cases hfirst : items.findSome? ix.asked? with
    | none =>
      -- no posting is asked for, so no item has a term, and the scan finds nothing either
      have hno : ¬∃ e ∈ items, e.2.term?.isSome = true := by
        rintro ⟨e, he, hterm⟩
        have := List.findSome?_eq_none_iff.1 hfirst e he
        simp [asked?, Option.map_eq_none_iff] at this
        simp [this] at hterm
      rw [if_neg fun hc => hno hc.2]
      rfl
    | some keys =>
      -- the first posting is itself one of those that a key has to stand in
      obtain ⟨e, he, hasked⟩ := List.exists_of_findSome?_eq_some hfirst
      obtain ⟨term, hterm, rfl⟩ := Option.map_eq_some_iff.1 hasked
      rw [if_pos ⟨hfields, e, he, by simp [hterm]⟩, Option.getD_some,
        eraseDups_filter_posting h]
      apply List.filter_congr
      intro key _
      rw [Bool.and_eq_right_iff_imp]
      intro hall
      have := List.all_eq_true.1 hall e he
      simpa [holds, hterm] using this
  · rw [if_neg fun hc => hfields (hknown.1 hc), if_neg fun hc => hfields hc.1]
    rfl

/-! ### Taking up keys -/

/-- A key that would not be taken up is not taken up later either. -/
theorem take_of_settled {cap : Nat} {found : List String} {key : String}
    (h : take cap found key = found) (key' : String) :
    take cap (take cap found key') key = take cap found key' := by
  -- a key is settled if there is no room or it is there; both last
  have hgrow : ∀ keys : List String, take cap keys key = keys ↔
      ¬(keys.length < cap ∧ key ∉ keys) := by
    intro keys
    unfold take
    split
    · rename_i hc
      simp only [Bool.and_eq_true, decide_eq_true_eq, Bool.not_eq_true',
        List.contains_eq_mem, decide_eq_false_iff_not] at hc
      simp [hc]
    · rename_i hc
      simpa using hc
  rw [hgrow] at h ⊢
  rintro ⟨hlen, hout⟩
  apply h
  unfold take at hlen hout
  split at hlen
  · rename_i hc
    rw [if_pos hc] at hout
    rw [List.length_append, List.length_singleton] at hlen
    exact ⟨by omega, fun hm => hout (List.mem_append_left _ hm)⟩
  · rename_i hc
    rw [if_neg hc] at hout
    exact ⟨hlen, hout⟩

/-- A key is not taken up twice. -/
theorem take_take (cap : Nat) (found : List String) (key : String) :
    take cap (take cap found key) key = take cap found key := by
  by_cases hc : (decide (found.length < cap) && !found.contains key) = true
  · have hout : ((found ++ [key]).contains key) = true := by simp
    have htaken : take cap found key = found ++ [key] := by rw [take, if_pos hc]
    rw [htaken, take, hout]
    simp
  · have hkept : take cap found key = found := by rw [take, if_neg hc]
    rw [hkept, hkept]

/-- A key that is settled may as well be left out of what follows. -/
theorem foldl_take_filter {cap : Nat} {key : String} (keys found : List String)
    (h : take cap found key = found) :
    (keys.filter fun b => !b == key).foldl (take cap) found =
      keys.foldl (take cap) found := by
  induction keys generalizing found with
  | nil => rfl
  | cons b keys ih =>
    by_cases hb : b = key
    · subst hb
      rw [List.filter_cons_of_neg (by simp), List.foldl_cons, h]
      exact ih found h
    · rw [List.filter_cons_of_pos (by simpa using hb), List.foldl_cons, List.foldl_cons]
      exact ih _ (take_of_settled h b)

/-- Only first occurrences matter for what is taken up. -/
theorem foldl_take_eraseDups (cap : Nat) (keys found : List String) :
    keys.eraseDups.foldl (take cap) found = keys.foldl (take cap) found := by
  -- by induction on the length: what follows a key is filtered before its repetitions are
  -- dropped
  induction hn : keys.length using Nat.strongRecOn generalizing keys found with
  | _ n ih =>
    cases keys with
    | nil => rfl
    | cons key keys =>
      rw [List.eraseDups_cons, List.foldl_cons, List.foldl_cons]
      have hlen : (keys.filter fun b => !b == key).length < n := by
        have := List.length_filter_le (fun b => !b == key) keys
        rw [List.length_cons] at hn
        omega
      rw [ih _ hlen _ _ rfl]
      exact foldl_take_filter keys _ (take_take cap found key)

/-- Without repetitions the keys are distinct. -/
theorem nodup_eraseDups (keys : List String) : keys.eraseDups.Nodup := by
  induction hn : keys.length using Nat.strongRecOn generalizing keys with
  | _ n ih =>
    cases keys with
    | nil => exact List.nodup_nil
    | cons key keys =>
      rw [List.eraseDups_cons, List.nodup_cons]
      constructor
      · intro hmem
        have := List.mem_eraseDups.1 hmem
        simp at this
      · refine ih _ ?_ _ rfl
        have := List.length_filter_le (fun b => !b == key) keys
        rw [List.length_cons] at hn
        omega

/-- Distinct keys are taken up until the cap is reached. -/
theorem foldl_take_of_nodup (cap : Nat) (keys found : List String)
    (hlen : found.length ≤ cap) (h : (found ++ keys).Nodup) :
    keys.foldl (take cap) found = (found ++ keys).take cap := by
  induction keys generalizing found with
  | nil =>
    rw [List.append_nil, List.take_of_length_le hlen]
    rfl
  | cons key keys ih =>
    rw [List.foldl_cons]
    by_cases hfull : found.length < cap
    · have hout : key ∉ found := by
        intro hmem
        rw [List.nodup_append] at h
        exact h.2.2 key hmem key List.mem_cons_self rfl
      have htaken : take cap found key = found ++ [key] := by simp [take, hfull, hout]
      rw [htaken, ih]
      · simp
      · simpa using Nat.succ_le_of_lt hfull
      · simpa using h
    -- the cap is reached, so all that follows is left out on either side
    · have heq : found.length = cap := by omega
      have hkept : take cap found key = found := by simp [take, hfull]
      have hnodup : (found ++ keys).Nodup := by
        refine h.sublist ?_
        exact (List.sublist_cons_self key keys).append_left found
      rw [hkept, ih found hlen hnodup,
        List.take_append_of_le_length (Nat.le_of_eq heq.symm),
        List.take_append_of_le_length (Nat.le_of_eq heq.symm)]

/-- What is taken up in all are the first distinct keys. -/
theorem foldl_take_nil (cap : Nat) (keys : List String) :
    keys.foldl (take cap) [] = keys.eraseDups.take cap := by
  rw [← foldl_take_eraseDups, foldl_take_of_nodup cap _ [] (Nat.zero_le _)]
  · rfl
  · exact nodup_eraseDups keys

/-! ### Whole searches -/

/-- Repetitions within what a clause finds do not show. -/
theorem foldl_take_flatMap_eraseDups {β : Type} (cap : Nat) {f g : β → List String}
    {l : List β} (h : ∀ b ∈ l, (f b).eraseDups = g b) (found : List String) :
    (l.flatMap f).foldl (take cap) found = (l.flatMap g).foldl (take cap) found := by
  induction l generalizing found with
  | nil => rfl
  | cons b l ih =>
    have hb : (f b).foldl (take cap) found = (g b).foldl (take cap) found := by
      rw [← h b List.mem_cons_self, foldl_take_eraseDups]
    rw [List.flatMap_cons, List.flatMap_cons, List.foldl_append, List.foldl_append, hb]
    exact ih (fun b' hb' => h b' (List.mem_cons_of_mem _ hb')) _

/-- The keys that a search selects are the first distinct ones of the scans of its
clauses. -/
theorem select_eq_take {ix : Index} {order : List String} (h : ix.Derived order)
    (clauses : List SearchClause) (cap : Nat) :
    ix.select clauses cap = (clauses.flatMap (ix.scan order)).eraseDups.take cap := by
  rw [select, ← foldl_take_nil]
  apply foldl_take_flatMap_eraseDups
  intro clause _
  exact eraseDups_matching h clause

/-- A scan finds only keys that are loaded. -/
theorem mem_order_of_mem_scan {ix : Index} {order : List String} {clause : SearchClause}
    {key : String} (h : key ∈ ix.scan order clause) : key ∈ order := by
  unfold scan at h
  split at h
  · exact (List.mem_filter.1 h).1
  · cases h

/-! ### Keys matched and keys selected -/

/-- The keys, in the given order, that some clause matches. -/
def matched (ix : Index) (order : List String) (clauses : List SearchClause) :
    List String :=
  order.filter fun key => clauses.any fun clause => (ix.scan order clause).contains key

/-- A key is matched iff the scan of some clause finds it. -/
theorem mem_matched_iff {ix : Index} {order : List String} {clauses : List SearchClause}
    {key : String} :
    key ∈ ix.matched order clauses ↔ key ∈ clauses.flatMap (ix.scan order) := by
  rw [matched, List.mem_filter, List.any_eq_true, List.mem_flatMap]
  simp only [List.contains_iff_mem]
  constructor
  · exact fun h => h.2
  · rintro ⟨clause, hclause, hkey⟩
    exact ⟨mem_order_of_mem_scan hkey, clause, hclause, hkey⟩

/-- The keys that are matched, in the order of the clauses or in that of loading. -/
theorem perm_matched {ix : Index} {order : List String} (h : order.Nodup)
    (clauses : List SearchClause) :
    ((clauses.flatMap (ix.scan order)).eraseDups).Perm (ix.matched order clauses) := by
  apply (List.perm_ext_iff_of_nodup (nodup_eraseDups _) (h.filter _)).2
  intro key
  rw [List.mem_eraseDups, ← mem_matched_iff, matched]

/-- As many keys are selected as are matched, up to the cap. -/
theorem length_select {ix : Index} {order : List String} (h : ix.Derived order)
    (clauses : List SearchClause) (cap : Nat) :
    (ix.select clauses cap).length = min cap (ix.matched order clauses).length := by
  rw [select_eq_take h, List.length_take, (perm_matched h.nodup clauses).length_eq]

theorem mem_matched_of_mem_select {ix : Index} {order : List String} (h : ix.Derived order)
    {clauses : List SearchClause} {cap : Nat} {key : String}
    (hkey : key ∈ ix.select clauses cap) :
    key ∈ ix.matched order clauses := by
  rw [select_eq_take h] at hkey
  exact (perm_matched h.nodup clauses).mem_iff.1 (List.mem_of_mem_take hkey)

theorem isSome_record?_of_mem_select {ix : Index} {order : List String}
    (h : ix.Derived order) {clauses : List SearchClause} {cap : Nat} {key : String}
    (hkey : key ∈ ix.select clauses cap) :
    (ix.record? key).isSome = true :=
  (h.mem_order key).1 (List.mem_filter.1 (mem_matched_of_mem_select h hkey)).1

/-! ### Replies -/

/-- Keys that all have a record give one item each. -/
theorem items_of_records {ix : Index} (requested : List FieldId) (keys : List String)
    (h : ∀ key ∈ keys, (ix.record? key).isSome = true) :
    List.Forall₂ (fun key item => ∃ record, ix.record? key = some record ∧
      item = ix.project requested key record) keys (ix.items requested keys) := by
  unfold items
  induction keys with
  | nil => exact .nil
  | cons key keys ih =>
    obtain ⟨record, hrecord⟩ := Option.isSome_iff_exists.1 (h key List.mem_cons_self)
    rw [List.filterMap_cons, hrecord, Option.map_some]
    exact .cons ⟨record, hrecord, rfl⟩
      (ih fun key' hkey' => h key' (List.mem_cons_of_mem _ hkey'))

/-- **Search over postings is a scan of the records.**  After any build, the keys of a
search are the first `maxResults` of what the scans of its clauses find, in the order of
loading within a clause and each key once, and the reply has one item for each of them. -/
theorem answerInverted_eq_scan {format : BulkFormat} {b : Builder}
    (h : Builder.start format = .ok b) (sources : List Bytes) (request : InvertedRequest) :
    let ix := (b.consumeAll sources).index
    let keys := (request.clauses.flatMap (ix.scan (b.loadOrder sources))).eraseDups.take
      request.maxResults.toNat
    ix.select request.clauses request.maxResults.toNat = keys ∧
      ∃ items, ix.answerInverted request = .ok ⟨items⟩ ∧
        List.Forall₂ (fun key item => ∃ record, ix.record? key = some record ∧
          item = ix.project request.requestedFields key record) keys items := by
  intro ix keys
  have hderived : ix.Derived (b.loadOrder sources) :=
    (Builder.stored_consumeAll h sources).derived
  have hselect : ix.select request.clauses request.maxResults.toNat = keys :=
    select_eq_take hderived request.clauses request.maxResults.toNat
  refine ⟨hselect, ix.items request.requestedFields keys, ?_, ?_⟩
  · rw [← hselect]
    rfl
  · apply items_of_records
    intro key hkey
    -- a key that is selected is loaded, so it has a record
    have hmem := List.mem_eraseDups.1 (List.mem_of_mem_take hkey)
    obtain ⟨clause, _, hscan⟩ := List.mem_flatMap.1 hmem
    exact (hderived.mem_order key).1 (mem_order_of_mem_scan hscan)

/-- Two clauses under a cap that the second would exceed.  The first has an item that
constrains nothing, and the record of its first key holds the term twice. -/
theorem answerInverted_eq_scan_capped :
    let format : BulkFormat := ⟨[100, 101, 102], ",", some ":"⟩
    let b : Builder := ⟨format, .empty 100, {}⟩
    let sources := [Bytes.ofText "a,x:x,1\nb,y,2\nc,x,2\nd,y,2"]
    let ix := (b.consumeAll sources).index
    let request : InvertedRequest :=
      ⟨[⟨.ofList [(101, .matching (.bytes "x")), (102, .unset)]⟩,
        ⟨.ofList [(102, .matching (.int 2))]⟩], 3, []⟩
    Builder.start format = .ok b ∧
      request.clauses.map (ix.scan (b.loadOrder sources)) = [["a", "c"], ["b", "c", "d"]] ∧
      ix.select request.clauses 3 = ["a", "c", "b"] ∧
      ∃ items, ix.answerInverted request = .ok ⟨items⟩ ∧ items.length = 3 := by
  intro format b sources ix request
  have hstart : Builder.start format = .ok b := rfl
  have hkeys : ((request.clauses.flatMap (ix.scan (b.loadOrder sources))).eraseDups.take
      request.maxResults.toNat) = ["a", "c", "b"] := by decide +kernel
  obtain ⟨hselect, items, hanswer, hitems⟩ :=
    answerInverted_eq_scan hstart sources request
  refine ⟨hstart, by decide +kernel, hselect.trans hkeys, items, hanswer, ?_⟩
  have hlength := hitems.length_eq
  rw [hkeys] at hlength
  exact hlength.symm

end Recommend.Index
