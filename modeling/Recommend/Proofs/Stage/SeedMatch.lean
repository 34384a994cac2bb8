import Recommend.Proofs.Index.Scan
import Recommend.Stage.ContentRetrieval

/-!
What the items of a retrieval have in common with the request.

The clause of a seed value asks for one text per field (`asked?`): that of a filter
rule, and under the extracted field the seed value, unless a rule stands there as well.
Every item that is answered comes from a record that holds all that the clause of one
seed value asks for, empty texts aside.

So the rules are always respected.  That an item shares a seed value with the request
takes more: each clause that asks for anything has to ask for a seed value (`Anchored`).
It does if no rule is about the extracted field and no seed value is empty
(`anchored_of_no_rule`); `answer_without_shared_value` shows what happens otherwise.
-/

namespace Recommend.ContentRetrieval

/-! ### Clauses -/

/-- The text that the clause of a seed value asks for under a field. -/
def asked? (r : ContentRetrieval) (value : String) (field : FieldId) : Option String :=
  -- the rules are entered last, so they win over the seed value
  (r.filterRules.find? field).or (if field = r.extract.field then some value else none)

theorem asked?_of_rule {r : ContentRetrieval} {field : FieldId} {text : String}
    (h : r.filterRules.find? field = some text) (value : String) :
    r.asked? value field = some text := by
  rw [asked?, h, Option.some_or]

theorem asked?_extract {r : ContentRetrieval}
    (h : r.filterRules.find? r.extract.field = none) (value : String) :
    r.asked? value r.extract.field = some value := by
  rw [asked?, h, Option.none_or, if_pos rfl]

theorem find?_demand (items : SortedMap FieldId SearchItem) (field field' : FieldId)
    (text : String) :
    (demand items field text).find? field' =
      if field' = field then some (.matching (.bytes text)) else items.find? field' := by
  by_cases h : field' = field
  · subst h
    rw [demand, SortedMap.find?_insert_self, if_pos rfl]
  · rw [demand, SortedMap.find?_insert_of_ne _ _ h, if_neg h]

/-- The rules are entered behind the seed value, as entries of the clause. -/
theorem items_clause (r : ContentRetrieval) (value : String) :
    (r.clause value).items =
      (r.filterRules.toList.map fun rule =>
          (rule.1, SearchItem.matching (.bytes rule.2))).foldl
        (fun items e => items.insert e.1 e.2) (demand .empty r.extract.field value) := by
  rw [List.foldl_map]
  rfl

/-- A clause demands the texts that are asked for, and nothing else. -/
theorem find?_clause (r : ContentRetrieval) (value : String) (field : FieldId) :
    (r.clause value).items.find? field =
      (r.asked? value field).map fun text => .matching (.bytes text) := by
  have hfields : (r.filterRules.toList.map fun rule =>
      (rule.1, SearchItem.matching (.bytes rule.2))).map Prod.fst = r.filterRules.keys := by
    rw [List.map_map]
    rfl
  have hnodup := r.filterRules.nodup_keys
  rw [← hfields] at hnodup
  -- no two rules are about one field, so the order of the rules does not matter
  have hfind := fun item => SortedMap.find?_foldl_insert (k := field) (a := item) hnodup
    (demand .empty r.extract.field value)
  simp only [← items_clause, hfields] at hfind
  rw [asked?]
  cases hrule : r.filterRules.find? field with
  | some text =>
    have hmem := SortedMap.mem_toList_iff.2 hrule
    exact (hfind _).2 (.inl (List.mem_map.2 ⟨(field, text), hmem, rfl⟩))
  | none =>
    -- no rule is about the field, so the clause holds there what was demanded first
    have hout : field ∉ r.filterRules.keys := by
      rw [SortedMap.mem_keys_iff, SortedMap.contains, hrule]
      simp
    have hnot : ∀ item, (field, item) ∉ r.filterRules.toList.map fun rule =>
        (rule.1, SearchItem.matching (.bytes rule.2)) := by
      intro item hitem
      rw [← hfields] at hout
      exact hout (List.mem_map.2 ⟨_, hitem, rfl⟩)
    apply Option.ext
    intro item
    rw [hfind, find?_demand, Option.none_or]
    simp only [hnot, hout, false_or, not_false_eq_true, true_and]
    split <;> rfl

theorem term?_bytes {text : String} (h : text ≠ "") :
    (SearchItem.matching (.bytes text)).term? = some text := by
  have hempty : text.isEmpty = false := by
    rw [Bool.eq_false_iff]
    exact fun he => h (String.isEmpty_iff.1 he)
  show (if text.isEmpty then none else some text) = some text
  rw [hempty]
  rfl

/-! ### Records found -/

/-- The record of a key holds all that the clause of a seed value asks for. -/
def Meets (r : ContentRetrieval) (ix : Index) (key value : String) : Prop :=
  ∀ field text, r.asked? value field = some text → text ≠ "" → text ∈ ix.values key field

theorem meets_of_mem_scan {r : ContentRetrieval} {ix : Index} {order : List String}
    {key value : String} (h : key ∈ ix.scan order (r.clause value)) :
    r.Meets ix key value := by
  intro field text hasked htext
  unfold Index.scan at h
  split at h
  next =>
    -- what is asked for is an item of the clause, and the scan has checked it
    have hitem :
        (field, SearchItem.matching (.bytes text)) ∈ (r.clause value).items.toList := by
      rw [SortedMap.mem_toList_iff, find?_clause, hasked, Option.map_some]
    have hholds := List.all_eq_true.1 (List.mem_filter.1 h).2 _ hitem
    rw [Index.holds, term?_bytes htext] at hholds
    exact List.contains_iff_mem.1 hholds
  next => cases h

/-- A clause that finds anything asks for a text that is not empty. -/
theorem exists_asked_of_mem_scan {r : ContentRetrieval} {ix : Index} {order : List String}
    {key value : String} (h : key ∈ ix.scan order (r.clause value)) :
    ∃ field text, r.asked? value field = some text ∧ text ≠ "" := by
  unfold Index.scan at h
  split at h
  next hclause =>
    obtain ⟨⟨field, item⟩, hitem, hterm⟩ := hclause.2
    rw [SortedMap.mem_toList_iff, find?_clause] at hitem
    obtain ⟨text, hasked, rfl⟩ := Option.map_eq_some_iff.1 hitem
    refine ⟨field, text, hasked, ?_⟩
    -- an empty text is no term
    rintro rfl
    cases hterm
  next => cases h

/-- A key that a search for seed values selects is found by the clause of one of them. -/
theorem exists_mem_scan_of_select {r : ContentRetrieval} {ix : Index} {order : List String}
    (hderived : ix.Derived order) {values : List String} {cap : Nat} {key : String}
    (h : key ∈ ix.select (r.clauses (.bytes values)) cap) :
    ∃ value ∈ values, key ∈ ix.scan order (r.clause value) := by
  rw [Index.select_eq_take hderived] at h
  obtain ⟨clause, hclause, hkey⟩ :=
    List.mem_flatMap.1 (List.mem_eraseDups.1 (List.mem_of_mem_take h))
  obtain ⟨value, hvalue, rfl⟩ := List.mem_map.1 hclause
  exact ⟨value, hvalue, hkey⟩

/-! ### Items answered -/

theorem answer_of_index {r : ContentRetrieval} {ix : Index}
    (hindexer : r.indexer = .ofIndex ix) {request : RecRequest} {seed : FeatureList}
    (hseed : r.extract.get request = .ok seed) :
    r.answer request = .ok ⟨request.requestId,
      r.candidates ⟨ix.items r.itemKeys (ix.select (r.clauses seed) r.maxResults.toNat)⟩⟩ := by
  rw [answer, search, hseed, hindexer]
  rfl

/-- An item that is answered is the projection of a record that the search has selected. -/
theorem exists_record_of_candidate {r : ContentRetrieval} {ix : Index} {keys : List String}
    {item : RecItem} (h : item ∈ r.candidates ⟨ix.items r.itemKeys keys⟩) :
    ∃ key ∈ keys, ∃ record, ix.record? key = some record ∧
      item.itemId = r.itemId (ix.project r.itemKeys key record) := by
  obtain ⟨found, hfound, hitem⟩ := List.mem_filterMap.1 h
  obtain ⟨key, hkey, hproject⟩ := List.mem_filterMap.1 hfound
  obtain ⟨record, hrecord, rfl⟩ := Option.map_eq_some_iff.1 hproject
  refine ⟨key, hkey, record, hrecord, ?_⟩
  dsimp only at hitem
  split at hitem
  next => cases hitem
  next =>
    cases hitem
    rfl

/-- Every clause that asks for anything asks for a seed value under the extracted field. -/
def Anchored (r : ContentRetrieval) (values : List String) : Prop :=
  ∀ value ∈ values, (∃ field text, r.asked? value field = some text ∧ text ≠ "") →
    ∃ seed ∈ values, seed ≠ "" ∧ r.asked? value r.extract.field = some seed

theorem anchored_of_no_rule {r : ContentRetrieval} {values : List String}
    (hrule : r.filterRules.find? r.extract.field = none) (hvalues : "" ∉ values) :
    r.Anchored values := by
  intro value hvalue _
  refine ⟨value, hvalue, ?_, asked?_extract hrule value⟩
  rintro rfl
  exact hvalues hvalue

/-- A retrieval over an index that was built answers with projections of records.  Each
of these holds all that the clause of one seed value asks for, and so the value of every
filter rule; if the retrieval is anchored in the seed values, it holds one of them under
the extracted field. -/
theorem answer_of_seed_values {format : BulkFormat} {b : Builder}
    (hstart : Builder.start format = .ok b) (sources : List Bytes) (r : ContentRetrieval)
    (hindexer : r.indexer = .ofIndex (b.consumeAll sources).index) (request : RecRequest)
    (values : List String) (hseed : r.extract.get request = .ok (.bytes values)) :
    let ix := (b.consumeAll sources).index
    ∃ reply, r.answer request = .ok reply ∧
      ∀ item ∈ reply.items, ∃ key record, ix.record? key = some record ∧
        item.itemId = r.itemId (ix.project r.itemKeys key record) ∧
        (∃ value ∈ values, r.Meets ix key value) ∧
        (∀ field text, r.filterRules.find? field = some text → text ≠ "" →
          text ∈ ix.values key field) ∧
        (r.Anchored values → ∃ value ∈ values, value ∈ ix.values key r.extract.field) := by
  intro ix
  have hderived : ix.Derived (b.loadOrder sources) :=
    (Builder.stored_consumeAll hstart sources).derived
  refine ⟨_, answer_of_index hindexer hseed, ?_⟩
  intro item hitem
  obtain ⟨key, hkey, record, hrecord, hid⟩ := exists_record_of_candidate hitem
  -- one clause has found the key, and what it asks for is all that is known
  obtain ⟨value, hvalue, hscan⟩ := exists_mem_scan_of_select hderived hkey
  have hmeets := meets_of_mem_scan hscan
  refine ⟨key, record, hrecord, hid, ⟨value, hvalue, hmeets⟩, ?_, ?_⟩
  · intro field text hrule htext
    exact hmeets field text (asked?_of_rule hrule value) htext
  · intro hanchored
    obtain ⟨seed, hseedMem, hne, hasked⟩ :=
      hanchored value hvalue (exists_asked_of_mem_scan hscan)
    exact ⟨seed, hseedMem, hmeets _ seed hasked hne⟩

/-- Two records that differ in field 103 and agree in field 102. -/
def twoRows : Builder :=
  (⟨⟨[100, 103, 102], ",", none⟩, .empty 100, {}⟩ : Builder).consumeAll
    [Bytes.ofText "a,x,p\nb,y,p"]

/-- A retrieval by field 103 over these records. -/
def byField103 (filterRules : SortedMap FieldId String) : ContentRetrieval :=
  ⟨7, 10, ⟨201, 103⟩, [100], filterRules, .ofIndex twoRows.index⟩

/-- A request with seed values for it. -/
def seedRequest (values : List String) : RecRequest :=
  ⟨"r", .ofList [(201, .ofList [(103, .bytes values)])]⟩

theorem answer_of_seed_values_filtered :
    Builder.start ⟨[100, 103, 102], ",", none⟩ =
        .ok ⟨⟨[100, 103, 102], ",", none⟩, .empty 100, {}⟩ ∧
      (byField103 (.ofList [(102, "p")])).extract.get (seedRequest ["y", "z"]) =
        .ok (.bytes ["y", "z"]) ∧
      (byField103 (.ofList [(102, "p")])).Anchored ["y", "z"] ∧
      ∃ reply,
        (byField103 (.ofList [(102, "p")])).answer (seedRequest ["y", "z"]) = .ok reply ∧
        reply.items.length = 1 ∧
        ∀ item ∈ reply.items, ∃ key, "p" ∈ twoRows.index.values key 102 ∧
          ∃ value ∈ ["y", "z"], value ∈ twoRows.index.values key 103 := by
  have hstart : Builder.start ⟨[100, 103, 102], ",", none⟩ =
      .ok ⟨⟨[100, 103, 102], ",", none⟩, .empty 100, {}⟩ := rfl
  have hseed : (byField103 (.ofList [(102, "p")])).extract.get (seedRequest ["y", "z"]) =
      .ok (.bytes ["y", "z"]) := by decide +kernel
  have hanchored : (byField103 (.ofList [(102, "p")])).Anchored ["y", "z"] :=
    anchored_of_no_rule (by decide) (by decide)
  have hlength :
      ((byField103 (.ofList [(102, "p")])).answer (seedRequest ["y", "z"])).toOption.map
        (fun reply => reply.items.length) = some 1 := by
    decide +kernel
  obtain ⟨reply, hreply, hitems⟩ :=
    answer_of_seed_values hstart [Bytes.ofText "a,x,p\nb,y,p"]
      (byField103 (.ofList [(102, "p")])) rfl (seedRequest ["y", "z"]) ["y", "z"] hseed
  -- the reply that is counted is the one of the theorem
  rw [hreply] at hlength
  refine ⟨hstart, hseed, hanchored, reply, hreply, Option.some.inj hlength, ?_⟩
  intro item hitem
  obtain ⟨key, -, -, -, -, hrules, hshared⟩ := hitems item hitem
  exact ⟨key, hrules 102 "p" (by decide) (by decide), hshared hanchored⟩

/-- An item may share no value with the request: a filter rule about the extracted field
takes the place of the seed value, and an empty seed value leaves only the rules. -/
theorem answer_without_shared_value :
    (∃ reply, (byField103 (.ofList [(103, "y")])).answer (seedRequest ["x"]) = .ok reply ∧
      reply.items = [⟨.ofList [(100, .bytes ["b"])], [⟨7, 1⟩]⟩] ∧
      "x" ∉ twoRows.index.values "b" 103) ∧
    ∃ reply, (byField103 (.ofList [(102, "p")])).answer (seedRequest [""]) = .ok reply ∧
      reply.items = [⟨.ofList [(100, .bytes ["a"])], [⟨7, 2⟩]⟩,
        ⟨.ofList [(100, .bytes ["b"])], [⟨7, 2⟩]⟩] ∧
      "" ∉ twoRows.index.values "a" 103 ∧ "" ∉ twoRows.index.values "b" 103 := by
  refine ⟨⟨⟨"r", _⟩, ?_, rfl, by decide +kernel⟩,
    ⟨⟨"r", _⟩, ?_, rfl, by decide +kernel, by decide +kernel⟩⟩
  · decide +kernel
  · decide +kernel

end Recommend.ContentRetrieval
