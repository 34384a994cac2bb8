import Recommend.Proofs.Index.Scan

/-!
Searches of an index of which nothing is known, under any cap.

The stores of an index that was read from a snapshot need not agree: a posting may name
keys that have no record, name a key twice, or be empty.  Whatever the stores are, the
clauses find a list of distinct keys (`found`), and a cap cuts that list off:

    ix.select clauses cap = (ix.found clauses).take cap

so a smaller cap selects a prefix of what a larger one does.  Keys without a record are
dropped after the cut, which keeps prefixes prefixes and makes a reply shorter, never
longer.
-/

namespace Recommend

/-- The pairs of a field and a term that constrain the keys of a clause. -/
def SearchClause.constraints (clause : SearchClause) : List (FieldId × String) :=
  clause.items.toList.filterMap fun e => e.2.term?.map fun term => (e.1, term)

/-- The constraints of a clause come from its items with a term. -/
theorem SearchClause.mem_constraints {clause : SearchClause} {field : FieldId}
    {term : String} :
    (field, term) ∈ clause.constraints ↔ ∃ e ∈ clause.items.toList, e.1 = field ∧
      e.2.term? = some term := by
  simp only [constraints, List.mem_filterMap, Option.map_eq_some_iff, Prod.mk.injEq]
  constructor
  · rintro ⟨e, he, term', hterm, rfl, rfl⟩
    exact ⟨e, he, rfl, hterm⟩
  · rintro ⟨e, he, rfl, hterm⟩
    exact ⟨e, he, term, hterm, rfl, rfl⟩

namespace Index

variable {ix : Index} {clause : SearchClause} {clauses : List SearchClause} {key : String}

/-! ### Keys -/

/-- The clause constrains, and the key stands in the posting of each of its constraints. -/
structure Satisfies (ix : Index) (clause : SearchClause) (key : String) : Prop where
  constrains : clause.constraints ≠ []
  posted : ∀ c ∈ clause.constraints, ∃ keys, ix.posting? c.1 c.2 = some keys ∧ key ∈ keys

/-- A key that an item admits stands in the posting that the item asks for. -/
theorem exists_posting_of_admits {e : FieldId × SearchItem} {term : String}
    (hterm : e.2.term? = some term) (h : ix.admits key e = true) :
    ∃ keys, ix.posting? e.1 term = some keys ∧ key ∈ keys := by
  obtain ⟨field, item⟩ := e
  rw [admits_of_term? hterm, List.contains_iff_mem] at h
  cases hposting : ix.posting? field term with
  | none => simp [hposting] at h
  | some keys =>
    rw [hposting] at h
    exact ⟨keys, rfl, h⟩

/-- What a clause finds satisfies it, whatever the stores hold. -/
theorem satisfies_of_mem_matching (h : key ∈ ix.matching clause) :
    ix.Satisfies clause key := by
  rw [matching, narrow_none] at h
  split at h
  next =>
    obtain ⟨hfirst, hall⟩ := List.mem_filter.1 h
    constructor
    · -- the keys come from the first posting that is asked for, so there is one
      cases hasked : clause.items.toList.findSome? ix.asked? with
      | none => simp [hasked] at hfirst
      | some keys =>
        obtain ⟨e, he, hask⟩ := List.exists_of_findSome?_eq_some hasked
        obtain ⟨term, hterm, -⟩ := Option.map_eq_some_iff.1 hask
        exact List.ne_nil_of_mem (SearchClause.mem_constraints.2 ⟨e, he, rfl, hterm⟩)
    -- narrowing has kept the key for every item, so for each that has a term
    · rintro ⟨field, term⟩ hc
      obtain ⟨e, he, rfl, hterm⟩ := SearchClause.mem_constraints.1 hc
      exact exists_posting_of_admits hterm (List.all_eq_true.1 hall e he)
  next => cases h

/-! ### The cap -/

/-- The distinct keys that the clauses find in turn. -/
def found (ix : Index) (clauses : List SearchClause) : List String :=
  (clauses.flatMap ix.matching).eraseDups

theorem select_eq_take_found (ix : Index) (clauses : List SearchClause) (cap : Nat) :
    ix.select clauses cap = (ix.found clauses).take cap :=
  foldl_take_nil cap _

/-- No key is selected twice. -/
theorem nodup_select (ix : Index) (clauses : List SearchClause) (cap : Nat) :
    (ix.select clauses cap).Nodup := by
  rw [select_eq_take_found]
  exact (nodup_eraseDups _).sublist (List.take_sublist _ _)

/-- No more keys are selected than the cap allows. -/
theorem length_select_le (ix : Index) (clauses : List SearchClause) (cap : Nat) :
    (ix.select clauses cap).length ≤ cap := by
  rw [select_eq_take_found]
  exact List.length_take_le _ _

/-- A smaller cap selects a prefix of what a larger one does. -/
theorem select_prefix_select (ix : Index) (clauses : List SearchClause) {n m : Nat}
    (h : n ≤ m) :
    ix.select clauses n <+: ix.select clauses m := by
  rw [select_eq_take_found, select_eq_take_found]
  exact List.take_prefix_take_left h

/-- Every key that is selected satisfies one of the clauses. -/
theorem exists_satisfies_of_mem_select {cap : Nat} (h : key ∈ ix.select clauses cap) :
    ∃ clause ∈ clauses, ix.Satisfies clause key := by
  rw [select_eq_take_found] at h
  have hfound := List.mem_eraseDups.1 (List.mem_of_mem_take h)
  obtain ⟨clause, hclause, hkey⟩ := List.mem_flatMap.1 hfound
  exact ⟨clause, hclause, satisfies_of_mem_matching hkey⟩

/-! ### Items -/

/-- The keys that have a record. -/
def recorded (ix : Index) (keys : List String) : List String :=
  keys.filter fun key => (ix.record? key).isSome

/-- A key without a record leaves no item. -/
theorem items_recorded (ix : Index) (requested : List FieldId) (keys : List String) :
    ix.items requested (ix.recorded keys) = ix.items requested keys := by
  rw [items, items, recorded, List.filterMap_filter]
  apply List.filterMap_congr
  intro key _
  cases ix.record? key <;> rfl

/-- The items of a prefix of keys are a prefix of the items. -/
theorem items_prefix_items (ix : Index) (requested : List FieldId)
    {keys keys' : List String} (h : keys <+: keys') :
    ix.items requested keys <+: ix.items requested keys' := by
  obtain ⟨later, rfl⟩ := h
  exact ⟨ix.items requested later, (List.filterMap_append ..).symm⟩

/-- **Search is bounded, without repetitions, and a smaller cap cuts the reply off.**
For any stores, the items of a search are the projections of records under distinct
keys, at most as many as the cap allows, each key listed by all postings that some
clause asks for; and under a larger cap the reply starts with the same items. -/
theorem answerInverted_capped (ix : Index) (clauses : List SearchClause)
    (requested : List FieldId) {n m : UInt64} (h : n ≤ m) :
    ∃ keys items items',
      ix.answerInverted ⟨clauses, n, requested⟩ = .ok ⟨items⟩ ∧
      ix.answerInverted ⟨clauses, m, requested⟩ = .ok ⟨items'⟩ ∧
      items.length ≤ n.toNat ∧
      keys.Nodup ∧
      List.Forall₂ (fun key item => ∃ record, ix.record? key = some record ∧
        item = ix.project requested key record) keys items ∧
      (∀ key ∈ keys, ∃ clause ∈ clauses, ix.Satisfies clause key) ∧
      items <+: items' := by
  have hcut : ix.select clauses n.toNat <+: ix.select clauses m.toNat :=
    ix.select_prefix_select clauses h
  refine ⟨ix.recorded (ix.select clauses n.toNat),
    ix.items requested (ix.select clauses n.toNat),
    ix.items requested (ix.select clauses m.toNat), rfl, rfl, ?_, ?_, ?_, ?_,
    ix.items_prefix_items requested hcut⟩
  · -- dropping keys without a record shortens the reply
    calc (ix.items requested (ix.select clauses n.toNat)).length
        ≤ (ix.select clauses n.toNat).length := List.length_filterMap_le _ _
      _ ≤ n.toNat := ix.length_select_le clauses n.toNat
  · exact (ix.nodup_select clauses n.toNat).filter _
  -- only the keys with a record are listed, and each of them has an item
  · rw [← items_recorded]
    apply items_of_records
    intro key hkey
    exact (List.mem_filter.1 hkey).2
  · intro key hkey
    exact exists_satisfies_of_mem_select (List.mem_filter.1 hkey).1

/-- Stores that do not agree: a posting names a key without a record and another one
twice, and a second posting lists keys whose records do not hold its term. -/
def patched : Index where
  keyField := 100
  forward := .ofList [("a", .ofList [(101, ["x"])]), ("b", .empty),
    ("c", .ofList [(102, ["z"])])]
  inverted := .ofList
    [(101, .ofList [("x", ["gone", "a", "a", "b"]), ("y", [])]),
      (102, .ofList [("z", ["b", "gone", "c"])])]

/-- Two caps on a search of two clauses.  Under the smaller one, half of it is lost to a
key without a record. -/
theorem answerInverted_capped_patched :
    let clauses : List SearchClause :=
      [⟨.ofList [(101, .matching (.bytes "x")), (102, .unset)]⟩,
        ⟨.ofList [(102, .matching (.bytes "z"))]⟩]
    (2 : UInt64) ≤ 4 ∧
      patched.select clauses 2 = ["gone", "a"] ∧
        patched.select clauses 4 = ["gone", "a", "b", "c"] ∧
      ∃ items items', patched.answerInverted ⟨clauses, 2, []⟩ = .ok ⟨items⟩ ∧
        patched.answerInverted ⟨clauses, 4, []⟩ = .ok ⟨items'⟩ ∧ items.length ≤ 2 ∧
          items <+: items' := by
  intro clauses
  have hcap : (2 : UInt64) ≤ 4 := by decide
  obtain ⟨keys, items, items', hanswer, hanswer', hlength, -, -, -, hcut⟩ :=
    answerInverted_capped patched clauses [] hcap
  exact ⟨hcap, by decide +kernel, by decide +kernel, items, items', hanswer, hanswer',
    hlength, hcut⟩

end Index

end Recommend
