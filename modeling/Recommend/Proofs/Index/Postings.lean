import Mathlib.Data.List.Basic
import Recommend.Index.Basic
import Recommend.Proofs.SortedMap

/-!
The two stores of an index, and when the second is the one that the first gives.

`Derived ix order` says that the records of `ix` were loaded in the order `order` of
their keys, and that the posting of a term under a field lists these keys in that order,
each as often as its record holds the term:

    posting of (field, term)  =  order.flatMap fun key => replicate (times term is held) key

Nothing is assumed of the records themselves: a field whose list of values is empty has
postings, which are then empty themselves.  The empty index is derived from the empty
order (`derived_empty`), and a record under a new key goes to the end of the order
(`Derived.insert?`).
-/

namespace Recommend.Index

/-! ### Views of the stores -/

/-- The values of a field in the record of a key. -/
def values (ix : Index) (key : String) (field : FieldId) : List String :=
  ((ix.record? key).bind fun record => record.find? field).getD []

/-- The posting of a term under a field. -/
def posting? (ix : Index) (field : FieldId) (term : String) : Option (List String) :=
  (ix.postings? field).bind fun postings => postings.find? term

/-- The keys in a given order, each as often as its record holds a term under a field. -/
def occurrences (ix : Index) (order : List String) (field : FieldId) (term : String) :
    List String :=
  order.flatMap fun key => List.replicate ((ix.values key field).count term) key

/-- Whether some record has a field. -/
def Carries (ix : Index) (field : FieldId) : Prop :=
  ∃ key record, ix.record? key = some record ∧ record.contains field = true

instance (ix : Index) (field : FieldId) : Decidable (ix.Carries field) :=
  decidable_of_iff (∃ e ∈ ix.forward.toList, e.2.contains field = true) <| by
    simp only [Prod.exists, SortedMap.mem_toList_iff]
    rfl

/-- The inverted store is the one that the records give, loaded in the order of these
keys. -/
structure Derived (ix : Index) (order : List String) : Prop where
  nodup : order.Nodup
  mem_order : ∀ key, key ∈ order ↔ (ix.record? key).isSome = true
  postings_isSome : ∀ field, (ix.postings? field).isSome = true ↔ ix.Carries field
  posting_eq : ∀ field term,
    (ix.posting? field term).getD [] = ix.occurrences order field term
  posting_ne_nil : ∀ field term keys, ix.posting? field term = some keys → keys ≠ []

theorem values_of_record {ix : Index} {key : String} {record : Record}
    (h : ix.record? key = some record) (field : FieldId) :
    ix.values key field = (record.find? field).getD [] := by
  simp [values, h]

/-! ### Entering a key under the values of a record -/

/-- Entering a key under a term puts it at the end of the posting of that term. -/
theorem find?_post (key : String) (postings : Postings) (term term' : String) :
    (post key postings term).find? term' =
      if term' = term then some ((postings.find? term').getD [] ++ [key])
      else postings.find? term' := by
  unfold post
  by_cases h : term' = term
  · subst h
    rw [SortedMap.find?_insert_self, if_pos rfl]
  · rw [SortedMap.find?_insert_of_ne _ _ h, if_neg h]

/-- After a key has been entered under a list of values, the posting of each of them
ends in that key, as often as the value stands in the list. -/
theorem find?_foldl_post (key term : String) (values : List String) (postings : Postings) :
    (values.foldl (post key) postings).find? term =
      if term ∈ values then
        some ((postings.find? term).getD [] ++ List.replicate (values.count term) key)
      else postings.find? term := by
  induction values generalizing postings with
  | nil => simp
  | cons v values ih =>
    rw [List.foldl_cons, ih, find?_post]
    -- the first value is the term or not; if it is, the key is entered once more now
    by_cases hv : term = v
    · subst hv
      by_cases hmem : term ∈ values
      · simp [hmem, List.replicate_succ]
      · have hcount : values.count term = 0 := List.count_eq_zero.2 hmem
        simp [hmem, hcount]
    · have hcount : (v :: values).count term = values.count term :=
        List.count_cons_of_ne (Ne.symm hv)
      simp [hv, hcount]

/-- Entering a key under a field leaves all other fields alone. -/
theorem find?_postField (key : String) (inverted : SortedMap FieldId Postings)
    (field field' : FieldId) (values : List String) :
    (postField key inverted field values).find? field' =
      if field' = field then some (values.foldl (post key) ((inverted.find? field').getD .empty))
      else inverted.find? field' := by
  unfold postField
  by_cases h : field' = field
  · subst h
    rw [SortedMap.find?_insert_self, if_pos rfl]
  · rw [SortedMap.find?_insert_of_ne _ _ h, if_neg h]

/-- Entering a key under the fields of an entry list leaves all other fields alone. -/
theorem find?_foldl_postField_of_notMem (key : String) (field : FieldId)
    (entries : List (FieldId × List String)) (h : field ∉ entries.map Prod.fst)
    (inverted : SortedMap FieldId Postings) :
    (entries.foldl (fun inverted e => postField key inverted e.1 e.2) inverted).find? field =
      inverted.find? field := by
  induction entries generalizing inverted with
  | nil => rfl
  | cons e entries ih =>
    rw [List.map_cons, List.mem_cons, not_or] at h
    rw [List.foldl_cons, ih h.2, find?_postField, if_neg h.1]

/-- Every field of an entry list is entered once. -/
theorem find?_foldl_postField_of_mem (key : String) (field : FieldId) (values : List String)
    (entries : List (FieldId × List String)) (hnodup : (entries.map Prod.fst).Nodup)
    (hmem : (field, values) ∈ entries) (inverted : SortedMap FieldId Postings) :
    (entries.foldl (fun inverted e => postField key inverted e.1 e.2) inverted).find? field =
      some (values.foldl (post key) ((inverted.find? field).getD .empty)) := by
  induction entries generalizing inverted with
  | nil => cases hmem
  | cons e entries ih =>
    rw [List.map_cons, List.nodup_cons] at hnodup
    rw [List.foldl_cons]
    -- fields are distinct, so the entry of a field is the only one that concerns it
    rcases List.mem_cons.1 hmem with rfl | hmem
    · rw [find?_foldl_postField_of_notMem key field entries hnodup.1, find?_postField,
        if_pos rfl]
    · have hne : field ≠ e.1 := by
        rintro rfl
        exact hnodup.1 (List.mem_map.2 ⟨_, hmem, rfl⟩)
      rw [ih hnodup.2 hmem, find?_postField, if_neg hne]

/-- What entering a whole record does to the postings of a field. -/
theorem find?_postRecord (key : String) (record : Record)
    (inverted : SortedMap FieldId Postings) (field : FieldId) :
    (postRecord key record inverted).find? field =
      match record.find? field with
      | none => inverted.find? field
      | some values =>
        some (values.foldl (post key) ((inverted.find? field).getD .empty)) := by
  unfold postRecord
  cases h : record.find? field with
  | none =>
    apply find?_foldl_postField_of_notMem
    intro hmem
    obtain ⟨⟨field', values⟩, he, rfl⟩ := List.mem_map.1 hmem
    rw [SortedMap.mem_toList_iff.1 he] at h
    cases h
  | some values =>
    exact find?_foldl_postField_of_mem key field values _ record.nodup_keys
      (SortedMap.mem_toList_iff.2 h) inverted

/-! ### Inserting a record -/

section Insert

variable {ix ix' : Index} {key : String} {record : Record}

/-- A record goes in only under a new key. -/
theorem record?_of_insert? (h : ix.insert? key record = some ix') :
    ix.record? key = none := by
  unfold insert? at h
  split at h
  next => cases h
  next hc => simpa [record?, SortedMap.contains] using hc

/-- A record under a new key is never refused. -/
theorem insert?_eq_some (h : ix.record? key = none) (record : Record) :
    ix.insert? key record =
      some ⟨ix.keyField, ix.forward.insert key record,
        postRecord key record ix.inverted⟩ := by
  have hc : ix.forward.contains key = false := by
    rw [SortedMap.contains]
    exact Option.isSome_eq_false_iff.2 (Option.isNone_iff_eq_none.2 h)
  simp [insert?, hc]

theorem eq_of_insert? (h : ix.insert? key record = some ix') :
    ix' = ⟨ix.keyField, ix.forward.insert key record,
      postRecord key record ix.inverted⟩ := by
  rw [insert?_eq_some (record?_of_insert? h) record] at h
  exact (Option.some.inj h).symm

/-- An insertion gives a record to its key, and leaves all other keys alone. -/
theorem record?_insert? (h : ix.insert? key record = some ix') (key' : String) :
    ix'.record? key' = if key' = key then some record else ix.record? key' := by
  rw [eq_of_insert? h]
  unfold record?
  by_cases hk : key' = key
  · subst hk
    simp
  · simp [SortedMap.find?_insert_of_ne _ _ hk, hk]

/-- An insertion enters the key under the fields of its record. -/
theorem postings?_insert? (h : ix.insert? key record = some ix') (field : FieldId) :
    ix'.postings? field =
      match record.find? field with
      | none => ix.postings? field
      | some values =>
        some (values.foldl (post key) ((ix.postings? field).getD .empty)) := by
  rw [eq_of_insert? h]
  exact find?_postRecord key record ix.inverted field

/-- The posting of a term after a record has gone in. -/
theorem posting?_insert? (h : ix.insert? key record = some ix') (field : FieldId)
    (term : String) :
    ix'.posting? field term =
      if term ∈ (record.find? field).getD [] then
        some ((ix.posting? field term).getD [] ++
          List.replicate (((record.find? field).getD []).count term) key)
      else ix.posting? field term := by
  unfold posting?
  rw [postings?_insert? h]
  cases hr : record.find? field with
  | none => simp
  | some values =>
    rw [Option.bind_some, find?_foldl_post, Option.getD_some]
    cases hp : ix.postings? field <;> simp

theorem values_insert? (h : ix.insert? key record = some ix') (key' : String)
    (field : FieldId) :
    ix'.values key' field =
      if key' = key then (record.find? field).getD [] else ix.values key' field := by
  unfold values
  rw [record?_insert? h]
  by_cases hk : key' = key <;> simp [hk]

/-- A new key occurs behind the others, as often as its record holds the term. -/
theorem occurrences_insert? (h : ix.insert? key record = some ix') {order : List String}
    (hout : key ∉ order) (field : FieldId) (term : String) :
    ix'.occurrences (order ++ [key]) field term =
      ix.occurrences order field term ++
        List.replicate (((record.find? field).getD []).count term) key := by
  unfold occurrences
  rw [List.flatMap_append, List.flatMap_singleton, values_insert? h, if_pos rfl]
  -- the records of the keys before it are as they were
  congr 1
  apply List.flatMap_congr
  intro key' hkey'
  have hne : key' ≠ key := by
    rintro rfl
    exact hout hkey'
  rw [values_insert? h, if_neg hne]

/-- After an insertion the fields of the new record are carried as well. -/
theorem carries_insert? (h : ix.insert? key record = some ix') (field : FieldId) :
    ix'.Carries field ↔ record.contains field = true ∨ ix.Carries field := by
  have hnew := record?_of_insert? h
  constructor
  · rintro ⟨key', record', hr, hf⟩
    rw [record?_insert? h] at hr
    split at hr
    · obtain rfl := Option.some.inj hr
      exact .inl hf
    · exact .inr ⟨key', record', hr, hf⟩
  · rintro (hf | ⟨key', record', hr, hf⟩)
    · exact ⟨key, record, by rw [record?_insert? h, if_pos rfl], hf⟩
    · have hne : key' ≠ key := by
        rintro rfl
        rw [hnew] at hr
        cases hr
      exact ⟨key', record', by rw [record?_insert? h, if_neg hne, hr], hf⟩

end Insert

/-! ### Derived stores -/

theorem derived_empty (keyField : FieldId) : (empty keyField).Derived [] where
  nodup := List.nodup_nil
  mem_order key := by simp [empty, record?]
  postings_isSome field := by simp [empty, postings?, Carries, record?]
  posting_eq field term := by simp [empty, posting?, postings?, occurrences]
  posting_ne_nil field term keys h := by simp [empty, posting?, postings?] at h

/-- A record under a new key is the last in the order of loading. -/
theorem Derived.insert? {ix ix' : Index} {order : List String} {key : String}
    {record : Record} (h : ix.Derived order) (hins : ix.insert? key record = some ix') :
    ix'.Derived (order ++ [key]) := by
  have hnew := record?_of_insert? hins
  have hout : key ∉ order := by
    rw [h.mem_order, hnew]
    simp
  refine ⟨?_, ?_, ?_, ?_, ?_⟩
  · rw [List.nodup_append]
    refine ⟨h.nodup, by simp, ?_⟩
    rintro key' hkey' _ (_ | ⟨_, ⟨⟩⟩) rfl
    exact hout hkey'
  · intro key'
    rw [record?_insert? hins, List.mem_append, h.mem_order, List.mem_singleton]
    by_cases hk : key' = key <;> simp [hk]
  · intro field
    rw [carries_insert? hins, ← h.postings_isSome, postings?_insert? hins,
      SortedMap.contains]
    cases record.find? field <;> simp
  · intro field term
    rw [occurrences_insert? hins hout, ← h.posting_eq, posting?_insert? hins]
    split
    · rfl
    · have hcount : ((record.find? field).getD []).count term = 0 :=
        List.count_eq_zero.2 ‹_›
      simp [hcount]
  · intro field term keys hkeys
    rw [posting?_insert? hins] at hkeys
    split at hkeys
    · obtain rfl := Option.some.inj hkeys
      -- the term is held, so the key stands there at least once
      have hpos : 0 < ((record.find? field).getD []).count term := List.count_pos_iff.2 ‹_›
      intro hnil
      have hlen := congrArg List.length hnil
      simp at hlen
      omega
    · exact h.posting_ne_nil field term keys hkeys

/-- A posting is there iff some record holds its term under its field. -/
theorem Derived.posting_isSome {ix : Index} {order : List String} (h : ix.Derived order)
    (field : FieldId) (term : String) :
    (ix.posting? field term).isSome = true ↔
      ∃ key record values, ix.record? key = some record ∧ record.find? field = some values ∧
        term ∈ values := by
  have hocc := h.posting_eq field term
  constructor
  · intro hsome
    obtain ⟨keys, hkeys⟩ := Option.isSome_iff_exists.1 hsome
    rw [hkeys, Option.getD_some] at hocc
    -- a posting lists some key, and the record of that key holds the term
    obtain ⟨key, hkey⟩ :=
      List.exists_mem_of_ne_nil _ (h.posting_ne_nil field term keys hkeys)
    rw [hocc, occurrences, List.mem_flatMap] at hkey
    obtain ⟨key', hkey', hrep⟩ := hkey
    obtain ⟨record, hrecord⟩ := Option.isSome_iff_exists.1 ((h.mem_order key').1 hkey')
    have hcount := List.count_pos_iff.1 (Nat.pos_of_ne_zero (List.mem_replicate.1 hrep).1)
    rw [values_of_record hrecord] at hcount
    cases hvalues : record.find? field with
    | none => simp [hvalues] at hcount
    | some values =>
      exact ⟨key', record, values, hrecord, hvalues, by simpa [hvalues] using hcount⟩
  · rintro ⟨key, record, values, hrecord, hvalues, hterm⟩
    rw [Option.isSome_iff_ne_none]
    intro hnone
    rw [hnone, Option.getD_none] at hocc
    -- the key occurs, which an absent posting would not list
    have hkey : key ∈ ix.occurrences order field term := by
      rw [occurrences, List.mem_flatMap]
      refine ⟨key, (h.mem_order key).2 (by simp [hrecord]), ?_⟩
      rw [values_of_record hrecord, hvalues, Option.getD_some, List.mem_replicate]
      exact ⟨Nat.pos_iff_ne_zero.1 (List.count_pos_iff.2 hterm), rfl⟩
    rw [← hocc] at hkey
    cases hkey

end Recommend.Index
