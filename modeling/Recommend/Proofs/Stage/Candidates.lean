import Recommend.Proofs.Index.Cap
import Recommend.Proofs.Index.Projection
import Recommend.Proofs.Stage.SeedMatch

/-!
What a retrieval says of the keys it has found.

A search selects keys, each selected key has an item, and each item is cut down to the
item keys.  An item of which nothing is left is dropped, and those that stay say how
many there were before the dropping.  Both projections read one function,
`Index.shown?`: the item keys show the key under the key field, and what the record
holds under any other one.  So an item is left exactly for the keys that the item keys
identify (`identifies`), and its id is all that they show (`find?_itemId_project`).

The number of keys selected is that of the distinct keys which some clause matches
(`Index.matched`), or the cap if that is smaller (`Index.length_select`).  The main
result, `answer_reports_selected`, counts all three: the keys matched, the keys selected
and the items answered.
-/

namespace Recommend

/-- Elements that correspond still do so after those on both sides that go together have
been left out. -/
theorem forall₂_filter_filterMap {α β γ : Type} {R : α → β → Prop} {S : α → γ → Prop}
    {p : α → Bool} {f : β → Option γ} {as : List α} {bs : List β}
    (h : List.Forall₂ R as bs)
    (hkept : ∀ a b, R a b → p a = true → ∃ c, f b = some c ∧ S a c)
    (hdropped : ∀ a b, R a b → p a = false → f b = none) :
    List.Forall₂ S (as.filter p) (bs.filterMap f) := by
  induction h with
  | nil => exact .nil
  | @cons a b as bs hab _ ih =>
    cases hp : p a with
    | true =>
      obtain ⟨c, hc, hac⟩ := hkept a b hab hp
      rw [List.filter_cons_of_pos hp, List.filterMap_cons_some hc]
      exact .cons hac ih
    | false =>
      rw [List.filter_cons_of_neg (by simp [hp]),
        List.filterMap_cons_none (hdropped a b hab hp)]
      exact ih

namespace ContentRetrieval

/-! ### Ids of items -/

/-- An id holds the item keys that the item holds, however often they are named. -/
theorem find?_itemId (r : ContentRetrieval) (item : IndexItem) (field : FieldId) :
    (r.itemId item).find? field =
      if field ∈ r.itemKeys then item.fields.find? field else none := by
  apply Option.ext
  intro list
  rw [itemId, SortedMap.find?_ofList_of_value?]
  split
  next hfield => exact and_iff_right hfield
  next hfield => simp [hfield]

/-- The item keys show something of a key. -/
def identifies (r : ContentRetrieval) (ix : Index) (key : String) : Bool :=
  r.itemKeys.any fun field => (ix.shown? key field).isSome

section Project

variable {r : ContentRetrieval} {ix : Index} {key : String} {record : Record}

/-- Asking the index for the item keys and then keeping the item keys leaves what they
show. -/
theorem find?_itemId_project (hrecord : ix.record? key = some record) (field : FieldId) :
    (r.itemId (ix.project r.itemKeys key record)).find? field =
      if field ∈ r.itemKeys then (ix.shown? key field).map .bytes else none := by
  rw [find?_itemId]
  split
  next hfield =>
    have hwants : Index.wants r.itemKeys field = true := by simp [Index.wants, hfield]
    rw [Index.find?_project hrecord, if_pos hwants]
  next => rfl

theorem isEmpty_itemId_project (hrecord : ix.record? key = some record) :
    (r.itemId (ix.project r.itemKeys key record)).isEmpty = !r.identifies ix key := by
  rw [Bool.eq_iff_iff, SortedMap.isEmpty_iff]
  simp only [find?_itemId_project hrecord, identifies, Bool.not_eq_true', List.any_eq_false]
  -- an id is empty iff no item key shows anything
  constructor
  · intro h field hfield
    have hnone := h field
    rw [if_pos hfield, Option.map_eq_none_iff] at hnone
    simp [hnone]
  · intro h field
    split
    next hfield => simpa using h field hfield
    next => rfl

end Project

/-! ### Candidates -/

/-- The item answered for a key: its id is what the item keys show of the key, and its
only note is that this stage has found so many keys. -/
structure Reports (r : ContentRetrieval) (ix : Index) (found : Nat) (key : String)
    (item : RecItem) : Prop where
  itemId : ∀ field, item.itemId.find? field =
    if field ∈ r.itemKeys then (ix.shown? key field).map .bytes else none
  infos : ∃ n, item.retrievalInfos = [⟨r.id, n⟩] ∧ n.toNat = found

/-- The candidates of keys with records are the items of those that the item keys
identify, and they report all of the keys. -/
theorem candidates_report (r : ContentRetrieval) {ix : Index} {keys : List String}
    (hrecords : ∀ key ∈ keys, (ix.record? key).isSome = true)
    (hlength : keys.length < UInt64.size) :
    List.Forall₂ (r.Reports ix keys.length) (keys.filter (r.identifies ix))
      (r.candidates ⟨ix.items r.itemKeys keys⟩) := by
  -- the number reported is that of the items before any of them is dropped
  have hitems := Index.items_of_records r.itemKeys keys hrecords
  rw [candidates, ← hitems.length_eq]
  apply forall₂_filter_filterMap hitems
  · rintro key _ ⟨record, hrecord, rfl⟩ hidentifies
    refine ⟨⟨r.itemId (ix.project r.itemKeys key record),
        [⟨r.id, UInt64.ofNat keys.length⟩]⟩, ?_,
      find?_itemId_project hrecord, _, rfl, UInt64.toNat_ofNat_of_lt hlength⟩
    dsimp only
    rw [isEmpty_itemId_project hrecord, hidentifies]
    rfl
  -- the others are dropped
  · rintro key _ ⟨record, hrecord, rfl⟩ hidentifies
    dsimp only
    rw [isEmpty_itemId_project hrecord, hidentifies]
    rfl

/-- **A retrieval reports its candidates exactly.**  Over an index that was built, a
request with the seed feature is answered under its own id.  The search selects distinct
keys that some clause matches, all of them or as many as the cap allows.  There is one
item for each selected key that the item keys identify, in the order of selection, with
all that they show of the key; and every item reports the number of keys selected.  So
fewer items than reported are exactly the keys of which the item keys show nothing. -/
theorem answer_reports_selected {format : BulkFormat} {b : Builder}
    (hstart : Builder.start format = .ok b) (sources : List Bytes) (r : ContentRetrieval)
    (hindexer : r.indexer = .ofIndex (b.consumeAll sources).index) (request : RecRequest)
    {seed : FeatureList} (hseed : r.extract.get request = .ok seed) :
    let ix := (b.consumeAll sources).index
    let matched := ix.matched (b.loadOrder sources) (r.clauses seed)
    let keys := ix.select (r.clauses seed) r.maxResults.toNat
    keys.Nodup ∧ (∀ key ∈ keys, key ∈ matched) ∧
      keys.length = min r.maxResults.toNat matched.length ∧
      ∃ items, r.answer request = .ok ⟨request.requestId, items⟩ ∧
        List.Forall₂ (r.Reports ix keys.length) (keys.filter (r.identifies ix)) items ∧
        keys.length =
          items.length + (keys.filter fun key => !r.identifies ix key).length := by
  intro ix matched keys
  have hderived : ix.Derived (b.loadOrder sources) :=
    (Builder.stored_consumeAll hstart sources).derived
  -- the cap is a number of 64 bits, so the number of keys is reported as it is
  have hcap : keys.length < UInt64.size :=
    Nat.lt_of_le_of_lt (ix.length_select_le _ _) r.maxResults.toNat_lt
  have hreports := r.candidates_report
    (fun key hkey => Index.isSome_record?_of_mem_select hderived hkey) hcap
  refine ⟨ix.nodup_select _ _,
    fun key hkey => Index.mem_matched_of_mem_select hderived hkey,
    Index.length_select hderived _ _, _, answer_of_index hindexer hseed, hreports, ?_⟩
  -- a selected key is identified, or it is not and has no item
  rw [← hreports.length_eq]
  exact List.length_eq_length_filter_add (r.identifies ix)

/-- Three records match, under a cap of two.  The item keys name a field twice and one
that no record has, and the second record carries none of them; so one of two is
answered. -/
theorem answer_reports_selected_dropped :
    let format : BulkFormat := ⟨[100, 103, 102], ",", none⟩
    let b : Builder := ⟨format, .empty 100, {}⟩
    let sources := [Bytes.ofText "a,x,p\nb,x\nc,x,q\nd,y,q"]
    let ix := (b.consumeAll sources).index
    let r : ContentRetrieval := ⟨7, 2, ⟨201, 103⟩, [102, 105, 102], .empty, .ofIndex ix⟩
    let clauses := r.clauses (.bytes ["x"])
    Builder.start format = .ok b ∧
      r.extract.get (seedRequest ["x"]) = .ok (.bytes ["x"]) ∧
      ix.matched (b.loadOrder sources) clauses = ["a", "b", "c"] ∧
      ix.select clauses 2 = ["a", "b"] ∧
      ∃ item, r.answer (seedRequest ["x"]) = .ok ⟨"r", [item]⟩ ∧
        r.Reports ix 2 "a" item := by
  intro format b sources ix r clauses
  have hstart : Builder.start format = .ok b := rfl
  have hseed : r.extract.get (seedRequest ["x"]) = .ok (.bytes ["x"]) := by decide +kernel
  have hselect : ix.select clauses 2 = ["a", "b"] := by decide +kernel
  have hidentified : ["a", "b"].filter (r.identifies ix) = ["a"] := by decide +kernel
  refine ⟨hstart, hseed, by decide +kernel, hselect, ?_⟩
  obtain ⟨-, -, -, items, hanswer, hreports, -⟩ :=
    answer_reports_selected hstart sources r rfl (seedRequest ["x"]) hseed
  -- with the names of the statement put in, the list of keys can be replaced
  change List.Forall₂ (r.Reports ix (ix.select clauses 2).length)
    ((ix.select clauses 2).filter (r.identifies ix)) items at hreports
  rw [hselect, hidentified] at hreports
  obtain ⟨item, rest, hitem, hrest, rfl⟩ := List.forall₂_cons_left_iff.1 hreports
  obtain rfl := List.forall₂_nil_left_iff.1 hrest
  exact ⟨item, hanswer, hitem⟩

end ContentRetrieval

end Recommend
