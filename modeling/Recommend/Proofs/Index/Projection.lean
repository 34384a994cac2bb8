import Recommend.Index.Search
import Recommend.Proofs.Bulk.LoadOrder

/-!
What an item shows of a record.

An item is made of the stored fields, and then the key is entered under the key field.
So each field of an item has one of two origins (`shown?`): the key field shows the key,
and any other field what the record holds.  `find?_project` reads every projection off
this, whatever fields are requested.

A lookup of one key is meant to give its record back, with the key as one more field
(`Unfolds`).  It does exactly as long as the record itself holds nothing under the key
field.  Records of a build have the fields of the columns after the first one, so this
can fail only under a format that names the key field again: the values of such a column
are stored, and hidden by the key in every item (`answerForward_hides_column`).
-/

namespace Recommend

namespace Builder

/-! ### The key field of a build -/

theorem addLine_keyField (b : Builder) (line : Bytes) :
    (b.addLine line).index.keyField = b.index.keyField := by
  obtain ⟨stats, h⟩ | ⟨_, key, record, index, stats, _, _, hins, h⟩ := b.addLine_cases line
  · rw [h]
  · rw [h, Index.eq_of_insert? hins]

/-- The key field stays the same, whatever lines are taken in. -/
theorem foldl_addLine_keyField (lines : List Bytes) (b : Builder) :
    (lines.foldl addLine b).index.keyField = b.index.keyField := by
  induction lines generalizing b with
  | nil => rfl
  | cons line lines ih => rw [List.foldl_cons, ih, addLine_keyField]

/-- The first field of the format stays the key field, whatever is taken in. -/
theorem fieldIds_of_consumeAll {format : BulkFormat} {b : Builder}
    (h : start format = .ok b) (sources : List Bytes) :
    format.fieldIds = (b.consumeAll sources).index.keyField :: format.fieldIds.tail := by
  obtain ⟨keyField, fields, hfields, rfl⟩ := start_eq_ok h
  rw [consumeAll_eq_foldl, foldl_addLine_keyField, hfields]
  rfl

end Builder

namespace Index

variable {ix : Index} {key : String} {record : Record}

/-! ### Fields of an item -/

/-- What an item for a key shows under a field: the key under the key field, and under
any other one what the record of the key holds there. -/
def shown? (ix : Index) (key : String) (field : FieldId) : Option (List String) :=
  if field = ix.keyField then some [key]
  else (ix.record? key).bind fun record => record.find? field

theorem shown?_keyField (ix : Index) (key : String) :
    ix.shown? key ix.keyField = some [key] :=
  if_pos rfl

/-- Under any other field than the key field an item shows what is stored. -/
theorem shown?_of_ne {field : FieldId} (h : field ≠ ix.keyField)
    (hrecord : ix.record? key = some record) :
    ix.shown? key field = record.find? field := by
  rw [shown?, if_neg h, hrecord, Option.bind_some]

/-- The stored part of an item. -/
theorem find?_stored (requested : List FieldId) (record : Record) (field : FieldId) :
    ((record.filter fun field _ => wants requested field).mapValues FeatureList.bytes).find? field =
      if wants requested field = true then (record.find? field).map .bytes else none := by
  rw [SortedMap.find?_mapValues, SortedMap.find?_filter]
  cases record.find? field with
  | none => simp
  | some values => by_cases hwants : wants requested field = true <;> simp [hwants]

/-- An item shows what is requested of its key. -/
theorem find?_project (hrecord : ix.record? key = some record) (requested : List FieldId)
    (field : FieldId) :
    (ix.project requested key record).fields.find? field =
      if wants requested field = true then (ix.shown? key field).map .bytes else none := by
  -- the key is entered over the stored fields, so only its own field is decided by it
  by_cases hfield : field = ix.keyField
  · subst hfield
    rw [shown?_keyField, Option.map_some, project]
    split
    next => rw [SortedMap.find?_insert_self]
    next hwants => rw [find?_stored, if_neg hwants]
  · rw [shown?_of_ne hfield hrecord, ← find?_stored, project]
    split
    next => rw [SortedMap.find?_insert_of_ne _ _ hfield]
    next => rfl

theorem wants_nil (field : FieldId) : wants [] field = true := rfl

/-- With no field requested an item has the fields of its record and the key field. -/
theorem size_project_nil (ix : Index) (key : String) (record : Record) :
    (ix.project [] key record).fields.size =
      if record.contains ix.keyField = true then record.size else record.size + 1 := by
  -- with no field requested none is left out
  have hall : (record.filter fun field _ => wants [] field) = record := by
    apply SortedMap.ext_find?
    intro field
    rw [SortedMap.find?_filter]
    cases record.find? field <;> rfl
  rw [project, if_pos (wants_nil _), hall, SortedMap.size_insert, SortedMap.size_mapValues,
    SortedMap.contains, SortedMap.find?_mapValues, Option.isSome_map, ← SortedMap.contains]

/-! ### Lookups of one key -/

/-- The item is the record with the key as one more field: the key field holds the key,
the stored fields hold what is stored, and there is no other field. -/
structure Unfolds (ix : Index) (key : String) (record : Record) (item : IndexItem) :
    Prop where
  keyed : item.fields.find? ix.keyField = some (.bytes [key])
  stored : ∀ field values, record.find? field = some values →
    item.fields.find? field = some (.bytes values)
  noOther : ∀ field, item.fields.contains field = true →
    field = ix.keyField ∨ record.contains field = true
  size : item.fields.size = record.size + 1

/-- A record is given back with its key unless it holds something under the key field. -/
theorem unfolds_project_iff (hrecord : ix.record? key = some record) :
    ix.Unfolds key record (ix.project [] key record) ↔
      record.contains ix.keyField = false := by
  have hfind : ∀ field, (ix.project [] key record).fields.find? field =
      (ix.shown? key field).map .bytes := fun field => find?_project hrecord [] field
  constructor
  · intro h
    -- a field that is stored under the key field makes no room for the key
    have hsize := h.size
    rw [size_project_nil] at hsize
    split at hsize
    next => omega
    next hout => simpa using hout
  · intro hout
    have hne : ∀ field, record.contains field = true → field ≠ ix.keyField := by
      rintro field hfield rfl
      rw [hout] at hfield
      cases hfield
    refine ⟨?_, ?_, ?_, ?_⟩
    · rw [hfind, shown?_keyField, Option.map_some]
    · intro field values hvalues
      have hfield : field ≠ ix.keyField := by
        apply hne
        rw [SortedMap.contains, hvalues]
        rfl
      rw [hfind, shown?_of_ne hfield hrecord, hvalues, Option.map_some]
    · intro field hfield
      by_cases hkey : field = ix.keyField
      · exact .inl hkey
      · right
        rwa [SortedMap.contains, hfind, shown?_of_ne hkey hrecord, Option.isSome_map]
          at hfield
    · rw [size_project_nil, hout]
      rfl

/-- **A lookup of one key gives its record back, with the key in place of anything
stored under the key field.**  After any build the answer is one item, which holds the
key under the key field and under any other field what is stored there.  It is the
record with one field more exactly if the record has no values under the key field, and
so under every format that does not name its key field again. -/
theorem answerForward_of_built {format : BulkFormat} {b : Builder}
    (h : Builder.start format = .ok b)
    (sources : List Bytes) {key : String} {record : Record}
    (hrecord : (b.consumeAll sources).index.record? key = some record) :
    let ix := (b.consumeAll sources).index
    format.fieldIds = ix.keyField :: format.fieldIds.tail ∧
      ∃ item, ix.answerForward ⟨ix.keyField, [key], []⟩ = .ok ⟨[item]⟩ ∧
        item.fields.find? ix.keyField = some (.bytes [key]) ∧
        (∀ field, field ≠ ix.keyField →
          item.fields.find? field = (record.find? field).map .bytes) ∧
        (ix.Unfolds key record item ↔ record.contains ix.keyField = false) ∧
        (ix.keyField ∉ format.fieldIds.tail → ix.Unfolds key record item) := by
  intro ix
  have hrecord' : ix.record? key = some record := hrecord
  have hfind : ∀ field, (ix.project [] key record).fields.find? field =
      (ix.shown? key field).map .bytes := fun field => find?_project hrecord' [] field
  refine ⟨Builder.fieldIds_of_consumeAll h sources, ix.project [] key record, ?_, ?_, ?_,
    unfolds_project_iff hrecord', ?_⟩
  · rw [answerForward, if_pos rfl, items, List.filterMap_cons, hrecord']
    rfl
  · rw [hfind, shown?_keyField, Option.map_some]
  · intro field hfield
    rw [hfind, shown?_of_ne hfield hrecord']
  · intro hout
    rw [unfolds_project_iff hrecord', SortedMap.contains, Option.isSome_eq_false_iff,
      Option.isNone_iff_eq_none, Option.eq_none_iff_forall_ne_some]
    intro values hvalues
    -- a record has the fields of the columns after the first one, and no other
    exact hout ((Builder.stored_consumeAll h sources).tidy key record hrecord' _ _ hvalues).1

/-- A field that stands at two columns of the format, a column that is empty, and one
that holds the text of the key. -/
theorem answerForward_of_built_repeated_field :
    let format : BulkFormat := ⟨[100, 101, 102, 101], ",", some ":"⟩
    let b : Builder := ⟨format, .empty 100, {}⟩
    let sources := [Bytes.ofText "a,x\nk,k:y,,x\n"]
    let ix := (b.consumeAll sources).index
    let record : Record := .ofList [(101, ["k", "y", "x"])]
    Builder.start format = .ok b ∧ ix.record? "k" = some record ∧
      ix.keyField ∉ format.fieldIds.tail ∧
      ∃ item, ix.answerForward ⟨ix.keyField, ["k"], []⟩ = .ok ⟨[item]⟩ ∧
        ix.Unfolds "k" record item := by
  intro format b sources ix record
  have hstart : Builder.start format = .ok b := rfl
  have hrecord : ix.record? "k" = some record := by decide +kernel
  have hfields : ix.keyField ∉ format.fieldIds.tail := by decide +kernel
  obtain ⟨-, item, hanswer, -, -, -, hunfolds⟩ :=
    answerForward_of_built hstart sources hrecord
  exact ⟨hstart, hrecord, hfields, item, hanswer, hunfolds hfields⟩

/-- The second column stands under the key field as well.  What it holds is stored, but
no lookup shows it, and the item has no field more than the record. -/
theorem answerForward_hides_column :
    let format : BulkFormat := ⟨[100, 100], ",", none⟩
    let b : Builder := ⟨format, .empty 100, {}⟩
    let ix := (b.consumeAll [Bytes.ofText "k,a\n"]).index
    let record : Record := .ofList [(100, ["a"])]
    let item : IndexItem := ⟨.ofList [(100, .bytes ["k"])]⟩
    Builder.start format = .ok b ∧ ix.record? "k" = some record ∧
      ix.answerForward ⟨100, ["k"], []⟩ = .ok ⟨[item]⟩ ∧ ¬ix.Unfolds "k" record item := by
  intro format b ix record item
  refine ⟨rfl, by decide +kernel, by decide +kernel, ?_⟩
  intro hunfolds
  have hstored := hunfolds.stored 100 ["a"] (by decide +kernel)
  revert hstored
  decide +kernel

end Index

end Recommend
