import Recommend.Feature.Basic

/-!
The index: records by key, and for every field the keys of the records that hold a term.

A posting lists keys in the order of loading, a key once for every time its record holds
the term.  An index may also come from elsewhere, so nothing here assumes that the two
stores agree.
-/

namespace Recommend

/-- The stored fields of one item. -/
abbrev Record := SortedMap FieldId (List String)

/-- The keys of each term, in load order. -/
abbrev Postings := SortedMap String (List String)

/-- Records by key, and the keys by the terms that their records hold. -/
structure Index where
  keyField : FieldId
  forward : SortedMap String Record
  inverted : SortedMap FieldId Postings
  deriving DecidableEq

namespace Index

/-- The index without records. -/
def empty (keyField : FieldId) : Index := ⟨keyField, .empty, .empty⟩

/-- The number of records. -/
def size (ix : Index) : Nat := ix.forward.size

/-- The record under a key. -/
def record? (ix : Index) (key : String) : Option Record := ix.forward.find? key

/-- The postings of a field; nothing if no record carries it. -/
def postings? (ix : Index) (field : FieldId) : Option Postings := ix.inverted.find? field

/-- Enter a key behind the others of a term. -/
def post (key : String) (postings : Postings) (term : String) : Postings :=
  -- a value that the record holds twice is posted twice
  postings.insert term ((postings.find? term).getD [] ++ [key])

/-- Enter a key under all values of one field. -/
def postField (key : String) (inverted : SortedMap FieldId Postings) (field : FieldId)
    (values : List String) : SortedMap FieldId Postings :=
  inverted.insert field (values.foldl (post key) ((inverted.find? field).getD .empty))

/-- Enter a key under all values of a record. -/
def postRecord (key : String) (record : Record) (inverted : SortedMap FieldId Postings) :
    SortedMap FieldId Postings :=
  record.toList.foldl
    (fun inverted (field, values) => postField key inverted field values) inverted

/-- Add a record under a new key; a key that is there already is refused. -/
def insert? (ix : Index) (key : String) (record : Record) : Option Index :=
  if ix.forward.contains key then none
  else some ⟨ix.keyField, ix.forward.insert key record, postRecord key record ix.inverted⟩

end Index

end Recommend
