import Recommend.Index.Basic
import Recommend.Json.Record
import Recommend.Text.Blank
import Recommend.Text.Split

/-!
Bulk lines: delimited columns, one item a line, its key in the first column.

Each delimiter is a set of characters any one of which cuts.  With an inner delimiter a
column holds several values, and the values of a field that stands at several columns
add up; without one the last such column counts.  Empty values are never stored.
-/

namespace Recommend

open Json

/-- The layout of bulk lines: column `i` holds the field `fieldIds[i]`, and the first
one the key. -/
structure BulkFormat where
  fieldIds : List FieldId
  between : String := ","
  inner : Option String := none
  deriving DecidableEq

/-- What a line holds. -/
inductive BulkLine where
  | empty
  | blankKey
  | row (key : String) (record : Record)

namespace BulkFormat

/-- A format as an object; only the field ids are needed. -/
def codec : Codec BulkFormat :=
  .record
    (required "field_ids" (.list .int32) <| defaulted "between_delimiter" .text "," <|
      defaulted "inner_delimiter" (.option .text) none .done)
    (fun (fieldIds, between, inner, ()) => ⟨fieldIds, between, inner⟩)
    (fun f => (f.fieldIds, f.between, f.inner, ()))

/-- The inner delimiter, if it cuts anything. -/
def inner? (f : BulkFormat) : Option String := f.inner.filter fun d => !d.isEmpty

/-- The values of a column. -/
def values (delimiter : String) (column : List Char) : List String :=
  ((Text.splitAny delimiter column).filter fun v => !v.isEmpty).map String.ofList

/-- Add a column to the record. -/
def addColumn (f : BulkFormat) (record : Record) (column : List Char) (field : FieldId) :
    Record :=
  if column.isEmpty then record
  else
    match f.inner? with
    -- behind the values of an earlier column of the same field, which otherwise are
    -- replaced
    | some delimiter =>
      record.insert field ((record.find? field).getD [] ++ values delimiter column)
    | none => record.insert field [String.ofList column]

/-- The record of the columns after the key; columns without a field are left out. -/
def record (f : BulkFormat) (columns : List (List Char)) : Record :=
  -- a field without values, all of them empty, is dropped at the end
  ((columns.zip f.fieldIds.tail).foldl
    (fun record (column, field) => f.addColumn record column field) .empty).filter
      fun _ values => !values.isEmpty

/-- Read one line. -/
def readLine (f : BulkFormat) (line : String) : BulkLine :=
  match Text.trim line.toList with
  | [] => .empty
  | cs =>
    -- the line is trimmed as a whole; its columns are not
    match Text.splitAny f.between cs with
    | [] => .blankKey
    | key :: columns =>
      if key.isEmpty then .blankKey else .row (String.ofList key) (f.record columns)

end BulkFormat

end Recommend
