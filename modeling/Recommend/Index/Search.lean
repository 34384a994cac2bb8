import Recommend.Index.Basic
import Recommend.Message.Basic
import Recommend.Status

/-!
Answering requests from an index.

* A forward request looks up keys; unknown keys are left out.
* An inverted request takes the union, over its clauses, of the intersection within each
  clause: the keys come in the order of the first constraining posting, each once, up to
  the cap.  Keys without a record are dropped after the cap has been applied.
-/

namespace Recommend.Index

/-! ### Projection -/

/-- Whether a field is asked for; asking for none asks for all. -/
def wants (requested : List FieldId) (field : FieldId) : Bool :=
  requested.isEmpty || requested.contains field

/-- The requested fields of a record, with its key under the key field. -/
def project (ix : Index) (requested : List FieldId) (key : String) (record : Record) :
    IndexItem :=
  let stored :=
    (record.filter fun field _ => wants requested field).mapValues FeatureList.bytes
  -- the key is shown even if the record holds something else in that field
  ⟨if wants requested ix.keyField then stored.insert ix.keyField (.bytes [key]) else stored⟩

/-- One item for every key that has a record. -/
def items (ix : Index) (requested : List FieldId) (keys : List String) : List IndexItem :=
  keys.filterMap fun key => (ix.record? key).map (ix.project requested key)

/-! ### Lookup by key -/

/-- Look up keys; a request for another key field than that of the index is cancelled. -/
def answerForward (ix : Index) (request : ForwardRequest) : Except Status IndexerReply :=
  if request.keyField = ix.keyField then .ok ⟨ix.items request.requestedFields request.keys⟩
  else
    .error <| .cancelled <|
      "key field " ++ Decimal.ofInt request.keyField.toInt
        ++ " does not match index key field " ++ Decimal.ofInt ix.keyField.toInt

/-! ### Search by value -/

/-- Narrow the keys found so far by the remaining constraints.  A field without postings
and a term without keys leave nothing; an item that constrains nothing is passed over. -/
def narrow (ix : Index) : List (FieldId × SearchItem) → Option (List String) → List String
  | [], found => found.getD []
  | (field, item) :: rest, found =>
    match ix.postings? field with
    -- no record has the field, so none satisfies the clause, term or not
    | none => []
    | some postings =>
      match item.term? with
      | none => ix.narrow rest found
      | some term =>
        let keys := (postings.find? term).getD []
        -- the first posting sets the order, and the others only take away
        let next := match found with
          | none => keys
          | some found => found.filter keys.contains
        if keys.isEmpty || next.isEmpty then [] else ix.narrow rest (some next)

/-- The keys that satisfy every constraint of a clause; none if nothing constrains. -/
def matching (ix : Index) (clause : SearchClause) : List String :=
  ix.narrow clause.items.toList none

/-- Take a key up, unless it is there or the cap is reached. -/
def take (cap : Nat) (found : List String) (key : String) : List String :=
  if found.length < cap && !found.contains key then found ++ [key] else found

/-- The distinct keys found by the clauses in turn, up to the cap. -/
def select (ix : Index) (clauses : List SearchClause) (cap : Nat) : List String :=
  (clauses.flatMap ix.matching).foldl (take cap) []

/-- Answer a search, which never fails. -/
def answerInverted (ix : Index) (request : InvertedRequest) : Except Status IndexerReply :=
  .ok ⟨ix.items request.requestedFields (ix.select request.clauses request.maxResults.toNat)⟩

end Recommend.Index
