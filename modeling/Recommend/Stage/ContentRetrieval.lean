import Recommend.Stage.Client

/-!
Retrieval by content: items that share a value with the request.
-/

namespace Recommend

/-- A retrieval stage that searches the index for the values at `extract`. -/
structure ContentRetrieval where
  id : RetrievalId
  maxResults : UInt64
  extract : FeatureRef
  /-- The fields that identify an item. -/
  itemKeys : List FieldId
  /-- Further values that every item must hold. -/
  filterRules : SortedMap FieldId String
  indexer : IndexerClient

namespace ContentRetrieval

/-- Demand a text under a field. -/
def demand (items : SortedMap FieldId SearchItem) (field : FieldId) (value : String) :
    SortedMap FieldId SearchItem :=
  items.insert field (.matching (.bytes value))

/-- The clause of one seed value; a filter rule on the extracted field takes its place. -/
def clause (r : ContentRetrieval) (value : String) : SearchClause :=
  ⟨r.filterRules.toList.foldl (fun items (field, value) => demand items field value)
    (demand .empty r.extract.field value)⟩

/-- One clause for every seed value; a seed that does not hold texts gives none. -/
def clauses (r : ContentRetrieval) (seed : FeatureList) : List SearchClause :=
  (seed.bytes?.getD []).map r.clause

/-- The search that a request leads to. -/
def search (r : ContentRetrieval) (request : RecRequest) :
    Except Status InvertedRequest := do
  let seed ← r.extract.get request
  .ok ⟨r.clauses seed, r.maxResults, r.itemKeys⟩

/-- The identifying fields of an item. -/
def itemId (r : ContentRetrieval) (item : IndexItem) : FeatureMap :=
  .ofList (r.itemKeys.filterMap fun key => (item.fields.find? key).map fun list => (key, list))

/-- The items that can be identified, each with the number of items found. -/
def candidates (r : ContentRetrieval) (reply : IndexerReply) : List RecItem :=
  reply.items.filterMap fun item =>
    let id := r.itemId item
    -- the number is that of all items found, those dropped here included
    if id.isEmpty then none else some ⟨id, [⟨r.id, UInt64.ofNat reply.items.length⟩]⟩

/-- The items found; none if the search fails. -/
def answer (r : ContentRetrieval) (request : RecRequest) : Except Status ItemReply := do
  let search ← r.search request
  match r.indexer.inverted search with
  | .ok reply => .ok ⟨request.requestId, r.candidates reply⟩
  -- a failed search is not the failure of the stage
  | .error _ => .ok ⟨request.requestId, []⟩

end ContentRetrieval

end Recommend
