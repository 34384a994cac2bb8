import Recommend.Feature.Text

/-!
Requests and replies between the stages.
-/

namespace Recommend

/-- The number of a retrieval stage. -/
abbrev RetrievalId := Int32

/-- Look up records by key.  No requested fields means all of them. -/
structure ForwardRequest where
  keyField : FieldId
  keys : List String
  requestedFields : List FieldId := []
  deriving DecidableEq

/-- A value to be matched. -/
inductive MatchValue where
  | bytes (s : String)
  | int (n : Int64)
  | float (x : Single)
  deriving DecidableEq

/-- The term that the value matches; an empty text constrains nothing. -/
def MatchValue.term? : MatchValue → Option String
  | bytes s => if s.isEmpty then none else some s
  | int n => some (intTerm n)
  | float x => some (floatTerm x)

/-- One constraint of a clause; only a match narrows the result. -/
inductive SearchItem where
  | matching (value : MatchValue)
  | weighted (w : IdWeight)
  | unset
  deriving DecidableEq

/-- The term to be found, if the item constrains anything. -/
def SearchItem.term? : SearchItem → Option String
  | matching value => value.term?
  | weighted _ => none
  | unset => none

/-- A conjunction of constraints on fields. -/
structure SearchClause where
  items : SortedMap FieldId SearchItem
  deriving DecidableEq

/-- Find the records that satisfy one clause or another. -/
structure InvertedRequest where
  clauses : List SearchClause
  maxResults : UInt64
  requestedFields : List FieldId := []
  deriving DecidableEq

/-- A record as it is sent, with the fields that were asked for. -/
structure IndexItem where
  fields : FeatureMap
  deriving DecidableEq

/-- The records that an index has found. -/
structure IndexerReply where
  items : List IndexItem
  deriving DecidableEq

/-- A request for recommendations: its id and what is known about it. -/
structure RecRequest where
  requestId : String
  context : Context := .empty
  deriving DecidableEq

/-- The features that a context stage has found. -/
structure ContextReply where
  requestId : String
  context : FeatureMap := .empty
  deriving DecidableEq

/-- Which retrieval an item comes from and how many candidates that had. -/
structure RetrievalInfo where
  retrievalId : RetrievalId
  numItems : UInt64
  deriving DecidableEq

/-- An item to recommend, with where it was found. -/
structure RecItem where
  itemId : FeatureMap
  retrievalInfos : List RetrievalInfo := []
  deriving DecidableEq

/-- The items that a retrieval stage or a recommender has found. -/
structure ItemReply where
  requestId : String
  items : List RecItem := []
  deriving DecidableEq

end Recommend
