import Recommend.Feature.Codec
import Recommend.Message.Basic

/-!
The written form of the messages.
-/

namespace Recommend

open Json

/-- A lookup by key; without requested fields all are meant. -/
def ForwardRequest.codec : Codec ForwardRequest :=
  .record
    (required "key_field" .int32 <| required "keys" (.list .text) <|
      defaulted "requested_fields" (.list .int32) [] .done)
    (fun (keyField, keys, requestedFields, ()) => ⟨keyField, keys, requestedFields⟩)
    (fun r => (r.keyField, r.keys, r.requestedFields, ()))

/-- A value to match as an object whose one member says of what kind it is. -/
def MatchValue.codec : Codec MatchValue :=
  .variant
    [.payload "bytes" .text .bytes fun
      | .bytes s => some s
      | _ => none,
     .payload "int" .int64 .int fun
      | .int n => some n
      | _ => none,
     .payload "float" .single .float fun
      | .float x => some x
      | _ => none]

/-- What is asked of a field: to match, to match with a weight, or nothing. -/
def SearchItem.codec : Codec SearchItem :=
  .variant
    [.payload "match" MatchValue.codec .matching fun
      | .matching value => some value
      | _ => none,
     .payload "weighted" IdWeight.codec .weighted fun
      | .weighted w => some w
      | _ => none,
     .constant "unset" .unset fun
      | .unset => true
      | _ => false]

/-- A clause as an object around what it asks of each field. -/
def SearchClause.codec : Codec SearchClause :=
  .record (required "items" (.map .int32 SearchItem.codec) .done)
    (fun (items, ()) => ⟨items⟩)
    (fun c => (c.items, ()))

/-- A search; without requested fields all are meant. -/
def InvertedRequest.codec : Codec InvertedRequest :=
  .record
    (required "clauses" (.list SearchClause.codec) <| required "max_results" .uint64 <|
      defaulted "requested_fields" (.list .int32) [] .done)
    (fun (clauses, maxResults, requestedFields, ()) => ⟨clauses, maxResults, requestedFields⟩)
    (fun r => (r.clauses, r.maxResults, r.requestedFields, ()))

/-- A record as an object around its fields. -/
def IndexItem.codec : Codec IndexItem :=
  .record (required "fields" FeatureMap.codec .done)
    (fun (fields, ()) => ⟨fields⟩)
    (fun i => (i.fields, ()))

/-- A reply as an object around its records. -/
def IndexerReply.codec : Codec IndexerReply :=
  .record (required "items" (.list IndexItem.codec) .done)
    (fun (items, ()) => ⟨items⟩)
    (fun r => (r.items, ()))

/-- A request; it may come without a context. -/
def RecRequest.codec : Codec RecRequest :=
  .record (required "request_id" .text <| defaulted "context" Context.codec .empty .done)
    (fun (requestId, context, ()) => ⟨requestId, context⟩)
    (fun r => (r.requestId, r.context, ()))

/-- The reply of a context stage; it may come without features. -/
def ContextReply.codec : Codec ContextReply :=
  .record (required "request_id" .text <| defaulted "context" FeatureMap.codec .empty .done)
    (fun (requestId, context, ()) => ⟨requestId, context⟩)
    (fun r => (r.requestId, r.context, ()))

/-- Where an item was found, and among how many. -/
def RetrievalInfo.codec : Codec RetrievalInfo :=
  .record (required "retrieval_id" .int32 <| required "num_items" .uint64 .done)
    (fun (retrievalId, numItems, ()) => ⟨retrievalId, numItems⟩)
    (fun i => (i.retrievalId, i.numItems, ()))

/-- An item; it may come without where it was found. -/
def RecItem.codec : Codec RecItem :=
  .record
    (required "item_id" FeatureMap.codec <|
      defaulted "retrieval_infos" (.list RetrievalInfo.codec) [] .done)
    (fun (itemId, retrievalInfos, ()) => ⟨itemId, retrievalInfos⟩)
    (fun i => (i.itemId, i.retrievalInfos, ()))

/-- The reply of a retrieval; it may come without items. -/
def ItemReply.codec : Codec ItemReply :=
  .record (required "request_id" .text <| defaulted "items" (.list RecItem.codec) [] .done)
    (fun (requestId, items, ()) => ⟨requestId, items⟩)
    (fun r => (r.requestId, r.items, ()))

end Recommend
