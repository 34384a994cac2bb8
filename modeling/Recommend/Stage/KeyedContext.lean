import Recommend.Stage.Client

/-!
Context by key: one value of the request is looked up in an index, and the fields found
become context features.
-/

namespace Recommend

namespace IndexerClient

/-- The requested fields of the records with these keys. -/
def getMaps (client : IndexerClient) (keyField : FieldId) (keys : List String)
    (fields : List FieldId) : Except Status (List FeatureMap) :=
  (client.forward ⟨keyField, keys, fields⟩).map fun reply => reply.items.map (·.fields)

/-- The same, each record on one line. -/
def getLines (client : IndexerClient) (keyField : FieldId) (keys : List String)
    (fields : List FieldId) (layout : FeatureLayout) : Except Status (List String) :=
  (client.getMaps keyField keys fields).map fun maps => maps.map (FeatureMap.line layout)

end IndexerClient

/-- A context stage that looks up the value at `source`. -/
structure KeyedContext where
  source : FeatureRef
  keyField : FieldId
  fields : List FieldId
  indexer : IndexerClient

namespace KeyedContext

/-- The one key in the source feature, which has to hold texts or whole numbers. -/
def keyOf (field : FieldId) (list : FeatureList) : Except Status String :=
  match list.kind with
  | .bytes | .int =>
    -- a whole number is looked up by its decimal text
    match list.terms {} with
    | [key] => .ok key
    | keys =>
      .error (.cancelled ("expected exactly one key, got " ++ Decimal.ofNat keys.length))
  | .float | .weighted =>
    .error (.cancelled ("field " ++ Decimal.ofInt field.toInt ++ " must hold bytes or ints"))

/-- The lookup that a request leads to. -/
def lookup (c : KeyedContext) (request : RecRequest) : Except Status ForwardRequest := do
  let list ← c.source.get request
  let key ← keyOf c.source.field list
  .ok ⟨c.keyField, [key], c.fields⟩

/-- The fields of the first record found; none if there is no such record. -/
def answer (c : KeyedContext) (request : RecRequest) : Except Status ContextReply := do
  let lookup ← c.lookup request
  let maps ← c.indexer.getMaps lookup.keyField lookup.keys lookup.requestedFields
  .ok ⟨request.requestId, maps.head?.getD .empty⟩

end KeyedContext

end Recommend
