import Recommend.Bulk.Format
import Recommend.Files.Tree
import Recommend.Json.Tagged
import Recommend.Message.Basic

/-!
The configuration of a node: its indexers by name, its stages in order, and what it
serves.
-/

namespace Recommend

open Json

/-- Where an index comes from. -/
inductive IndexerEndpoint where
  /-- A snapshot directory. -/
  | snapshot (path : String)
  /-- A bulk file, indexed on start. -/
  | bulk (path : String) (format : BulkFormat)
  /-- An index that a peer serves, under the name of this entry unless another one is
  given. -/
  | remote (addr : String) (name : Option String)
  deriving DecidableEq

/-- Whether a stage runs on this node or is served by a peer. -/
inductive StageEndpoint (α : Type) where
  | hosted (stage : α)
  | remote (addr : String)
  deriving DecidableEq

/-- A context stage: which value it looks up, where, and which fields it writes. -/
structure KeyedContextConfig where
  indexer : String
  sourceScope : ScopeId
  sourceField : FieldId
  /-- The key field of the lookup, if it is not the source field. -/
  keyField : Option FieldId := none
  fields : List FieldId
  deriving DecidableEq

/-- A retrieval stage: whose values it searches for, where, and what tells items apart. -/
structure ContentRetrievalConfig where
  indexer : String
  extractScope : ScopeId
  extractField : FieldId
  itemKeys : List FieldId
  filterRules : SortedMap FieldId String := .empty
  maxResults : UInt64 := 100
  deriving DecidableEq

/-- A context stage in its place, with the scope that it writes. -/
structure ContextEntry where
  scope : ScopeId
  endpoint : StageEndpoint KeyedContextConfig
  deriving DecidableEq

/-- A retrieval stage in its place, with the id that its items carry. -/
structure RetrievalEntry where
  retrievalId : RetrievalId
  endpoint : StageEndpoint ContentRetrievalConfig
  deriving DecidableEq

/-- All that a node is configured with. -/
structure PipelineConfig where
  indexers : SortedMap String IndexerEndpoint := .empty
  contexts : List ContextEntry := []
  retrievals : List RetrievalEntry := []
  /-- How many items a recommendation holds; without it the node does not recommend. -/
  requestNum : Option UInt64 := none
  strict : Bool := false
  deriving DecidableEq

/-! ### The written form -/

namespace IndexerEndpoint

/-- An endpoint stands in the third container of the document. -/
def nesting : Nat := nestingLimit - 3

/-- An endpoint as an object with a member that says of which kind it is. -/
def codec : Codec IndexerEndpoint :=
  .tagged "kind" nesting
    -- one entry per kind: its tag, the members beside the tag, and how to put them
    -- together and take them apart
    [.payload "snapshot"
      (.record (required "path" .text .done)
        (fun (path, ()) => path) (fun path => (path, ())))
      .snapshot fun
      | .snapshot path => some path
      | _ => none,
     .payload "bulk"
      (.record (required "path" .text <| required "format" BulkFormat.codec .done)
        (fun (path, format, ()) => (path, format))
        (fun (path, format) => (path, format, ())))
      (fun (path, format) => .bulk path format) fun
      | .bulk path format => some (path, format)
      | _ => none,
     .payload "remote"
      -- the name may be left out, and may be `null`
      (.record (required "addr" .text <| defaulted "name" (.option .text) none .done)
        (fun (addr, name, ()) => (addr, name)) (fun (addr, name) => (addr, name, ())))
      (fun (addr, name) => .remote addr name) fun
      | .remote addr name => some (addr, name)
      | _ => none]

end IndexerEndpoint

/-- A stage as an object whose one member says whether it is local. -/
def StageEndpoint.codec {α : Type} (stage : Codec α) : Codec (StageEndpoint α) :=
  .variant
    [.payload "local" stage .hosted fun
      | .hosted s => some s
      | _ => none,
     .payload "remote"
      (.record (required "addr" .text .done)
        (fun (addr, ()) => addr) (fun addr => (addr, ())))
      .remote fun
      | .remote addr => some addr
      | _ => none]

/-- A context stage as an object; only the key field may be left out. -/
def KeyedContextConfig.codec : Codec KeyedContextConfig :=
  .record
    (required "indexer" .text <|
      required "source_scope" .int32 <|
      required "source_field" .int32 <|
      defaulted "key_field" (.option .int32) none <|
      required "fields" (.list .int32) .done)
    -- the members in their order, ended by the unit of `done`
    (fun (indexer, sourceScope, sourceField, keyField, fields, ()) =>
      ⟨indexer, sourceScope, sourceField, keyField, fields⟩)
    (fun c => (c.indexer, c.sourceScope, c.sourceField, c.keyField, c.fields, ()))

/-- A retrieval stage as an object; rules and maximum may be left out. -/
def ContentRetrievalConfig.codec : Codec ContentRetrievalConfig :=
  .record
    (required "indexer" .text <|
      required "extract_scope" .int32 <|
      required "extract_field" .int32 <|
      required "item_keys" (.list .int32) <|
      defaulted "filter_rules" (.map .int32 .text) .empty <|
      defaulted "max_results" .uint64 100 .done)
    (fun (indexer, extractScope, extractField, itemKeys, filterRules, maxResults, ()) =>
      ⟨indexer, extractScope, extractField, itemKeys, filterRules, maxResults⟩)
    (fun c =>
      (c.indexer, c.extractScope, c.extractField, c.itemKeys, c.filterRules, c.maxResults,
        ()))

/-- A context entry as an object. -/
def ContextEntry.codec : Codec ContextEntry :=
  .record
    (required "scope" .int32 <|
      required "endpoint" (StageEndpoint.codec KeyedContextConfig.codec) .done)
    (fun (scope, endpoint, ()) => ⟨scope, endpoint⟩)
    (fun e => (e.scope, e.endpoint, ()))

/-- A retrieval entry as an object. -/
def RetrievalEntry.codec : Codec RetrievalEntry :=
  .record
    (required "retrieval_id" .int32 <|
      required "endpoint" (StageEndpoint.codec ContentRetrievalConfig.codec) .done)
    (fun (retrievalId, endpoint, ()) => ⟨retrievalId, endpoint⟩)
    (fun e => (e.retrievalId, e.endpoint, ()))

namespace PipelineConfig

/-- A configuration as an object, of which everything may be left out. -/
def codec : Codec PipelineConfig :=
  .record
    (defaulted "indexers" (.map .text IndexerEndpoint.codec) .empty <|
      defaulted "contexts" (.list ContextEntry.codec) [] <|
      defaulted "retrievals" (.list RetrievalEntry.codec) [] <|
      defaulted "request_num" (.option .uint64) none <|
      defaulted "strict" .bool false .done)
    (fun (indexers, contexts, retrievals, requestNum, strict, ()) =>
      ⟨indexers, contexts, retrievals, requestNum, strict⟩)
    (fun c => (c.indexers, c.contexts, c.retrievals, c.requestNum, c.strict, ()))

end PipelineConfig

/-! ### Loading -/

/-- Why a configuration cannot be had. -/
inductive ConfigError where
  | unreadable (path : String) (cause : FileError)
  | invalid (path : String) (cause : ReadError)
  deriving DecidableEq

/-- What is reported about a configuration that cannot be had. -/
def ConfigError.message : ConfigError → String
  -- the cause is not part of the text
  | unreadable path _ => "reading " ++ path
  | invalid path _ => "parsing " ++ path

/-- Read the configuration in a file. -/
def PipelineConfig.load (tree : FileTree) (path : String) :
    Except ConfigError PipelineConfig := do
  -- a file that is not text counts as unreadable
  let text ← (tree.openPath path >>= FileTree.textContent).mapError (.unreadable path)
  (PipelineConfig.codec.decode text).mapError (.invalid path)

end Recommend
