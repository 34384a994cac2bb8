import Recommend.Bulk.Builder
import Recommend.Pipeline.Config
import Recommend.Recommender
import Recommend.Remote.Client
import Recommend.Snapshot.Basic
import Recommend.Stage.ContentRetrieval
import Recommend.Stage.KeyedContext
import Recommend.Text.Quoted

/-!
Wiring a node from its configuration.

Indexers are opened in the order of their names, then the context stages and the
retrieval stages are wired in the order in which they are configured; the first thing
that is wrong is reported.  The node hosts what is local to it, and its recommender
calls all stages, local or not.
-/

namespace Recommend

/-- Why a node cannot be wired. -/
inductive WiringError where
  | snapshot (cause : SnapshotError)
  | bulk (path : String) (cause : BuildError)
  | unknownIndexer (name : String)
  | scopeTaken (taken : ScopeTaken)
  | retrievalTaken (id : RetrievalId)
  | noItemKeys (id : RetrievalId)
  deriving DecidableEq

/-- What is reported about a node that cannot be wired. -/
def WiringError.message : WiringError → String
  | snapshot cause => cause.message
  | bulk path _ => "indexing " ++ path
  | unknownIndexer name => "unknown indexer " ++ Text.quote name
  | scopeTaken taken => taken.message
  | retrievalTaken id => "retrieval " ++ Decimal.ofInt id.toInt ++ " is already wired"
  | noItemKeys id => "retrieval " ++ Decimal.ofInt id.toInt ++ " has no item_keys"

/-- What a node hosts, and the recommender if it recommends. -/
structure Node where
  indexers : SortedMap String Index := .empty
  contexts : SortedMap ScopeId KeyedContext := .empty
  retrievals : SortedMap RetrievalId ContentRetrieval := .empty
  recommender : Option Recommender := none

namespace Node

/-! ### Indexers -/

/-- An opened indexer: the index, if it is local, and a client of it. -/
structure Opened where
  index : Option Index
  client : IndexerClient

/-- An indexer whose index is here. -/
def Opened.ofIndex (ix : Index) : Opened := ⟨some ix, .ofIndex ix⟩

/-- Open an indexer. -/
def openIndexer (net : Network) (tree : FileTree) (name : String) :
    IndexerEndpoint → Except WiringError Opened
  | .snapshot path => ((Snapshot.load tree path).mapError .snapshot).map .ofIndex
  | .bulk path format =>
    ((buildFromFile tree path format).mapError (.bulk path)).map fun (ix, _) => .ofIndex ix
  -- a peer is not called before it is asked something
  | .remote addr remoteName =>
    .ok ⟨none, (Channel.ofAddress addr).indexer net (remoteName.getD name)⟩

/-- All indexers, in the order of their names. -/
def openAll (net : Network) (tree : FileTree) (config : PipelineConfig) :
    Except WiringError (List (String × Opened)) :=
  config.indexers.toList.mapM fun (name, endpoint) =>
    (openIndexer net tree name endpoint).map fun opened => (name, opened)

/-- The client of a configured indexer. -/
def clientOf (clients : SortedMap String IndexerClient) (name : String) :
    Except WiringError IndexerClient :=
  match clients.find? name with
  | some client => .ok client
  | none => .error (.unknownIndexer name)

/-! ### Stages -/

/-- The context stage of a configuration; the key field is the source field unless
another one is given. -/
def keyedContext (clients : SortedMap String IndexerClient) (c : KeyedContextConfig) :
    Except WiringError KeyedContext := do
  let client ← clientOf clients c.indexer
  .ok ⟨⟨c.sourceScope, c.sourceField⟩, c.keyField.getD c.sourceField, c.fields, client⟩

/-- The retrieval stage of a configuration; without item keys no item could be told from
another. -/
def contentRetrieval (clients : SortedMap String IndexerClient) (id : RetrievalId)
    (c : ContentRetrievalConfig) : Except WiringError ContentRetrieval := do
  -- this is reported even if the indexer is unknown too
  if c.itemKeys.isEmpty then .error (.noItemKeys id)
  else do
    let client ← clientOf clients c.indexer
    .ok ⟨id, c.maxResults, ⟨c.extractScope, c.extractField⟩, c.itemKeys, c.filterRules,
      client⟩

/-- The stages wired so far. -/
structure Stages where
  contexts : SortedMap ScopeId KeyedContext := .empty
  retrievals : SortedMap RetrievalId ContentRetrieval := .empty
  /-- The retrievals wired, local or not. -/
  wired : List RetrievalId := []
  recommender : Recommender

/-- Wire a context stage behind the others; a local one is hosted as well. -/
def addContext (net : Network) (clients : SortedMap String IndexerClient) (stages : Stages)
    (entry : ContextEntry) : Except WiringError Stages :=
  match entry.endpoint with
  | .hosted c => do
    let stage ← keyedContext clients c
    -- a scope is taken by a remote stage as well, so it is the recommender that knows
    let recommender ←
      (stages.recommender.addContext entry.scope stage.answer).mapError .scopeTaken
    .ok { stages with recommender, contexts := stages.contexts.insert entry.scope stage }
  | .remote addr => do
    let client := (Channel.ofAddress addr).context net entry.scope
    let recommender ←
      (stages.recommender.addContext entry.scope client).mapError .scopeTaken
    .ok { stages with recommender }

/-- Wire a retrieval stage behind the others; a local one is hosted as well. -/
def addRetrieval (net : Network) (clients : SortedMap String IndexerClient)
    (stages : Stages) (entry : RetrievalEntry) : Except WiringError Stages :=
  let id := entry.retrievalId
  -- the id is looked at before the stage is built
  if stages.wired.contains id then .error (.retrievalTaken id)
  else
    let stages := { stages with wired := id :: stages.wired }
    match entry.endpoint with
    | .hosted c => do
      let stage ← contentRetrieval clients id c
      .ok { stages with
        recommender := stages.recommender.addRetrieval stage.answer
        retrievals := stages.retrievals.insert id stage }
    | .remote addr =>
      let client := (Channel.ofAddress addr).retrieval net id
      .ok { stages with recommender := stages.recommender.addRetrieval client }

/-! ### The node -/

/-- The recommender of a configuration before any stage is wired. -/
def emptyRecommender (config : PipelineConfig) : Recommender :=
  -- without a number of items no recommender is served, so the zero is never used
  { requestNum := config.requestNum.getD 0
    policy := if config.strict then .strict else .bestEffort }

/-- Wire a node. -/
def ofConfig (net : Network) (tree : FileTree) (config : PipelineConfig) :
    Except WiringError Node := do
  let opened ← openAll net tree config
  -- stages may share an indexer, and find it by name
  let clients := SortedMap.ofList (opened.map fun (name, o) => (name, o.client))
  let stages ← config.contexts.foldlM (addContext net clients)
      { recommender := emptyRecommender config }
  let stages ← config.retrievals.foldlM (addRetrieval net clients) stages
  .ok
    { indexers := .ofList (opened.filterMap fun (name, o) => o.index.map fun ix => (name, ix))
      contexts := stages.contexts
      retrievals := stages.retrievals
      recommender := config.requestNum.map fun _ => stages.recommender }

end Node

end Recommend
