import Recommend.Proofs.Pipeline.Wiring
import Recommend.Proofs.Remote.Exchange

/-!
Local or remote is a wiring choice only.

A pipeline whose indexers and stages are all local is compared with one in which some of
them are asked of peers that host the same.  Both are wired step by step and the steps
correspond: an index answers the same here and there (`Reads.agrees`), so stages with
the same parameters do (`Mirrors.same`), so the recommenders do on every request whose
numbers survive being written.

What goes over the network has to fit into a body.  Which messages do is said by the
`Moves` from the one pipeline to the other: the request to each stage that a peer hosts,
and the question of each stage whose index is not where the stage is.  The documents
that they amount to for a request (`Node.posted`) are found by running the local
pipeline.
-/

namespace Recommend

open Json

/-! ### What goes over the network -/

/-- A document that is sent fits into a body; one that stays here need not. -/
def Service.AdmitsIf (sent : Bool) (document : Json) : Prop :=
  sent = true → Service.Admits document

/-- Which messages of a stage go over the network. -/
structure Way where
  /-- The request, to a stage that a peer hosts. -/
  request : Bool
  /-- The question of the stage, to an index that is not where the stage is. -/
  question : Bool

/-- The documents that are posted for a request to a stage. -/
def Way.posted (way : Way) (request : RecRequest) (questions : List Json) : List Json :=
  (if way.request then [RecRequest.codec.write request] else []) ++
    if way.question then questions else []

/-- All that is posted fits iff the parts that are sent do. -/
theorem Way.forall_mem_posted_iff {way : Way} {request : RecRequest}
    {questions : List Json} :
    (∀ document ∈ way.posted request questions, Service.Admits document) ↔
      Service.AdmitsIf way.request (RecRequest.codec.write request) ∧
        ∀ document ∈ questions, Service.AdmitsIf way.question document := by
  obtain ⟨sent, asked⟩ := way
  rw [posted, List.forall_mem_append]
  apply and_congr
  · cases sent <;> simp [Service.AdmitsIf]
  · cases asked <;> simp [Service.AdmitsIf]

/-- Which parts of a pipeline are elsewhere. -/
structure Moves where
  /-- The indexers that are asked of peers. -/
  indexer : String → Bool
  /-- The ways to the context stages, by the scopes that they write. -/
  context : ScopeId → Way
  /-- The ways to the retrieval stages. -/
  retrieval : RetrievalId → Way

namespace Node

/-- The documents that are posted for a request to the context stage at a scope. -/
def postedToContext (node : Node) (moves : Moves) (scope : ScopeId) (request : RecRequest) :
    List Json :=
  (node.contexts.find? scope).toList.flatMap fun stage =>
    (moves.context scope).posted request (stage.questions request)

/-- The documents that are posted for a request to all retrieval stages. -/
def postedToRetrievals (node : Node) (moves : Moves) (request : RecRequest) : List Json :=
  node.retrievals.toList.flatMap fun entry =>
    (moves.retrieval entry.1).posted request (entry.2.questions request)

/-- The documents that are posted while the recommender answers a request: each context
stage is asked what those before it have made of the request, and all retrieval stages
what the context stages have. -/
def posted (node : Node) (moves : Moves) (request : RecRequest) : List Json :=
  node.recommender.toList.flatMap fun r =>
    ((Recommender.handed r.policy r.contexts request).flatMap fun entry =>
      node.postedToContext moves entry.1 entry.2) ++
    (r.enrich request).toOption.toList.flatMap (node.postedToRetrievals moves)

/-- All that is posted for a request to the context stage at a scope fits. -/
def ContextFits (node : Node) (moves : Moves) (scope : ScopeId) (request : RecRequest) :
    Prop :=
  ∀ document ∈ node.postedToContext moves scope request, Service.Admits document

/-- All that is posted for a request to the retrieval stages fits. -/
def RetrievalsFit (node : Node) (moves : Moves) (request : RecRequest) : Prop :=
  ∀ document ∈ node.postedToRetrievals moves request, Service.Admits document

variable {node : Node} {moves : Moves} {request : RecRequest}

/-- What fits for the stage that the node has at a scope. -/
theorem ContextFits.admits {scope : ScopeId} (h : node.ContextFits moves scope request)
    {stage : KeyedContext} (hstage : node.contexts.find? scope = some stage) :
    Service.AdmitsIf (moves.context scope).request (RecRequest.codec.write request) ∧
      ∀ document ∈ stage.questions request,
        Service.AdmitsIf (moves.context scope).question document := by
  rw [← Way.forall_mem_posted_iff]
  intro document hdocument
  apply h
  rw [postedToContext, hstage]
  exact List.mem_flatMap.2 ⟨stage, List.mem_singleton_self _, hdocument⟩

/-- What fits for one of the retrieval stages. -/
theorem RetrievalsFit.admits (h : node.RetrievalsFit moves request) {id : RetrievalId}
    {stage : ContentRetrieval} (hstage : node.retrievals.find? id = some stage) :
    Service.AdmitsIf (moves.retrieval id).request (RecRequest.codec.write request) ∧
      ∀ document ∈ stage.questions request,
        Service.AdmitsIf (moves.retrieval id).question document := by
  rw [← Way.forall_mem_posted_iff]
  intro document hdocument
  apply h
  exact List.mem_flatMap.2 ⟨(id, stage), SortedMap.mem_toList_iff.2 hstage, hdocument⟩

/-- If all that is posted fits, it does for each stage that is asked. -/
theorem fits_of_posted (h : ∀ document ∈ node.posted moves request, Service.Admits document)
    {r : Recommender} (hr : node.recommender = some r) :
    (∀ entry ∈ Recommender.handed r.policy r.contexts request,
      node.ContextFits moves entry.1 entry.2) ∧
      ∀ enriched, r.enrich request = .ok enriched → node.RetrievalsFit moves enriched := by
  -- there is one recommender, and what it posts comes in two parts
  rw [posted, hr, Option.toList_some, List.flatMap_singleton, List.forall_mem_append] at h
  refine ⟨?_, ?_⟩
  · intro entry hentry document hdocument
    exact h.1 document (List.mem_flatMap.2 ⟨entry, hentry, hdocument⟩)
  · intro enriched henriched document hdocument
    apply h.2 document
    rw [henriched]
    exact List.mem_flatMap.2 ⟨enriched, List.mem_singleton_self _, hdocument⟩

end Node

/-! ### Indexes here and there -/

/-- A peer at the address hosts the index under the name. -/
structure Network.HostsIndex (net : Network) (addr name : String) (peer : Node)
    (ix : Index) : Prop where
  server : Channel.NamesServer addr
  isName : ServicePath.IsName name
  forward : net.Connects addr peer (ServicePath.forward name)
  inverted : net.Connects addr peer (ServicePath.inverted name)
  hosted : peer.indexers.find? name = some ix

/-- A client reads an index that is here, or that a peer hosts; only then questions are
sent. -/
inductive IndexerClient.Reads (net : Network) (ix : Index) : Bool → IndexerClient → Prop
  | here : Reads net ix false (.ofIndex ix)
  | there {addr name : String} {peer : Node} (h : net.HostsIndex addr name peer ix) :
    Reads net ix true ((Channel.ofAddress addr).indexer net name)

/-- A reply without fractional numbers reads back. -/
theorem IndexerReply.recovers_of_texts {reply : IndexerReply}
    (h : ∀ i ∈ reply.items, FeatureMap.singles i.fields = []) :
    IndexerReply.codec.Recovers reply := by
  apply IndexerReply.recovers
  intro x hx
  obtain ⟨i, hi, hx⟩ := List.mem_flatMap.1 hx
  rw [h i hi] at hx
  cases hx

/-- The way to an index does not show in its answers. -/
theorem IndexerClient.Reads.agrees {net : Network} {ix : Index} {sent : Bool}
    {c : IndexerClient} (h : Reads net ix sent c) :
    Agrees (Service.AdmitsIf sent) (.ofIndex ix) c := by
  cases h with
  | here => exact Agrees.refl _ _
  | @there _ name _ h =>
    have hsegmented : ∀ last : String, ServicePath.IsName last →
        ServicePath.IsSegmented (ServicePath.ofSegments ["indexer", name, last]) := by
      intro last hlast
      exact ServicePath.isSegmented_ofSegments (List.cons_ne_nil _ _)
        (ServicePath.isName_of_mem_indexSegments h.isName hlast)
    constructor
    · intro q hfits
      rw [IndexerClient.ofIndex, Channel.indexer]
      dsimp only
      have hask := Channel.ask_eq_handler h.server
        (hsegmented "forward" (ServicePath.isName_of_letters (by decide))) h.forward
        (Node.serves_forward h.isName h.hosted) (hfits rfl) (ForwardRequest.recovers q)
      -- an index answers with texts only, so its reply is read back
      refine (hask ?_).symm
      intro reply hreply
      exact IndexerReply.recovers_of_texts (ix.textual.forward q reply hreply)
    · intro q hq hfits
      rw [IndexerClient.ofIndex, Channel.indexer]
      dsimp only
      have hask := Channel.ask_eq_handler h.server
        (hsegmented "inverted" (ServicePath.isName_of_letters (by decide))) h.inverted
        (Node.serves_inverted h.isName h.hosted) (hfits rfl) (InvertedRequest.recovers hq)
      refine (hask ?_).symm
      intro reply hreply
      exact IndexerReply.recovers_of_texts (ix.textual.inverted q reply hreply)

/-! ### Stages here and there -/

/-- The stages have the same parameters and read the same index, the first one here. -/
structure KeyedContext.Mirrors (net : Network) (sent : Bool) (s t : KeyedContext) :
    Prop where
  source : s.source = t.source
  keyField : s.keyField = t.keyField
  fields : s.fields = t.fields
  index : ∃ ix, s.indexer = .ofIndex ix ∧ IndexerClient.Reads net ix sent t.indexer

/-- The stages have the same parameters and read the same index, the first one here. -/
structure ContentRetrieval.Mirrors (net : Network) (sent : Bool) (s t : ContentRetrieval) :
    Prop where
  id : s.id = t.id
  maxResults : s.maxResults = t.maxResults
  extract : s.extract = t.extract
  itemKeys : s.itemKeys = t.itemKeys
  filterRules : s.filterRules = t.filterRules
  index : ∃ ix, s.indexer = .ofIndex ix ∧ IndexerClient.Reads net ix sent t.indexer

/-- A peer at the address hosts the context stage under the scope, over the same index,
to which it may have to send its questions in turn. -/
structure Network.HostsContext (net : Network) (addr : String) (scope : ScopeId)
    (peer : Node) (sent : Bool) (stage : KeyedContext) : Prop where
  server : Channel.NamesServer addr
  connects : net.Connects addr peer (ServicePath.context scope)
  hosted : ∃ stage', peer.contexts.find? scope = some stage' ∧ stage.Mirrors net sent stage'

/-- A peer at the address hosts the retrieval stage under the id, over the same index,
to which it may have to send its questions in turn. -/
structure Network.HostsRetrieval (net : Network) (addr : String) (id : RetrievalId)
    (peer : Node) (sent : Bool) (stage : ContentRetrieval) : Prop where
  server : Channel.NamesServer addr
  connects : net.Connects addr peer (ServicePath.retrieval id)
  hosted : ∃ stage', peer.retrievals.find? id = some stage' ∧ stage.Mirrors net sent stage'

section Agreement

open Recommender

variable {net : Network} {sent : Bool} {q : RecRequest}

/-- Stages over the same index ask and answer the same. -/
theorem KeyedContext.Mirrors.same {s t : KeyedContext} (h : s.Mirrors net sent t) :
    Same (Service.AdmitsIf sent) s t := by
  obtain ⟨ix, hix, hreads⟩ := h.index
  exact ⟨h.source, h.keyField, h.fields, hix ▸ hreads.agrees⟩

theorem KeyedContext.Mirrors.textual {s t : KeyedContext} (h : s.Mirrors net sent t) :
    s.indexer.Textual := by
  obtain ⟨ix, hix, -⟩ := h.index
  exact hix ▸ ix.textual

/-- Stages over the same index ask and answer the same. -/
theorem ContentRetrieval.Mirrors.same {s t : ContentRetrieval} (h : s.Mirrors net sent t) :
    Same (Service.AdmitsIf sent) s t := by
  obtain ⟨ix, hix, hreads⟩ := h.index
  exact ⟨h.id, h.maxResults, h.extract, h.itemKeys, h.filterRules, hix ▸ hreads.agrees⟩

theorem ContentRetrieval.Mirrors.textual {s t : ContentRetrieval}
    (h : s.Mirrors net sent t) : s.indexer.Textual := by
  obtain ⟨ix, hix, -⟩ := h.index
  exact hix ▸ ix.textual

/-- A context stage asked over the network. -/
theorem Network.HostsContext.answer_eq {addr : String} {scope : ScopeId} {peer : Node}
    {stage : KeyedContext} (h : net.HostsContext addr scope peer sent stage)
    (hq : q.Legible) (hrequest : Service.Admits (RecRequest.codec.write q))
    (hquestions : ∀ document ∈ stage.questions q, Service.AdmitsIf sent document) :
    stage.answer q = (Channel.ofAddress addr).context net scope q := by
  obtain ⟨stage', hstage', hmirrors⟩ := h.hosted
  -- the stage of the peer answers like the one here, and its answer is what comes back
  have hsame := hmirrors.same.answer_eq hquestions
  have hpath : ServicePath.IsSegmented (ServicePath.context scope) :=
    ServicePath.isSegmented_ofSegments (List.cons_ne_nil _ _)
      (ServicePath.isName_of_mem_stageSegments (ServicePath.isName_of_letters (by decide)) _)
  rw [Channel.context]
  have hask :=
    Channel.ask_eq_handler h.server hpath h.connects (Node.serves_context hstage')
      hrequest (RecRequest.recovers hq)
  rw [← hsame] at hask
  refine (hask ?_).symm
  intro reply hreply
  apply ContextReply.recovers
  rw [KeyedContext.singles_answer hmirrors.textual hreply]
  simp

/-- A retrieval stage asked over the network. -/
theorem Network.HostsRetrieval.answer_eq {addr : String} {id : RetrievalId}
    {peer : Node} {stage : ContentRetrieval}
    (h : net.HostsRetrieval addr id peer sent stage) (hq : q.Legible)
    (hrequest : Service.Admits (RecRequest.codec.write q))
    (hquestions : ∀ document ∈ stage.questions q, Service.AdmitsIf sent document) :
    stage.answer q = (Channel.ofAddress addr).retrieval net id q := by
  obtain ⟨stage', hstage', hmirrors⟩ := h.hosted
  have hsame := hmirrors.same.answer_eq hquestions
  have hpath : ServicePath.IsSegmented (ServicePath.retrieval id) :=
    ServicePath.isSegmented_ofSegments (List.cons_ne_nil _ _)
      (ServicePath.isName_of_mem_stageSegments (ServicePath.isName_of_letters (by decide)) _)
  rw [Channel.retrieval]
  have hask :=
    Channel.ask_eq_handler h.server hpath h.connects (Node.serves_retrieval hstage')
      hrequest (RecRequest.recovers hq)
  rw [← hsame] at hask
  refine (hask ?_).symm
  intro reply hreply
  apply ItemReply.recovers
  rw [ContentRetrieval.singles_answer hmirrors.textual hreply]
  simp

end Agreement

/-! ### Configurations -/

/-- The indexer is as it was, or a peer hosts the index that the node had. -/
inductive IndexerEndpoint.Rewired (net : Network) (node : Node) (moves : Moves)
    (e : String × IndexerEndpoint) : String × IndexerEndpoint → Prop
  | stays (here : moves.indexer e.1 = false) : Rewired net node moves e e
  | moved {addr : String} {remoteName : Option String} {peer : Node} {ix : Index}
    (there : moves.indexer e.1 = true) (held : node.indexers.find? e.1 = some ix)
    (hosted : net.HostsIndex addr (remoteName.getD e.1) peer ix) :
    Rewired net node moves e (e.1, .remote addr remoteName)

/-- The context stage is as it was and asks its index wherever that is, or a peer hosts
the stage that the node had. -/
inductive ContextEntry.Rewired (net : Network) (node : Node) (moves : Moves)
    (e : ContextEntry) : ContextEntry → Prop
  | stays {c : KeyedContextConfig} (endpoint : e.endpoint = .hosted c)
    (way : moves.context e.scope = ⟨false, moves.indexer c.indexer⟩) :
    Rewired net node moves e e
  | moved {addr : String} {peer : Node} {stage : KeyedContext}
    (way : (moves.context e.scope).request = true)
    (held : node.contexts.find? e.scope = some stage)
    (hosted : net.HostsContext addr e.scope peer (moves.context e.scope).question stage) :
    Rewired net node moves e ⟨e.scope, .remote addr⟩

/-- The retrieval stage is as it was and asks its index wherever that is, or a peer
hosts the stage that the node had. -/
inductive RetrievalEntry.Rewired (net : Network) (node : Node) (moves : Moves)
    (e : RetrievalEntry) : RetrievalEntry → Prop
  | stays {c : ContentRetrievalConfig} (endpoint : e.endpoint = .hosted c)
    (way : moves.retrieval e.retrievalId = ⟨false, moves.indexer c.indexer⟩) :
    Rewired net node moves e e
  | moved {addr : String} {peer : Node} {stage : ContentRetrieval}
    (way : (moves.retrieval e.retrievalId).request = true)
    (held : node.retrievals.find? e.retrievalId = some stage)
    (hosted : net.HostsRetrieval addr e.retrievalId peer
      (moves.retrieval e.retrievalId).question stage) :
    Rewired net node moves e ⟨e.retrievalId, .remote addr⟩

/-- The pipeline of a node with any of its indexers and stages moved to peers. -/
structure PipelineConfig.Rewired (net : Network) (node : Node) (moves : Moves)
    (config config' : PipelineConfig) : Prop where
  indexers : List.Forall₂ (IndexerEndpoint.Rewired net node moves)
    config.indexers.toList config'.indexers.toList
  contexts : List.Forall₂ (ContextEntry.Rewired net node moves)
    config.contexts config'.contexts
  retrievals : List.Forall₂ (RetrievalEntry.Rewired net node moves)
    config.retrievals config'.retrievals
  requestNum : config'.requestNum = config.requestNum
  strict : config'.strict = config.strict

/-! ### Wiring side by side -/

namespace Node

variable {net : Network} {tree : FileTree} {node : Node} {moves : Moves}
  {clients clients' : SortedMap String IndexerClient}

/-- The first client has the index here, and the second one reads it. -/
def SameIndex (net : Network) (sent : Bool) (c c' : IndexerClient) : Prop :=
  ∃ ix, c = .ofIndex ix ∧ IndexerClient.Reads net ix sent c'

/-- Under every name the second clients read the index that the first ones have here. -/
def SameIndexes (net : Network) (moves : Moves)
    (clients clients' : SortedMap String IndexerClient) : Prop :=
  ∀ name c, clients.find? name = some c →
    ∃ c', clients'.find? name = some c' ∧ SameIndex net (moves.indexer name) c c'

/-- Whatever indexers are opened here, the others are opened and read the same indexes. -/
theorem openAll_rewired {config config' : PipelineConfig} (hlocal : config.IsLocal)
    {opened : List (String × Opened)} (hopened : openAll net tree config = .ok opened)
    (hhosted : node.indexers = indexesOf opened)
    (h : config.Rewired net node moves config') :
    ∃ opened', openAll net tree config' = .ok opened' ∧
      SameIndexes net moves (clientsOf opened) (clientsOf opened') := by
  have hstep : ∀ (e : String × IndexerEndpoint) (o : String × Opened)
      (e' : String × IndexerEndpoint),
      (∃ ix, o = (e.1, .ofIndex ix) ∧ openIndexer net tree e.1 e.2 = .ok (.ofIndex ix) ∧
        (indexesOf opened).find? e.1 = some ix) →
      IndexerEndpoint.Rewired net node moves e e' →
      ∃ o' : String × Opened, (o'.1 = e'.1 ∧ openIndexer net tree e'.1 e'.2 = .ok o'.2) ∧
        o'.1 = o.1 ∧ SameIndex net (moves.indexer o.1) o.2.client o'.2.client := by
    rintro e _ e' ⟨ix, rfl, hopen, hindex⟩ hrewired
    cases hrewired with
    | stays here =>
      refine ⟨(e.1, .ofIndex ix), ⟨rfl, hopen⟩, rfl, ix, rfl, ?_⟩
      rw [here]
      exact .here
    -- the peer hosts the index that was opened here under this name
    | moved there held hosted =>
      rw [hhosted, hindex] at held
      cases held
      refine ⟨(e.1, _), ⟨rfl, rfl⟩, rfl, ix, rfl, ?_⟩
      rw [there]
      exact .there hosted
  obtain ⟨opened', hopened', hsame⟩ :=
    forall₂_square hstep (hosts_indexers hlocal.indexers hopened) h.indexers
  refine ⟨opened', openAll_eq_ok_iff.2 hopened', ?_⟩
  intro name c hfind
  -- both maps are made of lists that go together
  apply SortedMap.find?_ofList_of_forall₂
    (R := fun name => SameIndex net (moves.indexer name)) _ hfind
  rw [List.forall₂_map_left_iff, List.forall₂_map_right_iff]
  exact hsame

/-- Stages of one configuration over the same indexes. -/
theorem keyedContext_mirrors (hsame : SameIndexes net moves clients clients')
    {c : KeyedContextConfig} {stage : KeyedContext}
    (h : keyedContext clients c = .ok stage) :
    ∃ stage', keyedContext clients' c = .ok stage' ∧
      stage.Mirrors net (moves.indexer c.indexer) stage' := by
  obtain ⟨client, hfind, rfl⟩ := keyedContext_eq_ok_iff.1 h
  obtain ⟨client', hfind', hindex⟩ := hsame _ _ hfind
  exact ⟨_, keyedContext_eq_ok_iff.2 ⟨client', hfind', rfl⟩, rfl, rfl, rfl, hindex⟩

theorem contentRetrieval_mirrors (hsame : SameIndexes net moves clients clients')
    {id : RetrievalId} {c : ContentRetrievalConfig} {stage : ContentRetrieval}
    (h : contentRetrieval clients id c = .ok stage) :
    ∃ stage', contentRetrieval clients' id c = .ok stage' ∧
      stage.Mirrors net (moves.indexer c.indexer) stage' := by
  obtain ⟨hkeys, client, hfind, rfl⟩ := contentRetrieval_eq_ok_iff.1 h
  obtain ⟨client', hfind', hindex⟩ := hsame _ _ hfind
  exact ⟨_, contentRetrieval_eq_ok_iff.2 ⟨hkeys, client', hfind', rfl⟩,
    rfl, rfl, rfl, rfl, rfl, hindex⟩

/-- The same stages are wired, and they agree on what fits. -/
structure Stages.Agree (node : Node) (moves : Moves) (s s' : Stages) : Prop where
  wired : s.wired = s'.wired
  recommender : Recommender.Agrees (node.ContextFits moves) (node.RetrievalsFit moves)
    s.recommender s'.recommender

theorem Stages.Agree.scopes {s s' : Stages} (h : Stages.Agree node moves s s') :
    s.scopes = s'.scopes := by
  have hcontexts := h.recommender.contexts
  rw [Stages.scopes, Stages.scopes]
  -- the scopes are all that is compared, so the rest of the stages is left out
  generalize s.recommender.contexts = contexts, s'.recommender.contexts = contexts'
    at hcontexts
  induction hcontexts with
  | nil => rfl
  | cons hab _ ih => rw [List.map_cons, List.map_cons, hab.1, ih]

theorem Stages.Agree.withContext {s s' : Stages} (h : Stages.Agree node moves s s')
    {scope : ScopeId} {client client' : ContextClient}
    (hclient : Recommender.ContextsAgree (node.ContextFits moves)
      (scope, client) (scope, client')) :
    Stages.Agree node moves
      (s.withContext scope client) (s'.withContext scope client') where
  wired := h.wired
  recommender :=
    { h.recommender with
      contexts := List.rel_append h.recommender.contexts (.cons hclient .nil) }

theorem Stages.Agree.withRetrieval {s s' : Stages} (h : Stages.Agree node moves s s')
    (id : RetrievalId) {client client' : RetrievalClient}
    (hclient : Recommender.RetrievalsAgree (node.RetrievalsFit moves) client client') :
    Stages.Agree node moves (s.withRetrieval id client) (s'.withRetrieval id client') where
  wired := congrArg (id :: ·) h.wired
  recommender :=
    { h.recommender with
      retrievals := List.rel_append h.recommender.retrievals (.cons hclient .nil) }

/-- The node hosts the context stage of an entry. -/
def HoldsContext (node : Node) (clients : SortedMap String IndexerClient)
    (e : ContextEntry) : Prop :=
  ∃ c stage, e.endpoint = .hosted c ∧ keyedContext clients c = .ok stage ∧
    node.contexts.find? e.scope = some stage

/-- The node hosts the retrieval stage of an entry. -/
def HoldsRetrieval (node : Node) (clients : SortedMap String IndexerClient)
    (e : RetrievalEntry) : Prop :=
  ∃ c stage, e.endpoint = .hosted c ∧ contentRetrieval clients e.retrievalId c = .ok stage ∧
    node.retrievals.find? e.retrievalId = some stage

/-- A node that is wired from local parts holds all its stages. -/
theorem holds_of_isLocal {config : PipelineConfig} (hlocal : config.IsLocal) {s t : Stages}
    (hcontexts : config.contexts.foldlM (addContext net clients)
      { recommender := emptyRecommender config } = .ok s)
    (hretrievals : config.retrievals.foldlM (addRetrieval net clients) s = .ok t)
    (hnodeContexts : node.contexts = t.contexts)
    (hnodeRetrievals : node.retrievals = t.retrievals) :
    (∀ e ∈ config.contexts, node.HoldsContext clients e) ∧
      ∀ e ∈ config.retrievals, node.HoldsRetrieval clients e := by
  -- the second run leaves the context stages of the first one alone
  obtain ⟨hhosted, hkept⟩ := hosts_retrievals hretrievals
  refine ⟨?_, ?_⟩
  · intro e he
    obtain ⟨c, hc⟩ := (hlocal.contexts e he).exists_hosted
    obtain ⟨stage, hstage, hfind⟩ := hosts_contexts hcontexts e he c hc
    rw [← hkept, ← hnodeContexts] at hfind
    exact ⟨c, stage, hc, hstage, hfind⟩
  · intro e he
    obtain ⟨c, hc⟩ := (hlocal.retrievals e he).exists_hosted
    obtain ⟨stage, hstage, hfind⟩ := hhosted e he c hc
    rw [← hnodeRetrievals] at hfind
    exact ⟨c, stage, hc, hstage, hfind⟩

/-- One context entry, wired here and there. -/
theorem addContext_rewired (hsame : SameIndexes net moves clients clients')
    {e e' : ContextEntry} (hholds : node.HoldsContext clients e)
    (hrewired : e.Rewired net node moves e') {s s' t : Stages}
    (hs : Stages.Agree node moves s s') (h : addContext net clients s e = .ok t) :
    ∃ t', addContext net clients' s' e' = .ok t' ∧ Stages.Agree node moves t t' := by
  obtain ⟨scope, endpoint⟩ := e
  obtain ⟨c, stage, rfl, hstage, hfind⟩ := hholds
  obtain ⟨hfree, built, hbuilt, rfl⟩ := addContext_hosted_iff.1 h
  rw [hstage] at hbuilt
  cases hbuilt
  rw [hs.scopes] at hfree
  cases hrewired with
  | stays endpoint way =>
    -- the entry stays: its stage is built again, over a client of the same index
    cases endpoint
    obtain ⟨stage', hstage', hmirrors⟩ := keyedContext_mirrors hsame hstage
    have hagree : Recommender.ContextsAgree (node.ContextFits moves) (scope, stage.answer)
        (scope, stage'.answer) := by
      refine ⟨rfl, ?_⟩
      intro q _ hfits
      obtain ⟨-, hquestions⟩ := hfits.admits hfind
      rw [way] at hquestions
      exact ⟨hmirrors.same.answer_eq hquestions,
        fun reply hreply => KeyedContext.singles_answer hmirrors.textual hreply⟩
    refine ⟨_, addContext_hosted_iff.2 ⟨hfree, stage', hstage', rfl⟩, ?_⟩
    exact ⟨hs.wired, (hs.withContext hagree).recommender⟩
  | @moved addr _ moved way held hosted =>
    -- the entry moves: what the peer hosts is the stage built here
    rw [hfind] at held
    cases held
    obtain ⟨stage', -, hmirrors⟩ := hosted.hosted
    have hagree : Recommender.ContextsAgree (node.ContextFits moves) (scope, stage.answer)
        (scope, (Channel.ofAddress addr).context net scope) := by
      refine ⟨rfl, ?_⟩
      intro q hq hfits
      obtain ⟨hrequest, hquestions⟩ := hfits.admits hfind
      -- without the projections gone, unification would run the call
      dsimp only
      exact ⟨hosted.answer_eq hq (hrequest way) hquestions,
        fun reply hreply => KeyedContext.singles_answer hmirrors.textual hreply⟩
    refine ⟨_, addContext_remote_iff.2 ⟨hfree, rfl⟩, ?_⟩
    exact ⟨hs.wired, (hs.withContext hagree).recommender⟩

/-- One retrieval entry, wired here and there. -/
theorem addRetrieval_rewired (hsame : SameIndexes net moves clients clients')
    {e e' : RetrievalEntry} (hholds : node.HoldsRetrieval clients e)
    (hrewired : e.Rewired net node moves e') {s s' t : Stages}
    (hs : Stages.Agree node moves s s') (h : addRetrieval net clients s e = .ok t) :
    ∃ t', addRetrieval net clients' s' e' = .ok t' ∧ Stages.Agree node moves t t' := by
  obtain ⟨id, endpoint⟩ := e
  obtain ⟨c, stage, rfl, hstage, hfind⟩ := hholds
  obtain ⟨hfree, built, hbuilt, rfl⟩ := addRetrieval_hosted_iff.1 h
  rw [hstage] at hbuilt
  cases hbuilt
  rw [hs.wired] at hfree
  cases hrewired with
  | stays endpoint way =>
    -- as for context stages, except that what a retrieval answers is not read by others
    cases endpoint
    obtain ⟨stage', hstage', hmirrors⟩ := contentRetrieval_mirrors hsame hstage
    have hagree : Recommender.RetrievalsAgree (node.RetrievalsFit moves) stage.answer
        stage'.answer := by
      intro q _ hfits
      obtain ⟨-, hquestions⟩ := hfits.admits hfind
      rw [way] at hquestions
      exact hmirrors.same.answer_eq hquestions
    have hnext := hs.withRetrieval id hagree
    exact ⟨_, addRetrieval_hosted_iff.2 ⟨hfree, stage', hstage', rfl⟩, hnext.wired,
      hnext.recommender⟩
  | @moved addr _ moved way held hosted =>
    rw [hfind] at held
    cases held
    have hagree : Recommender.RetrievalsAgree (node.RetrievalsFit moves) stage.answer
        ((Channel.ofAddress addr).retrieval net id) := by
      intro q hq hfits
      obtain ⟨hrequest, hquestions⟩ := hfits.admits hfind
      exact hosted.answer_eq hq (hrequest way) hquestions
    have hnext := hs.withRetrieval id hagree
    exact ⟨_, addRetrieval_remote_iff.2 ⟨hfree, rfl⟩, hnext.wired, hnext.recommender⟩

theorem contexts_rewired (hsame : SameIndexes net moves clients clients')
    {l l' : List ContextEntry} (hholds : ∀ e ∈ l, node.HoldsContext clients e)
    (hrewired : List.Forall₂ (ContextEntry.Rewired net node moves) l l')
    {s s' t : Stages} (hs : Stages.Agree node moves s s')
    (hrun : l.foldlM (addContext net clients) s = .ok t) :
    ∃ t', l'.foldlM (addContext net clients') s' = .ok t' ∧
      Stages.Agree node moves t t' := by
  refine foldlM_simulates ?_ ((List.forall₂_and_left l l').2 ⟨hholds, hrewired⟩) hs hrun
  intro s s' e e' t he hs hstep
  exact addContext_rewired hsame he.1 he.2 hs hstep

theorem retrievals_rewired (hsame : SameIndexes net moves clients clients')
    {l l' : List RetrievalEntry} (hholds : ∀ e ∈ l, node.HoldsRetrieval clients e)
    (hrewired : List.Forall₂ (RetrievalEntry.Rewired net node moves) l l')
    {s s' t : Stages} (hs : Stages.Agree node moves s s')
    (hrun : l.foldlM (addRetrieval net clients) s = .ok t) :
    ∃ t', l'.foldlM (addRetrieval net clients') s' = .ok t' ∧
      Stages.Agree node moves t t' := by
  refine foldlM_simulates ?_ ((List.forall₂_and_left l l').2 ⟨hholds, hrewired⟩) hs hrun
  intro s s' e e' t he hs hstep
  exact addRetrieval_rewired hsame he.1 he.2 hs hstep

theorem emptyRecommender_agree {config config' : PipelineConfig}
    (h : config.Rewired net node moves config') :
    Stages.Agree node moves { recommender := emptyRecommender config }
      { recommender := emptyRecommender config' } := by
  refine ⟨rfl, ?_, ?_, .nil, .nil⟩
  · rw [emptyRecommender, emptyRecommender, h.requestNum]
  · rw [emptyRecommender, emptyRecommender, h.strict]

/-- **Local or remote is a wiring choice only.**  With any of its indexers and stages
moved to peers that host the same, a pipeline gives the same answer to every request
whose numbers read back, if all that is posted for the request fits into bodies. -/
theorem recommend_of_rewired {config config' : PipelineConfig} (hlocal : config.IsLocal)
    (hnode : ofConfig net tree config = .ok node)
    (h : config.Rewired net node moves config') :
    ∃ node', ofConfig net tree config' = .ok node' ∧
      ∀ request : RecRequest, request.Legible →
        (∀ document ∈ node.posted moves request, Service.Admits document) →
        node'.recommender.map (fun r => r.recommend request) =
          node.recommender.map fun r => r.recommend request := by
  obtain ⟨opened, s, t, hopened, hcontexts, hretrievals, hwired⟩ :=
    ofConfig_eq_ok_iff.1 hnode
  have hindexers : node.indexers = indexesOf opened := by rw [← hwired]
  have hrecommender : node.recommender = config.requestNum.map fun _ => t.recommender := by
    rw [← hwired]
  obtain ⟨opened', hopened', hsame⟩ := openAll_rewired hlocal hopened hindexers h
  obtain ⟨hholdsContexts, hholdsRetrievals⟩ :
      (∀ e ∈ config.contexts, node.HoldsContext _ e) ∧
      ∀ e ∈ config.retrievals, node.HoldsRetrieval _ e :=
    holds_of_isLocal hlocal hcontexts hretrievals (by rw [← hwired]) (by rw [← hwired])
  -- both pipelines are wired side by side, contexts first
  obtain ⟨s', hcontexts', hs⟩ :=
    contexts_rewired hsame hholdsContexts h.contexts (emptyRecommender_agree h) hcontexts
  obtain ⟨t', hretrievals', ht⟩ :=
    retrievals_rewired hsame hholdsRetrievals h.retrievals hs hretrievals
  refine ⟨_, ofConfig_eq_ok_iff.2
    ⟨opened', s', t', hopened', hcontexts', hretrievals', rfl⟩, ?_⟩
  intro request hlegible hposted
  dsimp only
  rw [h.requestNum, Option.map_map]
  -- a node without a recommender has nothing to answer
  cases hnum : config.requestNum with
  | none =>
    rw [hrecommender, hnum]
    rfl
  | some n =>
    rw [hnum] at hrecommender
    -- only now is the request known, and with it what has to fit
    obtain ⟨hcontextsFit, hretrievalsFit⟩ := fits_of_posted hposted hrecommender
    rw [hrecommender]
    show some (t'.recommender.recommend request) = some (t.recommender.recommend request)
    rw [ht.recommender.recommend_eq hlegible hcontextsFit hretrievalsFit]

end Node

/-! ### A shelf of items -/

namespace Node.Shelf

/-- A key and a colour on every line. -/
def format : BulkFormat := ⟨[1, 2], ",", none⟩

/-- Three items, two of them red. -/
def tree : FileTree :=
  .directory [("items.csv", .file (Bytes.ofText "u,red\na,red\nb,blue\n"))]

/-- Look up the colour of the item at hand, and look for items of that colour. -/
def config : PipelineConfig :=
  { indexers := .ofList [("items", .bulk "items.csv" format)]
    contexts := [⟨7, .hosted
      { indexer := "items", sourceScope := 0, sourceField := 1, fields := [2] }⟩]
    retrievals :=
      [⟨3, .hosted { indexer := "items", extractScope := 7, extractField := 2, itemKeys := [1] }⟩,
       ⟨4, .hosted { indexer := "items", extractScope := 0, extractField := 2, itemKeys := [1] }⟩]
    requestNum := some 5 }

/-- The index and two of the stages moved to a peer; the third one stays and asks it. -/
def movedConfig : PipelineConfig :=
  { config with
    indexers := .ofList [("items", .remote "peer:8080" none)]
    contexts := [⟨7, .remote "peer:8080"⟩]
    retrievals :=
      [⟨3, .hosted { indexer := "items", extractScope := 7, extractField := 2, itemKeys := [1] }⟩,
       ⟨4, .remote "peer:8080"⟩] }

/-- What those items are indexed as. -/
def index : Index :=
  ((buildFromFile tree "items.csv" format).toOption.map Prod.fst).getD (.empty 1)

/-- The pipeline with all its parts here. -/
def node : Node := (ofConfig .silent tree config).toOption.getD {}

/-- A network in which everything is asked of the node. -/
def net : Network := fun _ request => .answered (Service.handle node .any request)

/-- The item at hand, and a number that stays unused. -/
def request : RecRequest :=
  ⟨"r", .ofList [(0, .ofList [(1, .bytes ["u"]), (2, .bytes ["blue"]),
    (5, .floats [.round false Single.unitsPerOne 10])])]⟩

theorem net_connects {path : String} {u : Http.Url}
    (hparse : Http.Url.parse? ((Channel.ofAddress "peer:8080").url path) = some u)
    (hrequestable : u.isRequestable = true) : net.Connects "peer:8080" node path :=
  ⟨u, .any, hparse, hrequestable, fun _ _ => ⟨_, rfl, rfl, rfl⟩⟩

theorem namesServer_peer : Channel.NamesServer "peer:8080" :=
  ⟨false, "peer:8080".toList, by decide, Http.Url.isPlain_of_all (by decide), by decide⟩

theorem hostsIndex : net.HostsIndex "peer:8080" "items" node index where
  server := namesServer_peer
  isName := ServicePath.isName_of_letters (by decide)
  forward := net_connects (u := ⟨false, [], "peer".toList, some 8080,
    "/indexer/items/forward".toList, none, none⟩) (by decide +kernel) (by decide +kernel)
  inverted := net_connects (u := ⟨false, [], "peer".toList, some 8080,
    "/indexer/items/inverted".toList, none, none⟩) (by decide +kernel) (by decide +kernel)
  hosted := rfl

theorem hostsContext :
    net.HostsContext "peer:8080" 7 node false ⟨⟨0, 1⟩, 1, [2], .ofIndex index⟩ where
  server := namesServer_peer
  connects := net_connects (u := ⟨false, [], "peer".toList, some 8080,
    "/context/7".toList, none, none⟩) (by decide +kernel) (by decide +kernel)
  hosted := ⟨_, rfl, rfl, rfl, rfl, index, rfl, .here⟩

theorem hostsRetrieval :
    net.HostsRetrieval "peer:8080" 4 node false
      ⟨4, 100, ⟨0, 2⟩, [1], .empty, .ofIndex index⟩ where
  server := namesServer_peer
  connects := net_connects (u := ⟨false, [], "peer".toList, some 8080,
    "/retrieval/4".toList, none, none⟩) (by decide +kernel) (by decide +kernel)
  hosted := ⟨_, rfl, rfl, rfl, rfl, rfl, rfl, index, rfl, .here⟩

theorem isLocal_config : config.IsLocal where
  indexers := List.forall_mem_singleton.2 trivial
  contexts := List.forall_mem_singleton.2 trivial
  retrievals := List.forall_mem_cons.2 ⟨trivial, List.forall_mem_singleton.2 trivial⟩

/-- The requests to the moved stages are sent, and the question of the one that stays. -/
def moves : Moves where
  indexer _ := true
  context _ := ⟨true, false⟩
  retrieval id := if id = 4 then ⟨true, false⟩ else ⟨false, true⟩

theorem rewired_movedConfig : config.Rewired net node moves movedConfig where
  indexers := .cons (.moved rfl rfl hostsIndex) .nil
  contexts := .cons (.moved rfl rfl hostsContext) .nil
  retrievals := .cons (.stays rfl rfl) (.cons (.moved rfl rfl hostsRetrieval) .nil)
  requestNum := rfl
  strict := rfl

/-- Two retrievals over one index, of which one is here and one is not. -/
theorem recommend_of_rewired_shelf :
    config.IsLocal ∧ ofConfig net tree config = .ok node ∧
      config.Rewired net node moves movedConfig ∧ request.Legible ∧
      (node.posted moves request).length = 3 ∧
      (∀ document ∈ node.posted moves request, Service.Admits document) ∧
      ∃ node', ofConfig net tree movedConfig = .ok node' ∧
        node'.recommender.map (fun r => r.recommend request) =
          some (.ok ⟨"r", [⟨.ofList [(1, .bytes ["u"])], [⟨3, 2⟩]⟩,
            ⟨.ofList [(1, .bytes ["a"])], [⟨3, 2⟩]⟩,
            ⟨.ofList [(1, .bytes ["b"])], [⟨4, 1⟩]⟩]⟩) := by
  have hnode : ofConfig net tree config = .ok node := rfl
  have hlegible : request.Legible := by decide +kernel
  have hposted : ∀ document ∈ node.posted moves request, Service.Admits document := by
    decide +kernel
  obtain ⟨node', hnode', hanswer⟩ :=
    recommend_of_rewired isLocal_config hnode rewired_movedConfig
  refine ⟨isLocal_config, hnode, rewired_movedConfig, hlegible, by decide +kernel,
    hposted, node', hnode', ?_⟩
  rw [hanswer request hlegible hposted]
  rfl

end Node.Shelf

end Recommend
