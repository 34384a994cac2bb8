import Recommend.Proofs.Pipeline.Wiring

/-!
Which configurations are accepted, and what a node hosts that was wired from one.

A configuration is sound if its local indexers load, no scope and no retrieval id is
used twice, and every local stage names a configured indexer and, if it is a retrieval,
has item keys (`PipelineConfig.Sound`).  That is said of the configuration and the files
alone, without any wiring.  Exactly the sound configurations are accepted
(`ofConfig_iff_sound`), and the node then hosts what is declared and nothing else, which
is what `Node.Hosts` says part by part.

Both follow from the clients that the stages are given: under a name there is a client
iff an indexer is configured under it, and it is the client of that indexer
(`find?_clientsOf`).
-/

namespace Recommend

/-! ### What a configuration declares -/

/-- The index that a local indexer loads. -/
inductive IndexerEndpoint.Loads (tree : FileTree) : IndexerEndpoint → Index → Prop
  | snapshot {path : String} {ix : Index} (h : Snapshot.load tree path = .ok ix) :
    Loads tree (.snapshot path) ix
  | bulk {path : String} {format : BulkFormat} {ix : Index} {stats : BuildStats}
    (h : buildFromFile tree path format = .ok (ix, stats)) :
    Loads tree (.bulk path format) ix

/-- A client of an indexer: of the index that it loads, or of the index that a peer
serves, under the name of the entry unless another one is given. -/
inductive IndexerEndpoint.HasClient (net : Network) (tree : FileTree) (name : String) :
    IndexerEndpoint → IndexerClient → Prop
  | here {endpoint : IndexerEndpoint} {ix : Index} (h : endpoint.Loads tree ix) :
    HasClient net tree name endpoint (.ofIndex ix)
  | there {addr : String} {remoteName : Option String} :
    HasClient net tree name (.remote addr remoteName)
      ((Channel.ofAddress addr).indexer net (remoteName.getD name))

theorem IndexerEndpoint.Loads.isLocal {tree : FileTree} {endpoint : IndexerEndpoint}
    {ix : Index} (h : endpoint.Loads tree ix) : endpoint.IsLocal := by
  cases h <;> trivial

namespace PipelineConfig

variable (net : Network) (tree : FileTree) (config : PipelineConfig)

/-- The configuration can be wired. -/
structure Sound : Prop where
  loads : ∀ name endpoint, config.indexers.find? name = some endpoint → endpoint.IsLocal →
    ∃ ix, endpoint.Loads tree ix
  scopes : (config.contexts.map ContextEntry.scope).Nodup
  ids : (config.retrievals.map RetrievalEntry.retrievalId).Nodup
  contextIndexer : ∀ e ∈ config.contexts, ∀ c, e.endpoint = .hosted c →
    config.indexers.contains c.indexer = true
  retrievalIndexer : ∀ e ∈ config.retrievals, ∀ c, e.endpoint = .hosted c →
    config.indexers.contains c.indexer = true
  itemKeys : ∀ e ∈ config.retrievals, ∀ c, e.endpoint = .hosted c → c.itemKeys ≠ []

/-- A client of the indexer that is configured under a name. -/
def HasClient (name : String) (client : IndexerClient) : Prop :=
  ∃ endpoint, config.indexers.find? name = some endpoint ∧
    endpoint.HasClient net tree name client

/-- The stage has the parameters that are configured and a client of the indexer it
names. -/
structure IsContext (c : KeyedContextConfig) (stage : KeyedContext) : Prop where
  source : stage.source = ⟨c.sourceScope, c.sourceField⟩
  keyField : stage.keyField = c.keyField.getD c.sourceField
  fields : stage.fields = c.fields
  indexer : config.HasClient net tree c.indexer stage.indexer

/-- The stage has the parameters that are configured and a client of the indexer it
names. -/
structure IsRetrieval (id : RetrievalId) (c : ContentRetrievalConfig)
    (stage : ContentRetrieval) : Prop where
  id : stage.id = id
  maxResults : stage.maxResults = c.maxResults
  extract : stage.extract = ⟨c.extractScope, c.extractField⟩
  itemKeys : stage.itemKeys = c.itemKeys
  filterRules : stage.filterRules = c.filterRules
  indexer : config.HasClient net tree c.indexer stage.indexer

end PipelineConfig

namespace Node

/-- What the recommender calls for a context entry: the stage that the node hosts, or
the peer. -/
inductive CallsContext (net : Network) (node : Node) :
    ContextEntry → ScopeId × ContextClient → Prop
  | hosted {scope : ScopeId} {c : KeyedContextConfig} {stage : KeyedContext}
    (h : node.contexts.find? scope = some stage) :
    CallsContext net node ⟨scope, .hosted c⟩ (scope, stage.answer)
  | remote {scope : ScopeId} {addr : String} :
    CallsContext net node ⟨scope, .remote addr⟩
      (scope, (Channel.ofAddress addr).context net scope)

/-- What the recommender calls for a retrieval entry: the stage that the node hosts, or
the peer. -/
inductive CallsRetrieval (net : Network) (node : Node) :
    RetrievalEntry → RetrievalClient → Prop
  | hosted {id : RetrievalId} {c : ContentRetrievalConfig} {stage : ContentRetrieval}
    (h : node.retrievals.find? id = some stage) :
    CallsRetrieval net node ⟨id, .hosted c⟩ stage.answer
  | remote {id : RetrievalId} {addr : String} :
    CallsRetrieval net node ⟨id, .remote addr⟩ ((Channel.ofAddress addr).retrieval net id)

/-- The recommender calls all entries in the order of the configuration, under its
policy. -/
structure Recommends (net : Network) (config : PipelineConfig) (node : Node)
    (requestNum : UInt64) (r : Recommender) : Prop where
  requestNum : r.requestNum = requestNum
  policy : r.policy = if config.strict then .strict else .bestEffort
  contexts : List.Forall₂ (node.CallsContext net) config.contexts r.contexts
  retrievals : List.Forall₂ (node.CallsRetrieval net) config.retrievals r.retrievals

/-- The node hosts what is local in the configuration, and nothing else. -/
structure Hosts (net : Network) (tree : FileTree) (config : PipelineConfig) (node : Node) :
    Prop where
  indexerNames : ∀ name, node.indexers.contains name = true ↔
    ∃ endpoint, config.indexers.find? name = some endpoint ∧ endpoint.IsLocal
  indexers : ∀ name ix, node.indexers.find? name = some ix ↔
    ∃ endpoint, config.indexers.find? name = some endpoint ∧ endpoint.Loads tree ix
  contextScopes : ∀ scope, node.contexts.contains scope = true ↔
    ∃ c, ⟨scope, .hosted c⟩ ∈ config.contexts
  contexts : ∀ scope stage, node.contexts.find? scope = some stage ↔
    ∃ c, ⟨scope, .hosted c⟩ ∈ config.contexts ∧ config.IsContext net tree c stage
  retrievalIds : ∀ id, node.retrievals.contains id = true ↔
    ∃ c, ⟨id, .hosted c⟩ ∈ config.retrievals
  retrievals : ∀ id stage, node.retrievals.find? id = some stage ↔
    ∃ c, ⟨id, .hosted c⟩ ∈ config.retrievals ∧ config.IsRetrieval net tree id c stage
  unserved : config.requestNum = none → node.recommender = none
  served : ∀ n, config.requestNum = some n →
    ∃ r, node.recommender = some r ∧ node.Recommends net config n r

/-! ### Indexers -/

variable {net : Network} {tree : FileTree} {config : PipelineConfig}
  {opened : List (String × Opened)}

theorem map_mapError_eq_ok_iff {ε ε' α β : Type} {x : Except ε α} {f : ε → ε'} {g : α → β}
    {b : β} : (x.mapError f).map g = .ok b ↔ ∃ a, x = .ok a ∧ g a = b := by
  cases x with
  | error e => simp [Except.mapError, Except.map]
  | ok a => simp [Except.mapError, Except.map]

/-- What is opened for an entry: the index that it loads, or a client of a peer. -/
theorem openIndexer_eq_ok_iff {name : String} {endpoint : IndexerEndpoint} {o : Opened} :
    openIndexer net tree name endpoint = .ok o ↔
      (∃ ix, endpoint.Loads tree ix ∧ .ofIndex ix = o) ∨
        ∃ addr remoteName, endpoint = .remote addr remoteName ∧
          ⟨none, (Channel.ofAddress addr).indexer net (remoteName.getD name)⟩ = o := by
  cases endpoint with
  | snapshot path =>
    rw [openIndexer, map_mapError_eq_ok_iff]
    constructor
    · rintro ⟨ix, hload, rfl⟩
      exact .inl ⟨ix, .snapshot hload, rfl⟩
    · rintro (⟨ix, ⟨hload⟩, rfl⟩ | ⟨addr, remoteName, h, -⟩)
      · exact ⟨ix, hload, rfl⟩
      · cases h
  | bulk path format =>
    rw [openIndexer, map_mapError_eq_ok_iff]
    constructor
    · rintro ⟨⟨ix, stats⟩, hbuild, rfl⟩
      exact .inl ⟨ix, .bulk hbuild, rfl⟩
    · rintro (⟨ix, hloads, rfl⟩ | ⟨addr, remoteName, h, -⟩)
      -- the statistics of the build are in the proof of loading only
      · obtain ⟨_, hbuild⟩ : ∃ stats, buildFromFile tree path format = .ok (ix, stats) := by
          cases hloads with
          | bulk hbuild => exact ⟨_, hbuild⟩
        exact ⟨_, hbuild, rfl⟩
      · cases h
  | remote addr remoteName =>
    rw [openIndexer]
    constructor
    · intro h
      exact .inr ⟨addr, remoteName, rfl, Except.ok.inj h⟩
    · rintro (⟨ix, hloads, -⟩ | ⟨addr', remoteName', h, rfl⟩)
      · cases hloads
      · cases h
        rfl

theorem exists_openIndexer_iff {name : String} {endpoint : IndexerEndpoint} :
    (∃ o, openIndexer net tree name endpoint = .ok o) ↔
      (endpoint.IsLocal → ∃ ix, endpoint.Loads tree ix) := by
  constructor
  · rintro ⟨o, ho⟩ hlocal
    rcases openIndexer_eq_ok_iff.1 ho with ⟨ix, hix, -⟩ | ⟨addr, remoteName, rfl, -⟩
    · exact ⟨ix, hix⟩
    · exact hlocal.elim
  · intro h
    -- for a peer there is nothing to load, and the right side holds of it vacuously
    by_cases hlocal : endpoint.IsLocal
    · obtain ⟨ix, hix⟩ := h hlocal
      exact ⟨_, openIndexer_eq_ok_iff.2 (.inl ⟨ix, hix, rfl⟩)⟩
    · cases endpoint with
      | snapshot path => exact absurd trivial hlocal
      | bulk path format => exact absurd trivial hlocal
      | remote addr remoteName => exact ⟨_, rfl⟩

/-- All indexers open iff the local ones load: a peer is not called when it is wired. -/
theorem exists_openAll_iff : (∃ opened, openAll net tree config = .ok opened) ↔
    ∀ name endpoint, config.indexers.find? name = some endpoint → endpoint.IsLocal →
      ∃ ix, endpoint.Loads tree ix := by
  simp only [openAll_eq_ok_iff, exists_forall₂_iff]
  constructor
  · intro h name endpoint hfind
    obtain ⟨o, -, ho⟩ := h (name, endpoint) (SortedMap.mem_toList_iff.2 hfind)
    exact exists_openIndexer_iff.1 ⟨o.2, ho⟩
  · rintro h ⟨name, endpoint⟩ hmem
    obtain ⟨o, ho⟩ :=
      exists_openIndexer_iff.2 (h name endpoint (SortedMap.mem_toList_iff.1 hmem))
    exact ⟨(name, o), rfl, ho⟩

/-- What is opened under a name is the indexer that is configured under it. -/
theorem mem_opened_iff (h : openAll net tree config = .ok opened) {name : String}
    {o : Opened} :
    (name, o) ∈ opened ↔ ∃ endpoint, config.indexers.find? name = some endpoint ∧
      openIndexer net tree name endpoint = .ok o := by
  have hrun := openAll_eq_ok_iff.1 h
  constructor
  · intro hmem
    obtain ⟨⟨name', endpoint⟩, he, heq, ho⟩ := exists_of_mem_forall₂ hrun.flip hmem
    cases heq
    exact ⟨endpoint, SortedMap.mem_toList_iff.1 he, ho⟩
  · rintro ⟨endpoint, hfind, ho⟩
    obtain ⟨⟨name', o'⟩, hmem, heq, ho'⟩ :=
      exists_of_mem_forall₂ hrun (SortedMap.mem_toList_iff.2 hfind)
    cases heq
    -- opening the same entry again gives the same
    rw [ho] at ho'
    cases ho'
    exact hmem

theorem nodup_names_of_openAll (h : openAll net tree config = .ok opened) :
    (opened.map Prod.fst).Nodup := by
  rw [names_of_openAll h]
  exact config.indexers.nodup_keys

/-- The node hosts the indexes that are loaded, under the names of their indexers. -/
theorem find?_indexesOf_openAll (h : openAll net tree config = .ok opened) {name : String}
    {ix : Index} :
    (indexesOf opened).find? name = some ix ↔
      ∃ endpoint, config.indexers.find? name = some endpoint ∧ endpoint.Loads tree ix := by
  rw [find?_indexesOf (nodup_names_of_openAll h)]
  constructor
  · rintro ⟨⟨_, o⟩, hmem, rfl, hindex⟩
    obtain ⟨endpoint, hfind, ho⟩ := (mem_opened_iff h).1 hmem
    rcases openIndexer_eq_ok_iff.1 ho with ⟨ix', hix', rfl⟩ | ⟨addr, remoteName, -, rfl⟩
    · cases hindex
      exact ⟨endpoint, hfind, hix'⟩
    -- a client of a peer is opened without an index
    · cases hindex
  · rintro ⟨endpoint, hfind, hix⟩
    have ho : openIndexer net tree name endpoint = .ok (.ofIndex ix) :=
      openIndexer_eq_ok_iff.2 (.inl ⟨ix, hix, rfl⟩)
    exact ⟨(name, .ofIndex ix), (mem_opened_iff h).2 ⟨endpoint, hfind, ho⟩, rfl, rfl⟩

theorem contains_indexesOf (h : openAll net tree config = .ok opened) (name : String) :
    (indexesOf opened).contains name = true ↔
      ∃ endpoint, config.indexers.find? name = some endpoint ∧ endpoint.IsLocal := by
  rw [SortedMap.contains, Option.isSome_iff_exists]
  constructor
  · rintro ⟨ix, hix⟩
    obtain ⟨endpoint, hfind, hloads⟩ := (find?_indexesOf_openAll h).1 hix
    exact ⟨endpoint, hfind, hloads.isLocal⟩
  · rintro ⟨endpoint, hfind, hlocal⟩
    obtain ⟨ix, hix⟩ := exists_openAll_iff.1 ⟨opened, h⟩ name endpoint hfind hlocal
    exact ⟨ix, (find?_indexesOf_openAll h).2 ⟨endpoint, hfind, hix⟩⟩

/-- The clients that stages are given are those of the configured indexers. -/
theorem find?_clientsOf (h : openAll net tree config = .ok opened) {name : String}
    {client : IndexerClient} :
    (clientsOf opened).find? name = some client ↔
      config.HasClient net tree name client := by
  have hnodup : ((opened.map fun e => (e.1, e.2.client)).map Prod.fst).Nodup := by
    rw [List.map_map]
    exact nodup_names_of_openAll h
  rw [clientsOf, SortedMap.find?_ofList hnodup]
  constructor
  · intro hmem
    obtain ⟨⟨_, o⟩, ho, heq⟩ := List.mem_map.1 hmem
    cases heq
    obtain ⟨endpoint, hfind, hopen⟩ := (mem_opened_iff h).1 ho
    refine ⟨endpoint, hfind, ?_⟩
    rcases openIndexer_eq_ok_iff.1 hopen with ⟨ix, hix, rfl⟩ | ⟨addr, remoteName, rfl, rfl⟩
    · exact .here hix
    · exact .there
  · rintro ⟨endpoint, hfind, hclient⟩
    -- it is enough to find the opened indexer whose client it is
    suffices ∃ o, openIndexer net tree name endpoint = .ok o ∧ o.client = client by
      obtain ⟨o, ho, rfl⟩ := this
      exact List.mem_map.2 ⟨(name, o), (mem_opened_iff h).2 ⟨endpoint, hfind, ho⟩, rfl⟩
    cases hclient with
    | here hix => exact ⟨_, openIndexer_eq_ok_iff.2 (.inl ⟨_, hix, rfl⟩), rfl⟩
    | there => exact ⟨_, rfl, rfl⟩

/-- A stage is given a client iff the indexer it names is configured. -/
theorem exists_client_iff (h : openAll net tree config = .ok opened) {name : String} :
    (∃ client, (clientsOf opened).find? name = some client) ↔
      config.indexers.contains name = true := by
  rw [SortedMap.contains, Option.isSome_iff_exists]
  constructor
  · rintro ⟨client, hclient⟩
    obtain ⟨endpoint, hfind, -⟩ := (find?_clientsOf h).1 hclient
    exact ⟨endpoint, hfind⟩
  · rintro ⟨endpoint, hfind⟩
    -- all indexers have been opened, this one among them
    obtain ⟨⟨name', o⟩, hmem, heq, ho⟩ :=
      exists_of_mem_forall₂ (openAll_eq_ok_iff.1 h) (SortedMap.mem_toList_iff.2 hfind)
    cases heq
    refine ⟨o.client, (SortedMap.find?_ofList ?_).2 (List.mem_map.2 ⟨_, hmem, rfl⟩)⟩
    rw [List.map_map]
    exact nodup_names_of_openAll h

/-! ### Stages -/

theorem keyedContext_iff_isContext (h : openAll net tree config = .ok opened)
    {c : KeyedContextConfig} {stage : KeyedContext} :
    keyedContext (clientsOf opened) c = .ok stage ↔ config.IsContext net tree c stage := by
  rw [keyedContext_eq_ok_iff]
  constructor
  · rintro ⟨client, hclient, rfl⟩
    exact ⟨rfl, rfl, rfl, (find?_clientsOf h).1 hclient⟩
  · rintro ⟨hsource, hkeyField, hfields, hindexer⟩
    refine ⟨stage.indexer, (find?_clientsOf h).2 hindexer, ?_⟩
    -- a stage is given by its parameters and its client
    rw [← hsource, ← hkeyField, ← hfields]

theorem contentRetrieval_iff_isRetrieval (h : openAll net tree config = .ok opened)
    {id : RetrievalId} {c : ContentRetrievalConfig} {stage : ContentRetrieval} :
    contentRetrieval (clientsOf opened) id c = .ok stage ↔
      c.itemKeys ≠ [] ∧ config.IsRetrieval net tree id c stage := by
  rw [contentRetrieval_eq_ok_iff, List.isEmpty_eq_false_iff]
  constructor
  · rintro ⟨hkeys, client, hclient, rfl⟩
    exact ⟨hkeys, rfl, rfl, rfl, rfl, rfl, (find?_clientsOf h).1 hclient⟩
  · rintro ⟨hkeys, hid, hmaxResults, hextract, hitemKeys, hfilterRules, hindexer⟩
    refine ⟨hkeys, stage.indexer, (find?_clientsOf h).2 hindexer, ?_⟩
    rw [← hid, ← hmaxResults, ← hextract, ← hitemKeys, ← hfilterRules]

/-- A context entry can be wired iff it is remote or names a configured indexer. -/
theorem exists_context_wires_iff (h : openAll net tree config = .ok opened)
    {e : ContextEntry} :
    (∃ w, e.Wires net (clientsOf opened) w) ↔
      ∀ c, e.endpoint = .hosted c → config.indexers.contains c.indexer = true := by
  obtain ⟨scope, endpoint⟩ := e
  constructor
  · rintro ⟨w, hw⟩ c rfl
    cases hw with
    | hosted hstage =>
      obtain ⟨client, hclient, -⟩ := keyedContext_eq_ok_iff.1 hstage
      exact (exists_client_iff h).1 ⟨client, hclient⟩
  · intro hnames
    cases endpoint with
    | hosted c =>
      obtain ⟨client, hclient⟩ := (exists_client_iff h).2 (hnames c rfl)
      exact ⟨_, .hosted (keyedContext_eq_ok_iff.2 ⟨client, hclient, rfl⟩)⟩
    | remote addr => exact ⟨_, .remote⟩

/-- A retrieval entry can be wired iff it is remote or names a configured indexer and
item keys. -/
theorem exists_retrieval_wires_iff (h : openAll net tree config = .ok opened)
    {e : RetrievalEntry} :
    (∃ w, e.Wires net (clientsOf opened) w) ↔
      ∀ c, e.endpoint = .hosted c →
        config.indexers.contains c.indexer = true ∧ c.itemKeys ≠ [] := by
  obtain ⟨id, endpoint⟩ := e
  constructor
  · rintro ⟨w, hw⟩ c rfl
    cases hw with
    | hosted hstage =>
      obtain ⟨hkeys, client, hclient, -⟩ := contentRetrieval_eq_ok_iff.1 hstage
      exact ⟨(exists_client_iff h).1 ⟨client, hclient⟩, List.isEmpty_eq_false_iff.1 hkeys⟩
  · intro hnames
    cases endpoint with
    | hosted c =>
      obtain ⟨hindexer, hkeys⟩ := hnames c rfl
      obtain ⟨client, hclient⟩ := (exists_client_iff h).2 hindexer
      exact ⟨_, .hosted (contentRetrieval_eq_ok_iff.2
        ⟨List.isEmpty_eq_false_iff.2 hkeys, client, hclient, rfl⟩)⟩
    | remote addr => exact ⟨_, .remote⟩

/-! ### The wired node -/

/-- Every sound configuration is wired, and no other. -/
theorem exists_ofConfig_iff_sound :
    (∃ node, ofConfig net tree config = .ok node) ↔ config.Sound tree := by
  simp only [ofConfig_eq_ok_iff_wires]
  constructor
  · rintro ⟨node, opened, contexts, retrievals, hopened, hscopes, hids, hcontexts,
      hretrievals, -⟩
    have hcontext := exists_forall₂_iff.1 ⟨contexts, hcontexts⟩
    have hretrieval := exists_forall₂_iff.1 ⟨retrievals, hretrievals⟩
    exact
      { loads := exists_openAll_iff.1 ⟨opened, hopened⟩
        scopes := hscopes
        ids := hids
        contextIndexer := fun e he => (exists_context_wires_iff hopened).1 (hcontext e he)
        retrievalIndexer := fun e he c hc =>
          ((exists_retrieval_wires_iff hopened).1 (hretrieval e he) c hc).1
        itemKeys := fun e he c hc =>
          ((exists_retrieval_wires_iff hopened).1 (hretrieval e he) c hc).2 }
  · intro hsound
    -- the clients depend on what was opened, so the indexers come first
    obtain ⟨opened, hopened⟩ := exists_openAll_iff.2 hsound.loads
    have hcontext : ∀ e ∈ config.contexts, ∃ w, e.Wires net (clientsOf opened) w :=
      fun e he => (exists_context_wires_iff hopened).2 (hsound.contextIndexer e he)
    have hretrieval : ∀ e ∈ config.retrievals, ∃ w, e.Wires net (clientsOf opened) w :=
      fun e he => (exists_retrieval_wires_iff hopened).2 fun c hc =>
        ⟨hsound.retrievalIndexer e he c hc, hsound.itemKeys e he c hc⟩
    obtain ⟨contexts, hcontexts⟩ := exists_forall₂_iff.2 hcontext
    obtain ⟨retrievals, hretrievals⟩ := exists_forall₂_iff.2 hretrieval
    exact ⟨_, opened, contexts, retrievals, hopened, hsound.scopes, hsound.ids, hcontexts,
      hretrievals, rfl⟩

/-- The context stages that the node hosts are those of the local entries. -/
theorem find?_host_contexts (h : openAll net tree config = .ok opened)
    {ws : List (WiredStage ScopeId KeyedContext ContextClient)}
    (hscopes : (config.contexts.map ContextEntry.scope).Nodup)
    (hws : List.Forall₂ (ContextEntry.Wires net (clientsOf opened)) config.contexts ws)
    (scope : ScopeId) (stage : KeyedContext) :
    (WiredStage.host .empty ws).find? scope = some stage ↔
      ∃ c, ⟨scope, .hosted c⟩ ∈ config.contexts ∧ config.IsContext net tree c stage := by
  rw [← map_key_contexts hws] at hscopes
  rw [WiredStage.find?_host_empty hscopes]
  constructor
  · rintro ⟨w, hw, rfl, hhosted⟩
    obtain ⟨e, he, hwires⟩ := exists_of_mem_forall₂ hws.flip hw
    cases hwires with
    | @hosted scope c _ hstage =>
      cases hhosted
      exact ⟨c, he, (keyedContext_iff_isContext h).1 hstage⟩
    | remote => cases hhosted
  · rintro ⟨c, he, hstage⟩
    obtain ⟨w, hw, hwires⟩ := exists_of_mem_forall₂ hws he
    cases hwires with
    | @hosted _ _ stage' hstage' =>
      -- an entry has one stage only
      rw [(keyedContext_iff_isContext h).2 hstage] at hstage'
      cases hstage'
      exact ⟨_, hw, rfl, rfl⟩

theorem contains_host_contexts (h : openAll net tree config = .ok opened)
    {ws : List (WiredStage ScopeId KeyedContext ContextClient)}
    (hscopes : (config.contexts.map ContextEntry.scope).Nodup)
    (hws : List.Forall₂ (ContextEntry.Wires net (clientsOf opened)) config.contexts ws)
    (scope : ScopeId) :
    (WiredStage.host .empty ws).contains scope = true ↔
      ∃ c, ⟨scope, .hosted c⟩ ∈ config.contexts := by
  rw [SortedMap.contains, Option.isSome_iff_exists]
  simp only [find?_host_contexts h hscopes hws]
  constructor
  · rintro ⟨stage, c, he, -⟩
    exact ⟨c, he⟩
  · rintro ⟨c, he⟩
    -- the entry was wired, so there is a stage for it
    obtain ⟨w, -, hwires⟩ := exists_of_mem_forall₂ hws he
    cases hwires with
    | hosted hstage => exact ⟨_, c, he, (keyedContext_iff_isContext h).1 hstage⟩

/-- The retrieval stages that the node hosts are those of the local entries. -/
theorem find?_host_retrievals (h : openAll net tree config = .ok opened)
    {ws : List (WiredStage RetrievalId ContentRetrieval RetrievalClient)}
    (hids : (config.retrievals.map RetrievalEntry.retrievalId).Nodup)
    (hws : List.Forall₂ (RetrievalEntry.Wires net (clientsOf opened)) config.retrievals ws)
    (id : RetrievalId) (stage : ContentRetrieval) :
    (WiredStage.host .empty ws).find? id = some stage ↔
      ∃ c, ⟨id, .hosted c⟩ ∈ config.retrievals ∧
        config.IsRetrieval net tree id c stage := by
  rw [← map_key_retrievals hws] at hids
  rw [WiredStage.find?_host_empty hids]
  constructor
  · rintro ⟨w, hw, rfl, hhosted⟩
    obtain ⟨e, he, hwires⟩ := exists_of_mem_forall₂ hws.flip hw
    cases hwires with
    | @hosted id c _ hstage =>
      cases hhosted
      exact ⟨c, he, ((contentRetrieval_iff_isRetrieval h).1 hstage).2⟩
    | remote => cases hhosted
  · rintro ⟨c, he, hstage⟩
    obtain ⟨w, hw, hwires⟩ := exists_of_mem_forall₂ hws he
    cases hwires with
    | @hosted _ _ stage' hstage' =>
      -- the stage was built, so the entry has item keys
      have hkeys := ((contentRetrieval_iff_isRetrieval h).1 hstage').1
      rw [(contentRetrieval_iff_isRetrieval h).2 ⟨hkeys, hstage⟩] at hstage'
      cases hstage'
      exact ⟨_, hw, rfl, rfl⟩

theorem contains_host_retrievals (h : openAll net tree config = .ok opened)
    {ws : List (WiredStage RetrievalId ContentRetrieval RetrievalClient)}
    (hids : (config.retrievals.map RetrievalEntry.retrievalId).Nodup)
    (hws : List.Forall₂ (RetrievalEntry.Wires net (clientsOf opened)) config.retrievals ws)
    (id : RetrievalId) :
    (WiredStage.host .empty ws).contains id = true ↔
      ∃ c, ⟨id, .hosted c⟩ ∈ config.retrievals := by
  rw [SortedMap.contains, Option.isSome_iff_exists]
  simp only [find?_host_retrievals h hids hws]
  constructor
  · rintro ⟨stage, c, he, -⟩
    exact ⟨c, he⟩
  · rintro ⟨c, he⟩
    obtain ⟨w, -, hwires⟩ := exists_of_mem_forall₂ hws he
    cases hwires with
    | hosted hstage => exact ⟨_, c, he, ((contentRetrieval_iff_isRetrieval h).1 hstage).2⟩

/-- The recommender calls the context entries in order. -/
theorem calls_contexts {node : Node}
    {ws : List (WiredStage ScopeId KeyedContext ContextClient)}
    (hnode : node.contexts = WiredStage.host .empty ws)
    (hscopes : (config.contexts.map ContextEntry.scope).Nodup)
    (hws : List.Forall₂ (ContextEntry.Wires net (clientsOf opened)) config.contexts ws) :
    List.Forall₂ (node.CallsContext net) config.contexts (ws.map fun w => (w.key, w.client)) := by
  rw [← map_key_contexts hws] at hscopes
  rw [List.forall₂_map_right_iff]
  obtain ⟨hlength, hzip⟩ := List.forall₂_iff_zip.1 hws
  -- an entry is called through what it was wired to, at the same place of the list
  refine List.forall₂_iff_zip.2 ⟨hlength, ?_⟩
  intro e w hmem
  obtain ⟨-, hw⟩ := List.of_mem_zip hmem
  cases hzip hmem with
  | hosted =>
    apply CallsContext.hosted
    rw [hnode]
    exact WiredStage.find?_host hscopes .empty hw rfl
  | remote =>
    dsimp only
    apply CallsContext.remote

/-- The recommender calls the retrieval entries in order. -/
theorem calls_retrievals {node : Node}
    {ws : List (WiredStage RetrievalId ContentRetrieval RetrievalClient)}
    (hnode : node.retrievals = WiredStage.host .empty ws)
    (hids : (config.retrievals.map RetrievalEntry.retrievalId).Nodup)
    (hws : List.Forall₂ (RetrievalEntry.Wires net (clientsOf opened)) config.retrievals ws) :
    List.Forall₂ (node.CallsRetrieval net) config.retrievals
      (ws.map WiredStage.client) := by
  rw [← map_key_retrievals hws] at hids
  rw [List.forall₂_map_right_iff]
  obtain ⟨hlength, hzip⟩ := List.forall₂_iff_zip.1 hws
  refine List.forall₂_iff_zip.2 ⟨hlength, ?_⟩
  intro e w hmem
  obtain ⟨-, hw⟩ := List.of_mem_zip hmem
  cases hzip hmem with
  | hosted =>
    apply CallsRetrieval.hosted
    rw [hnode]
    exact WiredStage.find?_host hids .empty hw rfl
  | remote =>
    dsimp only
    apply CallsRetrieval.remote

/-- What a wired node hosts, part by part. -/
theorem hosts_of_ofConfig {node : Node} (h : ofConfig net tree config = .ok node) :
    node.Hosts net tree config := by
  obtain ⟨opened, contexts, retrievals, hopened, hscopes, hids, hcontexts, hretrievals,
      rfl⟩ :=
    ofConfig_eq_ok_iff_wires.1 h
  exact
    { indexerNames := contains_indexesOf hopened
      indexers := fun name ix => find?_indexesOf_openAll hopened
      contextScopes := contains_host_contexts hopened hscopes hcontexts
      contexts := find?_host_contexts hopened hscopes hcontexts
      retrievalIds := contains_host_retrievals hopened hids hretrievals
      retrievals := find?_host_retrievals hopened hids hretrievals
      -- without a number of items to ask for there is no recommender
      unserved := by
        intro hnone
        rw [assemble, hnone, Option.map_none]
      served := by
        intro n hn
        refine ⟨_, by rw [assemble, hn, Option.map_some], rfl, rfl, ?_, ?_⟩
        · exact calls_contexts rfl hscopes hcontexts
        · exact calls_retrievals rfl hids hretrievals }

/-- **Wiring is accepted exactly when it is sound, and then hosts exactly what it
declares.** -/
theorem ofConfig_iff_sound (net : Network) (tree : FileTree) (config : PipelineConfig) :
    ((∃ node, ofConfig net tree config = .ok node) ↔ config.Sound tree) ∧
      ∀ node, ofConfig net tree config = .ok node → node.Hosts net tree config :=
  ⟨exists_ofConfig_iff_sound, fun _ => hosts_of_ofConfig⟩

/-- A file and a peer as indexers, of which each has a local stage, and two stages at
the peer. -/
theorem ofConfig_iff_sound_mixed :
    let format : BulkFormat := ⟨[1, 2], ",", none⟩
    let tree : FileTree := .directory [("items.csv", .file (Bytes.ofText "u,red\n"))]
    let config : PipelineConfig :=
      { indexers := .ofList
          [("items", .bulk "items.csv" format), ("users", .remote "peer:8080" none)]
        contexts := [⟨7, .remote "peer:8080"⟩,
          ⟨8, .hosted { indexer := "users", sourceScope := 0, sourceField := 1, fields := [2] }⟩]
        retrievals := [⟨4, .hosted
            { indexer := "items", extractScope := 8, extractField := 2, itemKeys := [1] }⟩,
          ⟨3, .remote "peer:8080"⟩]
        requestNum := some 5
        strict := true }
    config.Sound tree ∧ ∃ node, ofConfig .silent tree config = .ok node ∧
      node.Hosts .silent tree config := by
  intro format tree config
  have hsound : config.Sound tree := by
    refine ⟨?_, by decide, by decide, ?_, ?_, ?_⟩
    -- only the file is loaded
    · intro name endpoint hfind hlocal
      rcases SortedMap.mem_of_find?_ofList hfind with _ | ⟨_, _ | ⟨_, ⟨⟩⟩⟩
      · exact ⟨_, .bulk rfl⟩
      · exact hlocal.elim
    · rintro e (_ | ⟨_, _ | ⟨_, ⟨⟩⟩⟩) c ⟨⟩
      decide +kernel
    · rintro e (_ | ⟨_, _ | ⟨_, ⟨⟩⟩⟩) c ⟨⟩
      decide +kernel
    · rintro e (_ | ⟨_, _ | ⟨_, ⟨⟩⟩⟩) c ⟨⟩
      exact List.cons_ne_nil 1 []
  obtain ⟨hiff, hhosts⟩ := ofConfig_iff_sound .silent tree config
  obtain ⟨node, hnode⟩ := hiff.2 hsound
  exact ⟨hsound, node, hnode, hhosts node hnode⟩

end Node

end Recommend
