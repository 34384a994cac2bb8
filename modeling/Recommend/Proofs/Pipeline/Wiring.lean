import Mathlib.Data.List.Forall2
import Recommend.Pipeline.Node
import Recommend.Proofs.SortedMap
import Recommend.Proofs.Stage.Agreement

/-!
How a node is wired from its configuration.

Stages are wired one after the other, each under a scope or an id of its own.  What one
entry is wired to depends on the clients alone (`ContextEntry.Wires`,
`RetrievalEntry.Wires`), so a run over all entries succeeds iff no two of them have the
same key and each can be wired, and what it leaves behind is what they are wired to, in
order (`foldlM_eq_ok_iff`).  A node is the outcome of two such runs
(`ofConfig_eq_ok_iff_wires`).
-/

namespace Recommend

/-! ### Runs -/

section Runs

variable {ε α β κ γ σ σ' : Type}

/-- Two runs correspond if their steps do. -/
theorem foldlM_simulates {f : σ → α → Except ε σ} {g : σ' → β → Except ε σ'}
    {R : α → β → Prop} {V : σ → σ' → Prop}
    (hstep : ∀ s s' a b t, R a b → V s s' → f s a = .ok t → ∃ t', g s' b = .ok t' ∧ V t t')
    {l : List α} {m : List β} (h : List.Forall₂ R l m) {s t : σ} {s' : σ'} (hV : V s s')
    (hrun : l.foldlM f s = .ok t) : ∃ t', m.foldlM g s' = .ok t' ∧ V t t' := by
  -- on the two lists together; `V` carries over from one pair of states to the next
  induction h generalizing s s' with
  | nil =>
    cases hrun
    exact ⟨s', rfl, hV⟩
  | cons hab _ ih =>
    rw [List.foldlM_cons] at hrun
    obtain ⟨next, hfirst, hrest⟩ := exists_of_bind_eq_ok hrun
    obtain ⟨next', hfirst', hnext⟩ := hstep s s' _ _ next hab hV hfirst
    obtain ⟨t', hrest', ht⟩ := ih hnext hrest
    refine ⟨t', ?_, ht⟩
    rw [List.foldlM_cons, hfirst']
    exact hrest'

/-- If a step succeeds iff its key is free and its entry can be put in, then a run
succeeds iff the keys are distinct and free and all entries can be put in. -/
theorem foldlM_eq_ok_iff {f : σ → α → Except ε σ} {key : α → κ} (taken : σ → κ → Prop)
    {R : α → β → Prop} {put : σ → List β → σ} (hnil : ∀ s, put s [] = s)
    (hcons : ∀ s b bs, put (put s [b]) bs = put s (b :: bs))
    (hstep : ∀ s a t, f s a = .ok t ↔ ¬taken s (key a) ∧ ∃ b, R a b ∧ put s [b] = t)
    (htaken : ∀ s a b k, R a b → (taken (put s [b]) k ↔ k = key a ∨ taken s k))
    {l : List α} {s t : σ} :
    l.foldlM f s = .ok t ↔ (l.map key).Nodup ∧ (∀ a ∈ l, ¬taken s (key a)) ∧
      ∃ bs, List.Forall₂ R l bs ∧ put s bs = t := by
  -- on the entries that are left: the first one takes its key away from all others
  induction l generalizing s with
  | nil =>
    constructor
    · intro h
      cases h
      exact ⟨.nil, by simp, [], .nil, hnil _⟩
    · rintro ⟨-, -, bs, hbs, rfl⟩
      cases hbs
      rw [hnil]
      rfl
  | cons a l ih =>
    rw [List.foldlM_cons, List.map_cons, List.nodup_cons, List.forall_mem_cons]
    constructor
    · intro h
      obtain ⟨next, hfirst, hrest⟩ := exists_of_bind_eq_ok h
      obtain ⟨hfree, b, hb, rfl⟩ := (hstep s a next).1 hfirst
      obtain ⟨hnodup, hfrees, bs, hbs, rfl⟩ := ih.1 hrest
      -- what is free after the first step was free before it and has another key
      have hothers : ∀ a' ∈ l, ¬(key a' = key a ∨ taken s (key a')) := by
        intro a' ha' h'
        exact hfrees a' ha' ((htaken s a b (key a') hb).2 h')
      refine ⟨⟨?_, hnodup⟩, ⟨hfree, fun a' ha' h' => hothers a' ha' (.inr h')⟩, b :: bs,
        .cons hb hbs, (hcons s b bs).symm⟩
      intro hmem
      obtain ⟨a', ha', heq⟩ := List.mem_map.1 hmem
      exact hothers a' ha' (.inl heq)
    · rintro ⟨⟨hout, hnodup⟩, ⟨hfree, hfrees⟩, bs, hbs, rfl⟩
      cases hbs with
      | @cons _ b _ bs hb hbs =>
        have hfirst : f s a = .ok (put s [b]) := (hstep s a _).2 ⟨hfree, b, hb, rfl⟩
        rw [hfirst]
        refine ih.2 ⟨hnodup, ?_, bs, hbs, hcons s b bs⟩
        -- a key that is taken now is the one just used, or was taken before
        intro a' ha' h'
        rcases (htaken s a b (key a') hb).1 h' with heq | htaken'
        · exact hout (List.mem_map.2 ⟨a', ha', heq⟩)
        · exact hfrees a' ha' htaken'

/-- A list is opened if each of its members is. -/
theorem mapM_eq_ok_iff {f : α → Except ε β} {l : List α} {m : List β} :
    l.mapM f = .ok m ↔ List.Forall₂ (fun a b => f a = .ok b) l m := by
  constructor
  · intro h
    induction l generalizing m with
    | nil =>
      cases h
      exact .nil
    | cons a l ih =>
      rw [List.mapM_cons] at h
      obtain ⟨b, hfirst, h⟩ := exists_of_bind_eq_ok h
      obtain ⟨m', hrest, h⟩ := exists_of_bind_eq_ok h
      cases h
      exact .cons hfirst (ih hrest)
  · intro h
    induction h with
    | nil => rfl
    | cons hab _ ih =>
      rw [List.mapM_cons, hab, ih]
      rfl

/-- Each member of a list has a counterpart among what the list is related to. -/
theorem exists_of_mem_forall₂ {R : α → β → Prop} {l : List α} {m : List β}
    (h : List.Forall₂ R l m) {a : α} (ha : a ∈ l) : ∃ b ∈ m, R a b := by
  induction h with
  | nil => cases ha
  | cons hab _ ih =>
    rcases List.mem_cons.1 ha with rfl | ha
    · exact ⟨_, List.mem_cons_self, hab⟩
    · obtain ⟨b, hb, hR⟩ := ih ha
      exact ⟨b, List.mem_cons_of_mem _ hb, hR⟩

/-- A list is related to some list iff each of its members is related to something. -/
theorem exists_forall₂_iff {R : α → β → Prop} {l : List α} :
    (∃ m, List.Forall₂ R l m) ↔ ∀ a ∈ l, ∃ b, R a b := by
  constructor
  · rintro ⟨m, h⟩ a ha
    obtain ⟨b, -, hR⟩ := exists_of_mem_forall₂ h ha
    exact ⟨b, hR⟩
  · intro h
    induction l with
    | nil => exact ⟨[], .nil⟩
    | cons a l ih =>
      rw [List.forall_mem_cons] at h
      obtain ⟨b, hR⟩ := h.1
      obtain ⟨m, hm⟩ := ih h.2
      exact ⟨b :: m, .cons hR hm⟩

/-- What two lists are related to is related if it is so member by member. -/
theorem forall₂_square {α' β' : Type} {R : α → β → Prop} {S : α → α' → Prop}
    {R' : α' → β' → Prop} {V : β → β' → Prop}
    (hstep : ∀ a b a', R a b → S a a' → ∃ b', R' a' b' ∧ V b b') {l : List α}
    {m : List β} {l' : List α'} (hR : List.Forall₂ R l m) (hS : List.Forall₂ S l l') :
    ∃ m', List.Forall₂ R' l' m' ∧ List.Forall₂ V m m' := by
  induction hR generalizing l' with
  | nil =>
    cases hS
    exact ⟨[], .nil, .nil⟩
  | cons hab _ ih =>
    cases hS with
    | cons haa' hS =>
      obtain ⟨b', hb', hV⟩ := hstep _ _ _ hab haa'
      obtain ⟨m', hm', hVs⟩ := ih hS
      exact ⟨b' :: m', .cons hb' hm', .cons hV hVs⟩

end Runs

/-! ### Local parts -/

/-- The index is not asked of a peer. -/
def IndexerEndpoint.IsLocal : IndexerEndpoint → Prop
  | .snapshot _ => True
  | .bulk _ _ => True
  | .remote _ _ => False

/-- The stage runs on this node. -/
def StageEndpoint.IsLocal {α : Type} : StageEndpoint α → Prop
  | .hosted _ => True
  | .remote _ => False

theorem StageEndpoint.IsLocal.exists_hosted {α : Type} {endpoint : StageEndpoint α}
    (h : endpoint.IsLocal) : ∃ c, endpoint = .hosted c := by
  cases endpoint with
  | hosted c => exact ⟨c, rfl⟩
  | remote addr => exact h.elim

/-- All indexers and stages are on this node. -/
structure PipelineConfig.IsLocal (config : PipelineConfig) : Prop where
  indexers : ∀ e ∈ config.indexers.toList, e.2.IsLocal
  contexts : ∀ e ∈ config.contexts, e.endpoint.IsLocal
  retrievals : ∀ e ∈ config.retrievals, e.endpoint.IsLocal

/-! ### Indexers -/

namespace Node

variable {net : Network} {tree : FileTree}

/-- The clients by the names of their indexers. -/
def clientsOf (opened : List (String × Opened)) : SortedMap String IndexerClient :=
  .ofList (opened.map fun e => (e.1, e.2.client))

/-- The indexes that are local, by their names. -/
def indexesOf (opened : List (String × Opened)) : SortedMap String Index :=
  .ofList (opened.filterMap fun e => e.2.index.map fun ix => (e.1, ix))

/-- A local indexer is opened with its index. -/
theorem openIndexer_of_isLocal {name : String} {endpoint : IndexerEndpoint}
    (hlocal : endpoint.IsLocal) {o : Opened}
    (h : openIndexer net tree name endpoint = .ok o) : ∃ ix, o = .ofIndex ix := by
  -- whatever loads, the result is made of an index
  have hmap : ∀ {ε α : Type} {x : Except ε α} {f : α → Opened}, x.map f = .ok o →
      ∃ a, o = f a := by
    intro ε α x f hx
    cases x with
    | error e => cases hx
    | ok a =>
      cases hx
      exact ⟨a, rfl⟩
  cases endpoint with
  | snapshot path => exact hmap h
  | bulk path format =>
    obtain ⟨⟨ix, _⟩, ho⟩ := hmap h
    exact ⟨ix, ho⟩
  | remote addr remoteName => exact hlocal.elim

/-- All indexers are opened one by one, under their names. -/
theorem openAll_eq_ok_iff {config : PipelineConfig} {opened : List (String × Opened)} :
    openAll net tree config = .ok opened ↔
      List.Forall₂ (fun e o => o.1 = e.1 ∧ openIndexer net tree e.1 e.2 = .ok o.2)
        config.indexers.toList opened := by
  rw [openAll, mapM_eq_ok_iff]
  have hiff : ∀ (e : String × IndexerEndpoint) (o : String × Opened),
      ((openIndexer net tree e.1 e.2).map fun opened => (e.1, opened)) = .ok o ↔
        o.1 = e.1 ∧ openIndexer net tree e.1 e.2 = .ok o.2 := by
    rintro ⟨name, endpoint⟩ ⟨name', o⟩
    cases hopen : openIndexer net tree name endpoint with
    | error e => simp [Except.map]
    | ok opened => simp [Except.map, eq_comm]
  constructor
  · exact List.Forall₂.imp fun e o h => (hiff e o).1 h
  · exact List.Forall₂.imp fun e o h => (hiff e o).2 h

/-- What is opened has the names of the configuration, in their order. -/
theorem names_of_openAll {config : PipelineConfig} {opened : List (String × Opened)}
    (h : openAll net tree config = .ok opened) :
    opened.map Prod.fst = config.indexers.keys := by
  have hnames : List.Forall₂
      (fun (e : String × IndexerEndpoint) (o : String × Opened) => o.1 = e.1)
      config.indexers.toList opened := (openAll_eq_ok_iff.1 h).imp fun e o heo => heo.1
  show _ = config.indexers.toList.map Prod.fst
  -- the two lists go together, so this is an induction on both
  clear h
  generalize config.indexers.toList = entries at hnames
  induction hnames with
  | nil => rfl
  | cons hname _ ih => rw [List.map_cons, List.map_cons, hname, ih]

/-- The indexes that are hosted are those that were opened here. -/
theorem find?_indexesOf {opened : List (String × Opened)}
    (hnodup : (opened.map Prod.fst).Nodup) {name : String} {ix : Index} :
    (indexesOf opened).find? name = some ix ↔
      ∃ e ∈ opened, e.1 = name ∧ e.2.index = some ix :=
  SortedMap.find?_ofList_filterMap hnodup

/-- Every local indexer is an index that the node hosts under its name. -/
theorem hosts_indexers {config : PipelineConfig}
    (hlocal : ∀ e ∈ config.indexers.toList, e.2.IsLocal)
    {opened : List (String × Opened)} (h : openAll net tree config = .ok opened) :
    List.Forall₂ (fun e o => ∃ ix, o = (e.1, .ofIndex ix) ∧
        openIndexer net tree e.1 e.2 = .ok (.ofIndex ix) ∧
          (indexesOf opened).find? e.1 = some ix)
      config.indexers.toList opened := by
  have hnodup : (opened.map Prod.fst).Nodup := by
    rw [names_of_openAll h]
    exact config.indexers.nodup_keys
  obtain ⟨hlength, hopened⟩ := List.forall₂_iff_zip.1 (openAll_eq_ok_iff.1 h)
  -- the statement mentions all that was opened, so the induction is left to the lists
  -- of pairs
  refine List.forall₂_iff_zip.2 ⟨hlength, ?_⟩
  rintro e ⟨name, o⟩ hmem
  obtain ⟨he, ho⟩ := List.of_mem_zip hmem
  obtain ⟨rfl, hopen⟩ := hopened hmem
  obtain ⟨ix, rfl⟩ := openIndexer_of_isLocal (hlocal e he) hopen
  exact ⟨ix, rfl, hopen, (find?_indexesOf hnodup).2 ⟨_, ho, rfl, rfl⟩⟩

end Node

/-! ### Stages -/

namespace Recommender

variable {r : Recommender} {scope : ScopeId}

theorem addContext_of_mem (h : scope ∈ r.contexts.map Prod.fst) (client : ContextClient) :
    r.addContext scope client = .error ⟨scope⟩ := by
  obtain ⟨e, he, rfl⟩ := List.mem_map.1 h
  rw [addContext, if_pos]
  exact List.any_eq_true.2 ⟨e, he, decide_eq_true rfl⟩

theorem addContext_of_notMem (h : scope ∉ r.contexts.map Prod.fst)
    (client : ContextClient) :
    r.addContext scope client =
      .ok { r with contexts := r.contexts ++ [(scope, client)] } := by
  rw [addContext, if_neg]
  intro hany
  obtain ⟨e, he, heq⟩ := List.any_eq_true.1 hany
  exact h (List.mem_map.2 ⟨e, he, of_decide_eq_true heq⟩)

end Recommender

namespace Node

variable {net : Network} {clients : SortedMap String IndexerClient} {s t : Stages}

theorem keyedContext_eq_ok_iff {c : KeyedContextConfig} {stage : KeyedContext} :
    keyedContext clients c = .ok stage ↔ ∃ client, clients.find? c.indexer = some client ∧
      ⟨⟨c.sourceScope, c.sourceField⟩, c.keyField.getD c.sourceField, c.fields, client⟩ =
        stage := by
  rw [keyedContext, clientOf]
  cases hfind : clients.find? c.indexer with
  | none => simp [bind, Except.bind]
  | some client => simp [bind, Except.bind]

theorem contentRetrieval_eq_ok_iff {id : RetrievalId} {c : ContentRetrievalConfig}
    {stage : ContentRetrieval} :
    contentRetrieval clients id c = .ok stage ↔ c.itemKeys.isEmpty = false ∧
      ∃ client, clients.find? c.indexer = some client ∧
        ⟨id, c.maxResults, ⟨c.extractScope, c.extractField⟩, c.itemKeys, c.filterRules,
          client⟩ = stage := by
  rw [contentRetrieval, clientOf]
  cases hkeys : c.itemKeys.isEmpty with
  | true => simp
  | false =>
    cases hfind : clients.find? c.indexer with
    | none => simp [bind, Except.bind]
    | some client => simp [bind, Except.bind]

/-- The scopes that have a writer. -/
def Stages.scopes (s : Stages) : List ScopeId := s.recommender.contexts.map Prod.fst

/-- The stages with one more context stage. -/
def Stages.withContext (s : Stages) (scope : ScopeId) (client : ContextClient) : Stages :=
  { s with
    recommender := { s.recommender with
      contexts := s.recommender.contexts ++ [(scope, client)] } }

/-- The stages with one more retrieval stage. -/
def Stages.withRetrieval (s : Stages) (id : RetrievalId) (client : RetrievalClient) :
    Stages :=
  { s with
    wired := id :: s.wired
    recommender := { s.recommender with
      retrievals := s.recommender.retrievals ++ [client] } }

/-- The stages with one more context stage, hosted here. -/
def Stages.hostContext (s : Stages) (scope : ScopeId) (stage : KeyedContext) : Stages :=
  { s.withContext scope stage.answer with contexts := s.contexts.insert scope stage }

/-- The stages with one more retrieval stage, hosted here. -/
def Stages.hostRetrieval (s : Stages) (id : RetrievalId) (stage : ContentRetrieval) :
    Stages :=
  { s.withRetrieval id stage.answer with retrievals := s.retrievals.insert id stage }

theorem addContext_hosted_iff {scope : ScopeId} {c : KeyedContextConfig} :
    addContext net clients s ⟨scope, .hosted c⟩ = .ok t ↔
      scope ∉ s.scopes ∧ ∃ stage, keyedContext clients c = .ok stage ∧
        s.hostContext scope stage = t := by
  rw [addContext]
  dsimp only
  -- the stage is built first, so its error comes before that of a taken scope
  cases hstage : keyedContext clients c with
  | error e => simp [bind, Except.bind]
  | ok stage =>
    by_cases hmem : scope ∈ s.scopes
    · simp [bind, Except.bind, Recommender.addContext_of_mem hmem, Except.mapError, hmem]
    · simp [bind, Except.bind, Recommender.addContext_of_notMem hmem, Except.mapError, hmem,
        Stages.hostContext, Stages.withContext]

theorem addContext_remote_iff {scope : ScopeId} {addr : String} :
    addContext net clients s ⟨scope, .remote addr⟩ = .ok t ↔
      scope ∉ s.scopes ∧
        s.withContext scope ((Channel.ofAddress addr).context net scope) = t := by
  rw [addContext]
  dsimp only
  by_cases hmem : scope ∈ s.scopes
  · simp [bind, Except.bind, Recommender.addContext_of_mem hmem, Except.mapError, hmem]
  · simp [bind, Except.bind, Recommender.addContext_of_notMem hmem, Except.mapError, hmem,
      Stages.withContext]

theorem addRetrieval_hosted_iff {id : RetrievalId} {c : ContentRetrievalConfig} :
    addRetrieval net clients s ⟨id, .hosted c⟩ = .ok t ↔
      id ∉ s.wired ∧ ∃ stage, contentRetrieval clients id c = .ok stage ∧
        s.hostRetrieval id stage = t := by
  rw [addRetrieval]
  dsimp only
  -- here the id is looked at first
  by_cases hmem : id ∈ s.wired
  · simp [hmem]
  · cases hstage : contentRetrieval clients id c with
    | error e => simp [hmem, bind, Except.bind]
    | ok stage =>
      simp [hmem, bind, Except.bind, Stages.hostRetrieval, Stages.withRetrieval,
        Recommender.addRetrieval]

theorem addRetrieval_remote_iff {id : RetrievalId} {addr : String} :
    addRetrieval net clients s ⟨id, .remote addr⟩ = .ok t ↔
      id ∉ s.wired ∧
        s.withRetrieval id ((Channel.ofAddress addr).retrieval net id) = t := by
  rw [addRetrieval]
  dsimp only
  by_cases hmem : id ∈ s.wired
  · simp [hmem]
  · simp [hmem, Stages.withRetrieval, Recommender.addRetrieval]

/-! ### What entries are wired to -/

end Node

/-- A stage as it is wired: its key, the stage itself if it is hosted here, and the
client that the recommender calls. -/
structure WiredStage (κ σ γ : Type) where
  key : κ
  hosted : Option σ
  client : γ

/-- The map with the stages that are hosted. -/
def WiredStage.host {κ σ γ : Type} [Ord κ] [Std.TransOrd κ] [Std.LawfulEqOrd κ]
    (m : SortedMap κ σ) (ws : List (WiredStage κ σ γ)) : SortedMap κ σ :=
  (ws.filterMap fun w => w.hosted.map fun stage => (w.key, stage)).foldl
    (fun m e => m.insert e.1 e.2) m

theorem WiredStage.host_cons {κ σ γ : Type} [Ord κ] [Std.TransOrd κ] [Std.LawfulEqOrd κ]
    (m : SortedMap κ σ) (w : WiredStage κ σ γ) (ws : List (WiredStage κ σ γ)) :
    host (host m [w]) ws = host m (w :: ws) := by
  rw [host, host, host, ← List.foldl_append, ← List.filterMap_append]
  rfl

/-- A stage that is wired here is hosted under its key. -/
theorem WiredStage.find?_host {κ σ γ : Type} [Ord κ] [Std.TransOrd κ]
    [Std.LawfulEqOrd κ] {ws : List (WiredStage κ σ γ)}
    (hnodup : (ws.map WiredStage.key).Nodup) (m : SortedMap κ σ) {w : WiredStage κ σ γ}
    (hw : w ∈ ws) {stage : σ} (hstage : w.hosted = some stage) :
    (host m ws).find? w.key = some stage :=
  (SortedMap.find?_foldl_insert_filterMap hnodup m).2 (.inl ⟨w, hw, rfl, hstage⟩)

/-- Nothing else is hosted. -/
theorem WiredStage.find?_host_empty {κ σ γ : Type} [Ord κ] [Std.TransOrd κ]
    [Std.LawfulEqOrd κ] {ws : List (WiredStage κ σ γ)}
    (hnodup : (ws.map WiredStage.key).Nodup) {k : κ} {stage : σ} :
    (host .empty ws).find? k = some stage ↔ ∃ w ∈ ws, w.key = k ∧ w.hosted = some stage :=
  SortedMap.find?_ofList_filterMap hnodup

open Node in
/-- What a context entry is wired to. -/
inductive ContextEntry.Wires (net : Network) (clients : SortedMap String IndexerClient) :
    ContextEntry → WiredStage ScopeId KeyedContext ContextClient → Prop
  | hosted {scope : ScopeId} {c : KeyedContextConfig} {stage : KeyedContext}
    (h : keyedContext clients c = .ok stage) :
    Wires net clients ⟨scope, .hosted c⟩ ⟨scope, some stage, stage.answer⟩
  | remote {scope : ScopeId} {addr : String} :
    Wires net clients ⟨scope, .remote addr⟩
      ⟨scope, none, (Channel.ofAddress addr).context net scope⟩

open Node in
/-- What a retrieval entry is wired to. -/
inductive RetrievalEntry.Wires (net : Network) (clients : SortedMap String IndexerClient) :
    RetrievalEntry → WiredStage RetrievalId ContentRetrieval RetrievalClient → Prop
  | hosted {id : RetrievalId} {c : ContentRetrievalConfig} {stage : ContentRetrieval}
    (h : contentRetrieval clients id c = .ok stage) :
    Wires net clients ⟨id, .hosted c⟩ ⟨id, some stage, stage.answer⟩
  | remote {id : RetrievalId} {addr : String} :
    Wires net clients ⟨id, .remote addr⟩
      ⟨id, none, (Channel.ofAddress addr).retrieval net id⟩

section Wires

variable {net : Network} {clients : SortedMap String IndexerClient}

theorem ContextEntry.Wires.key_eq {e : ContextEntry}
    {w : WiredStage ScopeId KeyedContext ContextClient}
    (h : e.Wires net clients w) : w.key = e.scope := by
  cases h <;> rfl

theorem RetrievalEntry.Wires.key_eq {e : RetrievalEntry}
    {w : WiredStage RetrievalId ContentRetrieval RetrievalClient}
    (h : e.Wires net clients w) : w.key = e.retrievalId := by
  cases h <;> rfl

end Wires

namespace Node

variable {net : Network} {clients : SortedMap String IndexerClient} {s t : Stages}

/-- The stages with more context stages behind the others. -/
def Stages.withContexts (s : Stages)
    (ws : List (WiredStage ScopeId KeyedContext ContextClient)) : Stages :=
  { s with
    contexts := WiredStage.host s.contexts ws
    recommender := { s.recommender with
      contexts := s.recommender.contexts ++ ws.map fun w => (w.key, w.client) } }

/-- The stages with more retrieval stages behind the others. -/
def Stages.withRetrievals (s : Stages)
    (ws : List (WiredStage RetrievalId ContentRetrieval RetrievalClient)) : Stages :=
  { s with
    retrievals := WiredStage.host s.retrievals ws
    wired := (ws.map WiredStage.key).reverse ++ s.wired
    recommender := { s.recommender with
      retrievals := s.recommender.retrievals ++ ws.map WiredStage.client } }

theorem Stages.withContexts_hosted (s : Stages) (scope : ScopeId) (stage : KeyedContext) :
    s.withContexts [⟨scope, some stage, stage.answer⟩] = s.hostContext scope stage := rfl

theorem Stages.withContexts_remote (s : Stages) (scope : ScopeId) (client : ContextClient) :
    s.withContexts [⟨scope, none, client⟩] = s.withContext scope client := rfl

theorem Stages.withRetrievals_hosted (s : Stages) (id : RetrievalId)
    (stage : ContentRetrieval) :
    s.withRetrievals [⟨id, some stage, stage.answer⟩] = s.hostRetrieval id stage := rfl

theorem Stages.withRetrievals_remote (s : Stages) (id : RetrievalId)
    (client : RetrievalClient) :
    s.withRetrievals [⟨id, none, client⟩] = s.withRetrieval id client := rfl

theorem Stages.withContexts_cons (s : Stages)
    (w : WiredStage ScopeId KeyedContext ContextClient)
    (ws : List (WiredStage ScopeId KeyedContext ContextClient)) :
    (s.withContexts [w]).withContexts ws = s.withContexts (w :: ws) := by
  simp [withContexts, WiredStage.host_cons]

theorem Stages.withRetrievals_cons (s : Stages)
    (w : WiredStage RetrievalId ContentRetrieval RetrievalClient)
    (ws : List (WiredStage RetrievalId ContentRetrieval RetrievalClient)) :
    (s.withRetrievals [w]).withRetrievals ws = s.withRetrievals (w :: ws) := by
  simp [withRetrievals, WiredStage.host_cons]

/-- Wiring a context entry: its scope is free and it can be wired. -/
theorem addContext_eq_ok_iff {entry : ContextEntry} :
    addContext net clients s entry = .ok t ↔
      entry.scope ∉ s.scopes ∧ ∃ w, entry.Wires net clients w ∧ s.withContexts [w] = t := by
  obtain ⟨scope, endpoint⟩ := entry
  cases endpoint with
  | hosted c =>
    rw [addContext_hosted_iff]
    constructor
    · rintro ⟨hfree, stage, hstage, rfl⟩
      exact ⟨hfree, _, .hosted hstage, s.withContexts_hosted scope stage⟩
    · rintro ⟨hfree, _, ⟨hstage⟩, rfl⟩
      exact ⟨hfree, _, hstage, (s.withContexts_hosted scope _).symm⟩
  | remote addr =>
    -- a stage at a peer is called but not hosted
    rw [addContext_remote_iff, ← Stages.withContexts_remote]
    constructor
    · rintro ⟨hfree, rfl⟩
      exact ⟨hfree, _, .remote, rfl⟩
    · rintro ⟨hfree, _, ⟨⟩, rfl⟩
      exact ⟨hfree, rfl⟩

/-- Wiring a retrieval entry: its id is free and it can be wired. -/
theorem addRetrieval_eq_ok_iff {entry : RetrievalEntry} :
    addRetrieval net clients s entry = .ok t ↔
      entry.retrievalId ∉ s.wired ∧ ∃ w, entry.Wires net clients w ∧
        s.withRetrievals [w] = t := by
  obtain ⟨id, endpoint⟩ := entry
  cases endpoint with
  | hosted c =>
    rw [addRetrieval_hosted_iff]
    constructor
    · rintro ⟨hfree, stage, hstage, rfl⟩
      exact ⟨hfree, _, .hosted hstage, s.withRetrievals_hosted id stage⟩
    · rintro ⟨hfree, _, ⟨hstage⟩, rfl⟩
      exact ⟨hfree, _, hstage, (s.withRetrievals_hosted id _).symm⟩
  | remote addr =>
    rw [addRetrieval_remote_iff, ← Stages.withRetrievals_remote]
    constructor
    · rintro ⟨hfree, rfl⟩
      exact ⟨hfree, _, .remote, rfl⟩
    · rintro ⟨hfree, _, ⟨⟩, rfl⟩
      exact ⟨hfree, rfl⟩

/-- Wiring all context entries. -/
theorem contexts_eq_ok_iff {entries : List ContextEntry} :
    entries.foldlM (addContext net clients) s = .ok t ↔
      (entries.map ContextEntry.scope).Nodup ∧ (∀ e ∈ entries, e.scope ∉ s.scopes) ∧
        ∃ ws, List.Forall₂ (ContextEntry.Wires net clients) entries ws ∧
          s.withContexts ws = t := by
  apply foldlM_eq_ok_iff fun (s : Stages) scope => scope ∈ s.scopes
  · intro s
    simp [Stages.withContexts, WiredStage.host]
  · exact Stages.withContexts_cons
  · intro s e t
    exact addContext_eq_ok_iff
  -- the scope of a stage that is put in is taken, and no other one besides
  · intro s e w scope hw
    simp [Stages.withContexts, Stages.scopes, hw.key_eq, or_comm]

/-- Wiring all retrieval entries. -/
theorem retrievals_eq_ok_iff {entries : List RetrievalEntry} :
    entries.foldlM (addRetrieval net clients) s = .ok t ↔
      (entries.map RetrievalEntry.retrievalId).Nodup ∧
        (∀ e ∈ entries, e.retrievalId ∉ s.wired) ∧
        ∃ ws, List.Forall₂ (RetrievalEntry.Wires net clients) entries ws ∧
          s.withRetrievals ws = t := by
  apply foldlM_eq_ok_iff fun (s : Stages) id => id ∈ s.wired
  · intro s
    simp [Stages.withRetrievals, WiredStage.host]
  · exact Stages.withRetrievals_cons
  · intro s e t
    exact addRetrieval_eq_ok_iff
  · intro s e w id hw
    simp [Stages.withRetrievals, hw.key_eq]

/-! ### The wired node -/

theorem map_key_contexts {entries : List ContextEntry}
    {ws : List (WiredStage ScopeId KeyedContext ContextClient)}
    (h : List.Forall₂ (ContextEntry.Wires net clients) entries ws) :
    ws.map WiredStage.key = entries.map ContextEntry.scope := by
  induction h with
  | nil => rfl
  | cons hw _ ih => rw [List.map_cons, List.map_cons, hw.key_eq, ih]

theorem map_key_retrievals {entries : List RetrievalEntry}
    {ws : List (WiredStage RetrievalId ContentRetrieval RetrievalClient)}
    (h : List.Forall₂ (RetrievalEntry.Wires net clients) entries ws) :
    ws.map WiredStage.key = entries.map RetrievalEntry.retrievalId := by
  induction h with
  | nil => rfl
  | cons hw _ ih => rw [List.map_cons, List.map_cons, hw.key_eq, ih]

/-- Every local context stage is hosted under its scope. -/
theorem hosts_contexts {entries : List ContextEntry}
    (hrun : entries.foldlM (addContext net clients) s = .ok t) :
    ∀ e ∈ entries, ∀ c, e.endpoint = .hosted c →
      ∃ stage, keyedContext clients c = .ok stage ∧
        t.contexts.find? e.scope = some stage := by
  obtain ⟨hnodup, -, ws, hws, rfl⟩ := contexts_eq_ok_iff.1 hrun
  -- no two entries have one scope, so no later stage takes the place of this one
  rw [← map_key_contexts hws] at hnodup
  intro e he c hc
  obtain ⟨w, hw, hwires⟩ := exists_of_mem_forall₂ hws he
  obtain ⟨scope, endpoint⟩ := e
  subst hc
  cases hwires with
  | hosted hstage => exact ⟨_, hstage, WiredStage.find?_host hnodup s.contexts hw rfl⟩

/-- Every local retrieval stage is hosted under its id, and the context stages stay
hosted. -/
theorem hosts_retrievals {entries : List RetrievalEntry}
    (hrun : entries.foldlM (addRetrieval net clients) s = .ok t) :
    (∀ e ∈ entries, ∀ c, e.endpoint = .hosted c →
      ∃ stage, contentRetrieval clients e.retrievalId c = .ok stage ∧
        t.retrievals.find? e.retrievalId = some stage) ∧
      t.contexts = s.contexts := by
  obtain ⟨hnodup, -, ws, hws, rfl⟩ := retrievals_eq_ok_iff.1 hrun
  rw [← map_key_retrievals hws] at hnodup
  refine ⟨?_, rfl⟩
  intro e he c hc
  obtain ⟨w, hw, hwires⟩ := exists_of_mem_forall₂ hws he
  obtain ⟨id, endpoint⟩ := e
  subst hc
  cases hwires with
  | hosted hstage => exact ⟨_, hstage, WiredStage.find?_host hnodup s.retrievals hw rfl⟩

/-- The steps in which a node is wired. -/
theorem ofConfig_eq_ok_iff {tree : FileTree} {config : PipelineConfig} {node : Node} :
    ofConfig net tree config = .ok node ↔ ∃ opened s t,
      openAll net tree config = .ok opened ∧
      config.contexts.foldlM (addContext net (clientsOf opened))
        { recommender := emptyRecommender config } = .ok s ∧
      config.retrievals.foldlM (addRetrieval net (clientsOf opened)) s = .ok t ∧
      ⟨indexesOf opened, t.contexts, t.retrievals,
        config.requestNum.map fun _ => t.recommender⟩ = node := by
  constructor
  · intro h
    obtain ⟨opened, hopened, h⟩ := exists_of_bind_eq_ok h
    obtain ⟨s, hs, h⟩ := exists_of_bind_eq_ok h
    obtain ⟨t, ht, h⟩ := exists_of_bind_eq_ok h
    cases h
    exact ⟨opened, s, t, hopened, hs, ht, rfl⟩
  · rintro ⟨opened, s, t, hopened, hs, ht, rfl⟩
    rw [ofConfig, hopened]
    -- each `show` brings out the next step of the do block
    show (config.contexts.foldlM (addContext net (clientsOf opened)) _ >>= _) = _
    rw [hs]
    show (config.retrievals.foldlM (addRetrieval net (clientsOf opened)) s >>= _) = _
    rw [ht]
    rfl

/-- The node of the indexers that were opened and the stages that were wired. -/
def assemble (config : PipelineConfig) (opened : List (String × Opened))
    (contexts : List (WiredStage ScopeId KeyedContext ContextClient))
    (retrievals : List (WiredStage RetrievalId ContentRetrieval RetrievalClient)) :
    Node where
  indexers := indexesOf opened
  contexts := WiredStage.host .empty contexts
  retrievals := WiredStage.host .empty retrievals
  recommender := config.requestNum.map fun n =>
    { requestNum := n
      policy := if config.strict then .strict else .bestEffort
      contexts := contexts.map fun w => (w.key, w.client)
      retrievals := retrievals.map WiredStage.client }

/-- The stages of two runs make the node. -/
theorem assemble_eq (config : PipelineConfig) (opened : List (String × Opened))
    (contexts : List (WiredStage ScopeId KeyedContext ContextClient))
    (retrievals : List (WiredStage RetrievalId ContentRetrieval RetrievalClient)) :
    let stages := (Stages.withContexts
      { recommender := emptyRecommender config } contexts).withRetrievals retrievals
    assemble config opened contexts retrievals =
      ⟨indexesOf opened, stages.contexts, stages.retrievals,
        config.requestNum.map fun _ => stages.recommender⟩ := by
  intro stages
  rw [assemble]
  congr 1
  -- without a number of items there is no recommender to compare
  cases hnum : config.requestNum with
  | none => rfl
  | some n =>
    simp [stages, Stages.withContexts, Stages.withRetrievals, emptyRecommender, hnum]

/-- A node is wired iff its indexers open, no key is used twice and every entry can be
wired. -/
theorem ofConfig_eq_ok_iff_wires {tree : FileTree} {config : PipelineConfig} {node : Node} :
    ofConfig net tree config = .ok node ↔ ∃ opened contexts retrievals,
      openAll net tree config = .ok opened ∧
      (config.contexts.map ContextEntry.scope).Nodup ∧
      (config.retrievals.map RetrievalEntry.retrievalId).Nodup ∧
      List.Forall₂ (ContextEntry.Wires net (clientsOf opened)) config.contexts contexts ∧
      List.Forall₂ (RetrievalEntry.Wires net (clientsOf opened)) config.retrievals retrievals ∧
      assemble config opened contexts retrievals = node := by
  rw [ofConfig_eq_ok_iff]
  constructor
  · rintro ⟨opened, s, t, hopened, hs, ht, rfl⟩
    obtain ⟨hscopes, -, contexts, hcontexts, rfl⟩ := contexts_eq_ok_iff.1 hs
    obtain ⟨hids, -, retrievals, hretrievals, rfl⟩ := retrievals_eq_ok_iff.1 ht
    exact ⟨opened, contexts, retrievals, hopened, hscopes, hids, hcontexts, hretrievals,
      assemble_eq config opened contexts retrievals⟩
  · rintro ⟨opened, contexts, retrievals, hopened, hscopes, hids, hcontexts, hretrievals,
      rfl⟩
    -- no key is taken before the first entry
    have hscope : ∀ e ∈ config.contexts,
        e.scope ∉ Stages.scopes { recommender := emptyRecommender config } := by
      simp [Stages.scopes, emptyRecommender]
    have hid : ∀ e ∈ config.retrievals, e.retrievalId ∉
        (Stages.withContexts { recommender := emptyRecommender config } contexts).wired := by
      simp [Stages.withContexts]
    exact ⟨opened, _, _, hopened,
      contexts_eq_ok_iff.2 ⟨hscopes, hscope, contexts, hcontexts, rfl⟩,
      retrievals_eq_ok_iff.2 ⟨hids, hid, retrievals, hretrievals, rfl⟩,
      (assemble_eq config opened contexts retrievals).symm⟩

end Node

end Recommend
