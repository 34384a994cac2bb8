import Mathlib.Data.List.Forall2
import Recommend.Proofs.Message.Codec
import Recommend.Recommender
import Recommend.Stage.ContentRetrieval
import Recommend.Stage.KeyedContext

/-!
Stages over clients that agree answer alike, and recommenders over stages that agree do.

What an index answers holds texts only, so a context stage never writes a number that
would be lost on the way to a later stage: the working request stays legible
(`Legible.insert`), and stages need to agree on legible requests only.

Clients may agree on what fits only, where what has to fit is up to them.  A stage asks
its index one question (`questions`), and a recommender hands each context stage one
request (`handed`) and all retrieval stages the request after them.  If all these fit,
recommenders over stages that agree give the same answer (`Agrees.recommend_eq`).
-/

namespace Recommend

/-- A computation that succeeds has succeeded in its first part. -/
theorem exists_of_bind_eq_ok {ε α β : Type} {x : Except ε α} {f : α → Except ε β} {b : β}
    (h : x >>= f = .ok b) : ∃ a, x = .ok a ∧ f a = .ok b := by
  cases x with
  | error e => cases h
  | ok a => exact ⟨a, rfl, h⟩

/-- Every binary32 number in the request reads back from its own text. -/
def RecRequest.Legible (r : RecRequest) : Prop :=
  ∀ x ∈ Context.singles r.context, x.ReadsBack

instance (r : RecRequest) : Decidable r.Legible :=
  inferInstanceAs (Decidable (∀ x ∈ Context.singles r.context, x.ReadsBack))

/-! ### Clients of indexes -/

namespace IndexerClient

/-- Two clients give the same answers to all that can be asked in writing and fits. -/
structure Agrees (fits : Json → Prop) (c d : IndexerClient) : Prop where
  forward : ∀ q, fits (ForwardRequest.codec.write q) → c.forward q = d.forward q
  inverted : ∀ q, (∀ x ∈ q.singles, x.ReadsBack) → fits (InvertedRequest.codec.write q) →
    c.inverted q = d.inverted q

theorem Agrees.refl (fits : Json → Prop) (c : IndexerClient) : Agrees fits c c :=
  ⟨fun _ _ => rfl, fun _ _ _ => rfl⟩

/-- Replies hold texts only. -/
structure Textual (c : IndexerClient) : Prop where
  forward : ∀ q reply, c.forward q = .ok reply →
    ∀ i ∈ reply.items, FeatureMap.singles i.fields = []
  inverted : ∀ q reply, c.inverted q = .ok reply →
    ∀ i ∈ reply.items, FeatureMap.singles i.fields = []

end IndexerClient

namespace FeatureMap

theorem singles_eq_nil {m : FeatureMap}
    (h : ∀ field list, m.find? field = some list → list.singles = []) :
    FeatureMap.singles m = [] := by
  rw [FeatureMap.singles, List.flatMap_eq_nil_iff]
  rintro ⟨field, list⟩ he
  exact h field list (SortedMap.mem_toList_iff.1 he)

theorem singles_of_find? {m : FeatureMap} (h : FeatureMap.singles m = []) {field : FieldId}
    {list : FeatureList} (hfind : m.find? field = some list) : list.singles = [] := by
  rw [FeatureMap.singles, List.flatMap_eq_nil_iff] at h
  exact h (field, list) (SortedMap.mem_toList_iff.2 hfind)

end FeatureMap

namespace Index

/-- A record is shown with texts only. -/
theorem singles_project (ix : Index) (requested : List FieldId) (key : String)
    (record : Record) : FeatureMap.singles (ix.project requested key record).fields = [] := by
  have hstored : ∀ field list,
      ((record.filter fun field _ => wants requested field).mapValues
        FeatureList.bytes).find? field = some list → list.singles = [] := by
    intro field list hfind
    rw [SortedMap.find?_mapValues] at hfind
    obtain ⟨values, -, rfl⟩ := Option.map_eq_some_iff.1 hfind
    rfl
  apply FeatureMap.singles_eq_nil
  intro field list hfind
  rw [project] at hfind
  dsimp only at hfind
  -- the key is shown as a text as well, if it is asked for
  split at hfind
  next =>
    rw [SortedMap.find?_insert] at hfind
    split at hfind
    next =>
      cases hfind
      rfl
    next => exact hstored field list hfind
  next => exact hstored field list hfind

theorem singles_items {ix : Index} {requested : List FieldId} {keys : List String}
    {i : IndexItem} (h : i ∈ ix.items requested keys) : FeatureMap.singles i.fields = [] := by
  rw [items] at h
  obtain ⟨key, -, hkey⟩ := List.mem_filterMap.1 h
  obtain ⟨record, -, rfl⟩ := Option.map_eq_some_iff.1 hkey
  exact ix.singles_project requested key record

theorem textual (ix : Index) : (IndexerClient.ofIndex ix).Textual where
  forward q reply h i hi := by
    have hanswer : ix.answerForward q = .ok reply := h
    rw [answerForward] at hanswer
    split at hanswer
    next =>
      cases hanswer
      exact singles_items hi
    next => cases hanswer
  inverted q reply h i hi := by
    -- a search never fails, so its reply is at hand
    have hanswer : ix.answerInverted q = .ok reply := h
    cases hanswer
    exact singles_items hi

end Index

/-! ### Context stages -/

namespace KeyedContext

/-- What the stage asks of its index for a request, as it is written. -/
def questions (s : KeyedContext) (request : RecRequest) : List Json :=
  (s.lookup request).toOption.toList.map ForwardRequest.codec.write

/-- The same lookup over indexes that agree. -/
structure Same (fits : Json → Prop) (s t : KeyedContext) : Prop where
  source : s.source = t.source
  keyField : s.keyField = t.keyField
  fields : s.fields = t.fields
  indexer : IndexerClient.Agrees fits s.indexer t.indexer

theorem Same.answer_eq {fits : Json → Prop} {s t : KeyedContext} (h : Same fits s t)
    {request : RecRequest} (hfits : ∀ document ∈ s.questions request, fits document) :
    s.answer request = t.answer request := by
  obtain ⟨source, keyField, fields, client⟩ := s
  obtain ⟨source', keyField', fields', client'⟩ := t
  obtain ⟨rfl, rfl, rfl, hagrees⟩ := h
  rw [answer, answer]
  -- the lookup does not depend on the index that is asked
  show (lookup ⟨source, keyField, fields, client⟩ request >>= _) =
    lookup ⟨source, keyField, fields, client⟩ request >>= _
  rw [questions] at hfits
  cases hlookup : lookup ⟨source, keyField, fields, client⟩ request with
  | error e => rfl
  | ok q =>
    rw [hlookup] at hfits
    have hasked : client.forward q = client'.forward q :=
      hagrees.forward q (List.forall_mem_singleton.1 hfits)
    simp only [bind, Except.bind, IndexerClient.getMaps, hasked]

/-- A lookup writes texts only. -/
theorem singles_answer {s : KeyedContext} (h : s.indexer.Textual) {request : RecRequest}
    {reply : ContextReply} (hanswer : s.answer request = .ok reply) :
    FeatureMap.singles reply.context = [] := by
  obtain ⟨q, -, hanswer⟩ := exists_of_bind_eq_ok hanswer
  obtain ⟨maps, hmaps, hreply⟩ := exists_of_bind_eq_ok hanswer
  cases hreply
  rw [IndexerClient.getMaps] at hmaps
  cases hforward : s.indexer.forward ⟨q.keyField, q.keys, q.requestedFields⟩ with
  | error e =>
    rw [hforward] at hmaps
    cases hmaps
  | ok found =>
    rw [hforward] at hmaps
    cases hmaps
    dsimp only
    -- only the first record found is put into the context
    cases hitems : found.items with
    | nil => rfl
    | cons i items => exact h.forward _ found hforward i (hitems ▸ List.mem_cons_self)

end KeyedContext

/-! ### Retrieval stages -/

namespace ContentRetrieval

/-- What the stage asks of its index for a request, as it is written. -/
def questions (s : ContentRetrieval) (request : RecRequest) : List Json :=
  (s.search request).toOption.toList.map InvertedRequest.codec.write

/-- The same search over indexes that agree. -/
structure Same (fits : Json → Prop) (s t : ContentRetrieval) : Prop where
  id : s.id = t.id
  maxResults : s.maxResults = t.maxResults
  extract : s.extract = t.extract
  itemKeys : s.itemKeys = t.itemKeys
  filterRules : s.filterRules = t.filterRules
  indexer : IndexerClient.Agrees fits s.indexer t.indexer

theorem singles_demand {items : SortedMap FieldId SearchItem}
    (h : ∀ field item, items.find? field = some item → item.singles = []) (field : FieldId)
    (value : String) (field' : FieldId) (item : SearchItem)
    (hfind : (demand items field value).find? field' = some item) : item.singles = [] := by
  rw [demand, SortedMap.find?_insert] at hfind
  split at hfind
  next =>
    cases hfind
    rfl
  next => exact h field' item hfind

/-- A clause asks for texts only. -/
theorem singles_clause (r : ContentRetrieval) (value : String) :
    (r.clause value).singles = [] := by
  -- on the rules, for any items that ask for texts only
  have hfold : ∀ (rules : List (FieldId × String)) (items : SortedMap FieldId SearchItem),
      (∀ field item, items.find? field = some item → item.singles = []) →
      ∀ field item, (rules.foldl (fun items rule => demand items rule.1 rule.2) items).find?
        field = some item → item.singles = [] := by
    intro rules
    induction rules with
    | nil => exact fun items h => h
    | cons rule rules ih => exact fun items h => ih _ (singles_demand h rule.1 rule.2)
  rw [SearchClause.singles, List.flatMap_eq_nil_iff]
  rintro ⟨field, item⟩ hmem
  refine hfold r.filterRules.toList _ ?_ field item (SortedMap.mem_toList_iff.1 hmem)
  apply singles_demand
  intro field item hfind
  cases hfind

theorem singles_search {r : ContentRetrieval} {request : RecRequest} {q : InvertedRequest}
    (h : r.search request = .ok q) : q.singles = [] := by
  obtain ⟨seed, -, hq⟩ := exists_of_bind_eq_ok h
  cases hq
  rw [InvertedRequest.singles, List.flatMap_eq_nil_iff]
  intro clause hclause
  -- there is one clause for each value of the seed
  obtain ⟨value, -, rfl⟩ := List.mem_map.1 hclause
  exact r.singles_clause value

theorem Same.answer_eq {fits : Json → Prop} {s t : ContentRetrieval} (h : Same fits s t)
    {request : RecRequest} (hfits : ∀ document ∈ s.questions request, fits document) :
    s.answer request = t.answer request := by
  obtain ⟨id, maxResults, extract, itemKeys, filterRules, client⟩ := s
  obtain ⟨id', maxResults', extract', itemKeys', filterRules', client'⟩ := t
  obtain ⟨rfl, rfl, rfl, rfl, rfl, hagrees⟩ := h
  rw [answer, answer]
  -- the search does not depend on the index that is asked
  show (search ⟨id, maxResults, extract, itemKeys, filterRules, client⟩ request >>= _) =
    search ⟨id, maxResults, extract, itemKeys, filterRules, client⟩ request >>= _
  rw [questions] at hfits
  cases hsearch :
      search ⟨id, maxResults, extract, itemKeys, filterRules, client⟩ request with
  | error e => rfl
  | ok q =>
    rw [hsearch] at hfits
    have hreads : ∀ x ∈ q.singles, x.ReadsBack := by
      rw [singles_search hsearch]
      exact List.forall_mem_nil _
    have hasked : client.inverted q = client'.inverted q :=
      hagrees.inverted q hreads (List.forall_mem_singleton.1 hfits)
    simp only [bind, Except.bind, hasked]
    rfl

/-- A search finds items that are identified by texts only. -/
theorem singles_answer {s : ContentRetrieval} (h : s.indexer.Textual) {request : RecRequest}
    {reply : ItemReply} (hanswer : s.answer request = .ok reply) : reply.singles = [] := by
  obtain ⟨q, -, hanswer⟩ := exists_of_bind_eq_ok hanswer
  rw [ItemReply.singles, List.flatMap_eq_nil_iff]
  intro item hitem
  cases hinverted : s.indexer.inverted q with
  -- a search that fails is answered without items
  | error e =>
    rw [hinverted] at hanswer
    cases hanswer
    cases hitem
  | ok found =>
    rw [hinverted] at hanswer
    cases hanswer
    obtain ⟨i, hi, hid⟩ := List.mem_filterMap.1 hitem
    dsimp only at hid
    -- an item of which nothing is left is dropped
    split at hid
    next => cases hid
    next =>
      cases hid
      apply FeatureMap.singles_eq_nil
      intro field list hfind
      obtain ⟨key, -, hkey⟩ := List.mem_filterMap.1 (SortedMap.mem_of_find?_ofList hfind)
      obtain ⟨value, hvalue, heq⟩ := Option.map_eq_some_iff.1 hkey
      cases heq
      exact FeatureMap.singles_of_find? (h.inverted q found hinverted i hi) hvalue

end ContentRetrieval

/-! ### Recommenders -/

/-- Writing texts into a scope leaves a request legible. -/
theorem RecRequest.Legible.insert {r : RecRequest} (h : r.Legible) (scope : ScopeId)
    {features : FeatureMap} (hfeatures : FeatureMap.singles features = []) :
    RecRequest.Legible { r with context := r.context.insert scope features } := by
  intro x hx
  obtain ⟨⟨scope', features'⟩, he, hx⟩ := List.mem_flatMap.1 hx
  have hfind := SortedMap.mem_toList_iff.1 he
  rw [SortedMap.find?_insert] at hfind
  split at hfind
  next =>
    cases hfind
    rw [hfeatures] at hx
    cases hx
  next => exact h x (List.mem_flatMap.2 ⟨_, SortedMap.mem_toList_iff.2 hfind, hx⟩)

namespace Recommender

/-- What each context stage is asked to answer, with the scope that it writes.  After a
failure that is the answer no further stage is asked. -/
def handed (policy : FailurePolicy) :
    List (ScopeId × ContextClient) → RecRequest → List (ScopeId × RecRequest)
  | [], _ => []
  | stage :: stages, working =>
    (stage.1, working) ::
      match enrichStep policy working stage with
      | .ok next => handed policy stages next
      | .error _ => []

/-- Both write the scope, and give the same answers to legible requests that fit; these
hold texts only. -/
def ContextsAgree (fits : ScopeId → RecRequest → Prop) (a b : ScopeId × ContextClient) :
    Prop :=
  a.1 = b.1 ∧ ∀ q : RecRequest, q.Legible → fits a.1 q →
    a.2 q = b.2 q ∧ ∀ reply, a.2 q = .ok reply → FeatureMap.singles reply.context = []

/-- Both give the same answers to legible requests that fit. -/
def RetrievalsAgree (fits : RecRequest → Prop) (c d : RetrievalClient) : Prop :=
  ∀ q : RecRequest, q.Legible → fits q → c q = d q

/-- The same recommender over stages that agree. -/
structure Agrees (contextFits : ScopeId → RecRequest → Prop)
    (retrievalFits : RecRequest → Prop) (r s : Recommender) : Prop where
  requestNum : r.requestNum = s.requestNum
  policy : r.policy = s.policy
  contexts : List.Forall₂ (ContextsAgree contextFits) r.contexts s.contexts
  retrievals : List.Forall₂ (RetrievalsAgree retrievalFits) r.retrievals s.retrievals

section Congruence

variable {contextFits : ScopeId → RecRequest → Prop} {retrievalFits : RecRequest → Prop}

/-- One step of enrichment. -/
theorem enrichStep_congr {a b : ScopeId × ContextClient} (h : ContextsAgree contextFits a b)
    (policy : FailurePolicy) {q : RecRequest} (hq : q.Legible) (hfits : contextFits a.1 q) :
    enrichStep policy q a = enrichStep policy q b ∧
      ∀ e, enrichStep policy q a = .ok e → e.Legible := by
  obtain ⟨hscope, hanswers⟩ := h
  obtain ⟨hanswer, htexts⟩ := hanswers q hq hfits
  refine ⟨by rw [enrichStep, enrichStep, hscope, hanswer], ?_⟩
  intro e he
  rw [enrichStep] at he
  -- an answer adds texts, and a failure adds nothing or ends the call
  cases hreply : a.2 q with
  | ok reply =>
    rw [hreply] at he
    cases he
    exact hq.insert a.1 (htexts reply hreply)
  | error status =>
    rw [hreply] at he
    cases policy with
    | strict => cases he
    | bestEffort =>
      cases he
      exact hq

/-- All steps of enrichment. -/
theorem foldlM_enrichStep_congr {l m : List (ScopeId × ContextClient)}
    (h : List.Forall₂ (ContextsAgree contextFits) l m) (policy : FailurePolicy)
    {q : RecRequest} (hq : q.Legible)
    (hfits : ∀ e ∈ handed policy l q, contextFits e.1 e.2) :
    l.foldlM (enrichStep policy) q = m.foldlM (enrichStep policy) q ∧
      ∀ e, l.foldlM (enrichStep policy) q = .ok e → e.Legible := by
  -- legibility is carried along: the next stage sees what this one wrote
  induction h generalizing q with
  | nil =>
    refine ⟨rfl, ?_⟩
    intro e he
    cases he
    exact hq
  | cons hab _ ih =>
    rw [handed] at hfits
    obtain ⟨hfirst, hrest⟩ := List.forall_mem_cons.1 hfits
    obtain ⟨hstep, hlegible⟩ := enrichStep_congr hab policy hq hfirst
    rw [List.foldlM_cons, List.foldlM_cons, ← hstep]
    cases hworking : enrichStep policy q _ with
    | error status => exact ⟨rfl, fun e he => by cases he⟩
    | ok working =>
      rw [hworking] at hrest
      exact ih (hlegible working hworking) hrest

theorem map_answers_congr {l m : List RetrievalClient}
    (h : List.Forall₂ (RetrievalsAgree retrievalFits) l m) {q : RecRequest} (hq : q.Legible)
    (hfits : retrievalFits q) :
    l.map (fun client => client q) = m.map fun client => client q := by
  induction h with
  | nil => rfl
  | cons hcd _ ih => rw [List.map_cons, List.map_cons, hcd q hq hfits, ih]

/-- Recommenders that agree give the same answer to every legible request, if all that
their stages are asked fits. -/
theorem Agrees.recommend_eq {r s : Recommender}
    (h : Agrees contextFits retrievalFits r s) {q : RecRequest} (hq : q.Legible)
    (hcontexts : ∀ e ∈ handed r.policy r.contexts q, contextFits e.1 e.2)
    (hretrievals : ∀ e, r.enrich q = .ok e → retrievalFits e) :
    r.recommend q = s.recommend q := by
  obtain ⟨henrich, hlegible⟩ := foldlM_enrichStep_congr h.contexts r.policy hq hcontexts
  rw [enrich] at hretrievals
  rw [recommend, recommend, recommendInOrder, recommendInOrder, enrich, enrich, ← h.policy,
    ← h.requestNum, ← h.retrievals.length_eq, ← henrich]
  cases hworking : r.contexts.foldlM (enrichStep r.policy) q with
  | error status => rfl
  | ok enriched =>
    -- after enrichment the retrievals see one request on both sides
    have hanswers := map_answers_congr h.retrievals (hlegible enriched hworking)
      (hretrievals enriched hworking)
    simp only [bind, Except.bind, hanswers]

end Congruence

end Recommender

end Recommend
