import Recommend.Proofs.Pipeline.Rewiring
import Recommend.Proofs.Recommender.Calls
import Recommend.Proofs.Recommender.Enrichment

/-!
What of a request a reply depends on.

Two requests are compared at the features that the wiring names (`RecRequest.AgreesAt`).
They may differ anywhere else, and even the failures of a stage may differ: one request
can lack the scope where the other lacks the field only.  What is the same on both sides
is whether a stage answers, and what it answers then (`ReadsOnly`).

A context stage writes into a scope that others may read.  As it writes the same into
both requests, or nothing into either, they still agree afterwards
(`AgreesAt.workingStep`), so the retrievals find what they read alike in both.
-/

namespace Recommend

/-! ### Agreement -/

/-- The requests have one id, and the same features at the places that are named. -/
structure RecRequest.AgreesAt (names : FeatureRef → Prop) (q q' : RecRequest) : Prop where
  requestId : q.requestId = q'.requestId
  feature? : ∀ ref, names ref → q.feature? ref = q'.feature? ref

/-- Whether the client answers, and what, depends only on the features at these places. -/
def ReadsOnly {α : Type} (names : FeatureRef → Prop)
    (client : RecRequest → Except Status α) : Prop :=
  -- errors may differ, so only the answers are compared
  ∀ q q', RecRequest.AgreesAt names q q' → (client q).toOption = (client q').toOption

theorem toOption_bind {ε α β : Type} (x : Except ε α) (f : α → Except ε β) :
    (x >>= f).toOption = x.toOption.bind fun a => (f a).toOption := by
  cases x <;> rfl

theorem FeatureRef.toOption_get (ref : FeatureRef) (q : RecRequest) :
    (ref.get q).toOption = q.feature? ref := by
  rw [get, RecRequest.feature?]
  cases q.context.find? ref.scope with
  | none => rfl
  | some features =>
    dsimp only [Option.bind]
    cases features.find? ref.field <;> rfl

variable {names : FeatureRef → Prop}

/-- A keyed lookup reads its source only. -/
theorem KeyedContext.readsOnly {c : KeyedContext} (h : names c.source) :
    ReadsOnly names c.answer := by
  intro q q' hagrees
  simp only [answer, lookup, toOption_bind, FeatureRef.toOption_get,
    hagrees.feature? c.source h, hagrees.requestId]

/-- A search by content reads its seed only. -/
theorem ContentRetrieval.readsOnly {r : ContentRetrieval} (h : names r.extract) :
    ReadsOnly names r.answer := by
  intro q q' hagrees
  simp only [answer, search, toOption_bind, FeatureRef.toOption_get,
    hagrees.feature? r.extract h, hagrees.requestId]

/-! ### One stage -/

section Working

open Recommender

/-- A feature after a stage: as the stage wrote it, or as it was. -/
theorem RecRequest.feature?_workingStep (q : RecRequest) (stage : ScopeId × ContextClient)
    (ref : FeatureRef) :
    (workingStep q stage).feature? ref =
      ((wrote? stage q ref.scope).map (·.find? ref.field)).getD (q.feature? ref) := by
  rw [RecRequest.feature?, find?_workingStep]
  cases wrote? stage q ref.scope <;> rfl

/-- A stage that reads only named features keeps the agreement, whatever it writes and
wherever. -/
theorem RecRequest.AgreesAt.workingStep {q q' : RecRequest} (h : q.AgreesAt names q')
    {stage : ScopeId × ContextClient} (hstage : ReadsOnly names stage.2) :
    (workingStep q stage).AgreesAt names (workingStep q' stage) where
  requestId := by rw [requestId_workingStep, requestId_workingStep, h.requestId]
  feature? := by
    intro ref href
    -- what a stage writes is decided by its answer
    have hwrote : wrote? stage q ref.scope = wrote? stage q' ref.scope := by
      rw [wrote?, wrote?, hstage q q' h]
    rw [feature?_workingStep, feature?_workingStep, hwrote, h.feature? ref href]

/-! ### All stages -/

/-- So the requests agree after all context stages. -/
theorem RecRequest.AgreesAt.working {q q' : RecRequest} (h : q.AgreesAt names q')
    {contexts : List (ScopeId × ContextClient)}
    (hcontexts : ∀ stage ∈ contexts, ReadsOnly names stage.2) :
    (working contexts q).AgreesAt names (working contexts q') := by
  -- on the stages that are left; both requests are what those before made of them
  induction contexts generalizing q q' with
  | nil => exact h
  | cons stage stages ih =>
    rw [List.forall_mem_cons] at hcontexts
    exact ih (h.workingStep hcontexts.1) hcontexts.2

end Working

namespace Recommender

theorem itemsOf_eq (x : Except Status ItemReply) :
    itemsOf x = (x.toOption.map (·.items)).getD [] := by
  cases x <;> rfl

/-- The retrievals see the same, so the same items are found. -/
theorem bestReply_eq_of_readsOnly {r : Recommender}
    (hcontexts : ∀ stage ∈ r.contexts, ReadsOnly names stage.2)
    (hretrievals : ∀ client ∈ r.retrievals, ReadsOnly names client) {q q' : RecRequest}
    (h : q.AgreesAt names q') : r.bestReply q = r.bestReply q' := by
  have hworking := h.working hcontexts
  -- a retrieval that fails gives no items, whatever its error was
  have hitems : (r.retrieved q).flatMap itemsOf = (r.retrieved q').flatMap itemsOf := by
    rw [retrieved, retrieved, List.flatMap_map, List.flatMap_map]
    apply List.flatMap_congr
    intro client hclient
    rw [itemsOf_eq, itemsOf_eq, hretrievals client hclient _ _ hworking]
  rw [bestReply, bestReply, h.requestId, hitems]

theorem recommend_bestEffort {r : Recommender} (hpolicy : r.policy = .bestEffort)
    (q : RecRequest) : r.recommend q = .ok (r.bestReply q) := by
  rw [recommend, recommendInOrder_of_perm r q (.refl _), sequential, hpolicy]

/-- If all stages read only named features, requests that agree there get the same
reply. -/
theorem recommend_of_readsOnly {r : Recommender} (hpolicy : r.policy = .bestEffort)
    (hcontexts : ∀ stage ∈ r.contexts, ReadsOnly names stage.2)
    (hretrievals : ∀ client ∈ r.retrievals, ReadsOnly names client) {q q' : RecRequest}
    (h : q.AgreesAt names q') :
    ∃ reply, r.recommend q = .ok reply ∧ r.recommend q' = .ok reply := by
  refine ⟨r.bestReply q, recommend_bestEffort hpolicy q, ?_⟩
  rw [bestReply_eq_of_readsOnly hcontexts hretrievals h]
  exact recommend_bestEffort hpolicy q'

end Recommender

/-! ### What is named -/

/-- The feature is the source of a lookup or the seed of a search. -/
def Assembly.Names (a : Assembly) (ref : FeatureRef) : Prop :=
  (∃ stage ∈ a.contexts, stage.2.source = ref) ∨ ∃ stage ∈ a.retrievals, stage.extract = ref

/-- The feature is the source of a local context entry or the seed of a local retrieval
entry. -/
def PipelineConfig.Names (config : PipelineConfig) (ref : FeatureRef) : Prop :=
  (∃ e ∈ config.contexts, ∃ c, e.endpoint = .hosted c ∧
    ⟨c.sourceScope, c.sourceField⟩ = ref) ∨
    ∃ e ∈ config.retrievals, ∃ c, e.endpoint = .hosted c ∧
      ⟨c.extractScope, c.extractField⟩ = ref

theorem Assembly.readsOnly_contexts (a : Assembly) :
    ∀ stage ∈ a.recommender.contexts, ReadsOnly a.Names stage.2 := by
  intro stage hstage
  obtain ⟨stage, hmem, rfl⟩ := List.mem_map.1 hstage
  exact KeyedContext.readsOnly (.inl ⟨stage, hmem, rfl⟩)

theorem Assembly.readsOnly_retrievals (a : Assembly) :
    ∀ client ∈ a.recommender.retrievals, ReadsOnly a.Names client := by
  intro client hclient
  obtain ⟨stage, hmem, rfl⟩ := List.mem_map.1 hclient
  exact ContentRetrieval.readsOnly (.inr ⟨stage, hmem, rfl⟩)

section Wired

variable {net : Network} {clients : SortedMap String IndexerClient}
  {config : PipelineConfig}

theorem ContextEntry.Wires.readsOnly {e : ContextEntry}
    {w : WiredStage ScopeId KeyedContext ContextClient} (h : e.Wires net clients w)
    (he : e ∈ config.contexts) (hlocal : e.endpoint.IsLocal) :
    ReadsOnly config.Names w.client := by
  cases h with
  | @hosted scope c stage hstage =>
    obtain ⟨client, -, rfl⟩ := Node.keyedContext_eq_ok_iff.1 hstage
    exact KeyedContext.readsOnly (.inl ⟨_, he, c, rfl, rfl⟩)
  -- a peer is not known to read any feature in particular
  | remote => exact hlocal.elim

theorem RetrievalEntry.Wires.readsOnly {e : RetrievalEntry}
    {w : WiredStage RetrievalId ContentRetrieval RetrievalClient}
    (h : e.Wires net clients w) (he : e ∈ config.retrievals)
    (hlocal : e.endpoint.IsLocal) : ReadsOnly config.Names w.client := by
  cases h with
  | @hosted id c stage hstage =>
    obtain ⟨-, client, -, rfl⟩ := Node.contentRetrieval_eq_ok_iff.1 hstage
    exact ContentRetrieval.readsOnly (.inr ⟨_, he, c, rfl, rfl⟩)
  | remote => exact hlocal.elim

/-- The stages of a recommender that is wired from local entries read only what the
entries name. -/
theorem Node.readsOnly_of_ofConfig {tree : FileTree} {node : Node} {r : Recommender}
    (h : Node.ofConfig net tree config = .ok node) (hr : node.recommender = some r)
    (hlocal : config.IsLocal) :
    r.policy = (if config.strict then .strict else .bestEffort) ∧
      (∀ stage ∈ r.contexts, ReadsOnly config.Names stage.2) ∧
      ∀ client ∈ r.retrievals, ReadsOnly config.Names client := by
  obtain ⟨opened, contexts, retrievals, -, -, -, hcontexts, hretrievals, rfl⟩ :=
    Node.ofConfig_eq_ok_iff_wires.1 h
  obtain ⟨n, -, rfl⟩ := Option.map_eq_some_iff.1 hr
  refine ⟨rfl, ?_, ?_⟩
  -- every stage that is called was wired from an entry of the configuration
  · intro stage hstage
    obtain ⟨w, hw, rfl⟩ := List.mem_map.1 hstage
    obtain ⟨e, he, hwires⟩ := exists_of_mem_forall₂ hcontexts.flip hw
    exact hwires.readsOnly he (hlocal.contexts e he)
  · intro client hclient
    obtain ⟨w, hw, rfl⟩ := List.mem_map.1 hclient
    obtain ⟨e, he, hwires⟩ := exists_of_mem_forall₂ hretrievals.flip hw
    exact hwires.readsOnly he (hlocal.retrievals e he)

end Wired

/-- **The reply depends only on the features that the wiring names.**  Two requests with
one id that agree at every source of a lookup and every seed of a search get the same
reply under the best-effort policy, from any lookups and searches put together, and so
from every node whose configuration is local. -/
theorem recommend_of_named_features (q q' : RecRequest) :
    (∀ a : Assembly, a.policy = .bestEffort → q.AgreesAt a.Names q' →
      ∃ reply, a.recommender.recommend q = .ok reply ∧
        a.recommender.recommend q' = .ok reply) ∧
    ∀ net tree config node r, config.IsLocal → config.strict = false →
      Node.ofConfig net tree config = .ok node → node.recommender = some r →
      q.AgreesAt config.Names q' →
        ∃ reply, r.recommend q = .ok reply ∧ r.recommend q' = .ok reply := by
  constructor
  · intro a hpolicy hagrees
    exact Recommender.recommend_of_readsOnly hpolicy a.readsOnly_contexts
      a.readsOnly_retrievals hagrees
  · intro net tree config node r hlocal hstrict hnode hr hagrees
    obtain ⟨hpolicy, hcontexts, hretrievals⟩ := Node.readsOnly_of_ofConfig hnode hr hlocal
    rw [hstrict] at hpolicy
    exact Recommender.recommend_of_readsOnly hpolicy hcontexts hretrievals hagrees

namespace Node.Shelf

/-- The item at hand, and features that no stage reads, one of them in the scope of the
lookup. -/
def otherRequest : RecRequest :=
  ⟨"r", .ofList [(0, .ofList [(1, .bytes ["u"]), (2, .bytes ["blue"])]),
    (7, .ofList [(1, .bytes ["a"])]), (9, .ofList [(2, .ints [4, 4])])]⟩

theorem agreesAt_otherRequest : request.AgreesAt config.Names otherRequest where
  requestId := rfl
  feature? := by
    rintro ref (⟨e, he, c, hc, rfl⟩ | ⟨e, he, c, hc, rfl⟩)
    · rcases he with _ | ⟨_, ⟨⟩⟩
      cases hc
      rfl
    · rcases he with _ | ⟨_, _ | ⟨_, ⟨⟩⟩⟩
      · cases hc
        rfl
      · cases hc
        rfl

theorem recommend_of_named_features_shelf :
    config.IsLocal ∧ config.strict = false ∧ request.AgreesAt config.Names otherRequest ∧
      request ≠ otherRequest ∧ ∃ r, node.recommender = some r ∧
        ∃ reply, r.recommend request = .ok reply ∧
          r.recommend otherRequest = .ok reply := by
  have hnode : ofConfig net tree config = .ok node := rfl
  obtain ⟨r, hr⟩ : ∃ r, node.recommender = some r := ⟨_, rfl⟩
  exact ⟨isLocal_config, rfl, agreesAt_otherRequest, by decide, r, hr,
    (recommend_of_named_features request otherRequest).2 net tree config node r
      isLocal_config rfl hnode hr agreesAt_otherRequest⟩

end Node.Shelf

end Recommend
