import Recommend.Bulk.Builder
import Recommend.Proofs.Recommender.Completion
import Recommend.Stage.KeyedContext

/-!
What enrichment leaves of the features that the caller sent.

A stage that answers puts its features in the place of its whole scope, and a stage that
fails leaves the request as it is.  So a scope ends up with what the last stage for it
wrote (`written?`), and holds what the caller sent if no stage wrote it:

    (working contexts request).context.find? scope =
      (written? contexts request scope).or (request.context.find? scope)

A feature of the caller survives iff whatever was written into its scope holds the same
field (`enrich_keeps_feature_iff`).  A lookup that finds no record writes nothing into
its scope, and in doing so empties it (`enrich_empties_scope`).
-/

namespace Recommend

/-- The feature at a place of the context. -/
def RecRequest.feature? (request : RecRequest) (ref : FeatureRef) : Option FeatureList :=
  (request.context.find? ref.scope).bind (·.find? ref.field)

namespace Recommender

/-! ### One stage -/

/-- The features that a stage puts into a scope, if it is wired to the scope and
answers. -/
def wrote? (stage : ScopeId × ContextClient) (request : RecRequest) (scope : ScopeId) :
    Option FeatureMap :=
  if stage.1 = scope then (stage.2 request).toOption.map (·.context) else none

/-- A scope after one stage. -/
theorem find?_workingStep (request : RecRequest) (stage : ScopeId × ContextClient)
    (scope : ScopeId) :
    (workingStep request stage).context.find? scope =
      (wrote? stage request scope).or (request.context.find? scope) := by
  unfold workingStep wrote?
  cases stage.2 request with
  | error e => simp [Except.toOption]
  | ok reply =>
    -- the whole scope is replaced, and no other one
    by_cases hscope : stage.1 = scope
    · subst hscope
      simp [Except.toOption]
    · rw [if_neg hscope, Option.none_or]
      exact SortedMap.find?_insert_of_ne _ _ (Ne.symm hscope)

/-- A stage does not change the id of the request. -/
theorem requestId_workingStep (request : RecRequest) (stage : ScopeId × ContextClient) :
    (workingStep request stage).requestId = request.requestId := by
  unfold workingStep
  cases stage.2 request <;> rfl

/-! ### All stages -/

/-- The features that were last written into a scope, each stage being called with the
request so far. -/
def written? : List (ScopeId × ContextClient) → RecRequest → ScopeId → Option FeatureMap
  | [], _, _ => none
  | stage :: stages, request, scope =>
    (written? stages (workingStep request stage) scope).or (wrote? stage request scope)

/-- A scope holds what was last written into it, else what the caller sent. -/
theorem find?_working (contexts : List (ScopeId × ContextClient)) (request : RecRequest)
    (scope : ScopeId) :
    (working contexts request).context.find? scope =
      (written? contexts request scope).or (request.context.find? scope) := by
  induction contexts generalizing request with
  | nil => rfl
  | cons stage stages ih =>
    -- what later stages write comes before what this one writes
    have hrest := ih (workingStep request stage)
    rw [find?_workingStep, ← Option.or_assoc] at hrest
    exact hrest

theorem requestId_working (contexts : List (ScopeId × ContextClient))
    (request : RecRequest) :
    (working contexts request).requestId = request.requestId := by
  induction contexts generalizing request with
  | nil => rfl
  | cons stage stages ih =>
    have hrest := ih (workingStep request stage)
    rw [requestId_workingStep] at hrest
    exact hrest

theorem feature?_working_of_written {contexts : List (ScopeId × ContextClient)}
    {request : RecRequest} {ref : FeatureRef} {features : FeatureMap}
    (h : written? contexts request ref.scope = some features) :
    (working contexts request).feature? ref = features.find? ref.field := by
  rw [RecRequest.feature?, find?_working, h, Option.some_or, Option.bind_some]

theorem feature?_working_of_unwritten {contexts : List (ScopeId × ContextClient)}
    {request : RecRequest} {ref : FeatureRef}
    (h : written? contexts request ref.scope = none) :
    (working contexts request).feature? ref = request.feature? ref := by
  rw [RecRequest.feature?, find?_working, h, Option.none_or]
  rfl

/-- Under the best-effort policy a request is always enriched. -/
theorem enrich_bestEffort {r : Recommender} (hpolicy : r.policy = .bestEffort)
    (request : RecRequest) : r.enrich request = .ok (working r.contexts request) := by
  rw [enrich_eq, hpolicy]

/-- What becomes of the caller's features under the best-effort policy.  A scope that no
stage wrote is as it was.  A feature in a scope that was written is still there iff what
was last written holds its field, and then it has the value written there. -/
theorem enrich_keeps_feature_iff (r : Recommender) (hpolicy : r.policy = .bestEffort)
    (request : RecRequest) :
    ∃ enriched, r.enrich request = .ok enriched ∧ enriched.requestId = request.requestId ∧
      (∀ scope, written? r.contexts request scope = none →
        enriched.context.find? scope = request.context.find? scope) ∧
      ∀ ref list, request.feature? ref = some list →
        (written? r.contexts request ref.scope = none → enriched.feature? ref = some list) ∧
        (∀ features, written? r.contexts request ref.scope = some features →
          enriched.feature? ref = features.find? ref.field) ∧
        ((enriched.feature? ref).isSome = true ↔
          ∀ features, written? r.contexts request ref.scope = some features →
            features.contains ref.field = true) := by
  refine ⟨working r.contexts request, enrich_bestEffort hpolicy request,
    requestId_working r.contexts request, ?_, ?_⟩
  · intro scope hscope
    rw [find?_working, hscope, Option.none_or]
  · intro ref list hlist
    refine ⟨?_, fun features => feature?_working_of_written, ?_⟩
    · intro hscope
      rw [feature?_working_of_unwritten hscope, hlist]
    -- if nothing was written there is nothing to hold the field, and the feature is kept
    · cases hscope : written? r.contexts request ref.scope with
      | none =>
        rw [feature?_working_of_unwritten hscope, hlist]
        simp
      | some features =>
        rw [feature?_working_of_written hscope]
        simp [SortedMap.contains]

/-- The caller sends a key that no record has, and a feature in the scope of the lookup. -/
def strangerRequest : RecRequest :=
  ⟨"r", .ofList [(1, .ofList [(200, .bytes ["stranger"])]),
    (201, .ofList [(103, .bytes ["x"])])]⟩

/-- One lookup of the key at scope 1, field 200, in a source of one record, wired to
scope 201. -/
def oneLookup : Recommender where
  requestNum := 10
  contexts := [(201, KeyedContext.answer {
    source := ⟨1, 200⟩
    keyField := 200
    fields := [103]
    indexer := .ofIndex
      ((⟨⟨[200, 103], ",", none⟩, .empty 200, {}⟩ : Builder).consume (Bytes.ofText "u,y")).index })]

theorem enrich_keeps_feature_iff_stranger :
    oneLookup.policy = .bestEffort ∧
      strangerRequest.feature? ⟨1, 200⟩ = some (.bytes ["stranger"]) ∧
      ∃ enriched, oneLookup.enrich strangerRequest = .ok enriched ∧
        enriched.feature? ⟨1, 200⟩ = some (.bytes ["stranger"]) := by
  have hpolicy : oneLookup.policy = .bestEffort := rfl
  have hfeature : strangerRequest.feature? ⟨1, 200⟩ = some (.bytes ["stranger"]) := by
    decide
  have hunwritten : written? oneLookup.contexts strangerRequest 1 = none := by
    decide +kernel
  obtain ⟨enriched, henrich, -, -, hfeatures⟩ :=
    enrich_keeps_feature_iff oneLookup hpolicy strangerRequest
  exact ⟨hpolicy, hfeature, enriched, henrich, (hfeatures ⟨1, 200⟩ _ hfeature).1 hunwritten⟩

/-- The lookup finds no record and writes no feature, and yet the feature that the
caller sent in that scope is gone. -/
theorem enrich_empties_scope :
    oneLookup.policy = .bestEffort ∧
      strangerRequest.feature? ⟨201, 103⟩ = some (.bytes ["x"]) ∧
      written? oneLookup.contexts strangerRequest 201 = some .empty ∧
      ∃ enriched, oneLookup.enrich strangerRequest = .ok enriched ∧
        enriched.feature? ⟨201, 103⟩ = none := by
  have hwritten : written? oneLookup.contexts strangerRequest 201 = some .empty := by
    decide +kernel
  refine ⟨rfl, by decide, hwritten, working oneLookup.contexts strangerRequest,
    enrich_bestEffort rfl strangerRequest, ?_⟩
  rw [feature?_working_of_written hwritten]
  rfl

end Recommender

end Recommend
