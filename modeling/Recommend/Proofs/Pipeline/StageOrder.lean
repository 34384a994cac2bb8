import Recommend.Proofs.Pipeline.NamedFeatures

/-!
Context stages that may be wired in either order.

A stage calls its client with the request so far, and what is answered replaces one
scope.  If two stages write different scopes, and neither client is affected by what the
other stage writes (`Apart`), then calling them in one order or the other leaves the
same request (`workingStep_comm`), whether they answer or fail.  The same then holds
with any stages before and behind them (`working_swap`), and a stage fails in one order
iff one does in the other (`contextFailure?_swap`): not the same one first, perhaps, so
a strict recommender may report another failure.

A keyed lookup reads one scope (`KeyedContext.answer_congr`), and a scope has one
writer.  So two lookups are apart as soon as neither reads from the scope of the other.
-/

namespace Recommend

/-- A keyed lookup sees of a request its id and the scope of its source. -/
theorem KeyedContext.answer_congr (c : KeyedContext) {q q' : RecRequest}
    (hid : q.requestId = q'.requestId)
    (hscope : q.context.find? c.source.scope = q'.context.find? c.source.scope) :
    c.answer q = c.answer q' := by
  have hget : c.source.get q = c.source.get q' := by
    rw [FeatureRef.get, FeatureRef.get, hscope]
  rw [answer, answer, lookup, lookup, hget, hid]

namespace Recommender

/-! ### Two stages -/

/-- The request after a stage for a scope has answered so. -/
def answered (q : RecRequest) (scope : ScopeId) : Except Status ContextReply → RecRequest
  | .ok reply => { q with context := q.context.insert scope reply.context }
  | .error _ => q

theorem workingStep_eq_answered (q : RecRequest) (stage : ScopeId × ContextClient) :
    workingStep q stage = answered q stage.1 (stage.2 q) := by
  rw [workingStep]
  cases stage.2 q <;> rfl

/-- Answers for different scopes do not get in each other's way. -/
theorem answered_comm {scope scope' : ScopeId} (h : scope ≠ scope') (q : RecRequest)
    (answer answer' : Except Status ContextReply) :
    answered (answered q scope answer) scope' answer' =
      answered (answered q scope' answer') scope answer := by
  cases answer with
  | error e => rfl
  | ok reply =>
    cases answer' with
    | error e => rfl
    | ok reply' => rw [answered, answered, answered, answered, SortedMap.insert_comm _ h]

/-- The stages write different scopes, and neither client is affected by what the other
stage writes. -/
structure Apart (s t : ScopeId × ContextClient) : Prop where
  scope_ne : s.1 ≠ t.1
  left : ∀ q, s.2 (workingStep q t) = s.2 q
  right : ∀ q, t.2 (workingStep q s) = t.2 q

/-- Stages that are apart may be called in either order. -/
theorem workingStep_comm {s t : ScopeId × ContextClient} (h : Apart s t) (q : RecRequest) :
    workingStep (workingStep q s) t = workingStep (workingStep q t) s := by
  -- neither answer depends on which stage is called first, so both are those to `q` itself
  calc workingStep (workingStep q s) t
      = answered (answered q s.1 (s.2 q)) t.1 (t.2 q) := by
        rw [workingStep_eq_answered _ t, h.right, workingStep_eq_answered]
    _ = answered (answered q t.1 (t.2 q)) s.1 (s.2 q) := answered_comm h.scope_ne q _ _
    _ = workingStep (workingStep q t) s := by
        rw [workingStep_eq_answered _ s, h.left, workingStep_eq_answered]

/-- Lookups that write different scopes are apart if neither reads from the scope of the
other. -/
theorem apart_of_lookups {scope scope' : ScopeId} {c c' : KeyedContext}
    (hscope : scope ≠ scope') (hread : c.source.scope ≠ scope')
    (hread' : c'.source.scope ≠ scope) :
    Apart (scope, c.answer) (scope', c'.answer) := by
  -- what is written elsewhere is not seen
  have hframe : ∀ (k : KeyedContext) (stage : ScopeId × ContextClient) (q : RecRequest),
      k.source.scope ≠ stage.1 → k.answer (workingStep q stage) = k.answer q := by
    intro k stage q hne
    apply k.answer_congr (requestId_workingStep q stage)
    rw [find?_workingStep, wrote?, if_neg (Ne.symm hne), Option.none_or]
  exact ⟨hscope, fun q => hframe c _ q hread, fun q => hframe c' _ q hread'⟩

/-! ### Any stages before and behind them -/

section Swap

variable {s t : ScopeId × ContextClient}

/-- So may they among others. -/
theorem working_swap (h : Apart s t) (before after : List (ScopeId × ContextClient))
    (q : RecRequest) :
    working (before ++ s :: t :: after) q = working (before ++ t :: s :: after) q := by
  -- the stages before them give both orders the same request to start from
  simp only [working, List.foldl_append, List.foldl_cons, workingStep_comm h]

theorem contextFailure?_cons_eq_none {stage : ScopeId × ContextClient}
    {stages : List (ScopeId × ContextClient)} {q : RecRequest} :
    contextFailure? (stage :: stages) q = none ↔
      failure? (stage.2 q) = none ∧
        contextFailure? stages (workingStep q stage) = none := by
  rw [contextFailure?, Option.or_eq_none_iff]

/-- The stages all answer in one order iff they do in the other. -/
theorem contextFailure?_swap (h : Apart s t) (before after : List (ScopeId × ContextClient))
    (q : RecRequest) :
    contextFailure? (before ++ s :: t :: after) q = none ↔
      contextFailure? (before ++ t :: s :: after) q = none := by
  -- on the stages before them; those behind them see the same request in both orders
  induction before generalizing q with
  | nil =>
    simp only [List.nil_append, contextFailure?_cons_eq_none, h.left, h.right,
      workingStep_comm h]
    -- both are asked in either order, with the same requests
    exact and_left_comm
  | cons stage before ih =>
    simp only [List.cons_append, contextFailure?_cons_eq_none]
    exact and_congr_right fun _ => ih (workingStep q stage)

end Swap

/-! ### Answers -/

/-- A request is enriched unless a stage fails under the strict policy. -/
theorem enrich_eq_ok_iff {r : Recommender} {q enriched : RecRequest} :
    r.enrich q = .ok enriched ↔
      (r.policy = .strict → contextFailure? r.contexts q = none) ∧
        working r.contexts q = enriched := by
  rw [enrich_eq]
  cases r.policy with
  | bestEffort => simp
  | strict => cases contextFailure? r.contexts q <;> simp

/-- A request is answered unless a stage fails under the strict policy. -/
theorem recommend_eq_ok_iff {r : Recommender} {q : RecRequest} {reply : ItemReply} :
    r.recommend q = .ok reply ↔
      (r.policy = .strict → r.firstFailure? q = none) ∧ r.bestReply q = reply := by
  rw [recommend, recommendInOrder_of_perm r q (.refl _), sequential]
  cases r.policy with
  | bestEffort => simp
  | strict => cases r.firstFailure? q <;> simp

/-- The recommenders enrich a request alike and answer it alike, or both fail; and under
the best-effort policy neither fails. -/
structure AnswersAlike (r r' : Recommender) (q : RecRequest) : Prop where
  enriched : ∀ enriched, r.enrich q = .ok enriched ↔ r'.enrich q = .ok enriched
  reply : ∀ reply, r.recommend q = .ok reply ↔ r'.recommend q = .ok reply
  fails : (∃ e, r.recommend q = .error e) ↔ ∃ e, r'.recommend q = .error e
  bestEffort : r.policy = .bestEffort → ∃ enriched reply,
    r.enrich q = .ok enriched ∧ r'.enrich q = .ok enriched ∧
      r.recommend q = .ok reply ∧ r'.recommend q = .ok reply

theorem exists_error_iff {α : Type} {x : Except Status α} :
    (∃ e, x = .error e) ↔ ∀ a, x ≠ .ok a := by
  cases x <;> simp

/-- Context stages that leave the same request, and fail or not alike, may stand in for
each other. -/
theorem answersAlike_of_contexts {r : Recommender}
    {contexts : List (ScopeId × ContextClient)} {q : RecRequest}
    (hworking : working r.contexts q = working contexts q)
    (hfailure : contextFailure? r.contexts q = none ↔ contextFailure? contexts q = none) :
    r.AnswersAlike { r with contexts := contexts } q := by
  have henriched : ∀ enriched, r.enrich q = .ok enriched ↔
      ({ r with contexts := contexts } : Recommender).enrich q = .ok enriched := by
    intro enriched
    rw [enrich_eq_ok_iff, enrich_eq_ok_iff, hworking, hfailure]
  -- the retrievals are called with the request that the context stages leave
  have hretrieved : r.retrieved q =
      ({ r with contexts := contexts } : Recommender).retrieved q := by
    rw [retrieved, retrieved, hworking]
  have hfirst : r.firstFailure? q = none ↔
      ({ r with contexts := contexts } : Recommender).firstFailure? q = none := by
    rw [firstFailure?, firstFailure?, Option.or_eq_none_iff, Option.or_eq_none_iff,
      hfailure, hretrieved]
  have hreply : ∀ reply, r.recommend q = .ok reply ↔
      ({ r with contexts := contexts } : Recommender).recommend q = .ok reply := by
    intro reply
    rw [recommend_eq_ok_iff, recommend_eq_ok_iff, hfirst, bestReply, bestReply, hretrieved]
  refine ⟨henriched, hreply, ?_, ?_⟩
  -- to fail is to have no reply, so this follows from the replies
  · rw [exists_error_iff, exists_error_iff]
    exact forall_congr' fun reply => not_congr (hreply reply)
  · intro hpolicy
    have hok := enrich_bestEffort hpolicy q
    have hanswer := recommend_bestEffort hpolicy q
    exact ⟨_, _, hok, (henriched _).1 hok, hanswer, (hreply _).1 hanswer⟩

/-- Neighbours that are apart may change places. -/
theorem answersAlike_swap {s t : ScopeId × ContextClient} (h : Apart s t) (r : Recommender)
    (before after : List (ScopeId × ContextClient)) (q : RecRequest) :
    AnswersAlike { r with contexts := before ++ s :: t :: after }
      { r with contexts := before ++ t :: s :: after } q :=
  answersAlike_of_contexts (working_swap h before after q)
    (contextFailure?_swap h before after q)

/-! ### Wiring in either order -/

/-- Add context stages one after the other. -/
def addContexts (r : Recommender) (stages : List (ScopeId × ContextClient)) :
    Except ScopeTaken Recommender :=
  stages.foldlM (fun r stage => r.addContext stage.1 stage.2) r

theorem addContext_eq_ok_iff {r r' : Recommender} {stage : ScopeId × ContextClient} :
    r.addContext stage.1 stage.2 = .ok r' ↔ stage.1 ∉ r.contexts.map Prod.fst ∧
      { r with contexts := r.contexts ++ [stage] } = r' := by
  by_cases hmem : stage.1 ∈ r.contexts.map Prod.fst
  · rw [addContext_of_mem hmem]
    simp [hmem]
  · rw [addContext_of_notMem hmem, Except.ok.injEq]
    simp only [hmem, not_false_eq_true, true_and]

/-- Stages can be added if they are for different scopes that are free. -/
theorem addContexts_eq_ok_iff {r r' : Recommender}
    {stages : List (ScopeId × ContextClient)} :
    r.addContexts stages = .ok r' ↔ (stages.map Prod.fst).Nodup ∧
      (∀ stage ∈ stages, stage.1 ∉ r.contexts.map Prod.fst) ∧
      { r with contexts := r.contexts ++ stages } = r' := by
  -- what is put in for a stage is the stage itself
  have hrun : r.addContexts stages = .ok r' ↔ (stages.map Prod.fst).Nodup ∧
      (∀ stage ∈ stages, stage.1 ∉ r.contexts.map Prod.fst) ∧
      ∃ added, List.Forall₂ Eq stages added ∧
        { r with contexts := r.contexts ++ added } = r' := by
    apply foldlM_eq_ok_iff fun (r : Recommender) scope => scope ∈ r.contexts.map Prod.fst
    · intro r
      rw [List.append_nil]
    · intro r stage stages
      rw [List.append_assoc]
      rfl
    · intro r stage r'
      rw [addContext_eq_ok_iff, exists_eq_left']
    · rintro r stage _ scope rfl
      rw [List.map_append, List.mem_append, List.map_singleton, List.mem_singleton, or_comm]
  rw [hrun, List.forall₂_eq_eq_eq]
  simp only [exists_eq_left']

end Recommender

/-- Two entries for local lookups, neither of which reads from the scope of the other. -/
def ContextEntry.Independent (e e' : ContextEntry) : Prop :=
  ∃ c c', e.endpoint = .hosted c ∧ e'.endpoint = .hosted c' ∧
    c.sourceScope ≠ e'.scope ∧ c'.sourceScope ≠ e.scope

/-- Keys that are distinct stay so when neighbours change places. -/
theorem nodup_keys_swap {α κ : Type} {key : α → κ} {before after : List α} {a a' : α}
    (h : ((before ++ a :: a' :: after).map key).Nodup) :
    key a ≠ key a' ∧ ((before ++ a' :: a :: after).map key).Nodup := by
  constructor
  · intro heq
    rw [List.map_append, List.map_cons, List.map_cons, heq] at h
    exact (List.nodup_cons.1 (List.nodup_append.1 h).2.1).1 List.mem_cons_self
  -- both lists have the same members
  · have hperm : (before ++ a :: a' :: after).Perm (before ++ a' :: a :: after) :=
      (List.Perm.swap a' a after).append_left before
    exact (hperm.map key).nodup_iff.1 h

/-- Neighbours in a list have neighbours in what the list is related to, and both may
change places. -/
theorem exists_swap_of_forall₂ {α β : Type} {R : α → β → Prop} {before after : List α}
    {a a' : α} {bs : List β} (h : List.Forall₂ R (before ++ a :: a' :: after) bs) :
    ∃ front b b' rest, bs = front ++ b :: b' :: rest ∧ R a b ∧ R a' b' ∧
      List.Forall₂ R (before ++ a' :: a :: after) (front ++ b' :: b :: rest) := by
  -- on what stands before the two
  induction before generalizing bs with
  | nil =>
    obtain ⟨b, _, hb, htail, rfl⟩ := List.forall₂_cons_left_iff.1 h
    obtain ⟨b', rest, hb', hrest, rfl⟩ := List.forall₂_cons_left_iff.1 htail
    exact ⟨[], b, b', rest, rfl, hb, hb', .cons hb' (.cons hb hrest)⟩
  | cons first before ih =>
    obtain ⟨c, _, hc, hrest, rfl⟩ := List.forall₂_cons_left_iff.1 h
    obtain ⟨front, b, b', rest, rfl, hb, hb', hswapped⟩ := ih hrest
    exact ⟨c :: front, b, b', rest, rfl, hb, hb', .cons hc hswapped⟩

section Wired

variable {net : Network} {clients : SortedMap String IndexerClient}

/-- Independent entries for different scopes are wired to stages that are apart. -/
theorem ContextEntry.Wires.apart {e e' : ContextEntry}
    {w w' : WiredStage ScopeId KeyedContext ContextClient} (h : e.Wires net clients w)
    (h' : e'.Wires net clients w') (hindependent : e.Independent e')
    (hscope : e.scope ≠ e'.scope) :
    Recommender.Apart (w.key, w.client) (w'.key, w'.client) := by
  obtain ⟨c, c', hc, hc', hread, hread'⟩ := hindependent
  cases h with
  -- an independent entry is for a local lookup
  | remote => cases hc
  | hosted hstage =>
    cases h' with
    | remote => cases hc'
    | hosted hstage' =>
      cases hc
      cases hc'
      obtain ⟨client, -, rfl⟩ := Node.keyedContext_eq_ok_iff.1 hstage
      obtain ⟨client', -, rfl⟩ := Node.keyedContext_eq_ok_iff.1 hstage'
      exact Recommender.apart_of_lookups hscope hread hread'

end Wired

namespace Node

/-- A configuration with two independent neighbours in the other order is wired as well,
and recommends alike. -/
theorem ofConfig_swap {net : Network} {tree : FileTree} {config : PipelineConfig}
    {node : Node} {before after : List ContextEntry} {e e' : ContextEntry}
    (hcontexts : config.contexts = before ++ e :: e' :: after)
    (hindependent : e.Independent e') (hnode : ofConfig net tree config = .ok node) :
    ∃ node', ofConfig net tree
        { config with contexts := before ++ e' :: e :: after } = .ok node' ∧
      ∀ r, node.recommender = some r → ∃ r', node'.recommender = some r' ∧
        ∀ q, r.AnswersAlike r' q := by
  obtain ⟨opened, contexts, retrievals, hopened, hscopes, hids, hwires, hretrievals, rfl⟩ :=
    ofConfig_eq_ok_iff_wires.1 hnode
  rw [hcontexts] at hwires hscopes
  obtain ⟨front, w, w', rest, rfl, hw, hw', hswapped⟩ := exists_swap_of_forall₂ hwires
  -- a scope has one writer, in whichever order the writers stand
  obtain ⟨hne, hscopes'⟩ := nodup_keys_swap hscopes
  have hapart := hw.apart hw' hindependent hne
  refine ⟨_, ofConfig_eq_ok_iff_wires.2
    ⟨opened, _, retrievals, hopened, hscopes', hids, hswapped, hretrievals, rfl⟩, ?_⟩
  intro r hr
  obtain ⟨n, hnum, rfl⟩ := Option.map_eq_some_iff.1 hr
  refine ⟨_, Option.map_eq_some_iff.2 ⟨n, hnum, rfl⟩, ?_⟩
  intro q
  rw [List.map_append, List.map_append]
  exact Recommender.answersAlike_swap hapart
    ⟨n, if config.strict then .strict else .bestEffort, [],
      retrievals.map WiredStage.client⟩ _ _ q

end Node

/-- **Independent lookups may be wired in either order.**  If neither of two
neighbouring lookups reads from the scope that the other writes, then adding them in the
other order succeeds too, whatever stages stand before and behind them, and every
request is answered alike: with the same enriched request and the same reply if there is
one, which under the best-effort policy there always is, and with a failure in both
orders otherwise.  So do nodes whose configurations list two such entries in either
order. -/
theorem recommend_of_swapped_lookups :
    (∀ (r₀ r : Recommender) (scope scope' : ScopeId) (c c' : KeyedContext)
      (before after : List (ScopeId × ContextClient)),
      c.source.scope ≠ scope' → c'.source.scope ≠ scope →
      r₀.addContexts (before ++ (scope, c.answer) :: (scope', c'.answer) :: after) = .ok r →
      ∃ r', r₀.addContexts
          (before ++ (scope', c'.answer) :: (scope, c.answer) :: after) = .ok r' ∧
        ∀ q, r.AnswersAlike r' q) ∧
    ∀ (net : Network) (tree : FileTree) (config : PipelineConfig) (node : Node)
      (before after : List ContextEntry) (e e' : ContextEntry),
      config.contexts = before ++ e :: e' :: after → e.Independent e' →
      Node.ofConfig net tree config = .ok node →
      ∃ node', Node.ofConfig net tree
          { config with contexts := before ++ e' :: e :: after } = .ok node' ∧
        ∀ r, node.recommender = some r → ∃ r', node'.recommender = some r' ∧
          ∀ q, r.AnswersAlike r' q := by
  constructor
  · intro r₀ r scope scope' c c' before after hread hread' hadded
    obtain ⟨hnodup, hfree, rfl⟩ := Recommender.addContexts_eq_ok_iff.1 hadded
    obtain ⟨hne, hnodup'⟩ := nodup_keys_swap hnodup
    refine ⟨_, Recommender.addContexts_eq_ok_iff.2 ⟨hnodup', ?_, rfl⟩, ?_⟩
    · intro stage hstage
      apply hfree
      simpa [or_left_comm] using hstage
    · intro q
      rw [← List.append_assoc, ← List.append_assoc]
      exact Recommender.answersAlike_swap
        (Recommender.apart_of_lookups hne hread hread') r₀ _ after q
  · intro net tree config node before after e e' hcontexts hindependent hnode
    exact Node.ofConfig_swap hcontexts hindependent hnode

namespace Node.Shelf

/-- An entry for a lookup in the shelf. -/
def lookupEntry (scope sourceScope : ScopeId) (sourceField : FieldId)
    (fields : List FieldId) : ContextEntry :=
  ⟨scope, .hosted { indexer := "items", sourceScope, sourceField, fields }⟩

/-- Three lookups under the strict policy.  The first two read what the caller sent, and
the third one reads what the second has written. -/
def threeLookups : PipelineConfig :=
  { config with
    contexts := [lookupEntry 7 0 1 [2], lookupEntry 8 0 1 [1], lookupEntry 9 8 1 [2]]
    strict := true }

/-- The node of the three lookups. -/
def lookupNode : Node := (ofConfig net tree threeLookups).toOption.getD {}

/-- The first two lookups change places, with the third one behind them.  The last two
do not: put first, the third lookup finds nothing to read, and the request fails. -/
theorem recommend_of_swapped_lookups_shelf :
    threeLookups.contexts = [] ++
      lookupEntry 7 0 1 [2] :: lookupEntry 8 0 1 [1] :: [lookupEntry 9 8 1 [2]] ∧
      (lookupEntry 7 0 1 [2]).Independent (lookupEntry 8 0 1 [1]) ∧
      ofConfig net tree threeLookups = .ok lookupNode ∧
      ∃ node', ofConfig net tree { threeLookups with
          contexts := [lookupEntry 8 0 1 [1], lookupEntry 7 0 1 [2],
            lookupEntry 9 8 1 [2]] } = .ok node' ∧
        ∃ r r' reply, lookupNode.recommender = some r ∧ node'.recommender = some r' ∧
          r.recommend request = .ok reply ∧ r'.recommend request = .ok reply ∧
            reply.items.length = 3 ∧
          ((ofConfig net tree { threeLookups with
              contexts := [lookupEntry 7 0 1 [2], lookupEntry 9 8 1 [2],
                lookupEntry 8 0 1 [1]] }).toOption.bind (·.recommender)).map
            (fun r => (r.recommend request).toOption) = some none := by
  have hindependent : (lookupEntry 7 0 1 [2]).Independent (lookupEntry 8 0 1 [1]) :=
    ⟨_, _, rfl, rfl, by decide, by decide⟩
  have hnode : ofConfig net tree threeLookups = .ok lookupNode := rfl
  have hlength : (lookupNode.recommender.bind fun r => (r.recommend request).toOption).map
      (fun reply => reply.items.length) = some 3 := by decide +kernel
  obtain ⟨reply, hreply, hthree⟩ := Option.map_eq_some_iff.1 hlength
  obtain ⟨r, hr, hanswer⟩ := Option.bind_eq_some_iff.1 hreply
  -- the length was computed from a reply, so there is one
  have hok : r.recommend request = .ok reply := by
    cases hrecommend : r.recommend request with
    | error e =>
      rw [hrecommend] at hanswer
      cases hanswer
    | ok reply' =>
      rw [hrecommend] at hanswer
      cases hanswer
      rfl
  obtain ⟨node', hnode', halike⟩ :=
    recommend_of_swapped_lookups.2 net tree threeLookups lookupNode []
      [lookupEntry 9 8 1 [2]] (lookupEntry 7 0 1 [2]) (lookupEntry 8 0 1 [1])
      rfl hindependent hnode
  obtain ⟨r', hr', hanswers⟩ := halike r hr
  exact ⟨rfl, hindependent, hnode, node', hnode', r, r', reply, hr, hr', hok,
    ((hanswers request).reply reply).1 hok, hthree, by decide +kernel⟩

end Node.Shelf

end Recommend
