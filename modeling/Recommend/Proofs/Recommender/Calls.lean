import Recommend.Proofs.Recommender.Completion
import Recommend.Stage.ContentRetrieval
import Recommend.Stage.KeyedContext

/-!
The index calls behind a recommendation.

`Logged` is a computation that may fail, with the index calls it has made.  The stages
and the recommender are written in it once more, and leaving out the calls gives back
what they answer (`Assembly.result_logged`), so the calls are those of the recommender
that runs.

Under the strict policy a recommendation succeeds only if all of its lookups do.  With
searches it is different: a retrieval stage whose search fails answers without items,
and so the recommender cannot tell a failed search from one that finds nothing
(`Assembly.recommender_lenient`).
-/

namespace Recommend

/-! ### Calls and logs -/

/-- A call of an index and what came of it. -/
inductive IndexCall where
  | forward (request : ForwardRequest) (answer : Except Status IndexerReply)
  | inverted (request : InvertedRequest) (answer : Except Status IndexerReply)

namespace IndexCall

/-- What the index answered. -/
def answer : IndexCall → Except Status IndexerReply
  | forward _ answer => answer
  | inverted _ answer => answer

/-- Whether the call is a lookup by key. -/
def isForward : IndexCall → Bool
  | forward _ _ => true
  | inverted _ _ => false

/-- The index has answered with a reply. -/
def Succeeded (call : IndexCall) : Prop := ∃ reply, call.answer = .ok reply

end IndexCall

/-- A computation that may fail, with the index calls it has made. -/
structure Logged (α : Type) where
  calls : List IndexCall
  result : Except Status α

namespace Logged

variable {α β : Type}

/-- A computation without calls. -/
def quiet (result : Except Status α) : Logged α := ⟨[], result⟩

/-- One computation after the other; a failure ends both. -/
def andThen (x : Logged α) (f : α → Logged β) : Logged β :=
  match x.result with
  | .ok a => ⟨x.calls ++ (f a).calls, (f a).result⟩
  -- the calls made so far count even if their computation fails
  | .error e => ⟨x.calls, .error e⟩

instance : Monad Logged where
  pure a := quiet (.ok a)
  bind := andThen

/-- Look something up, and keep note of it. -/
def forward (client : IndexerClient) (request : ForwardRequest) : Logged IndexerReply :=
  ⟨[.forward request (client.forward request)], client.forward request⟩

/-- Search for something, and keep note of it. -/
def inverted (client : IndexerClient) (request : InvertedRequest) : Logged IndexerReply :=
  ⟨[.inverted request (client.inverted request)], client.inverted request⟩

/-- The same calls, with a failure handed over as a value. -/
def attempt (x : Logged α) : Logged (Except Status α) := ⟨x.calls, .ok x.result⟩

@[simp] theorem result_quiet (x : Except Status α) : (quiet x).result = x := rfl

@[simp] theorem result_bind (x : Logged α) (f : α → Logged β) :
    (x >>= f).result = x.result >>= fun a => (f a).result := by
  show (x.andThen f).result = _
  rw [andThen]
  cases x.result <;> rfl

/-- What is done with an attempt adds no call. -/
theorem calls_attempt_quiet (x : Logged α) (f : Except Status α → Except Status β) :
    (x.attempt >>= fun a => quiet (f a)).calls = x.calls := List.append_nil x.calls

/-- If the computation succeeds, its calls have the property. -/
def Warrants (p : IndexCall → Prop) (x : Logged α) : Prop :=
  ∀ b, x.result = .ok b → ∀ call ∈ x.calls, p call

theorem warrants_quiet (p : IndexCall → Prop) (x : Except Status α) :
    (quiet x).Warrants p := by
  intro b _ call hcall
  cases hcall

theorem warrants_pure (p : IndexCall → Prop) (a : α) : (pure a : Logged α).Warrants p :=
  warrants_quiet p (.ok a)

theorem warrants_forward (client : IndexerClient) (request : ForwardRequest) :
    (forward client request).Warrants IndexCall.Succeeded := by
  intro reply hreply call hcall
  rw [List.mem_singleton.1 hcall]
  exact ⟨reply, hreply⟩

/-- A sequence that succeeds has succeeded in both of its parts. -/
theorem Warrants.bind {p : IndexCall → Prop} {x : Logged α} {f : α → Logged β}
    (hx : x.Warrants p) (hf : ∀ a, (f a).Warrants p) : (x >>= f).Warrants p := by
  intro b hb call hcall
  -- the bind of the instance is `andThen`, which the hypotheses have to be stated with
  have hresult : (x.andThen f).result = .ok b := hb
  have hcalls : call ∈ (x.andThen f).calls := hcall
  rw [andThen] at hresult hcalls
  cases hfirst : x.result with
  | error e =>
    rw [hfirst] at hresult
    cases hresult
  | ok a =>
    rw [hfirst] at hresult hcalls
    -- the call belongs to the one part or to the other
    rcases List.mem_append.1 hcalls with hbefore | hafter
    · exact hx a hfirst call hbefore
    · exact hf a b hresult call hafter

/-- A run that succeeds has succeeded in each of its steps. -/
theorem warrants_foldlM {σ : Type} {p : IndexCall → Prop} {f : σ → α → Logged σ}
    (hf : ∀ s a, (f s a).Warrants p) (l : List α) (s : σ) : (l.foldlM f s).Warrants p := by
  induction l generalizing s with
  | nil => exact warrants_pure p s
  | cons a l ih => exact (hf s a).bind ih

/-- Leaving out the calls of a run leaves them out of each step. -/
theorem result_foldlM {σ : Type} (f : σ → α → Logged σ) (l : List α) (s : σ) :
    (l.foldlM f s).result = l.foldlM (fun s a => (f s a).result) s := by
  induction l generalizing s with
  | nil => rfl
  | cons a l ih =>
    rw [List.foldlM_cons, List.foldlM_cons, result_bind]
    congr 1
    funext s'
    exact ih s'

end Logged

/-! ### Stages -/

namespace KeyedContext

/-- The lookup of a context stage, with its call. -/
def logged (c : KeyedContext) (request : RecRequest) : Logged ContextReply := do
  let lookup ← .quiet (c.lookup request)
  let reply ← .forward c.indexer lookup
  pure ⟨request.requestId, (reply.items.map (·.fields)).head?.getD .empty⟩

theorem result_logged (c : KeyedContext) (request : RecRequest) :
    (c.logged request).result = c.answer request := by
  rw [logged, answer, Logged.result_bind, Logged.result_quiet]
  congr 1
  funext lookup
  rw [Logged.result_bind, IndexerClient.getMaps]
  show (c.indexer.forward lookup >>= _) = _
  cases c.indexer.forward lookup <;> rfl

/-- A context stage that answers has made no call that failed. -/
theorem warrants_logged (c : KeyedContext) (request : RecRequest) :
    (c.logged request).Warrants IndexCall.Succeeded := by
  refine (Logged.warrants_quiet _ _).bind fun lookup => ?_
  exact (Logged.warrants_forward c.indexer lookup).bind fun reply =>
    Logged.warrants_pure _ _

end KeyedContext

namespace ContentRetrieval

/-- The search of a retrieval stage, with its call; its failure is not passed on. -/
def logged (r : ContentRetrieval) (request : RecRequest) : Logged ItemReply := do
  let search ← .quiet (r.search request)
  -- a failure becomes a value here, so the next step is taken in any case
  let found ← (Logged.inverted r.indexer search).attempt
  .quiet (.ok ⟨request.requestId, (found.toOption.map r.candidates).getD []⟩)

theorem result_logged (r : ContentRetrieval) (request : RecRequest) :
    (r.logged request).result = r.answer request := by
  rw [logged, answer, Logged.result_bind, Logged.result_quiet]
  congr 1
  funext search
  rw [Logged.result_bind]
  dsimp only [Logged.attempt, Logged.inverted, bind, Except.bind]
  cases r.indexer.inverted search <;> rfl

/-- A retrieval stage makes no lookup. -/
theorem isForward_of_mem_logged {r : ContentRetrieval} {request : RecRequest}
    {call : IndexCall} (h : call ∈ (r.logged request).calls) : call.isForward = false := by
  rw [logged] at h
  cases hsearch : r.search request with
  -- without a search there is no call
  | error e =>
    rw [hsearch] at h
    cases h
  | ok search =>
    rw [hsearch] at h
    obtain rfl := List.mem_singleton.1 h
    rfl

end ContentRetrieval

/-! ### Recommenders -/

/-- A recommender over keyed lookups and searches by content. -/
structure Assembly where
  requestNum : UInt64
  policy : FailurePolicy
  contexts : List (ScopeId × KeyedContext)
  retrievals : List ContentRetrieval

namespace Assembly

/-- The recommender that calls the stages of an assembly. -/
def recommender (a : Assembly) : Recommender where
  requestNum := a.requestNum
  policy := a.policy
  contexts := a.contexts.map fun stage => (stage.1, stage.2.answer)
  retrievals := a.retrievals.map (·.answer)

/-- One step of enrichment, with the calls of the stage. -/
def enrichStep (policy : FailurePolicy) (working : RecRequest)
    (stage : ScopeId × KeyedContext) : Logged RecRequest := do
  let answer ← (stage.2.logged working).attempt
  -- the policy decides about the answer, not about the calls
  .quiet (Recommender.enrichStep policy working (stage.1, fun _ => answer))

/-- All retrievals are started on the enriched request, and their items are read in
wiring order. -/
def retrieve (a : Assembly) (enriched : RecRequest) : Logged (List RecItem) :=
  let answers := a.retrievals.map (·.logged enriched)
  ⟨answers.flatMap (·.calls),
    Recommender.collect a.policy (answers.map fun x => .ok x.result)⟩

/-- A recommendation with all index calls that serving it makes. -/
def logged (a : Assembly) (request : RecRequest) : Logged ItemReply := do
  let enriched ← a.contexts.foldlM (enrichStep a.policy) request
  let items ← a.retrieve enriched
  pure ⟨request.requestId, items.take a.requestNum.toNat⟩

theorem result_enrichStep (policy : FailurePolicy) (working : RecRequest)
    (stage : ScopeId × KeyedContext) :
    (enrichStep policy working stage).result =
      Recommender.enrichStep policy working (stage.1, stage.2.answer) := by
  rw [enrichStep, Logged.result_bind]
  dsimp only [Logged.attempt, bind, Except.bind]
  -- the step looks at the answer of the stage only, which is the logged one
  rw [Logged.result_quiet, KeyedContext.result_logged, Recommender.enrichStep,
    Recommender.enrichStep]

theorem result_retrieve (a : Assembly) (enriched : RecRequest) :
    (a.retrieve enriched).result =
      Recommender.collect a.policy
        ((a.recommender.retrievals.map fun client => client enriched).map .ok) := by
  rw [retrieve, recommender]
  simp only [List.map_map]
  congr 2
  funext r
  exact congrArg Except.ok (r.result_logged enriched)

/-- Leaving out the calls gives what the recommender answers. -/
theorem result_logged (a : Assembly) (request : RecRequest) :
    (a.logged request).result = a.recommender.recommend request := by
  -- stage by stage, from the same request
  have henrich : (a.contexts.foldlM (enrichStep a.policy) request).result =
      a.recommender.enrich request := by
    rw [Logged.result_foldlM, Recommender.enrich, recommender, List.foldlM_map]
    congr 1
    funext working stage
    exact result_enrichStep a.policy working stage
  rw [logged, Logged.result_bind, henrich, Recommender.recommend,
    Recommender.recommendInOrder]
  congr 1
  funext enriched
  -- the retrievals settle in wiring order
  have hsettle := Recommender.settle_of_perm
    (a.recommender.retrievals.map fun client => client enriched) (.refl _)
  rw [List.length_map] at hsettle
  rw [Logged.result_bind, result_retrieve, hsettle]
  rfl

/-! ### Lookups under the strict policy -/

/-- A step that goes on under the strict policy has made no call that failed. -/
theorem warrants_enrichStep (working : RecRequest) (stage : ScopeId × KeyedContext) :
    (enrichStep .strict working stage).Warrants IndexCall.Succeeded := by
  intro enriched henriched call hcall
  rw [result_enrichStep, Recommender.enrichStep] at henriched
  dsimp only at henriched
  -- a stage that failed would have ended the call
  cases hanswer : stage.2.answer working with
  | error e =>
    rw [hanswer] at henriched
    cases henriched
  | ok reply =>
    rw [← KeyedContext.result_logged] at hanswer
    rw [enrichStep, Logged.calls_attempt_quiet] at hcall
    exact stage.2.warrants_logged working reply hanswer call hcall

/-- What is warranted of a recommendation: its lookups did not fail. -/
def LookupSucceeded (call : IndexCall) : Prop := call.isForward = true → call.Succeeded

theorem warrants_retrieve (a : Assembly) (enriched : RecRequest) :
    (a.retrieve enriched).Warrants LookupSucceeded := by
  intro items _ call hcall hforward
  obtain ⟨answer, hanswer, hcall⟩ := List.mem_flatMap.1 hcall
  obtain ⟨r, -, rfl⟩ := List.mem_map.1 hanswer
  -- a retrieval only searches, so nothing is claimed about its call
  rw [ContentRetrieval.isForward_of_mem_logged hcall] at hforward
  cases hforward

/-- A recommendation that succeeds under the strict policy has made no lookup that
failed. -/
theorem warrants_logged {a : Assembly} (hpolicy : a.policy = .strict)
    (request : RecRequest) : (a.logged request).Warrants LookupSucceeded := by
  have hcontexts :
      (a.contexts.foldlM (enrichStep a.policy) request).Warrants LookupSucceeded := by
    rw [hpolicy]
    apply Logged.warrants_foldlM
    intro working stage enriched henriched call hcall _
    exact warrants_enrichStep working stage enriched henriched call hcall
  refine hcontexts.bind fun enriched => ?_
  exact (a.warrants_retrieve enriched).bind fun items => Logged.warrants_pure _ _

/-! ### Searches -/

/-- The client that answers without items where a search fails. -/
def lenientClient (client : IndexerClient) : IndexerClient where
  forward := client.forward
  inverted q := .ok ((client.inverted q).toOption.getD ⟨[]⟩)

/-- The same recommender over searches that do not fail. -/
def lenient (a : Assembly) : Assembly :=
  { a with
    retrievals := a.retrievals.map fun r => { r with indexer := lenientClient r.indexer } }

theorem answer_lenientClient (r : ContentRetrieval) :
    ContentRetrieval.answer { r with indexer := lenientClient r.indexer } = r.answer := by
  funext request
  rw [ContentRetrieval.answer, ContentRetrieval.answer]
  -- the search itself does not depend on the client
  show (r.search request >>= _) = (r.search request >>= _)
  congr 1
  funext search
  dsimp only [lenientClient]
  cases r.indexer.inverted search <;> rfl

/-- To the recommender a search that fails is a search that finds nothing. -/
theorem recommender_lenient (a : Assembly) : a.lenient.recommender = a.recommender := by
  have hretrievals : a.lenient.retrievals.map (·.answer) = a.retrievals.map (·.answer) := by
    rw [lenient]
    simp only [List.map_map]
    congr 1
    funext r
    exact answer_lenientClient r
  rw [recommender, recommender, hretrievals]
  rfl

/-- Under the strict policy a recommendation succeeds only if all lookups made for it
do.  A search that fails counts as one that finds nothing: the answer is that of the
same recommender over searches that do not fail. -/
theorem recommend_strict_of_lookups (a : Assembly) (hpolicy : a.policy = .strict)
    (request : RecRequest) :
    (a.logged request).result = a.recommender.recommend request ∧
      (∀ reply, a.recommender.recommend request = .ok reply →
        ∀ call ∈ (a.logged request).calls, call.isForward = true → call.Succeeded) ∧
      a.lenient.recommender.recommend request = a.recommender.recommend request := by
  refine ⟨a.result_logged request, ?_, by rw [recommender_lenient]⟩
  intro reply hreply call hcall
  rw [← result_logged] at hreply
  exact warrants_logged hpolicy request reply hreply call hcall

/-- An index whose lookups echo their keys and whose searches fail. -/
def halfDown : IndexerClient where
  forward q := .ok ⟨[⟨.ofList [(103, .bytes q.keys)]⟩]⟩
  inverted _ := .error (.cancelled "down")

/-- A lookup that feeds a search, both over that index. -/
def overHalfDown : Assembly where
  requestNum := 10
  policy := .strict
  contexts := [(201, ⟨⟨1, 200⟩, 200, [103], halfDown⟩)]
  retrievals := [⟨7, 10, ⟨201, 103⟩, [100], .empty, halfDown⟩]

/-- A request with one key at scope 1, field 200. -/
def keyedRequest : RecRequest := ⟨"r", .ofList [(1, .ofList [(200, .bytes ["u"])])]⟩

theorem recommend_strict_of_lookups_half_down :
    overHalfDown.policy = .strict ∧
      overHalfDown.recommender.recommend keyedRequest = .ok ⟨"r", []⟩ ∧
      (overHalfDown.logged keyedRequest).calls.map IndexCall.isForward = [true, false] ∧
      ∀ call ∈ (overHalfDown.logged keyedRequest).calls, call.isForward = true →
        call.Succeeded := by
  have hpolicy : overHalfDown.policy = .strict := rfl
  have hreply : overHalfDown.recommender.recommend keyedRequest = .ok ⟨"r", []⟩ := by
    decide +kernel
  exact ⟨hpolicy, hreply, by decide +kernel,
    (recommend_strict_of_lookups overHalfDown hpolicy keyedRequest).2.1 _ hreply⟩

/-- The strict policy does not show that a search has failed. -/
theorem recommend_strict_hides_search :
    overHalfDown.policy = .strict ∧
      overHalfDown.recommender.recommend keyedRequest = .ok ⟨"r", []⟩ ∧
      ∃ call ∈ (overHalfDown.logged keyedRequest).calls, ¬call.Succeeded := by
  refine ⟨rfl, by decide +kernel, .inverted _ (.error (.cancelled "down")),
    .tail _ (.head _), ?_⟩
  rintro ⟨reply, hreply⟩
  cases hreply

end Assembly

end Recommend
