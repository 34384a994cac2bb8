import Recommend.Stage.Client

/-!
The recommender: context stages enrich the request one after the other, then all
retrieval stages answer the enriched request and their items are joined.

Retrievals run side by side.  Their answers settle in whatever order they complete, and
are read in wiring order, so that the order of completion does not show.
-/

namespace Recommend

/-- What a failed stage means for the request. -/
inductive FailurePolicy where
  /-- A failed stage contributes nothing. -/
  | bestEffort
  /-- The first failure is the answer. -/
  | strict
  deriving DecidableEq

instance : Inhabited FailurePolicy := ⟨.bestEffort⟩

/-- A scope has a writer already. -/
structure ScopeTaken where
  scope : ScopeId
  deriving DecidableEq

/-- What is reported about a scope with two writers. -/
def ScopeTaken.message (e : ScopeTaken) : String :=
  "context scope " ++ Decimal.ofInt e.scope.toInt ++ " is already wired"

/-- Stages in the order in which they are wired. -/
structure Recommender where
  /-- How many items a reply may hold. -/
  requestNum : UInt64
  policy : FailurePolicy := default
  contexts : List (ScopeId × ContextClient) := []
  retrievals : List RetrievalClient := []

namespace Recommender

/-! ### Wiring -/

/-- Add a context stage behind the others; a scope has one writer. -/
def addContext (r : Recommender) (scope : ScopeId) (client : ContextClient) :
    Except ScopeTaken Recommender :=
  if r.contexts.any (·.1 = scope) then .error ⟨scope⟩
  else .ok { r with contexts := r.contexts ++ [(scope, client)] }

/-- Add a retrieval stage behind the others. -/
def addRetrieval (r : Recommender) (client : RetrievalClient) : Recommender :=
  { r with retrievals := r.retrievals ++ [client] }

/-! ### Enrichment -/

/-- Call one context stage: its features replace the scope. -/
def enrichStep (policy : FailurePolicy) (working : RecRequest)
    (stage : ScopeId × ContextClient) : Except Status RecRequest :=
  match stage.2 working with
  | .ok reply =>
    -- all that the caller had sent in that scope is gone
    .ok { working with context := working.context.insert stage.1 reply.context }
  | .error e =>
    match policy with
    | .strict => .error e
    -- the stages behind it see the request as it was
    | .bestEffort => .ok working

/-- The request after all context stages, each of which sees what those before it wrote. -/
def enrich (r : Recommender) (request : RecRequest) : Except Status RecRequest :=
  r.contexts.foldlM (enrichStep r.policy) request

/-! ### Retrieval -/

/-- What becomes of a task: its result, or why it has none. -/
abbrev Task (α : Type) := Except String α

/-- A task that has not come to its end when its result is asked for. -/
def Task.cancelled {α : Type} (position : Nat) : Task α :=
  .error ("task " ++ Decimal.ofNat position ++ " was cancelled")

/-- The tasks by position, after those at the given positions have come in, in that
order. -/
def settle {α : Type} (answers : List α) (order : List Nat) : List (Task α) :=
  order.foldl
    (fun slots i =>
      match answers[i]? with
      | some a => slots.set i (.ok a)
      -- there is no such task
      | none => slots)
    (answers.mapIdx fun i _ => .cancelled i)

/-- The answer of a retrieval task; one without a result has failed. -/
def settled : Task (Except Status ItemReply) → Except Status ItemReply
  | .ok answer => answer
  | .error cause => .error (.cancelled ("retrieval task failed: " ++ cause))

/-- The items of all retrievals in wiring order. -/
def collect (policy : FailurePolicy) :
    List (Task (Except Status ItemReply)) → Except Status (List RecItem)
  | [] => .ok []
  | slot :: slots =>
    match settled slot with
    | .ok reply => (collect policy slots).map (reply.items ++ ·)
    | .error e =>
      match policy with
      -- the tasks behind it may have completed, but are not looked at
      | .strict => .error e
      | .bestEffort => collect policy slots

/-- Recommend, with retrievals completing in the given order of their positions. -/
def recommendInOrder (r : Recommender) (order : List Nat) (request : RecRequest) :
    Except Status ItemReply := do
  let enriched ← r.enrich request
  let items ← collect r.policy
      (settle (r.retrievals.map fun client => client enriched) order)
  -- cut off only now: a retrieval does not know how many items are wanted
  .ok ⟨request.requestId, items.take r.requestNum.toNat⟩

/-- Recommend, with retrievals completing as they are wired. -/
def recommend (r : Recommender) (request : RecRequest) : Except Status ItemReply :=
  r.recommendInOrder (List.range r.retrievals.length) request

end Recommender

end Recommend
