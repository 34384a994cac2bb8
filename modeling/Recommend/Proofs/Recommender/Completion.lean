import Mathlib.Data.List.Induction
import Mathlib.Logic.Relation
import Recommend.Recommender

/-!
The order in which retrievals complete does not show.

`sequential r request` is what a recommender would answer if it called one stage after
the other: the context stages are a left fold, and the items are those of the retrievals
that answered, in wiring order.  Two descriptions of the running recommender are
compared with it.

* `recommendInOrder` lets the retrievals settle in a given order and reads them
  afterwards.
* `Join.Step` interleaves: at any time a retrieval that is still running may complete,
  or the call joins the next retrieval in wiring order if that one has completed.  Under
  the strict policy the first failure that is joined ends the call, and what is still
  running then never completes.

Both answer `sequential r request`, whatever the order (`recommend_of_completions`).
The invariant that carries the interleaving (`Join.Consistent`) says that the outcome
still to come, put behind the items collected so far, is the outcome of the whole list
of answers.
-/

namespace Recommend.Recommender

/-! ### The sequential answer -/

/-- The failure in an answer. -/
def failure? {α : Type} : Except Status α → Option Status
  | .ok _ => none
  | .error e => some e

/-- The items in an answer; a failure has none. -/
def itemsOf : Except Status ItemReply → List RecItem
  | .ok reply => reply.items
  | .error _ => []

/-- Call a context stage with the request so far and put in what it answers. -/
def workingStep (working : RecRequest) (stage : ScopeId × ContextClient) : RecRequest :=
  match stage.2 working with
  | .ok reply => { working with context := working.context.insert stage.1 reply.context }
  | .error _ => working

/-- The request after the context stages in wiring order. -/
def working (contexts : List (ScopeId × ContextClient)) (request : RecRequest) :
    RecRequest :=
  contexts.foldl workingStep request

/-- The failure of the first context stage that fails, each called with the request so
far. -/
def contextFailure? : List (ScopeId × ContextClient) → RecRequest → Option Status
  | [], _ => none
  | stage :: stages, request =>
    (failure? (stage.2 request)).or (contextFailure? stages (workingStep request stage))

/-- What the retrievals answer to the enriched request, in wiring order. -/
def retrieved (r : Recommender) (request : RecRequest) : List (Except Status ItemReply) :=
  r.retrievals.map fun client => client (working r.contexts request)

/-- The reply of the stages that answered. -/
def bestReply (r : Recommender) (request : RecRequest) : ItemReply :=
  ⟨request.requestId, ((r.retrieved request).flatMap itemsOf).take r.requestNum.toNat⟩

/-- The first failure in wiring order, context stages before retrievals. -/
def firstFailure? (r : Recommender) (request : RecRequest) : Option Status :=
  (contextFailure? r.contexts request).or ((r.retrieved request).findSome? failure?)

/-- What a recommender answers that calls its stages one after the other. -/
def sequential (r : Recommender) (request : RecRequest) : Except Status ItemReply :=
  -- under the best-effort policy a failure is not looked at
  match r.policy, r.firstFailure? request with
  | .strict, some e => .error e
  | _, _ => .ok (r.bestReply request)

/-! ### Enrichment -/

theorem enrichStep_ok {policy : FailurePolicy} {request : RecRequest}
    {stage : ScopeId × ContextClient} (h : failure? (stage.2 request) = none) :
    enrichStep policy request stage = .ok (workingStep request stage) := by
  unfold enrichStep workingStep
  cases hanswer : stage.2 request with
  | ok reply => rfl
  | error e => simp [hanswer, failure?] at h

theorem enrichStep_bestEffort (request : RecRequest) (stage : ScopeId × ContextClient) :
    enrichStep .bestEffort request stage = .ok (workingStep request stage) := by
  unfold enrichStep workingStep
  cases stage.2 request <;> rfl

theorem enrichStep_strict {request : RecRequest} {stage : ScopeId × ContextClient}
    {e : Status} (h : failure? (stage.2 request) = some e) :
    enrichStep .strict request stage = .error e := by
  unfold enrichStep
  cases hanswer : stage.2 request with
  | ok reply => simp [hanswer, failure?] at h
  | error e' =>
    rw [hanswer, failure?, Option.some.injEq] at h
    rw [h]

/-- Without a failure that counts, the context stages are a left fold. -/
theorem foldlM_enrichStep (policy : FailurePolicy)
    (contexts : List (ScopeId × ContextClient)) (request : RecRequest) :
    contexts.foldlM (enrichStep policy) request =
      match policy, contextFailure? contexts request with
      | .strict, some e => .error e
      | _, _ => .ok (working contexts request) := by
  -- on the stages that are left, for any request so far
  induction contexts generalizing request with
  | nil => cases policy <;> rfl
  | cons stage stages ih =>
    rw [List.foldlM_cons, contextFailure?]
    cases hfail : failure? (stage.2 request) with
    | none =>
      rw [enrichStep_ok hfail]
      exact ih (workingStep request stage)
    | some e =>
      cases policy with
      | strict =>
        rw [enrichStep_strict hfail]
        rfl
      -- the stage is passed over, and those behind it see the request as it was
      | bestEffort =>
        rw [enrichStep_bestEffort]
        exact ih (workingStep request stage)

theorem enrich_eq (r : Recommender) (request : RecRequest) :
    r.enrich request =
      match r.policy, contextFailure? r.contexts request with
      | .strict, some e => .error e
      | _, _ => .ok (working r.contexts request) :=
  foldlM_enrichStep r.policy r.contexts request

/-! ### Reading answers in wiring order -/

/-- Reading one answer and then the others. -/
theorem collect_cons (policy : FailurePolicy) (answer : Except Status ItemReply)
    (slots : List (Task (Except Status ItemReply))) :
    collect policy (.ok answer :: slots) =
      match policy, failure? answer with
      | .strict, some e => .error e
      | _, _ => (collect policy slots).map (itemsOf answer ++ ·) := by
  rw [collect, settled]
  cases answer with
  | ok reply => cases policy <;> rfl
  | error e =>
    cases policy with
    | strict => rfl
    | bestEffort =>
      -- a failed retrieval adds no item
      dsimp only [failure?, itemsOf]
      cases collect .bestEffort slots <;> rfl

/-- Reading complete answers: the first failure counts under the strict policy only, and
the items are those of the answers in order. -/
theorem collect_map_ok (policy : FailurePolicy) (answers : List (Except Status ItemReply)) :
    collect policy (answers.map .ok) =
      match policy, answers.findSome? failure? with
      | .strict, some e => .error e
      | _, _ => .ok (answers.flatMap itemsOf) := by
  induction answers with
  | nil => cases policy <;> rfl
  | cons answer answers ih =>
    rw [List.map_cons, collect_cons, List.findSome?_cons, ih]
    cases policy with
    | bestEffort => rfl
    | strict =>
      cases failure? answer with
      | some e => rfl
      -- no failure yet: the rest decides
      | none => cases answers.findSome? failure? <;> rfl

/-! ### Settling in any order -/

theorem settle_append_singleton {α : Type} (answers : List α) (order : List Nat) (j : Nat) :
    settle answers (order ++ [j]) =
      match answers[j]? with
      | some a => (settle answers order).set j (.ok a)
      | none => settle answers order := by
  rw [settle, List.foldl_append]
  rfl

theorem length_settle {α : Type} (answers : List α) (order : List Nat) :
    (settle answers order).length = answers.length := by
  induction order using List.reverseRecOn with
  | nil => simp [settle]
  | append_singleton order j ih =>
    rw [settle_append_singleton]
    cases answers[j]? <;> simpa using ih

/-- What stands at a position after answers have settled: the answer there, if it was
among them. -/
theorem getElem?_settle {α : Type} (answers : List α) (order : List Nat) (i : Nat) :
    (settle answers order)[i]? =
      answers[i]?.map fun a => if i ∈ order then .ok a else .cancelled i := by
  -- by induction on the order from its end: the completion that comes last is the last to
  -- be set
  induction order using List.reverseRecOn with
  | nil =>
    show (answers.mapIdx fun i _ => Task.cancelled i)[i]? = _
    rw [List.getElem?_mapIdx]
    rfl
  | append_singleton order j ih =>
    rw [settle_append_singleton]
    by_cases hij : j = i
    · subst hij
      cases hj : answers[j]? with
      | none =>
        rw [hj] at ih
        exact ih
      | some a =>
        have hlt : j < (settle answers order).length := by
          rw [length_settle]
          exact (List.getElem?_eq_some_iff.1 hj).1
        rw [List.getElem?_set_self hlt]
        simp
    -- the last completion was somewhere else
    · have hmem : i ∈ order ++ [j] ↔ i ∈ order := by simp [Ne.symm hij]
      simp only [hmem, ← ih]
      cases answers[j]? with
      | none => rfl
      | some a => exact List.getElem?_set_ne hij

/-- Once every retrieval has completed, in whatever order, all answers are there. -/
theorem settle_of_perm {α : Type} (answers : List α) {order : List Nat}
    (h : order.Perm (List.range answers.length)) :
    settle answers order = answers.map .ok := by
  apply List.ext_getElem?
  intro i
  rw [getElem?_settle, List.getElem?_map]
  cases hi : answers[i]? with
  | none => rfl
  | some a =>
    have hmem : i ∈ order := by
      rw [h.mem_iff, List.mem_range]
      exact (List.getElem?_eq_some_iff.1 hi).1
    rw [Option.map_some, if_pos hmem, Option.map_some]

/-! ### Interleaving completions with the join -/

/-- A call whose retrievals have been started: what they have answered so far, how many
have been joined, the items of those, and the outcome. -/
structure Join where
  slots : List (Option (Except Status ItemReply))
  joined : Nat
  items : List RecItem
  outcome : Option (Except Status (List RecItem))

namespace Join

/-- All of `n` retrievals are running. -/
def start (n : Nat) : Join := ⟨List.replicate n none, 0, [], none⟩

/-- One step of a call, given what each retrieval will have answered when it completes. -/
inductive Step (policy : FailurePolicy) (answers : List (Except Status ItemReply)) :
    Join → Join → Prop
  /-- A retrieval completes while the call is open. -/
  | complete {slots joined items i a} (hrunning : slots[i]? = some none)
      (hanswer : answers[i]? = some a) :
      Step policy answers ⟨slots, joined, items, none⟩
        ⟨slots.set i (some a), joined, items, none⟩
  /-- The next retrieval has answered: its items are taken over. -/
  | take {slots joined items reply} (hslot : slots[joined]? = some (some (.ok reply))) :
      Step policy answers ⟨slots, joined, items, none⟩
        ⟨slots, joined + 1, items ++ reply.items, none⟩
  /-- The next retrieval has failed, which does not count. -/
  | skip {slots joined items e} (hpolicy : policy = .bestEffort)
      (hslot : slots[joined]? = some (some (.error e))) :
      Step policy answers ⟨slots, joined, items, none⟩ ⟨slots, joined + 1, items, none⟩
  /-- The next retrieval has failed, which ends the call. -/
  | fail {slots joined items e} (hpolicy : policy = .strict)
      (hslot : slots[joined]? = some (some (.error e))) :
      Step policy answers ⟨slots, joined, items, none⟩
        ⟨slots, joined, items, some (.error e)⟩
  /-- All retrievals have been joined. -/
  | finish {slots joined items} (hall : joined = slots.length) :
      Step policy answers ⟨slots, joined, items, none⟩
        ⟨slots, joined, items, some (.ok items)⟩

variable {policy : FailurePolicy} {answers : List (Except Status ItemReply)}

/-- Slots hold answers or nothing, and the outcome of all answers is the one reached, or
the items so far followed by the outcome of the answers that are still to be joined. -/
structure Consistent (policy : FailurePolicy) (answers : List (Except Status ItemReply))
    (s : Join) : Prop where
  length_slots : s.slots.length = answers.length
  slot_eq : ∀ (i : Nat) (a : Except Status ItemReply),
    s.slots[i]? = some (some a) → answers[i]? = some a
  joined_le : s.joined ≤ answers.length
  pending : s.outcome = none →
    collect policy (answers.map .ok) =
      (collect policy ((answers.drop s.joined).map .ok)).map (s.items ++ ·)
  reached : ∀ o, s.outcome = some o → collect policy (answers.map .ok) = o

/-- Before the first step everything is still to come. -/
theorem consistent_start : Consistent policy answers (start answers.length) where
  length_slots := by simp [start]
  slot_eq i a h := by
    simp only [start, List.getElem?_replicate] at h
    split at h <;> cases h
  joined_le := Nat.zero_le _
  pending _ := by
    simp only [start, List.drop_zero, List.nil_append]
    cases collect policy (answers.map .ok) <;> rfl
  reached o h := by cases h

/-- The next answer to be joined is the first of those that are left. -/
theorem Consistent.drop_joined {s : Join} (h : Consistent policy answers s)
    {a : Except Status ItemReply} (hslot : s.slots[s.joined]? = some (some a)) :
    answers.drop s.joined = a :: answers.drop (s.joined + 1) := by
  obtain ⟨hlt, ha⟩ := List.getElem?_eq_some_iff.1 (h.slot_eq _ _ hslot)
  rw [List.drop_eq_getElem_cons hlt, ha]

/-- Joining an answer that does not end the call moves its items over. -/
theorem Consistent.join_next {slots : List (Option (Except Status ItemReply))}
    {joined : Nat} {items : List RecItem}
    (h : Consistent policy answers ⟨slots, joined, items, none⟩)
    {a : Except Status ItemReply} (hslot : slots[joined]? = some (some a))
    (hgoes : policy = .bestEffort ∨ failure? a = none) :
    Consistent policy answers ⟨slots, joined + 1, items ++ itemsOf a, none⟩ := by
  have hlt : joined < answers.length :=
    (List.getElem?_eq_some_iff.1 (h.slot_eq _ _ hslot)).1
  refine ⟨h.length_slots, h.slot_eq, hlt, ?_, ?_⟩
  · intro _
    -- taking one answer off the list moves its items to the front
    have hcollect : collect policy ((answers.drop joined).map .ok) =
        (collect policy ((answers.drop (joined + 1)).map .ok)).map (itemsOf a ++ ·) := by
      rw [h.drop_joined hslot, List.map_cons, collect_cons]
      rcases hgoes with hpolicy | hok
      · rw [hpolicy]
      · rw [hok]
        cases policy <;> rfl
    rw [h.pending rfl, hcollect]
    dsimp only
    cases collect policy ((answers.drop (joined + 1)).map .ok) with
    | error e => rfl
    | ok rest => simp [Except.map]
  · intro o ho
    cases ho

/-- One step keeps the invariant. -/
theorem Consistent.step {s s' : Join} (h : Consistent policy answers s)
    (hstep : Step policy answers s s') : Consistent policy answers s' := by
  cases hstep with
  | @complete slots joined items i a hrunning hanswer =>
    -- a completion fills a slot, which is not read before it is joined
    refine ⟨by simpa using h.length_slots, ?_, h.joined_le, h.pending, h.reached⟩
    intro j a' hj
    rw [List.getElem?_set] at hj
    split at hj
    · rename_i hij
      subst hij
      split at hj
      · cases hj
        exact hanswer
      · cases hj
    · exact h.slot_eq j a' hj
  | @take slots joined items reply hslot => exact h.join_next hslot (.inr rfl)
  | @skip slots joined items e hpolicy hslot =>
    simpa [itemsOf] using h.join_next hslot (.inl hpolicy)
  | @fail slots joined items e hpolicy hslot =>
    refine ⟨h.length_slots, h.slot_eq, h.joined_le, by simp, ?_⟩
    intro o ho
    cases ho
    -- the failure is the first of what is left, so it is the outcome of all
    rw [h.pending rfl, h.drop_joined hslot, List.map_cons, collect_cons, hpolicy]
    rfl
  | @finish slots joined items hall =>
    refine ⟨h.length_slots, h.slot_eq, h.joined_le, by simp, ?_⟩
    intro o ho
    cases ho
    -- nothing is left, so the items are complete
    have hnil : answers.drop joined = [] := by
      rw [List.drop_eq_nil_iff, hall]
      exact Nat.le_of_eq h.length_slots.symm
    rw [h.pending rfl, hnil]
    simp [collect, Except.map]

/-- A whole run keeps the invariant. -/
theorem Consistent.run {s s' : Join} (h : Consistent policy answers s)
    (hrun : Relation.ReflTransGen (Step policy answers) s s') :
    Consistent policy answers s' := by
  induction hrun with
  | refl => exact h
  | tail _ hstep ih => exact ih.step hstep

/-! ### Progress and termination -/

/-- An open call can go on: the next retrieval is joined, or completes, or there is
none. -/
theorem Consistent.exists_step {s : Join} (h : Consistent policy answers s)
    (hopen : s.outcome = none) : ∃ s', Step policy answers s s' := by
  obtain ⟨slots, joined, items, outcome⟩ := s
  dsimp only at hopen
  subst hopen
  have hlen : slots.length = answers.length := h.length_slots
  by_cases hall : joined = slots.length
  · exact ⟨_, .finish hall⟩
  · have hlt : joined < slots.length := by
      have : joined ≤ answers.length := h.joined_le
      omega
    -- the next retrieval to be joined is still running, or has completed
    cases hslot : slots[joined] with
    | none =>
      have hrunning : slots[joined]? = some none := by
        rw [List.getElem?_eq_getElem hlt, hslot]
      have hbound : joined < answers.length := by omega
      have hanswer : answers[joined]? = some answers[joined] :=
        List.getElem?_eq_getElem hbound
      exact ⟨_, .complete hrunning hanswer⟩
    | some a =>
      have hdone : slots[joined]? = some (some a) := by
        rw [List.getElem?_eq_getElem hlt, hslot]
      cases a with
      | ok reply => exact ⟨_, .take hdone⟩
      | error e =>
        cases hpolicy : policy with
        | bestEffort => exact ⟨_, .skip rfl hdone⟩
        | strict => exact ⟨_, .fail rfl hdone⟩

/-- How many steps are left at most: completions, joins, and the end. -/
def size (s : Join) : Nat :=
  s.slots.countP Option.isNone + (s.slots.length - s.joined) +
    if s.outcome.isNone then 1 else 0

/-- Every step makes the rest of the call shorter. -/
theorem Step.size_lt {s s' : Join} (h : Step policy answers s s') : s'.size < s.size := by
  cases h with
  | @complete slots joined items i a hrunning hanswer =>
    obtain ⟨hlt, hnone⟩ := List.getElem?_eq_some_iff.1 hrunning
    have hmem : (none : Option (Except Status ItemReply)) ∈ slots :=
      hnone ▸ List.getElem_mem hlt
    have hpos : 0 < slots.countP Option.isNone := List.countP_pos_iff.2 ⟨none, hmem, rfl⟩
    -- one slot fewer is empty
    have hcount : (slots.set i (some a)).countP Option.isNone =
        slots.countP Option.isNone - 1 := by
      rw [List.countP_set hlt, hnone]
      rfl
    simp only [size, List.length_set, hcount]
    omega
  | @take slots joined items reply hslot =>
    have hlt := (List.getElem?_eq_some_iff.1 hslot).1
    simp only [size, Option.isNone_none]
    omega
  | @skip slots joined items e hpolicy hslot =>
    have hlt := (List.getElem?_eq_some_iff.1 hslot).1
    simp only [size, Option.isNone_none]
    omega
  | @fail slots joined items e hpolicy hslot => simp [size]
  | @finish slots joined items hall => simp [size]

/-- No call goes on for ever. -/
theorem acc_step (s : Join) : Acc (fun s' s => Step policy answers s s') s :=
  Subrelation.accessible (fun h => Step.size_lt h) ((measure size).wf.apply s)

/-- Whatever has happened so far, the call can be brought to its outcome. -/
theorem Consistent.exists_outcome {s : Join} (h : Consistent policy answers s) :
    ∃ s' o, Relation.ReflTransGen (Step policy answers) s s' ∧ s'.outcome = some o := by
  -- on the steps that are left at most
  induction @acc_step policy answers s with
  | intro s _ ih =>
    cases houtcome : s.outcome with
    | some o => exact ⟨s, o, .refl, houtcome⟩
    | none =>
      obtain ⟨next, hstep⟩ := h.exists_step houtcome
      obtain ⟨s', o, hrun, ho⟩ := ih next hstep (h.step hstep)
      exact ⟨s', o, .head hstep hrun, ho⟩

end Join

/-! ### All completion orders -/

/-- One step of a call whose retrievals answer the enriched request. -/
def JoinStep (r : Recommender) (enriched : RecRequest) : Join → Join → Prop :=
  Join.Step r.policy (r.retrievals.map fun client => client enriched)

/-- What such a call may have come to. -/
def Reaches (r : Recommender) (enriched : RecRequest) (s : Join) : Prop :=
  Relation.ReflTransGen (r.JoinStep enriched) (Join.start r.retrievals.length) s

theorem Reaches.consistent {r : Recommender} {enriched : RecRequest} {s : Join}
    (h : r.Reaches enriched s) :
    Join.Consistent r.policy (r.retrievals.map fun client => client enriched) s := by
  have hstart :=
    @Join.consistent_start r.policy (r.retrievals.map fun client => client enriched)
  rw [List.length_map] at hstart
  exact hstart.run h

/-- The reply with the items of all retrievals. -/
def replyOf (r : Recommender) (request : RecRequest) (items : List RecItem) : ItemReply :=
  ⟨request.requestId, items.take r.requestNum.toNat⟩

/-- Some run of the call ends in the result: a context stage ends it, or completions and
joins interleaved in some way do. -/
inductive Answers (r : Recommender) (request : RecRequest) : Except Status ItemReply → Prop
  | context {e : Status} (h : r.enrich request = .error e) : Answers r request (.error e)
  | joined {enriched : RecRequest} {s : Join} {o : Except Status (List RecItem)}
      (henrich : r.enrich request = .ok enriched) (hrun : r.Reaches enriched s)
      (houtcome : s.outcome = some o) : Answers r request (o.map (r.replyOf request))

/-- The sequential answer is enrichment followed by reading all answers in wiring order. -/
theorem sequential_eq (r : Recommender) (request : RecRequest) :
    r.sequential request =
      (r.enrich request).bind fun enriched =>
        (collect r.policy ((r.retrievals.map fun client => client enriched).map .ok)).map
          (r.replyOf request) := by
  rw [sequential, firstFailure?, enrich_eq]
  cases hpolicy : r.policy with
  | bestEffort =>
    dsimp only [Except.bind]
    rw [collect_map_ok]
    rfl
  | strict =>
    cases contextFailure? r.contexts request with
    | some e => rfl
    | none =>
      dsimp only [Except.bind, Option.none_or]
      rw [collect_map_ok]
      -- the answers are `retrieved`, which the first failure is looked for in
      show _ = Except.map (r.replyOf request)
        (match FailurePolicy.strict, (r.retrieved request).findSome? failure? with
          | .strict, some e => .error e
          | _, _ => .ok ((r.retrieved request).flatMap itemsOf))
      cases (r.retrieved request).findSome? failure? <;> rfl

/-- Whatever the order in which the retrievals settle, the answer is the sequential one. -/
theorem recommendInOrder_of_perm (r : Recommender) (request : RecRequest) {order : List Nat}
    (h : order.Perm (List.range r.retrievals.length)) :
    r.recommendInOrder order request = r.sequential request := by
  rw [sequential_eq, recommendInOrder]
  cases r.enrich request with
  | error e => rfl
  | ok enriched =>
    rw [← List.length_map (fun client => client enriched)] at h
    show (collect r.policy (settle (r.retrievals.map fun client => client enriched) order) >>=
      fun items => .ok (r.replyOf request items)) = Except.map (r.replyOf request) _
    rw [settle_of_perm _ h]
    cases collect r.policy _ <;> rfl

/-- Every run that ends comes to the sequential answer, and some run does. -/
theorem answers_iff (r : Recommender) (request : RecRequest)
    (result : Except Status ItemReply) :
    r.Answers request result ↔ result = r.sequential request := by
  constructor
  · intro h
    cases h with
    | context henrich => rw [sequential_eq, henrich]; rfl
    | joined henrich hrun houtcome =>
      rw [sequential_eq, henrich, ← hrun.consistent.reached _ houtcome]
      rfl
  · rintro rfl
    cases henrich : r.enrich request with
    | error e =>
      rw [sequential_eq, henrich]
      exact .context henrich
    | ok enriched =>
      have hstart : r.Reaches enriched (Join.start r.retrievals.length) := .refl
      -- from the start some run reaches an outcome, and there is only one to be reached
      obtain ⟨s, o, hrun, houtcome⟩ := hstart.consistent.exists_outcome
      have hreached : r.Reaches enriched s := hstart.trans hrun
      rw [sequential_eq, henrich]
      show r.Answers request (Except.map (r.replyOf request) _)
      rw [hreached.consistent.reached o houtcome]
      exact .joined henrich hreached houtcome

/-- The order in which retrievals complete does not show.  Settling them in any order
and reading them in wiring order gives the sequential answer; so does every interleaving
of completions with the join, none of which gets stuck or goes on for ever. -/
theorem recommend_of_completions (r : Recommender) (request : RecRequest) :
    (∀ order : List Nat, order.Perm (List.range r.retrievals.length) →
      r.recommendInOrder order request = r.sequential request) ∧
    (∀ result, r.Answers request result ↔ result = r.sequential request) ∧
    ∀ enriched, r.enrich request = .ok enriched → ∀ s, r.Reaches enriched s →
      Acc (fun s' s => r.JoinStep enriched s s') s ∧
      (s.outcome = none → ∃ s', r.JoinStep enriched s s') := by
  refine ⟨fun order h => r.recommendInOrder_of_perm request h, r.answers_iff request, ?_⟩
  intro enriched _ s hreached
  exact ⟨Join.acc_step s, hreached.consistent.exists_step⟩

/-- A context stage that answers, and three retrievals of which the last two fail. -/
def partlyFailing (policy : FailurePolicy) : Recommender where
  requestNum := 1
  policy := policy
  contexts := [(3, fun request => .ok ⟨request.requestId, .ofList [(5, .bytes ["a"])]⟩)]
  retrievals := [
    fun request => .ok ⟨request.requestId, request.context.toList.map fun e => ⟨e.2, []⟩⟩,
    fun _ => .error (.cancelled "second"),
    fun _ => .error (.unimplemented "third")]

theorem recommend_of_completions_last_first :
    [2, 0, 1].Perm (List.range 3) ∧
    (partlyFailing .strict).recommendInOrder [2, 0, 1] ⟨"q", .empty⟩ =
      .error (.cancelled "second") ∧
    (partlyFailing .bestEffort).recommendInOrder [2, 0, 1] ⟨"q", .empty⟩ =
      .ok ⟨"q", [⟨.ofList [(5, .bytes ["a"])], []⟩]⟩ ∧
    ∃ s', (partlyFailing .strict).JoinStep ⟨"q", .ofList [(3, .ofList [(5, .bytes ["a"])])]⟩
      (Join.start 3) s' :=
  have horder : [2, 0, 1].Perm (List.range 3) := by decide
  ⟨horder, (recommend_of_completions (partlyFailing .strict) _).1 _ horder,
    (recommend_of_completions (partlyFailing .bestEffort) _).1 _ horder,
    ((recommend_of_completions (partlyFailing .strict) ⟨"q", .empty⟩).2.2 _ rfl _ .refl).2 rfl⟩

end Recommend.Recommender
