import Mathlib.Data.List.Basic
import Mathlib.Data.List.TakeDrop
import Mathlib.Data.List.TakeWhile
import Recommend.Pipeline.Service
import Recommend.Proofs.Http.Percent
import Recommend.Proofs.Http.Url
import Recommend.Proofs.Json.Codec
import Recommend.Proofs.Number.Decimal

/-!
What a node answers to a message posted to one of its service paths.

A path leads to its route and the parameter in it reads back, so the message meets the
index or the stage that the path names (`Serves`), and what that answers is the
response.  The message has to fit into a body for that: `Admits` says of a document that
it does.
-/

namespace Recommend

open Json Http

/-! ### Escaped paths -/

/-- The characters that an escape is made of. -/
def escapeChars : List Char := "%0123456789ABCDEF".toList

theorem mem_escapeChars_of_mem_escape {b : UInt8} {c : Char} (h : c ∈ Percent.escape b) :
    c ∈ escapeChars := by
  -- two digits of four bits each, after the sign
  have hdigit : ∀ n < 16, (Nat.digitChar n).toUpper ∈ escapeChars := by decide
  have hlt : b.toNat < 256 := b.toNat_lt
  rw [Percent.escape] at h
  simp only [List.mem_cons, List.not_mem_nil, or_false] at h
  rcases h with rfl | rfl | rfl
  · decide
  · exact hdigit (b.toNat / 16) (by omega)
  · exact hdigit (b.toNat % 16) (by omega)

/-- A character of an escaped text belongs to an escape, or stands in the text and is
not escaped. -/
theorem mem_encode {reserved : Char → Bool} {cs : List Char} {c : Char}
    (h : c ∈ Percent.encode reserved cs) :
    c ∈ escapeChars ∨ (c ∈ cs ∧ reserved c = false) := by
  obtain ⟨d, hd, hc⟩ := List.mem_flatMap.1 h
  split at hc
  next =>
    obtain ⟨b, -, hb⟩ := List.mem_flatMap.1 hc
    exact .inl (mem_escapeChars_of_mem_escape hb)
  next hplain =>
    obtain rfl := List.mem_singleton.1 hc
    -- control characters and those beyond ASCII are escaped whether reserved or not
    simp only [Bool.or_eq_true, not_or, Bool.not_eq_true] at hplain
    exact .inr ⟨hd, hplain.2⟩

namespace ServicePath

/-- A path as a request names it. -/
def escaped (path : String) : List Char := Percent.encode Url.isPathReserved path.toList

/-- The path with a slash before each of its segments. -/
def join (segments : List (List Char)) : List Char := segments.flatMap ('/' :: ·)

/-- The characters of a path. -/
theorem toList_ofSegments (segments : List String) :
    (ofSegments segments).toList = join (segments.map String.toList) := by
  induction segments with
  | nil => rfl
  | cons s segments ih =>
    rw [ofSegments, List.map_cons, String.join_cons, String.toList_append, ← ofSegments, ih]
    simp [join]

/-- A slash is not escaped, so segments are escaped one by one. -/
theorem encode_join (segments : List (List Char)) :
    Percent.encode Url.isPathReserved (join segments) =
      join (segments.map (Percent.encode Url.isPathReserved)) := by
  rw [join, join, Percent.encode, List.flatMap_assoc, List.flatMap_map]
  rfl

/-- No query and no fragment starts in an escaped path. -/
theorem ne_of_mem_escaped {path : String} {c : Char} (h : c ∈ escaped path) :
    c ≠ '?' ∧ c ≠ '#' := by
  have hfree : '?' ∉ escapeChars ∧ '#' ∉ escapeChars := by decide
  have hreserved : Url.isPathReserved '?' = true ∧ Url.isPathReserved '#' = true := by
    decide
  rcases mem_encode h with hescape | ⟨-, hplain⟩
  · exact ⟨fun heq => hfree.1 (heq ▸ hescape), fun heq => hfree.2 (heq ▸ hescape)⟩
  · refine ⟨?_, ?_⟩
    · rintro rfl
      rw [hreserved.1] at hplain
      cases hplain
    · rintro rfl
      rw [hreserved.2] at hplain
      cases hplain

/-! ### Names -/

/-- A name that can stand in a path as one segment. -/
def IsName (name : String) : Prop := Url.IsSegment name.toList

/-- Letters, digits, `-` and `_` may stand in a name. -/
theorem isName_of_letters {name : String}
    (h : name.toList.all (fun c => c.isAlphanum || c == '-' || c == '_') = true) :
    IsName name := by
  apply Url.isSegment_of_forall
  intro c hc
  have hletter := List.all_eq_true.1 h c hc
  simp only [Bool.or_eq_true, beq_iff_eq] at hletter
  rcases hletter with (halnum | rfl) | rfl
  -- the characters that would end a segment or be changed in it are no letters
  · have hlarge := Url.large_of_isAlphanum halnum
    have hne : ∀ d : Char, d.isAlphanum = false → c ≠ d := by
      rintro d hd rfl
      rw [halnum] at hd
      cases hd
    exact ⟨⟨hlarge, hne _ rfl, hne _ rfl, hne _ rfl, hne _ rfl⟩, hne _ rfl, hne _ rfl⟩
  · decide
  · decide

/-- The text of a whole number is a name. -/
theorem isName_ofInt (n : Int) : IsName (Decimal.ofInt n) := by
  have hdigit : ∀ d : Fin 10, Url.IsPlain (Decimal.digitChar d) ∧
      Decimal.digitChar d ≠ '%' ∧ Decimal.digitChar d ≠ '.' := by
    decide
  apply Url.isSegment_of_forall
  intro c hc
  rw [Decimal.ofInt, String.toList_ofList] at hc
  rcases Decimal.mem_intText hc with rfl | ⟨d, rfl⟩
  · decide
  · exact hdigit d

/-- The path is made of segments that stand for themselves. -/
def IsSegmented (path : String) : Prop :=
  ∃ segments, segments ≠ [] ∧ (∀ s ∈ segments, Url.IsSegment s) ∧
    path.toList = join segments

theorem isSegmented_ofSegments {segments : List String} (hne : segments ≠ [])
    (h : ∀ s ∈ segments, IsName s) : IsSegmented (ofSegments segments) := by
  refine ⟨segments.map String.toList, by simpa using hne, ?_, toList_ofSegments segments⟩
  intro s hs
  obtain ⟨name, hname, rfl⟩ := List.mem_map.1 hs
  exact h name hname

/-- The segments of the paths of an index are names. -/
theorem isName_of_mem_indexSegments {name last : String} (hname : IsName name)
    (hlast : IsName last) : ∀ s ∈ ["indexer", name, last], IsName s := by
  simp only [List.forall_mem_cons]
  exact ⟨isName_of_letters (by decide), hname, hlast, List.forall_mem_nil _⟩

/-- The segments of the path of a stage are names. -/
theorem isName_of_mem_stageSegments {first : String} (hfirst : IsName first) (n : Int) :
    ∀ s ∈ [first, Decimal.ofInt n], IsName s := by
  simp only [List.forall_mem_cons]
  exact ⟨hfirst, isName_ofInt n, List.forall_mem_nil _⟩

/-- An escaped name has no slash if the name has none. -/
theorem slash_notMem_escaped {name : String} (h : '/' ∉ name.toList) :
    '/' ∉ escaped name := by
  intro hmem
  rcases mem_encode hmem with hescape | ⟨hname, -⟩
  -- no escape is made with a slash
  · exact absurd hescape (by decide)
  · exact h hname

end ServicePath

/-! ### Routes -/

namespace Route

/-- A path is taken apart into the segments it was made of. -/
theorem splitBy_join {segments : List (List Char)} (h : ∀ s ∈ segments, '/' ∉ s) :
    Text.splitBy (· == '/') (ServicePath.join segments) = [] :: segments := by
  apply Text.splitBy_flatMap rfl
  intro s hs c hc
  rw [beq_eq_false_iff_ne]
  exact fun heq => h s hs (heq ▸ hc)

/-- The route of a path is that of its segments. -/
theorem ofPath?_join {segments : List (List Char)} (h : ∀ s ∈ segments, '/' ∉ s) :
    ofPath? (ServicePath.join segments) = ofSegments? (segments.map String.ofList) := by
  rw [ofPath?, splitBy_join h]

end Route

/-! ### Parameters -/

namespace ServicePath

/-- Whole numbers need no escapes. -/
theorem escaped_ofInt (n : Int) : escaped (Decimal.ofInt n) = Decimal.intText n := by
  have hplain : ∀ d : Fin 10,
      (decide ((Decimal.digitChar d).toNat < 32) ||
        decide (127 ≤ (Decimal.digitChar d).toNat) ||
        Url.isPathReserved (Decimal.digitChar d)) = false := by
    decide
  -- so every character of the text is kept as it is
  have hsingle : ∀ c ∈ Decimal.intText n,
      (if c.toNat < 32 || 127 ≤ c.toNat || Url.isPathReserved c then
        (Bytes.ofText c.toString).flatMap Percent.escape else [c]) = [c] := by
    intro c hc
    rcases Decimal.mem_intText hc with rfl | ⟨d, rfl⟩
    · rfl
    · rw [hplain d]
      rfl
  rw [escaped, Decimal.ofInt, String.toList_ofList, Percent.encode,
    List.flatMap_congr hsingle, List.flatMap_singleton']

theorem escaped_ofInt_ne_nil (n : Int) : escaped (Decimal.ofInt n) ≠ [] := by
  rw [escaped_ofInt]
  exact Decimal.intText_ne_nil n

end ServicePath

namespace Service

/-- A name reads back from its escaped form. -/
theorem parameter_escaped (label : String) {name : String} (h : '%' ∉ name.toList) :
    parameter label (ServicePath.escaped name) = .ok name := by
  rw [parameter, ServicePath.escaped, Percent.decode_encode Url.isPathReserved h,
    String.ofList_toList, Bytes.text?_ofText]

/-- A number reads back from its escaped form. -/
theorem numberParameter_escaped (label : String) (n : Int32) :
    numberParameter label (ServicePath.escaped (Decimal.ofInt n.toInt)) = .ok n := by
  have hname := ServicePath.isName_ofInt n.toInt
  rw [numberParameter, parameter_escaped label hname.percent_notMem]
  dsimp only [bind, Except.bind]
  rw [Decimal.readInt32?_ofInt]

end Service

/-! ### Requests -/

theorem Http.Request.path_of_target {request : Request} {path : String}
    (htarget : request.target = String.ofList (ServicePath.escaped path))
    {cs : List Char} (hslash : ServicePath.escaped path = '/' :: cs) :
    request.path = ServicePath.escaped path := by
  -- a target that starts with a slash names no server
  have hplain : afterAuthority? (ServicePath.escaped path) = none := by
    rw [hslash, afterAuthority?, List.span_eq_takeWhile_dropWhile]
    rfl
  rw [Request.path, htarget, String.toList_ofList, hplain]
  show (ServicePath.escaped path).takeWhile _ = _
  -- and nothing is cut off at its end
  rw [List.takeWhile_eq_self_iff]
  intro c hc
  obtain ⟨hquery, hfragment⟩ := ServicePath.ne_of_mem_escaped hc
  simp [hquery, hfragment]

namespace Service

/-- A posted request is answered by its route. -/
theorem handle_of_post (node : Node) (origin : OriginPolicy) {request : Request}
    {route : Route} (hmethod : request.method = "POST")
    (hroute : Route.ofPath? request.path = some route) (hposts : "POST" ∈ route.methods) :
    (handle node origin request).status = (dispatch node request route).status ∧
      (handle node origin request).body = (dispatch node request route).body := by
  have hrespond : respond node request (some route) = dispatch node request route := by
    rw [respond, hmethod, if_pos (List.contains_iff_mem.2 hposts)]
  -- what is done to every response changes its headers only
  rw [handle, hroute, hmethod, hrespond]
  exact ⟨rfl, rfl⟩

/-- The document fits into a body. -/
def Admits (document : Json) : Prop :=
  (Bytes.ofText document.compact).length ≤ bodyLimit

instance (document : Json) : Decidable (Admits document) :=
  inferInstanceAs (Decidable (_ ≤ _))

/-- What is posted as JSON is read from the body alone. -/
theorem message_of_json {α : Type} (ask : Codec α) {request : Request}
    (hheaders : request.headers = [("content-type", "application/json")]) :
    message ask request = bodyMessage ask request.body := by
  have htype : request.headers.get? "content-type" = some "application/json" := by
    rw [hheaders]
    decide
  have hjson : MediaType.isJson "application/json" = true := by decide
  rw [message, htype]
  -- the header is there, so the match on it is decided
  show (if MediaType.isJson "application/json" then _ else _) = _
  rw [if_pos hjson]

/-- A written message is read from the beginning of its body. -/
theorem decodeBodyLeading_encode {α : Type} (c : Codec α) (a : α) :
    c.decodeBodyLeading (Bytes.ofText (c.encode a)) =
      (c.read ((c.write a).chars ++ [])).map Prod.fst := by
  rw [List.append_nil, Codec.decodeBodyLeading, bodyText, Bytes.chars_ofText, Codec.encode,
    Json.compact, String.toList_ofList, Codec.decodeLeading]

/-- A written message is read if it fits. -/
theorem bodyMessage_encode {α : Type} (c : Codec α) (a : α) :
    bodyMessage c (Bytes.ofText (c.encode a)) =
      if Admits (c.write a) then
        ((c.read ((c.write a).chars ++ [])).map Prod.fst).mapError fun e =>
          if e = .mismatched then .mismatchedBody else .malformedBody
      else .error .oversizedBody := by
  rw [bodyMessage, decodeBodyLeading_encode]
  by_cases hfits : Admits (c.write a)
  · have hlength : ¬bodyLimit < (Bytes.ofText (c.encode a)).length := Nat.not_lt.2 hfits
    rw [if_pos hfits, if_neg hlength]
    -- the two kinds of failure are told apart on both sides in the same way
    cases (c.read ((c.write a).chars ++ [])).map Prod.fst with
    | ok a => rfl
    | error e => cases e <;> rfl
  · have hlength : bodyLimit < (Bytes.ofText (c.encode a)).length := Nat.not_le.1 hfits
    rw [if_neg hfits, if_pos hlength]

/-- A posted message that fits and recovers is what the handler gets to see. -/
theorem answer_of_message {α β : Type} {ask : Codec α} {codec : Codec β}
    {handler : α → Except Status β} {a : α} (hfits : Admits (ask.write a))
    (ha : ask.Recovers a) {request : Request}
    (hheaders : request.headers = [("content-type", "application/json")])
    (hbody : request.body = Bytes.ofText (ask.encode a)) :
    answer request ask codec handler = reply codec (handler a) := by
  rw [answer, message_of_json ask hheaders, hbody, bodyMessage_encode, if_pos hfits,
    ha [] trivial]
  rfl

end Service

/-! ### What a node serves -/

/-- Messages posted to the path are answered by the handler. -/
def Node.Serves {α β : Type} (node : Node) (path : String) (ask : Codec α) (codec : Codec β)
    (handler : α → Except Status β) : Prop :=
  ∀ (origin : OriginPolicy) (request : Request), request.method = "POST" →
    request.target = String.ofList (ServicePath.escaped path) →
    (Service.handle node origin request).status =
      (Service.answer request ask codec handler).status ∧
      (Service.handle node origin request).body =
        (Service.answer request ask codec handler).body

namespace Node

/-- A path serves what the route of its escaped segments dispatches to. -/
theorem serves_ofSegments {α β : Type} {node : Node} {segments : List String}
    {route : Route} {ask : Codec α} {codec : Codec β} {handler : α → Except Status β}
    (hne : segments ≠ []) (hnames : ∀ s ∈ segments, ServicePath.IsName s)
    (hroute : Route.ofSegments?
      (segments.map fun s => String.ofList (ServicePath.escaped s)) = some route)
    (hposts : "POST" ∈ route.methods)
    (hdispatch : ∀ request,
      Service.dispatch node request route = Service.answer request ask codec handler) :
    node.Serves (ServicePath.ofSegments segments) ask codec handler := by
  have hescaped : ServicePath.escaped (ServicePath.ofSegments segments) =
      ServicePath.join (segments.map ServicePath.escaped) := by
    rw [ServicePath.escaped, ServicePath.toList_ofSegments, ServicePath.encode_join,
      List.map_map]
    rfl
  -- names have no slash, escaped or not, so the route sees one segment for each
  have hpath : Route.ofPath? (ServicePath.escaped (ServicePath.ofSegments segments)) =
      some route := by
    rw [hescaped, Route.ofPath?_join, List.map_map]
    · exact hroute
    · intro s hs
      obtain ⟨name, hname, rfl⟩ := List.mem_map.1 hs
      exact ServicePath.slash_notMem_escaped (hnames name hname).slash_notMem
  -- there is a segment, and a slash stands before it
  obtain ⟨cs, hslash⟩ : ∃ cs, ServicePath.escaped (ServicePath.ofSegments segments) =
      '/' :: cs := by
    rw [hescaped]
    cases segments with
    | nil => exact absurd rfl hne
    | cons s segments => exact ⟨_, rfl⟩
  intro origin request hmethod htarget
  rw [← Request.path_of_target htarget hslash] at hpath
  rw [← hdispatch request]
  exact Service.handle_of_post node origin hmethod hpath hposts

/-- What the routes of an index have in common: the name of the index stands in the
middle. -/
theorem serves_index {α β : Type} {node : Node} {name last : String} {ask : Codec α}
    {codec : Codec β} {handler : α → Except Status β} (route : List Char → Route)
    (hname : ServicePath.IsName name) (hlast : ServicePath.IsName last)
    (hroute : ∀ s, Route.ofSegments? [String.ofList (ServicePath.escaped "indexer"), s,
      String.ofList (ServicePath.escaped last)] = some (route s.toList))
    (hposts : ∀ raw, "POST" ∈ (route raw).methods)
    (hdispatch : ∀ request raw, Service.parameter "name" raw = .ok name →
      Service.dispatch node request (route raw) =
        Service.answer request ask codec handler) :
    node.Serves (ServicePath.ofSegments ["indexer", name, last]) ask codec handler := by
  refine serves_ofSegments (List.cons_ne_nil _ _)
    (ServicePath.isName_of_mem_indexSegments hname hlast) (hroute _) (hposts _) ?_
  intro request
  apply hdispatch
  rw [String.toList_ofList]
  exact Service.parameter_escaped "name" hname.percent_notMem

/-- What the routes of stages have in common: a number stands at the end. -/
theorem serves_stage {α β : Type} {node : Node} {first : String} {n : Int32}
    {ask : Codec α} {codec : Codec β} {handler : α → Except Status β} (label : String)
    (route : List Char → Route) (hfirst : ServicePath.IsName first)
    (hroute : ∀ s : String, s.isEmpty = false →
      Route.ofSegments? [String.ofList (ServicePath.escaped first), s] =
        some (route s.toList))
    (hposts : ∀ raw, "POST" ∈ (route raw).methods)
    (hdispatch : ∀ request raw, Service.numberParameter label raw = .ok n →
      Service.dispatch node request (route raw) =
        Service.answer request ask codec handler) :
    node.Serves (ServicePath.ofSegments [first, Decimal.ofInt n.toInt]) ask codec handler := by
  -- an empty segment would not lead to the route
  have hsome :
      (String.ofList (ServicePath.escaped (Decimal.ofInt n.toInt))).isEmpty = false := by
    simp [ServicePath.escaped_ofInt_ne_nil]
  refine serves_ofSegments (List.cons_ne_nil _ _)
    (ServicePath.isName_of_mem_stageSegments hfirst n.toInt) (hroute _ hsome) (hposts _) ?_
  intro request
  apply hdispatch
  rw [String.toList_ofList]
  exact Service.numberParameter_escaped label n

/-- Lookups in an index. -/
theorem serves_forward {node : Node} {name : String} (hname : ServicePath.IsName name)
    {ix : Index} (h : node.indexers.find? name = some ix) :
    node.Serves (ServicePath.forward name) ForwardRequest.codec IndexerReply.codec
      ix.answerForward := by
  refine serves_index .forward hname (ServicePath.isName_of_letters (by decide))
    (fun _ => rfl) (fun _ => List.mem_cons_self) ?_
  intro request raw hraw
  rw [Service.dispatch, hraw]
  dsimp only
  rw [Service.indexerOf, h]
  rfl

/-- Searches in an index. -/
theorem serves_inverted {node : Node} {name : String} (hname : ServicePath.IsName name)
    {ix : Index} (h : node.indexers.find? name = some ix) :
    node.Serves (ServicePath.inverted name) InvertedRequest.codec IndexerReply.codec
      ix.answerInverted := by
  refine serves_index .inverted hname (ServicePath.isName_of_letters (by decide))
    (fun _ => rfl) (fun _ => List.mem_cons_self) ?_
  intro request raw hraw
  rw [Service.dispatch, hraw]
  dsimp only
  rw [Service.indexerOf, h]
  rfl

/-- The path of a context stage is served also by a node that does not host the stage. -/
theorem serves_contextOf (node : Node) (scope : ScopeId) :
    node.Serves (ServicePath.context scope) RecRequest.codec ContextReply.codec
      (fun q => Service.contextOf node scope >>= fun stage => stage.answer q) := by
  refine serves_stage "scope" .context
    (ServicePath.isName_of_letters (by decide)) ?_ (fun _ => List.mem_cons_self) ?_
  · intro s hs
    show (if s.isEmpty then none else some (Route.context s.toList)) = _
    rw [hs]
    rfl
  · intro request raw hraw
    rw [Service.dispatch, hraw]

theorem serves_context {node : Node} {scope : ScopeId} {stage : KeyedContext}
    (h : node.contexts.find? scope = some stage) :
    node.Serves (ServicePath.context scope) RecRequest.codec ContextReply.codec
      stage.answer := by
  -- the stage is there, so asking for it succeeds
  have hserves := node.serves_contextOf scope
  rw [Service.contextOf, h] at hserves
  exact hserves

/-- The path of a retrieval stage is served also by a node that does not host the stage. -/
theorem serves_retrievalOf (node : Node) (id : RetrievalId) :
    node.Serves (ServicePath.retrieval id) RecRequest.codec ItemReply.codec
      (fun q => Service.retrievalOf node id >>= fun stage => stage.answer q) := by
  refine serves_stage "retrieval_id" .retrieval
    (ServicePath.isName_of_letters (by decide)) ?_ (fun _ => List.mem_cons_self) ?_
  · intro s hs
    show (if s.isEmpty then none else some (Route.retrieval s.toList)) = _
    rw [hs]
    rfl
  · intro request raw hraw
    rw [Service.dispatch, hraw]

theorem serves_retrieval {node : Node} {id : RetrievalId} {stage : ContentRetrieval}
    (h : node.retrievals.find? id = some stage) :
    node.Serves (ServicePath.retrieval id) RecRequest.codec ItemReply.codec
      stage.answer := by
  have hserves := node.serves_retrievalOf id
  rw [Service.retrievalOf, h] at hserves
  exact hserves

end Node

end Recommend
