import Recommend.Proofs.Message.Finite
import Recommend.Proofs.Pipeline.Rewiring

/-!
Handing a request on to a peer.

A node that has read a request posts it to the context and retrieval stages of its
peers, written anew.  The peer reads the request that the node has read if what is
written fits into a body and all numbers in the request are finite (`message_relayed`).
A request may be written with more bytes than it was read from, since every number is
written out, and then the peer refuses it for its length.  An infinity, which a numeral
beyond the range of binary32 is read as, is written as `null`, and the peer refuses the
body for its shape.
-/

namespace Recommend

open Json Http

/-- The responses are the same apart from their headers. -/
def Http.Response.Agrees (r s : Response) : Prop := r.status = s.status ∧ r.body = s.body

namespace Service

/-- What is posted for a request is that request, too long, or no request at all. -/
theorem message_relayed (u : Url) (q : RecRequest) :
    message RecRequest.codec (Channel.post u (RecRequest.codec.write q)) =
      if Admits (RecRequest.codec.write q) then
        if q.IsFinite then .ok q else .error .mismatchedBody
      else .error .oversizedBody := by
  have hbody : (Channel.post u (RecRequest.codec.write q)).body =
      Bytes.ofText (RecRequest.codec.encode q) := rfl
  rw [message_of_json RecRequest.codec rfl, hbody, bodyMessage_encode]
  -- the length is checked before anything is read
  by_cases hfits : Admits (RecRequest.codec.write q)
  · rw [if_pos hfits, if_pos hfits]
    by_cases hq : q.IsFinite
    · rw [if_pos hq, RecRequest.recovers_of_isFinite hq [] trivial]
      rfl
    · rw [if_neg hq, RecRequest.refuses hq [] trivial]
      rfl
  · rw [if_neg hfits, if_neg hfits]

/-- A stage behind a path answers the request, or the body is rejected. -/
theorem agrees_of_serves {β : Type} {peer : Node} {path : String} {codec : Codec β}
    {handler : RecRequest → Except Status β}
    (h : peer.Serves path RecRequest.codec codec handler) (origin : OriginPolicy) {u : Url}
    (htarget : u.target = ServicePath.escaped path) (q : RecRequest) :
    (handle peer origin (Channel.post u (RecRequest.codec.write q))).Agrees
      (if Admits (RecRequest.codec.write q) then
        if q.IsFinite then reply codec (handler q) else Rejection.mismatchedBody.response
      else Rejection.oversizedBody.response) := by
  -- the three outcomes of reading the body are the three responses
  have hanswer :
      answer (Channel.post u (RecRequest.codec.write q)) RecRequest.codec codec handler =
        if Admits (RecRequest.codec.write q) then
          if q.IsFinite then reply codec (handler q) else Rejection.mismatchedBody.response
        else Rejection.oversizedBody.response := by
    rw [answer, message_relayed]
    by_cases hfits : Admits (RecRequest.codec.write q)
    · rw [if_pos hfits, if_pos hfits]
      by_cases hq : q.IsFinite
      · rw [if_pos hq, if_pos hq]
      · rw [if_neg hq, if_neg hq]
    · rw [if_neg hfits, if_neg hfits]
  rw [← hanswer]
  exact h origin (Channel.post u (RecRequest.codec.write q)) rfl
    (congrArg String.ofList htarget)

/-- **A request is handed on as it was received iff it fits into a body when it is
written and its numbers are finite**: then every stage of every peer reads and answers
the request that `incoming` holds.  Otherwise the peer rejects the body, for its length
if it does not fit and for its shape if it does. -/
theorem handle_relayed_request {incoming : Request} {q : RecRequest}
    (hincoming : message RecRequest.codec incoming = .ok q) (peer : Node)
    (origin : OriginPolicy) (u : Url) :
    message RecRequest.codec (Channel.post u (RecRequest.codec.write q)) =
        (if Admits (RecRequest.codec.write q) then
          if q.IsFinite then message RecRequest.codec incoming else .error .mismatchedBody
        else .error .oversizedBody) ∧
      (∀ scope, u.target = ServicePath.escaped (ServicePath.context scope) →
        (handle peer origin (Channel.post u (RecRequest.codec.write q))).Agrees
          (if Admits (RecRequest.codec.write q) then
            if q.IsFinite then
              reply ContextReply.codec
                (contextOf peer scope >>= fun stage => stage.answer q)
            else Rejection.mismatchedBody.response
          else Rejection.oversizedBody.response)) ∧
      ∀ id, u.target = ServicePath.escaped (ServicePath.retrieval id) →
        (handle peer origin (Channel.post u (RecRequest.codec.write q))).Agrees
          (if Admits (RecRequest.codec.write q) then
            if q.IsFinite then
              reply ItemReply.codec (retrievalOf peer id >>= fun stage => stage.answer q)
            else Rejection.mismatchedBody.response
          else Rejection.oversizedBody.response) := by
  refine ⟨?message, ?context, ?retrieval⟩
  case message => rw [hincoming, message_relayed]
  case context =>
    intro scope htarget
    exact agrees_of_serves (peer.serves_contextOf scope) origin htarget q
  case retrieval =>
    intro id htarget
    exact agrees_of_serves (peer.serves_retrievalOf id) origin htarget q

end Service

namespace Node.Shelf

/-- A request to the recommender. -/
def incoming (body : String) : Request :=
  { method := "POST"
    target := "/recommend"
    headers := [("Content-Type", "application/json; charset=utf-8")]
    body := Bytes.ofText body }

/-- The fields without their names, an escape, a scope given twice, numbers that are
rounded, and a tail. -/
def awkwardBody : String :=
  "[\"\\u0072\", \x7b\"0\":\x7b\x7d, \"-3\":\x7b\"5\":" ++
    "\x7b\"float_list\":[0.1,16777217,-0,1e-50,3.4028235e38]\x7d\x7d, " ++
    "\"0\":\x7b\"1\":\x7b\"bytes_list\":[\"u\"]\x7d\x7d\x7d] tail"

/-- What that body is read as. -/
def awkwardRequest : RecRequest :=
  ⟨"r", .ofList [(-3, .ofList [(5, .floats [.round false Single.unitsPerOne 10,
      .ofUnits false (Nat.pow 2 173), .ofUnits true 0, .ofUnits false 0,
      .ofUnits false (Nat.pow 2 277 - Nat.pow 2 253)])]),
    (0, .ofList [(1, .bytes ["u"])])]⟩

/-- The URL of a path of the peer. -/
def peerUrl (path : String) : Url :=
  ⟨false, [], "peer".toList, some 8080, path.toList, none, none⟩

theorem handle_relayed_request_awkward :
    Service.message RecRequest.codec (incoming awkwardBody) = .ok awkwardRequest ∧
      Service.Admits (RecRequest.codec.write awkwardRequest) ∧ awkwardRequest.IsFinite ∧
      Service.message RecRequest.codec
          (Channel.post (peerUrl "/context/7") (RecRequest.codec.write awkwardRequest)) =
        .ok awkwardRequest ∧
      (Service.handle node .any
          (Channel.post (peerUrl "/context/7") (RecRequest.codec.write awkwardRequest))).Agrees
        (Service.reply ContextReply.codec (.ok ⟨"r", .ofList [(2, .bytes ["red"])]⟩)) := by
  have hincoming : Service.message RecRequest.codec (incoming awkwardBody) =
      .ok awkwardRequest := by decide +kernel
  have hfits : Service.Admits (RecRequest.codec.write awkwardRequest) := by decide +kernel
  have hfinite : awkwardRequest.IsFinite := by decide +kernel
  obtain ⟨hmessage, hcontext, -⟩ :=
    Service.handle_relayed_request hincoming node .any (peerUrl "/context/7")
  -- the target of this URL is the escaped path
  have hanswer := hcontext 7 (by decide +kernel)
  rw [if_pos hfits, if_pos hfinite] at hmessage hanswer
  exact ⟨hincoming, hfits, hfinite, hmessage.trans hincoming, hanswer⟩

/-- A request with a number beyond the range of binary32. -/
def hugeBody : String :=
  "\x7b\"request_id\":\"r\",\"context\":" ++
    "\x7b\"1\":\x7b\"2\":\x7b\"float_list\":[1e39]\x7d\x7d\x7d\x7d"

/-- A number that is too large is taken in, and the peer rejects what is handed on for
it. -/
theorem relayed_request_rejected :
    Service.message RecRequest.codec (incoming hugeBody) =
        .ok ⟨"r", .ofList [(1, .ofList [(2, .floats [.infinite false])])]⟩ ∧
      Service.message RecRequest.codec (Channel.post (peerUrl "/context/7")
          (RecRequest.codec.write ⟨"r", .ofList [(1, .ofList [(2, .floats [.infinite false])])]⟩)) =
        .error .mismatchedBody := by
  decide +kernel

end Node.Shelf

end Recommend
