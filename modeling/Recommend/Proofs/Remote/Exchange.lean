import Recommend.Proofs.Message.Codec
import Recommend.Proofs.Pipeline.Service

/-!
A call over the network answers what the peer's handler answers.

The message is written as JSON, read by the service, answered by the handler, and the
reply or the failure is written and read once more.  Nothing of it is lost if the
message and the reply recover and the message fits into a body: `ask_eq_handler`.  Of
the network it is assumed that it connects the address with the peer (`Connects`): what
is posted there and fits reaches it as it is, and status and body of its response come
back.
-/

namespace Recommend

open Json Http

/-- The network connects a path at an address with a node: the URL can be requested, and
what is posted there and fits is answered with the status and the body of the node's
response.  Nothing is said about a document that does not fit into a body. -/
def Network.Connects (net : Network) (addr : String) (node : Node) (path : String) : Prop :=
  ∃ (u : Url) (origin : OriginPolicy),
    Url.parse? ((Channel.ofAddress addr).url path) = some u ∧ u.isRequestable = true ∧
    ∀ document : Json, Service.Admits document → ∃ response : Response,
      net u (Channel.post u document) = .answered response ∧
      response.status = (Service.handle node origin (Channel.post u document)).status ∧
      response.body = (Service.handle node origin (Channel.post u document)).body

namespace Channel

/-- The address names a server and nothing behind it. -/
def NamesServer (addr : String) : Prop :=
  ∃ (secure : Bool) (server : List Char), server ≠ [] ∧ (∀ c ∈ server, Url.IsPlain c) ∧
    (ofAddress addr).baseUrl.toList = Url.schemeText secure ++ ':' :: '/' :: '/' :: server

/-- A request to a server names the service path. -/
theorem target_of_parse? {addr path : String} (hserver : NamesServer addr)
    (hpath : ServicePath.IsSegmented path) {u : Url}
    (hparse : Url.parse? ((ofAddress addr).url path) = some u) :
    u.target = ServicePath.escaped path := by
  obtain ⟨secure, server, hne, hplain, hbase⟩ := hserver
  obtain ⟨segments, hsegments, hsegment, hjoin⟩ := hpath
  -- the URL is the address with the path behind it
  have hurl : ((ofAddress addr).url path).toList =
      Url.schemeText secure ++
        ':' :: '/' :: '/' :: (server ++ segments.flatMap ('/' :: ·)) := by
    rw [url, String.toList_append, hbase, hjoin, ServicePath.join, List.append_assoc]
    rfl
  rw [Url.target_of_parse? hplain hne hsegment hsegments hurl hparse, ServicePath.escaped,
    hjoin, ServicePath.encode_join, ServicePath.join, List.flatMap_map]

theorem readBody_encode {α : Type} {c : Codec α} {a : α} (h : c.Recovers a) :
    readBody c (Bytes.ofText (c.encode a)) = some a := by
  have hdecode := h.decode_encode
  rw [Codec.decode] at hdecode
  rw [readBody, Codec.decodeBody, bodyText, Bytes.chars_ofText, hdecode]
  rfl

/-- A success is read as the reply in its body. -/
theorem interpret_ok {β : Type} {codec : Codec β} (url : String) {b : β}
    (h : codec.Recovers b) {response : Response} (hstatus : response.status = 200)
    (hbody : response.body = Bytes.ofText (codec.encode b)) :
    interpret codec url response = .ok b := by
  rw [interpret, hstatus, hbody, readBody_encode h]
  rfl

/-- A failure is read as the error in its body. -/
theorem interpret_failure {β : Type} (codec : Codec β) (url : String) (s : Status)
    {response : Response} (hstatus : response.status = Service.failureCode s)
    (hbody : response.body = Bytes.ofText (ErrorBody.codec.encode s.body)) :
    interpret codec url response = .error (.refused s.body) := by
  -- no failure of a stage is reported as a success, or as a path that is not there
  have hcode : ¬(200 ≤ Service.failureCode s ∧ Service.failureCode s < 300) ∧
      Service.failureCode s ≠ 404 := by
    cases s <;> simp [Service.failureCode]
  rw [interpret, hstatus, if_neg hcode.1, if_neg hcode.2, hbody,
    readBody_encode (ErrorBody.recovers s.body)]

/-- A response to a message means what the handler answered. -/
theorem interpret_reply {β : Type} {codec : Codec β} (url : String)
    {answer : Except Status β} (h : ∀ b, answer = .ok b → codec.Recovers b)
    {response : Response}
    (hstatus : response.status = (Service.reply codec answer).status)
    (hbody : response.body = (Service.reply codec answer).body) :
    (interpret codec url response).mapError CallFailure.status = answer := by
  cases answer with
  | ok b =>
    rw [interpret_ok url (h b rfl) hstatus hbody]
    rfl
  | error s =>
    rw [Service.reply, Service.failure, Response.json, Response.content] at hstatus hbody
    dsimp only at hstatus hbody
    rw [interpret_failure codec url s hstatus hbody]
    show Except.error (Status.ofBody s.body) = _
    -- a failure is known again from the body alone
    cases s <;> rfl

/-- Asking a peer is asking the handler that it serves, if the question fits. -/
theorem ask_eq_handler {α β : Type} {net : Network} {addr path : String} {node : Node}
    (hserver : NamesServer addr) (hpath : ServicePath.IsSegmented path)
    (hconnects : net.Connects addr node path) {ask : Codec α} {codec : Codec β}
    {handler : α → Except Status β} (hserves : node.Serves path ask codec handler) {a : α}
    (hfits : Service.Admits (ask.write a)) (ha : ask.Recovers a)
    (hreply : ∀ b, handler a = .ok b → codec.Recovers b) :
    (ofAddress addr).ask net path ask codec a = handler a := by
  obtain ⟨u, origin, hparse, hrequestable, hanswer⟩ := hconnects
  have htarget := target_of_parse? hserver hpath hparse
  obtain ⟨response, hnet, hstatus, hbody⟩ := hanswer (ask.write a) hfits
  obtain ⟨hserved, hservedBody⟩ :=
    hserves origin (post u (ask.write a)) rfl (by rw [← htarget]; rfl)
  -- what comes back is the written form of the handler's answer
  have hmessage : Service.answer (post u (ask.write a)) ask codec handler =
      Service.reply codec (handler a) := Service.answer_of_message hfits ha rfl rfl
  rw [hmessage] at hserved hservedBody
  rw [hserved] at hstatus
  rw [hservedBody] at hbody
  -- so the response means what the handler answered
  have hinterpret := interpret_reply ((ofAddress addr).url path) hreply hstatus hbody
  rw [Channel.ask, call, hparse]
  dsimp only
  rw [if_pos hrequestable, hnet]
  exact hinterpret

end Channel

end Recommend
