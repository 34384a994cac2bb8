import Recommend.Http.MediaType
import Recommend.Http.Origin
import Recommend.Http.Percent
import Recommend.Json.Body
import Recommend.Pipeline.Node

/-!
A node as an HTTP service.

A request is judged in this order: its route, its method, the parameter in its path, its
content type, the length of its body, what stands in its body, and whether the node
hosts what is asked for.  Requests of the method OPTIONS are answered before all that.
-/

namespace Recommend

open Json Http

/-- What a path leads to; a parameter is still as it stands in the path. -/
inductive Route where
  | health
  | forward (name : List Char)
  | inverted (name : List Char)
  | context (scope : List Char)
  | retrieval (id : List Char)
  | recommend
  deriving DecidableEq

namespace Route

/-- The route of what stands behind the slashes of a path.  A last segment is not empty. -/
def ofSegments? : List String → Option Route
  | ["health"] => some .health
  | ["indexer", name, "forward"] => some (.forward name.toList)
  | ["indexer", name, "inverted"] => some (.inverted name.toList)
  -- an empty name of an index is a name like any other
  | ["context", scope] => if scope.isEmpty then none else some (.context scope.toList)
  | ["retrieval", id] => if id.isEmpty then none else some (.retrieval id.toList)
  | ["recommend"] => some .recommend
  | _ => none

/-- The route of a path, which starts with a slash. -/
def ofPath? (path : List Char) : Option Route :=
  match Text.splitBy (· == '/') path with
  -- nothing stands before the first slash
  | [] :: segments => ofSegments? (segments.map String.ofList)
  | _ => none

/-- The methods that a route takes, apart from OPTIONS. -/
def methods : Route → List String
  | health => ["GET", "HEAD"]
  | _ => ["POST"]

end Route

/-- A request that does not get as far as the node. -/
inductive Rejection where
  /-- The parameter of that name is not a text. -/
  | parameterText (name : String)
  /-- The parameter is not a number. -/
  | parameterNumber (value : String)
  /-- The body is not said to be JSON. -/
  | contentType
  /-- The body is longer than a body may be. -/
  | oversizedBody
  /-- The body is not JSON. -/
  | malformedBody
  /-- The body is JSON of another shape. -/
  | mismatchedBody
  deriving DecidableEq

namespace Rejection

/-- The status code that a rejected request is answered with. -/
def status : Rejection → Nat
  | parameterText _ => 400
  | parameterNumber _ => 400
  | contentType => 415
  | oversizedBody => 413
  | malformedBody => 400
  | mismatchedBody => 422

/-- The text that a rejected request is answered with. -/
def message : Rejection → String
  | parameterText name => "Invalid URL: Invalid UTF-8 in `" ++ name ++ "`"
  | parameterNumber value =>
    "Invalid URL: Cannot parse `" ++ Text.quote value ++ "` to a `i32`"
  | contentType => "Expected request with `Content-Type: application/json`"
  | oversizedBody => "Failed to buffer the request body: length limit exceeded"
  | malformedBody => "Failed to parse the request body as JSON"
  | mismatchedBody => "Failed to deserialize the JSON body into the target type"

/-- The response to a rejected request. -/
def response (r : Rejection) : Response := .plain r.status r.message

end Rejection

namespace Service

/-! ### Parts of a request -/

/-- The text of a parameter. -/
def parameter (name : String) (raw : List Char) : Except Rejection String :=
  match (Percent.decode (Bytes.ofText (String.ofList raw))).text? with
  | some s => .ok s
  | none => .error (.parameterText name)

/-- A parameter that is a number. -/
def numberParameter (name : String) (raw : List Char) : Except Rejection Int32 := do
  let s ← parameter name raw
  match Decimal.readInt32? s with
  | some n => .ok n
  | none => .error (.parameterNumber s)

/-- The bytes that a body has at most. -/
def bodyLimit : Nat := 2097152

/-- The message in a body that is not too long; what follows it is not looked at. -/
def bodyMessage {α : Type} (codec : Codec α) (body : Bytes) : Except Rejection α :=
  -- nothing of a body that is too long is read
  if bodyLimit < body.length then .error .oversizedBody
  else
    match codec.decodeBodyLeading body with
    | .ok a => .ok a
    | .error .mismatched => .error .mismatchedBody
    | .error _ => .error .malformedBody

/-- The message in the body of a request. -/
def message {α : Type} (codec : Codec α) (request : Request) : Except Rejection α :=
  match request.headers.get? "content-type" with
  -- a body that is not announced is not read
  | none => .error .contentType
  | some contentType =>
    if MediaType.isJson contentType then bodyMessage codec request.body
    else .error .contentType

/-! ### Answers -/

/-- The status code of a failed stage. -/
def failureCode : Status → Nat
  | .cancelled _ => 422
  | .unimplemented _ => 501

/-- The response of a failed stage, which says why. -/
def failure (s : Status) : Response :=
  .json (failureCode s) (ErrorBody.codec.encode s.body)

/-- The response to a message that has been taken in. -/
def reply {α : Type} (codec : Codec α) : Except Status α → Response
  | .ok a => .json 200 (codec.encode a)
  | .error s => failure s

/-- Take in the message of a request and answer it. -/
def answer {α β : Type} (request : Request) (ask : Codec α) (codec : Codec β)
    (handler : α → Except Status β) : Response :=
  match message ask request with
  | .ok a => reply codec (handler a)
  | .error r => r.response

/-- The index that the node hosts under a name. -/
def indexerOf (node : Node) (name : String) : Except Status Index :=
  match node.indexers.find? name with
  | some ix => .ok ix
  | none => .error (.unimplemented ("no indexer named " ++ Text.quote name))

/-- The context stage that the node hosts at a scope. -/
def contextOf (node : Node) (scope : ScopeId) : Except Status KeyedContext :=
  match node.contexts.find? scope with
  | some stage => .ok stage
  | none => .error (.unimplemented ("no context at scope " ++ Decimal.ofInt scope.toInt))

/-- The retrieval stage that the node hosts under an id. -/
def retrievalOf (node : Node) (id : RetrievalId) : Except Status ContentRetrieval :=
  match node.retrievals.find? id with
  | some stage => .ok stage
  | none => .error (.unimplemented ("no retrieval " ++ Decimal.ofInt id.toInt))

/-- The recommender, if the node recommends. -/
def recommenderOf (node : Node) : Except Status Recommender :=
  match node.recommender with
  | some r => .ok r
  | none => .error (.unimplemented "recommend is not served here")

/-- The answer to a request of the right method. -/
def dispatch (node : Node) (request : Request) : Route → Response
  | .health => .plain 200 "ok"
  -- the parameter is read before the body is
  | .forward raw =>
    match parameter "name" raw with
    | .error r => r.response
    | .ok name =>
      answer request ForwardRequest.codec IndexerReply.codec fun q => do
        (← indexerOf node name).answerForward q
  | .inverted raw =>
    match parameter "name" raw with
    | .error r => r.response
    | .ok name =>
      answer request InvertedRequest.codec IndexerReply.codec fun q => do
        (← indexerOf node name).answerInverted q
  | .context raw =>
    match numberParameter "scope" raw with
    | .error r => r.response
    | .ok scope =>
      answer request RecRequest.codec ContextReply.codec fun q => do
        (← contextOf node scope).answer q
  | .retrieval raw =>
    match numberParameter "retrieval_id" raw with
    | .error r => r.response
    | .ok id =>
      answer request RecRequest.codec ItemReply.codec fun q => do
        (← retrievalOf node id).answer q
  | .recommend =>
    answer request RecRequest.codec ItemReply.codec fun q => do
      (← recommenderOf node).recommend q

/-- The header that names the methods of a route. -/
def allow (route : Route) : Headers := [("allow", ",".intercalate route.methods)]

/-- The answer to a request that is not an OPTIONS request. -/
def respond (node : Node) (request : Request) : Option Route → Response
  | none => failure (.unimplemented "no such route")
  | some route =>
    if route.methods.contains request.method then dispatch node request route
    else { status := 405, headers := allow route }

/-- State the length of the body. -/
def measured (r : Response) : Response :=
  { r with headers := r.headers ++ [("content-length", Decimal.ofNat r.body.length)] }

/-- Without its body, as HEAD asks for it. -/
def bodiless (r : Response) : Response := { r with body := [] }

/-- The response of a node to a request. -/
def handle (node : Node) (policy : OriginPolicy) (request : Request) : Response :=
  let route := Route.ofPath? request.path
  -- an OPTIONS request is answered on any path
  if request.method = "OPTIONS" then
    let r := policy.preflight request
    measured { r with headers := r.headers ++ (route.map allow).getD [] }
  else
    let r := respond node request route
    let r := measured { r with headers := r.headers ++ policy.headers request }
    -- the length is that of the body which is left out
    if request.method = "HEAD" ∧ route = some .health then bodiless r else r

end Service

end Recommend
