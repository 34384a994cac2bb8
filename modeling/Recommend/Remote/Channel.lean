import Recommend.Http.Message
import Recommend.Http.Url
import Recommend.Json.Body
import Recommend.Status

/-!
Calls to peers: a request is posted as JSON to a path of the peer, and its reply is read
as JSON.

The network is a parameter.  It says what comes back from an exchange; everything else,
down to the text of what is sent and the meaning of what is received, is decided here.
-/

namespace Recommend

open Json

/-- What becomes of a request that is sent. -/
inductive Delivery where
  | unreachable
  | answered (response : Http.Response)

/-- A network delivers requests to the servers that URLs name. -/
abbrev Network := Http.Url → Http.Request → Delivery

/-- The network in which nobody listens. -/
def Network.silent : Network := fun _ _ => .unreachable

/-- Why a call has no reply. -/
inductive CallFailure where
  /-- The URL names no server. -/
  | unusable (url : String)
  /-- The URL cannot be put into a request. -/
  | unrequestable (url : String) (normal : Http.Url)
  | unreachable (url : String) (normal : Http.Url)
  /-- The peer succeeds, but its reply cannot be read. -/
  | unreadable (url : String)
  | notServed (url : String)
  /-- The peer says why it fails. -/
  | refused (body : ErrorBody)
  /-- The peer fails and does not say why. -/
  | failed (url : String) (status : Nat)

namespace CallFailure

/-- A status code with its phrase. -/
def statusText (status : Nat) : String :=
  Decimal.ofNat status ++ " " ++ (Http.reason? status).getD "<unknown status code>"

/-- A failed call as the failure of a stage. -/
def status : CallFailure → Status
  | unusable url => .cancelled ("calling " ++ url ++ ": builder error")
  | unrequestable url normal =>
    .cancelled ("calling " ++ url ++ ": builder error for url (" ++ normal.text ++ ")")
  | unreachable url normal =>
    .cancelled
      ("calling " ++ url ++ ": error sending request for url (" ++ normal.text ++ ")")
  | unreadable url =>
    .cancelled ("decoding reply from " ++ url ++ ": error decoding response body")
  | notServed url => .unimplemented (url ++ " is not served")
  | refused body => .ofBody body
  | failed url status => .cancelled (url ++ " answered " ++ statusText status)

end CallFailure

/-- The way to a peer. -/
structure Channel where
  baseUrl : String
  deriving DecidableEq

namespace Channel

/-- Whether an address names its scheme. -/
def hasScheme (address : List Char) : Bool :=
  "http://".toList.isPrefixOf address || "https://".toList.isPrefixOf address

/-- Without the slashes at the end. -/
def withoutSlashes (cs : List Char) : List Char := (cs.reverse.dropWhile (· == '/')).reverse

/-- The channel to an address; slashes at its end do not count. -/
def ofAddress (address : String) : Channel :=
  let trimmed := String.ofList (withoutSlashes address.toList)
  -- the scheme is looked for before the slashes go, which may be its own
  ⟨if hasScheme address.toList then trimmed else "http://" ++ trimmed⟩

/-- The URL of a path. -/
def url (ch : Channel) (path : String) : String := ch.baseUrl ++ path

/-- The request that posts a document. -/
def post (u : Http.Url) (document : Json) : Http.Request :=
  { method := "POST"
    target := String.ofList u.target
    headers := [("content-type", "application/json")]
    body := Bytes.ofText document.compact }

/-- Read a body as JSON. -/
def readBody {α : Type} (codec : Codec α) (body : Bytes) : Option α :=
  (codec.decodeBody body).toOption

/-- What a response means. -/
def interpret {α : Type} (reply : Codec α) (url : String) (response : Http.Response) :
    Except CallFailure α :=
  if 200 ≤ response.status ∧ response.status < 300 then
    match readBody reply response.body with
    | some a => .ok a
    | none => .error (.unreadable url)
  -- the body is not looked at
  else if response.status = 404 then .error (.notServed url)
  else
    match readBody ErrorBody.codec response.body with
    | some body => .error (.refused body)
    | none => .error (.failed url response.status)

/-- Post a document to a path and read the reply. -/
def call {α : Type} (ch : Channel) (net : Network) (path : String) (document : Json)
    (reply : Codec α) : Except CallFailure α :=
  let url := ch.url path
  match Http.Url.parse? url with
  | none => .error (.unusable url)
  | some u =>
    -- the network is not asked if no request can be made
    if u.isRequestable then
      match net u (post u document) with
      | .unreachable => .error (.unreachable url u)
      | .answered response => interpret reply url response
    else .error (.unrequestable url u)

/-- Whether the channel is kept open after a call: a peer that cannot be reached is let
go, and met afresh by the next call. -/
def keeps {α : Type} : Except CallFailure α → Bool
  | .error (.unreachable _ _) => false
  | _ => true

end Channel

end Recommend
