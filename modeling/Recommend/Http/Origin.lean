import Recommend.Http.Message
import Recommend.Text.Blank
import Recommend.Text.Split

/-!
Which origins may read the responses.

The setting lists origins with commas between them.  White space around an entry does
not count, and an entry that could not stand in a header is left out.  No setting, or
one of which nothing is left, allows all origins.
-/

namespace Recommend.Http

/-- Which origins may read responses. -/
inductive OriginPolicy where
  | any
  | only (origins : List String)
  deriving DecidableEq

/-- The setting lists the wildcard, which is no origin. -/
inductive OriginError where
  | wildcard
  deriving DecidableEq

/-- What is reported about a setting that is refused. -/
def OriginError.message : OriginError → String
  | wildcard =>
    "Wildcard origin (`*`) cannot be passed to `AllowOrigin::list`. Use `AllowOrigin::any()` instead"

namespace OriginPolicy

/-- Whether a header may hold the character. -/
def isHeaderChar (c : Char) : Bool := (32 ≤ c.toNat && c.toNat ≠ 127) || c == '\t'

/-- The entries of a setting that can stand in a header. -/
def entries (setting : String) : List String :=
  (((Text.splitAny "," setting.toList).map Text.trim).filter fun cs =>
    cs.all isHeaderChar).map String.ofList

/-- The policy of a setting.  No setting is open to any origin, a listed `*` is not. -/
def ofSetting : Option String → Except OriginError OriginPolicy
  | none => .ok .any
  | some setting =>
    match entries setting with
    -- a setting with nothing usable in it is no setting
    | [] => .ok .any
    | origins => if origins.contains "*" then .error .wildcard else .ok (.only origins)

/-- The origin that a response to this request names as allowed. -/
def allowed? (policy : OriginPolicy) (request : Request) : Option String :=
  match policy with
  | any => some "*"
  -- an origin is compared as it stands, and named again if it is on the list
  | only origins => (request.headers.get? "origin").filter origins.contains

/-- The headers that tell a browser who may read the response. -/
def headers (policy : OriginPolicy) (request : Request) : Headers :=
  -- caches have to tell these requests apart, whatever the policy
  ("vary", "origin, access-control-request-method, access-control-request-headers") ::
    match policy.allowed? request with
    | some origin => [("access-control-allow-origin", origin)]
    | none => []

/-- The answer to every request of the method OPTIONS. -/
def preflight (policy : OriginPolicy) (request : Request) : Response :=
  { status := 200
    headers := policy.headers request ++
      [("access-control-allow-methods", "*"), ("access-control-allow-headers", "*")] }

end OriginPolicy

end Recommend.Http
