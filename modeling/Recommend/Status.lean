import Recommend.Json.Record

/-!
How a stage or an index call fails, and how a failure travels.

A call is cancelled when a precondition of the request does not hold or a peer cannot be
asked, and unimplemented when nothing is wired to answer it.  On the wire a failure is a
code and a message.
-/

namespace Recommend

open Json

/-- Status codes on the wire. -/
inductive Code where
  | ok
  | cancelled
  | unknown
  | unimplemented
  deriving DecidableEq

namespace Code

/-- The number of a code. -/
def toInt32 : Code → Int32
  | ok => 0
  | cancelled => 1
  | unknown => 2
  | unimplemented => 12

/-- Every number without a code of its own is the unknown code. -/
def ofInt32 (n : Int32) : Code :=
  if n = 0 then ok
  else if n = 1 then cancelled
  else if n = 12 then unimplemented
  else unknown

/-- A code as its number. -/
def codec : Codec Code := .via .int32 ofInt32 toInt32

end Code

/-- The failure of a call. -/
inductive Status where
  | cancelled (message : String)
  | unimplemented (message : String)
  deriving DecidableEq

/-- The body of a failed reply. -/
structure ErrorBody where
  code : Code
  message : String
  deriving DecidableEq

namespace Status

/-- The code of a failure. -/
def code : Status → Code
  | cancelled _ => .cancelled
  | unimplemented _ => .unimplemented

/-- What is said about a failure. -/
def message : Status → String
  | cancelled m => m
  | unimplemented m => m

/-- The failure on one line. -/
def line : Status → String
  | cancelled m => "cancelled: " ++ m
  | unimplemented m => "unimplemented: " ++ m

/-- A failure as it is sent. -/
def body (s : Status) : ErrorBody := ⟨s.code, s.message⟩

/-- A failure that a peer reports: whatever is not unimplemented is cancelled. -/
def ofBody (b : ErrorBody) : Status :=
  match b.code with
  | .unimplemented => .unimplemented b.message
  -- even the code of a success, which no failure should come with
  | _ => .cancelled b.message

end Status

/-- A failure as an object. -/
def ErrorBody.codec : Codec ErrorBody :=
  .record (required "code" Code.codec <| required "message" .text .done)
    (fun (code, message, ()) => ⟨code, message⟩)
    (fun b => (b.code, b.message, ()))

end Recommend
