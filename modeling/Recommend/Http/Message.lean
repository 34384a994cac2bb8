import Recommend.Text.Bytes

/-!
HTTP requests and responses as values.
-/

namespace Recommend.Http

/-- Header names with their values; names are compared without regard to case. -/
abbrev Headers := List (String × String)

namespace Headers

/-- In small letters: header names do not tell case apart. -/
def lower (name : String) : List Char := name.toList.map Char.toLower

/-- The first value under a name. -/
def get? (headers : Headers) (name : String) : Option String :=
  (headers.find? fun (given, _) => lower given = lower name).map Prod.snd

end Headers

/-- A request as a server gets to see it. -/
structure Request where
  method : String
  /-- The path and what follows it, possibly with a scheme and an authority before them. -/
  target : String
  headers : Headers := []
  body : Bytes := []

/-- A response, with an empty body unless one is given. -/
structure Response where
  status : Nat
  headers : Headers := []
  body : Bytes := []
  deriving DecidableEq

namespace Request

/-- Characters of the name of a scheme. -/
def isSchemeChar (c : Char) : Bool := c.isAlphanum || c == '+' || c == '-' || c == '.'

/-- What follows scheme and authority, where a target starts with them. -/
def afterAuthority? (target : List Char) : Option (List Char) :=
  match target.span isSchemeChar with
  -- a scheme has one character at least
  | (_ :: _, ':' :: '/' :: '/' :: rest) =>
    some (rest.dropWhile fun c => c ≠ '/' && c ≠ '?' && c ≠ '#')
  | _ => none

/-- What stands before a query or a fragment. -/
def beforeQuery (cs : List Char) : List Char := cs.takeWhile fun c => c ≠ '?' && c ≠ '#'

/-- The path of a target: what stands between the authority, if there is one, and the
query or the fragment.  After an authority no path is the same as a slash. -/
def path (r : Request) : List Char :=
  match afterAuthority? r.target.toList with
  | none => beforeQuery r.target.toList
  | some rest =>
    match beforeQuery rest with
    | [] => ['/']
    | path => path

end Request

namespace Response

/-- A body of a media type. -/
def content (status : Nat) (mediaType : String) (body : Bytes) : Response :=
  ⟨status, [("content-type", mediaType)], body⟩

/-- A response in plain text. -/
def plain (status : Nat) (text : String) : Response :=
  content status "text/plain; charset=utf-8" (Bytes.ofText text)

/-- A response in JSON. -/
def json (status : Nat) (text : String) : Response :=
  content status "application/json" (Bytes.ofText text)

end Response

/-- The standard phrase of a status code. -/
def reason? : Nat → Option String
  | 100 => "Continue"
  | 101 => "Switching Protocols"
  | 102 => "Processing"
  | 200 => "OK"
  | 201 => "Created"
  | 202 => "Accepted"
  | 203 => "Non Authoritative Information"
  | 204 => "No Content"
  | 205 => "Reset Content"
  | 206 => "Partial Content"
  | 207 => "Multi-Status"
  | 208 => "Already Reported"
  | 226 => "IM Used"
  | 300 => "Multiple Choices"
  | 301 => "Moved Permanently"
  | 302 => "Found"
  | 303 => "See Other"
  | 304 => "Not Modified"
  | 305 => "Use Proxy"
  | 307 => "Temporary Redirect"
  | 308 => "Permanent Redirect"
  | 400 => "Bad Request"
  | 401 => "Unauthorized"
  | 402 => "Payment Required"
  | 403 => "Forbidden"
  | 404 => "Not Found"
  | 405 => "Method Not Allowed"
  | 406 => "Not Acceptable"
  | 407 => "Proxy Authentication Required"
  | 408 => "Request Timeout"
  | 409 => "Conflict"
  | 410 => "Gone"
  | 411 => "Length Required"
  | 412 => "Precondition Failed"
  | 413 => "Payload Too Large"
  | 414 => "URI Too Long"
  | 415 => "Unsupported Media Type"
  | 416 => "Range Not Satisfiable"
  | 417 => "Expectation Failed"
  | 418 => "I'm a teapot"
  | 421 => "Misdirected Request"
  | 422 => "Unprocessable Entity"
  | 423 => "Locked"
  | 424 => "Failed Dependency"
  | 425 => "Too Early"
  | 426 => "Upgrade Required"
  | 428 => "Precondition Required"
  | 429 => "Too Many Requests"
  | 431 => "Request Header Fields Too Large"
  | 451 => "Unavailable For Legal Reasons"
  | 500 => "Internal Server Error"
  | 501 => "Not Implemented"
  | 502 => "Bad Gateway"
  | 503 => "Service Unavailable"
  | 504 => "Gateway Timeout"
  | 505 => "HTTP Version Not Supported"
  | 506 => "Variant Also Negotiates"
  | 507 => "Insufficient Storage"
  | 508 => "Loop Detected"
  | 510 => "Not Extended"
  | 511 => "Network Authentication Required"
  | _ => none

end Recommend.Http
