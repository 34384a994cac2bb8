import Recommend.Http.Address
import Recommend.Http.Domain
import Recommend.Http.Percent

/-!
URLs of web servers, brought to their normal form.

White space at the ends and line breaks inside do not count, a backslash is a slash, and
any number of slashes may stand before the host.  The normal form has the host in ASCII,
no number for the usual service, a path without `.` and `..`, and escapes for characters
that may not stand in their part.
-/

namespace Recommend.Http

/-- A URL in its normal form. -/
structure Url where
  secure : Bool
  /-- The user name and the password that stay in the URL. -/
  user : List Char
  host : List Char
  /-- The number of the service, if it is not the usual one. -/
  serviceNumber : Option Nat
  path : List Char
  query : Option (List Char)
  fragment : Option (List Char)
  deriving DecidableEq

namespace Url

/-! ### Hosts -/

/-- The normal form of a host name: escapes are replaced, and a name that ends in a
number is a short address. -/
def host? (cs : List Char) : Option (List Char) := do
  let decoded ← (Percent.decode (Bytes.ofText (String.ofList cs))).text?
  let host ← Domain.ascii? decoded.toList
  if host.isEmpty then none
  else if Address.endsInNumber host then (Address.short? host).map Address.shortText
  else some host

/-- The normal form of a long address in brackets. -/
def bracketed? (cs : List Char) : Option (List Char) :=
  (Address.long? cs).map fun groups => '[' :: Address.longText groups ++ [']']

/-! ### Authority -/

/-- Split off what follows the first mark. -/
def cut (mark : Char) (cs : List Char) : List Char × Option (List Char) :=
  match cs.span (· ≠ mark) with
  | (before, _ :: after) => (before, some after)
  | (before, []) => (before, none)

/-- The number of a service; none is written for the usual one. -/
def serviceNumber? (secure : Bool) (cs : List Char) : Option (Option Nat) :=
  match cs with
  -- a colon with nothing behind it
  | [] => some none
  | cs => do
    let n ← Decimal.readNat? cs
    if n ≥ 65536 then none
    else some (if n = (if secure then 443 else 80) then none else some n)

/-- Host and service number of an authority without a user. -/
def server? (secure : Bool) (cs : List Char) : Option (List Char × Option Nat) :=
  match cs with
  -- colons inside brackets belong to the address
  | '[' :: cs => do
    match cs.span (· ≠ ']') with
    | (inside, ']' :: []) => some (← bracketed? inside, none)
    | (inside, ']' :: ':' :: digits) =>
      some (← bracketed? inside, ← serviceNumber? secure digits)
    | _ => none
  | cs => do
    match cut ':' cs with
    | (host, some digits) => some (← host? host, ← serviceNumber? secure digits)
    | (host, none) => some (← host? host, none)

/-- Split an authority at its last `@`. -/
def splitUser (cs : List Char) : List Char × List Char :=
  let server := (cs.reverse.takeWhile (· ≠ '@')).reverse
  (cs.take (cs.length - server.length - 1), server)

/-- Characters that are escaped in a user name or a password. -/
def isUserReserved (c : Char) : Bool := " \"#<>?`\x7b\x7d/:;=@[\\]^|".toList.contains c

/-- Whether the bytes behind the escapes are text. -/
def isReadable (escaped : List Char) : Bool :=
  (Percent.decode (Bytes.ofText (String.ofList escaped))).text?.isSome

/-- What is left of a user name and a password.  They are taken out to be sent apart,
but for a name that is not text, or a password that is not text and has no name with it. -/
def userLeft (cs : List Char) : List Char :=
  let (name, password) := cut ':' cs
  let name := Percent.encode isUserReserved name
  let password := Percent.encode isUserReserved (password.getD [])
  if isReadable name && !(name.isEmpty && !isReadable password) then []
  else if password.isEmpty then name
  else name ++ ':' :: password

/-! ### Path -/

/-- Characters that are escaped in a path. -/
def isPathReserved (c : Char) : Bool := " \"#<>?`\x7b\x7d".toList.contains c

/-- A segment with its points spelled out. -/
def points (segment : List Char) : List Char :=
  -- `%2e` is a point in disguise
  match segment.map Char.toLower with
  | ['%', '2', 'e'] => ['.']
  | ['.', '%', '2', 'e'] => ['.', '.']
  | ['%', '2', 'e', '.'] => ['.', '.']
  | ['%', '2', 'e', '%', '2', 'e'] => ['.', '.']
  | _ => segment

/-- A letter and a colon or a bar, which some systems have at the top of their paths. -/
def isDrive : List Char → Bool
  | [letter, mark] => letter.isAlpha && (mark == ':' || mark == '|')
  | _ => false

/-- The segments above; a drive is not left. -/
def above (done : List (List Char)) : List (List Char) :=
  match done.getLast? with
  | some segment => if isDrive segment then done else done.dropLast
  | none => []

/-- Resolve `.` and `..`; at the end each leaves a slash behind. -/
def resolve : List (List Char) → List (List Char) → List (List Char)
  | done, [] => done
  | done, [segment] =>
    match points segment with
    | ['.'] => done ++ [[]]
    | ['.', '.'] => above done ++ [[]]
    | _ => done ++ [segment]
  | done, segment :: segments =>
    match points segment with
    | ['.'] => resolve done segments
    | ['.', '.'] => resolve (above done) segments
    | _ => resolve (done ++ [segment]) segments

/-- The normal form of a path; the empty path is a slash. -/
def normalPath (cs : List Char) : List Char :=
  -- what stands before the first slash is empty
  let segments := (Text.splitBy (fun c => c == '/' || c == '\\') cs).tail
  if segments.isEmpty then ['/']
  else (resolve [] segments).flatMap fun segment =>
    '/' :: Percent.encode isPathReserved segment

/-! ### The whole -/

/-- Characters that are escaped in a query. -/
def isQueryReserved (c : Char) : Bool := " \"#<>'".toList.contains c

/-- Characters that are escaped in a fragment. -/
def isFragmentReserved (c : Char) : Bool := " \"<>`".toList.contains c

/-- The text without white space at its ends and line breaks and tabs inside. -/
def clean (cs : List Char) : List Char :=
  let isEdge (c : Char) : Bool := c.toNat ≤ 32
  ((cs.dropWhile isEdge).reverse.dropWhile isEdge).reverse.filter fun c =>
    c ≠ '\t' && c ≠ '\n' && c ≠ '\r'

/-- The scheme, and what follows its colon. -/
def scheme? (cs : List Char) : Option (Bool × List Char) :=
  match cut ':' cs with
  | (scheme, some rest) =>
    if scheme.map Char.toLower = "http".toList then some (false, rest)
    else if scheme.map Char.toLower = "https".toList then some (true, rest)
    else none
  | (_, none) => none

/-- Read a URL; nothing if it names no server. -/
def parse? (s : String) : Option Url := do
  let (secure, rest) ← scheme? (clean s.toList)
  -- the fragment goes first: a query ends where it begins
  let (rest, fragment) := cut '#' rest
  let (rest, query) := cut '?' rest
  let isSlash (c : Char) : Bool := c == '/' || c == '\\'
  -- any number of slashes, leaning either way, may stand before the server
  let rest := rest.dropWhile isSlash
  let (user, server) := splitUser (rest.takeWhile fun c => !isSlash c)
  let (host, number) ← server? secure server
  some ⟨secure, userLeft user, host, number,
    normalPath (rest.dropWhile fun c => !isSlash c),
    query.map (Percent.encode isQueryReserved),
    fragment.map (Percent.encode isFragmentReserved)⟩

/-- The name of the scheme. -/
def scheme (u : Url) : List Char := if u.secure then "https".toList else "http".toList

/-- User, host and service number. -/
def authority (u : Url) : List Char :=
  (if u.user.isEmpty then [] else u.user ++ ['@']) ++ u.host ++
    match u.serviceNumber with
    | some n => ':' :: Decimal.natText n
    | none => []

/-- Path and query, as a request names them. -/
def target (u : Url) : List Char :=
  u.path ++
    match u.query with
    | some q => '?' :: q
    | none => []

/-- The normal form. -/
def text (u : Url) : String :=
  String.ofList <|
    u.scheme ++ "://".toList ++ u.authority ++ u.target ++
      match u.fragment with
      | some f => '#' :: f
      | none => []

/-- Whether a request can name the URL: it is not too long, and its host has none of the
characters that are allowed in names of hosts but not in requests. -/
def isRequestable (u : Url) : Bool :=
  u.text.utf8ByteSize < 65535 && !u.host.any fun c => "\"`\x7b\x7d".toList.contains c

end Url

end Recommend.Http
