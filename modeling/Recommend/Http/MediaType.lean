/-!
The media types that announce JSON.

A media type is `type/subtype` with parameters behind semicolons.  The last plus sign of
the subtype sets off a suffix.
-/

namespace Recommend.Http.MediaType

/-- Characters of names. -/
def isToken (c : Char) : Bool := c.isAlphanum || "!#$%&'*+-.^_`|~".toList.contains c

/-- Characters between quotes. -/
def isQuotable (c : Char) : Bool := 32 ≤ c.toNat && c.toNat < 127

/-- What follows the closing quote.  There is something between the quotes, be it a
quote itself; a backslash is a character like any other. -/
def afterQuoted? : Bool → List Char → Option (List Char)
  | _, [] => none
  | started, c :: cs =>
    if started && c == '"' then some cs
    else if isQuotable c then afterQuoted? true cs
    else none

/-- Whether this is a list of parameters, each `name=value` with a semicolon behind it
unless it is the last. -/
def areParameters : Nat → List Char → Bool
  | 0, _ => false
  | _ + 1, [] => true
  | n + 1, ' ' :: cs => areParameters n cs
  -- a name, then a value in quotes or a plain one
  | n + 1, cs =>
    match cs.span isToken with
    | ([], _) => false
    | (_, '=' :: '"' :: cs) =>
      match afterQuoted? false cs with
      | none => false
      | some cs =>
        match cs.dropWhile (· == ' ') with
        | [] => true
        | ';' :: cs => areParameters n cs
        | _ => false
    -- a plain value may be empty at the end only, and no blank may follow it
    | (_, '=' :: cs) =>
      match cs.span isToken with
      | (_, []) => true
      | (_ :: _, ';' :: cs) => areParameters n cs
      | _ => false
    | _ => false

/-- Split a subtype at its last plus sign, unless that is its first character. -/
def suffixed (subtype : List Char) : List Char × Option (List Char) :=
  match subtype.reverse.span (· ≠ '+') with
  | (suffix, _ :: name) =>
    -- a subtype that is nothing but a suffix is taken as it is
    if name.isEmpty then (subtype, none) else (name.reverse, some suffix.reverse)
  | (_, []) => (subtype, none)

/-- In small letters: names of types do not tell case apart. -/
def lower (cs : List Char) : List Char := cs.map Char.toLower

/-- Whether the names announce JSON. -/
def namesJson (type subtype : List Char) : Bool :=
  let (name, suffix) := suffixed (lower subtype)
  lower type == "application".toList &&
    (name == "json".toList || suffix == some "json".toList)

/-- Whether a content type announces JSON. -/
def isJson (contentType : String) : Bool :=
  match contentType.toList.span isToken with
  | (type, '/' :: cs) =>
    match cs.span isToken with
    | (subtype, []) => namesJson type subtype
    | (subtype, ';' :: cs) =>
      -- what follows the semicolon has to be right, though none of it is used
      !subtype.isEmpty && areParameters (cs.length + 1) cs && namesJson type subtype
    | _ => false
  | _ => false

end Recommend.Http.MediaType
