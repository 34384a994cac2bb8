import Recommend.Json.Scan

/-!
Reading over a value that nobody asked for.

The value has to be well formed, but it is not turned into anything: it may nest to any
depth, its numerals may be of any size, and its escapes need not denote characters.
-/

namespace Recommend.Json

/-- What follows a backslash, without regard to what it denotes. -/
def skipEscape (cs : List Char) : Except ReadError (List Char) :=
  match cs with
  | [] => .error .early
  -- halves of pairs are not matched up
  | 'u' :: cs => (hexFour cs).map Prod.snd
  | c :: cs =>
    if c ∈ ['"', '\\', '/', 'b', 'f', 'n', 'r', 't'] then .ok cs else .error .malformed

/-- The rest of a string literal.  The first list only bounds the number of steps. -/
def skipLiteralChars : List Char → List Char → Except ReadError (List Char)
  | [], _ => .error .early
  | _ :: _, [] => .error .early
  | _ :: _, '"' :: cs => .ok cs
  | _ :: bound, '\\' :: cs => skipEscape cs >>= skipLiteralChars bound
  | _ :: bound, c :: cs =>
    if c.toNat < 0x20 then .error .malformed else skipLiteralChars bound cs

/-- A string literal whose opening quote has been read. -/
def skipLiteral (cs : List Char) : Except ReadError (List Char) :=
  skipLiteralChars ('"' :: cs) cs

/-- A numeral; one that is cut short is malformed, because nothing says that it should
go on. -/
def skipNumeral (cs : List Char) : Except ReadError (List Char) :=
  match numeral cs with
  | .ok (_, cs) => .ok cs
  | .error _ => .error .malformed

mutual

/-- A value of any kind. -/
def skipValue : Nat → List Char → Except ReadError (List Char)
  | 0, _ => .error .early
  | n + 1, cs =>
    match skipSpace cs with
    | [] => .error .early
    | 'n' :: cs => expect ['u', 'l', 'l'] cs
    | 't' :: cs => expect ['r', 'u', 'e'] cs
    | 'f' :: cs => expect ['a', 'l', 's', 'e'] cs
    | '"' :: cs => skipLiteral cs
    | '[' :: cs =>
      match skipSpace cs with
      | [] => .error .early
      | ']' :: cs => .ok cs
      | cs => skipItems n cs
    | '\x7b' :: cs =>
      match skipSpace cs with
      | [] => .error .early
      | '\x7d' :: cs => .ok cs
      | cs => skipMembers n cs
    | c :: cs => if c = '-' ∨ isDigit c then skipNumeral (c :: cs) else .error .malformed

/-- One item or more, and the closing bracket. -/
def skipItems : Nat → List Char → Except ReadError (List Char)
  | 0, _ => .error .early
  | n + 1, cs => do
    let cs ← skipValue n cs
    match skipSpace cs with
    | [] => .error .early
    | ',' :: cs => skipItems n cs
    | ']' :: cs => .ok cs
    | _ => .error .malformed

/-- One member or more, and the closing brace. -/
def skipMembers : Nat → List Char → Except ReadError (List Char)
  | 0, _ => .error .early
  | n + 1, cs =>
    match skipSpace cs with
    | [] => .error .early
    | '"' :: cs => do
      let cs ← skipLiteral cs
      let cs ← colon cs
      let cs ← skipValue n cs
      match skipSpace cs with
      | [] => .error .early
      | ',' :: cs => skipMembers n cs
      | '\x7d' :: cs => .ok cs
      | _ => .error .malformed
    | _ => .error .malformed

end

/-- Every step reads a character, so twice the length of the text is steps enough. -/
def skip (cs : List Char) : Except ReadError (List Char) := skipValue (2 * cs.length + 2) cs

end Recommend.Json
