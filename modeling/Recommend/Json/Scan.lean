import Recommend.Json.Basic

/-!
The pieces of JSON text: white space, words, numerals and string literals.

Each scanner takes the remaining characters and returns what it read with the rest, or
the reason why the text cannot be read.  The reason belongs to the first problem from
the left, so a scanner never looks further than it has to.
-/

namespace Recommend.Json

/-- Why a text could not be read. -/
inductive ReadError where
  /-- The text ends where it should go on. -/
  | early
  /-- The text is not JSON. -/
  | malformed
  /-- The text is JSON of another shape. -/
  | mismatched
  deriving DecidableEq, Repr

/-- A reader of the text that remains. -/
abbrev Reader (α : Type) := List Char → Except ReadError (α × List Char)

/-- White space of JSON, which is less than that of texts. -/
def isSpace (c : Char) : Bool := c == ' ' || c == '\n' || c == '\t' || c == '\r'

/-- What is left behind white space. -/
def skipSpace (cs : List Char) : List Char := cs.dropWhile isSpace

/-- The rest of a word that has to stand here. -/
def expect : List Char → List Char → Except ReadError (List Char)
  | [], cs => .ok cs
  | _ :: _, [] => .error .early
  | w :: ws, c :: cs => if c = w then expect ws cs else .error .malformed

/-- The colon between a name and a value. -/
def colon (cs : List Char) : Except ReadError (List Char) :=
  match skipSpace cs with
  | [] => .error .early
  | ':' :: cs => .ok cs
  | _ => .error .malformed

/-! ### Numerals -/

/-- Whether a character is a decimal digit. -/
def isDigit (c : Char) : Bool := (Decimal.digit? c).isSome

/-- The digits that stand here, and the rest. -/
def digits (cs : List Char) : List (Fin 10) × List Char :=
  ((cs.takeWhile isDigit).filterMap Decimal.digit?, cs.dropWhile isDigit)

/-- At least one digit. -/
def someDigits : Reader (List (Fin 10)) := fun cs =>
  match digits cs with
  | ([], []) => .error .early
  | ([], _ :: _) => .error .malformed
  | (ds, rest) => .ok (ds, rest)

/-- The whole part: a zero on its own, or digits that start with another one. -/
def wholePart : Reader Nat := fun cs =>
  match cs with
  | [] => .error .early
  -- no digit behind a leading zero
  | '0' :: c :: rest => if isDigit c then .error .malformed else .ok (0, c :: rest)
  | ['0'] => .ok (0, [])
  | cs => (someDigits cs).map fun (ds, rest) => (Decimal.value ds, rest)

/-- A point and digits, where there is a point. -/
def fractionPart : Reader (List (Fin 10)) := fun cs =>
  match cs with
  | '.' :: rest => someDigits rest
  | cs => .ok ([], cs)

/-- The exponent, where there is one. -/
def exponentPart : Reader (Option Int) := fun cs =>
  match cs with
  | c :: rest =>
    if c = 'e' ∨ c = 'E' then
      match rest with
      | '-' :: rest =>
        (someDigits rest).map fun (ds, rest) => (some (-Int.ofNat (Decimal.value ds)), rest)
      | '+' :: rest =>
        (someDigits rest).map fun (ds, rest) => (some (Int.ofNat (Decimal.value ds)), rest)
      | rest =>
        (someDigits rest).map fun (ds, rest) => (some (Int.ofNat (Decimal.value ds)), rest)
    else .ok (none, cs)
  | [] => .ok (none, [])

/-- A numeral behind its sign: whole part, fraction and exponent. -/
def unsignedNumeral (negative : Bool) : Reader Numeral := fun cs => do
  let (whole, cs) ← wholePart cs
  let (fraction, cs) ← fractionPart cs
  let (exponent, cs) ← exponentPart cs
  .ok (⟨negative, whole, fraction, exponent⟩, cs)

/-- A numeral; it starts with a minus sign or a digit. -/
def numeral : Reader Numeral := fun cs =>
  match cs with
  | '-' :: rest => unsignedNumeral true rest
  | cs => unsignedNumeral false cs

/-- A numeral with its value; one beyond the finite range is no JSON number. -/
def finiteNumber : Reader Number := fun cs => do
  let (n, cs) ← numeral cs
  match n.value? with
  | some v => .ok (v, cs)
  | none => .error .malformed

/-! ### String literals -/

/-- The value of a hexadecimal digit of either case. -/
def hexDigit? (c : Char) : Option Nat :=
  if '0' ≤ c ∧ c ≤ '9' then some (c.toNat - '0'.toNat)
  else if 'a' ≤ c ∧ c ≤ 'f' then some (c.toNat - 'a'.toNat + 10)
  else if 'A' ≤ c ∧ c ≤ 'F' then some (c.toNat - 'A'.toNat + 10)
  else none

/-- Whether fewer than four bytes of text are left. -/
def isShort (cs : List Char) : Bool := (cs.take 4).foldl (fun n c => n + c.utf8Size) 0 < 4

/-- Four hexadecimal digits. -/
def hexFour : Reader Nat := fun cs =>
  match cs with
  | a :: b :: c :: d :: rest =>
    match hexDigit? a, hexDigit? b, hexDigit? c, hexDigit? d with
    | some a, some b, some c, some d => .ok (((a * 16 + b) * 16 + c) * 16 + d, rest)
    | _, _, _, _ => .error .malformed
  | cs => if isShort cs then .error .early else .error .malformed

/-- Whether an escape is the first half of a surrogate pair. -/
def isHighSurrogate (n : Nat) : Bool := 0xd800 ≤ n && n ≤ 0xdbff

/-- Whether an escape is the second half of a surrogate pair. -/
def isLowSurrogate (n : Nat) : Bool := 0xdc00 ≤ n && n ≤ 0xdfff

/-- The second escape of a pair and the character that the pair stands for. -/
def surrogatePair (high : Nat) : Reader Char := fun cs => do
  let cs ← expect ['\\', 'u'] cs
  let (low, cs) ← hexFour cs
  if isLowSurrogate low then
    -- ten bits from each half, above the first plane
    .ok (Char.ofNat (0x10000 + (high - 0xd800) * 0x400 + (low - 0xdc00)), cs)
  else .error .malformed

/-- What follows a backslash. -/
def escape : Reader Char := fun cs =>
  match cs with
  | [] => .error .early
  | '"' :: cs => .ok ('"', cs)
  | '\\' :: cs => .ok ('\\', cs)
  | '/' :: cs => .ok ('/', cs)
  | 'b' :: cs => .ok ('\x08', cs)
  | 'f' :: cs => .ok ('\x0c', cs)
  | 'n' :: cs => .ok ('\n', cs)
  | 'r' :: cs => .ok ('\r', cs)
  | 't' :: cs => .ok ('\t', cs)
  | 'u' :: cs => do
    let (n, cs) ← hexFour cs
    -- a second half on its own is no character
    if isLowSurrogate n then .error .malformed
    else if isHighSurrogate n then surrogatePair n cs
    else .ok (Char.ofNat n, cs)
  | _ => .error .malformed

/-- The characters of a literal up to its closing quote, after those already read.  The
first list only bounds the number of steps. -/
def literalChars : List Char → List Char → Reader (List Char)
  | [], _, _ => .error .early
  | _ :: _, _, [] => .error .early
  | _ :: _, read, '"' :: cs => .ok (read.reverse, cs)
  | _ :: bound, read, '\\' :: cs => do
    let (c, cs) ← escape cs
    literalChars bound (c :: read) cs
  | _ :: bound, read, c :: cs =>
    if c.toNat < 0x20 then .error .malformed else literalChars bound (c :: read) cs

/-- A string literal whose opening quote has been read.  Every step reads a character,
so with the quote the text itself is bound enough. -/
def literalBody : Reader String := fun cs =>
  (literalChars ('"' :: cs) [] cs).map fun (read, cs) => (String.ofList read, cs)

/-! ### Values of another kind -/

/-- The reason to give when the text goes on with a value of a kind that is not wanted:
a scalar has to be well formed to be of another shape. -/
def wrongKind (cs : List Char) : ReadError :=
  match cs with
  | 'n' :: cs => reason (expect ['u', 'l', 'l'] cs)
  | 't' :: cs => reason (expect ['r', 'u', 'e'] cs)
  | 'f' :: cs => reason (expect ['a', 'l', 's', 'e'] cs)
  | '"' :: cs => reason (literalBody cs)
  -- a container is not looked into
  | '[' :: _ => .mismatched
  | '\x7b' :: _ => .mismatched
  | c :: cs => if c = '-' ∨ isDigit c then reason (finiteNumber (c :: cs)) else .malformed
  | [] => .early
where
  /-- The first problem: the scalar itself, else its kind. -/
  reason {α : Type} : Except ReadError α → ReadError
    | .error e => e
    | .ok _ => .mismatched

end Recommend.Json
