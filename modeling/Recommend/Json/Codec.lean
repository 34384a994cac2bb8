import Recommend.Json.Skip
import Recommend.Json.Tree
import Recommend.Json.Writer
import Recommend.Number.Single
import Recommend.SortedMap

/-!
Codecs: how values of a type are written as JSON and read from JSON text.

A reader works on the text itself and not on a tree, because what is wrong with a text
is decided by the first problem from the left, be it one of spelling or one of shape.
-/

namespace Recommend.Json

/-- The writer and the reader of one type. -/
structure Codec (α : Type) where
  write : α → Json
  read : Reader α

namespace Codec

variable {α β κ : Type}

/-- The compact text of a value. -/
def encode (c : Codec α) (a : α) : String := (c.write a).compact

/-- The value that stands at the beginning of a text; what follows it is not looked at. -/
def decodeLeading (c : Codec α) (text : List Char) : Except ReadError α :=
  (c.read text).map Prod.fst

/-- The value that a text consists of. -/
def decodeWhole (c : Codec α) (text : List Char) : Except ReadError α := do
  let (a, rest) ← c.read text
  ending rest
  .ok a

/-- Read a text to its end. -/
def decode (c : Codec α) (text : String) : Except ReadError α := c.decodeWhole text.toList

/-- Read a value from the text of a tree. -/
def ofTree (c : Codec α) (j : Json) : Except ReadError α := (c.read j.chars).map Prod.fst

/-- A codec along a pair of conversions. -/
def via (c : Codec α) (forth : α → β) (back : β → α) : Codec β where
  write b := c.write (back b)
  read cs := (c.read cs).map fun (a, cs) => (forth a, cs)

/-! ### Scalars -/

/-- Texts as string literals. -/
def text : Codec String where
  write := .text
  read cs :=
    match skipSpace cs with
    | [] => .error .early
    | '"' :: cs => literalBody cs
    | cs => .error (wrongKind cs)

/-- Truth values as the two words for them. -/
def bool : Codec Bool where
  write := .bool
  read cs :=
    match skipSpace cs with
    | [] => .error .early
    | 't' :: cs => (expect ['r', 'u', 'e'] cs).map fun cs => (true, cs)
    | 'f' :: cs => (expect ['a', 'l', 's', 'e'] cs).map fun cs => (false, cs)
    | cs => .error (wrongKind cs)

/-- The number that stands here, of whatever kind. -/
def readNumber : Reader Number := fun cs =>
  match skipSpace cs with
  | [] => .error .early
  | c :: cs =>
    if c = '-' ∨ isDigit c then finiteNumber (c :: cs) else .error (wrongKind (c :: cs))

/-- A whole number that `ofInt?` accepts; all other numbers are of another shape. -/
def readInteger (ofInt? : Int → Option α) : Reader α := fun cs => do
  let (n, cs) ← readNumber cs
  match n with
  | .integer n =>
    match ofInt? n with
    | some a => .ok (a, cs)
    | none => .error .mismatched
  -- a point or an exponent makes a number real, even if its value is whole
  | .real _ _ => .error .mismatched

/-- Numbers of 32 bits with a sign. -/
def int32 : Codec Int32 where
  write n := .ofInt n.toInt
  read := readInteger Decimal.int32OfInt?

/-- A whole number as one of 64 bits with a sign, if it fits. -/
def int64OfInt? (n : Int) : Option Int64 :=
  if Int64.minValue.toInt ≤ n ∧ n ≤ Int64.maxValue.toInt then some (Int64.ofInt n) else none

/-- Numbers of 64 bits with a sign. -/
def int64 : Codec Int64 where
  write n := .ofInt n.toInt
  read := readInteger int64OfInt?

/-- A whole number as one of 64 bits without a sign, if it fits. -/
def uint64OfInt? (n : Int) : Option UInt64 :=
  if 0 ≤ n ∧ n.toNat < UInt64.size then some (UInt64.ofNat n.toNat) else none

/-- Numbers of 64 bits without a sign. -/
def uint64 : Codec UInt64 where
  write n := .ofNat n.toNat
  read := readInteger uint64OfInt?

/-- A whole number as one of 32 bits without a sign, if it fits. -/
def uint32OfInt? (n : Int) : Option UInt32 :=
  if 0 ≤ n ∧ n.toNat < UInt32.size then some (UInt32.ofNat n.toNat) else none

/-- Numbers of 32 bits without a sign. -/
def uint32 : Codec UInt32 where
  write n := .ofNat n.toNat
  read := readInteger uint32OfInt?

/-- Infinities are written as `null`, which does not read back. -/
def single : Codec Single where
  write x := (x.numeral?.map Json.number).getD .null
  read cs := (readNumber cs).map fun (n, cs) => (.ofNumber n, cs)

/-! ### Containers -/

/-- One item or more, and the closing bracket. -/
def readList (item : Reader α) : Nat → Reader (List α)
  -- an item takes a character at least, so the steps do not run out before the text
  | 0, _ => .error .early
  | n + 1, cs => do
    let (a, cs) ← item cs
    match skipSpace cs with
    | [] => .error .early
    | ',' :: cs => (readList item n cs).map fun (as, cs) => (a :: as, cs)
    | ']' :: cs => .ok ([a], cs)
    | _ => .error .malformed

/-- Lists as arrays. -/
def list (c : Codec α) : Codec (List α) where
  write as := .array (as.map c.write)
  read cs :=
    match skipSpace cs with
    | [] => .error .early
    | '[' :: cs =>
      match skipSpace cs with
      | [] => .error .early
      -- the empty list; after a comma no bracket may follow
      | ']' :: cs => .ok ([], cs)
      | cs => readList c.read (cs.length + 1) cs
    | cs => .error (wrongKind cs)

/-- `null` for nothing. -/
def option (c : Codec α) : Codec (Option α) where
  write
    | none => .null
    | some a => c.write a
  read cs :=
    match skipSpace cs with
    -- nothing else starts with this letter
    | 'n' :: cs => (expect ['u', 'l', 'l'] cs).map fun cs => (none, cs)
    | cs => (c.read cs).map fun (a, cs) => (some a, cs)

/-- The member names that stand for the keys of a map.  Reading starts after the opening
quote and ends after the closing one. -/
structure Key (κ : Type) where
  write : κ → String
  read : Reader κ

/-- Texts as member names. -/
def Key.text : Key String where
  write := id
  read := literalBody

/-- A whole number in decimal digits; nothing but the number may stand between the
quotes. -/
def Key.int32 : Key Int32 where
  write n := Decimal.ofInt n.toInt
  read cs :=
    match cs with
    | c :: _ =>
      -- no white space before the number, though a number elsewhere may have it
      if c = '-' ∨ isDigit c then do
        let (n, cs) ← Codec.int32.read cs
        match cs with
        | '"' :: cs => .ok (n, cs)
        | _ => .error .malformed
      else .error .malformed
    | [] => .error .malformed

/-- One entry or more, and the closing brace. -/
def readEntries (key : Reader κ) (value : Reader α) : Nat → Reader (List (κ × α))
  | 0, _ => .error .early
  | n + 1, cs =>
    match skipSpace cs with
    | [] => .error .early
    | '"' :: cs => do
      -- a key that cannot be read is reported before its value is looked at
      let (k, cs) ← key cs
      let cs ← colon cs
      let (a, cs) ← value cs
      match skipSpace cs with
      | [] => .error .early
      | ',' :: cs => (readEntries key value n cs).map fun (es, cs) => ((k, a) :: es, cs)
      | '\x7d' :: cs => .ok ([(k, a)], cs)
      | _ => .error .malformed
    | _ => .error .malformed

/-- An object with a member for every entry, in key order; of repeated members the last
one counts. -/
def map [Ord κ] [Std.TransOrd κ] [Std.LawfulEqOrd κ] (k : Key κ) (c : Codec α) :
    Codec (SortedMap κ α) where
  write m := .object (m.toList.map fun e => (k.write e.1, c.write e.2))
  read cs :=
    match skipSpace cs with
    | [] => .error .early
    | '\x7b' :: cs =>
      match skipSpace cs with
      | [] => .error .early
      | '\x7d' :: cs => .ok (SortedMap.empty, cs)
      | cs =>
        (readEntries k.read c.read (cs.length + 1) cs).map fun (es, cs) =>
          (SortedMap.ofList es, cs)
    | cs => .error (wrongKind cs)

end Codec

end Recommend.Json
