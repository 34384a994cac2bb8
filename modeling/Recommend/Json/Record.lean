import Recommend.Json.Codec

/-!
Codecs of records.

A record is described by its fields: their names in writing order, their codecs, and
what their absence means.  It is written as an object with all its members.  It is read
from an object with its members in any order, among them others that are skipped, or
from an array of its fields in order; a field that is absent takes its default if it has
one.
-/

namespace Recommend.Json

/-- The fields of a record: `σ` holds the values found so far, `τ` the values of all. -/
inductive Fields : Type → Type → Type 1
  | done : Fields Unit Unit
  | field {α σ τ : Type} (name : String) (codec : Codec α) (absent : Option α)
    (rest : Fields σ τ) : Fields (Option α × σ) (α × τ)

namespace Fields

variable {σ τ : Type}

/-- Nothing found yet. -/
def blank : {σ τ : Type} → Fields σ τ → σ
  | _, _, .done => ()
  | _, _, .field _ _ _ rest => (none, rest.blank)

/-- The record, if every field has been found or has a default. -/
def complete? : {σ τ : Type} → Fields σ τ → σ → Option τ
  | _, _, .done, _ => some ()
  | _, _, .field _ _ absent rest, (slot, slots) => do
    -- a default counts only where nothing was found
    let a ← slot <|> absent
    let b ← rest.complete? slots
    some (a, b)

/-- All members, in order. -/
def members : {σ τ : Type} → Fields σ τ → τ → List (String × Json)
  | _, _, .done, _ => []
  | _, _, .field name codec _ rest, (a, b) => (name, codec.write a) :: rest.members b

/-- What to do with a member of a given name. -/
inductive Offer (σ : Type) where
  | unknown
  | repeated
  | fresh (read : Reader σ)

/-- A member fills the slot of its name, once. -/
def offer : {σ τ : Type} → Fields σ τ → σ → String → Offer σ
  | _, _, .done, _, _ => .unknown
  | _, _, .field name codec _ rest, (slot, slots), given =>
    if given = name then
      -- not read again: the second member is what is wrong
      if slot.isSome then .repeated
      else .fresh fun cs => (codec.read cs).map fun (a, cs) => ((some a, slots), cs)
    else
      match rest.offer slots given with
      | .unknown => .unknown
      | .repeated => .repeated
      | .fresh read => .fresh fun cs => (read cs).map fun (slots, cs) => ((slot, slots), cs)

/-- One member or more, and the closing brace. -/
def readMembers (fields : Fields σ τ) : Nat → σ → Reader σ
  | 0, _, _ => .error .early
  | n + 1, slots, cs =>
    match skipSpace cs with
    | [] => .error .early
    | '"' :: cs => do
      let (name, cs) ← literalBody cs
      let (slots, cs) ←
        match fields.offer slots name with
        -- a member that is not known has to be well formed, and that is all
        | .unknown => do
          let cs ← colon cs
          (skip cs).map fun cs => (slots, cs)
        | .repeated => .error .mismatched
        | .fresh read => do
          let cs ← colon cs
          read cs
      match skipSpace cs with
      | [] => .error .early
      | ',' :: cs => readMembers fields n slots cs
      | '\x7d' :: cs => .ok (slots, cs)
      | _ => .error .malformed
    | _ => .error .malformed

/-- The text of the next array item: after a comma, except for the first. -/
def nextItem (first : Bool) (cs : List Char) : Except ReadError (List Char) :=
  if first then .ok cs
  else
    match cs with
    | ',' :: cs =>
      match skipSpace cs with
      | [] => .error .early
      | ']' :: _ => .error .malformed
      | cs => .ok cs
    | _ => .error .malformed

/-- The items of an array, one for each field, up to its closing bracket or one for
every field. -/
def readItems : {σ τ : Type} → Fields σ τ → Bool → Reader σ
  | _, _, .done, _, cs => .ok ((), cs)
  | _, _, .field _ codec _ rest, first, cs =>
    match skipSpace cs with
    | [] => .error .early
    -- the bracket is left for `closing`, and the other fields for their defaults
    | ']' :: cs => .ok ((none, rest.blank), ']' :: cs)
    | cs => do
      let cs ← nextItem first cs
      let (a, cs) ← codec.read cs
      (rest.readItems false cs).map fun (slots, cs) => ((some a, slots), cs)

/-- The closing bracket after the items. -/
def closing (cs : List Char) : Except ReadError (List Char) :=
  match skipSpace cs with
  | [] => .error .early
  | ']' :: cs => .ok cs
  | _ => .error .malformed

/-- The record of the values found; one without a required field is of another shape. -/
def finish (fields : Fields σ τ) (slots : σ) : Except ReadError τ :=
  match fields.complete? slots with
  | some t => .ok t
  | none => .error .mismatched

end Fields

/-- A required field. -/
def required {α σ τ : Type} (name : String) (codec : Codec α) (rest : Fields σ τ) :
    Fields (Option α × σ) (α × τ) :=
  .field name codec none rest

/-- A field that may be absent. -/
def defaulted {α σ τ : Type} (name : String) (codec : Codec α) (absent : α)
    (rest : Fields σ τ) : Fields (Option α × σ) (α × τ) :=
  .field name codec (some absent) rest

/-- The codec of a record, given its fields and how it is put together from their
values. -/
def Codec.record {σ τ α : Type} (fields : Fields σ τ) (pack : τ → α) (unpack : α → τ) :
    Codec α where
  write a := .object (fields.members (unpack a))
  read cs :=
    match skipSpace cs with
    | [] => .error .early
    | '\x7b' :: cs => do
      let (slots, cs) ←
        match skipSpace cs with
        | [] => .error .early
        | '\x7d' :: cs => .ok (fields.blank, cs)
        | cs => fields.readMembers (cs.length + 1) fields.blank cs
      let t ← fields.finish slots
      .ok (pack t, cs)
    | '[' :: cs => do
      let (slots, cs) ← fields.readItems true cs
      -- a missing field is reported before what follows the items
      let t ← fields.finish slots
      let cs ← Fields.closing cs
      .ok (pack t, cs)
    | cs => .error (wrongKind cs)

end Recommend.Json
