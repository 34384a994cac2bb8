import Recommend.Json.Codec

/-!
Codecs of alternatives.

An alternative with a value is written as an object with one member, named for the
alternative; one without a value is written as its name.
-/

namespace Recommend.Json

/-- One alternative of a type. -/
inductive Case (α : Type) : Type 1
  | constant (name : String) (value : α) (holds : α → Bool)
  | payload {β : Type} (name : String) (codec : Codec β) (inject : β → α)
    (project? : α → Option β)

namespace Case

variable {α : Type}

/-- The member name of a case, or the text that it is as a whole. -/
def name : Case α → String
  | constant name _ _ => name
  | payload name _ _ _ => name

/-- The written form, if the value is of this alternative. -/
def write? : Case α → α → Option Json
  | constant name _ holds, a => if holds a then some (.text name) else none
  | payload name codec _ project?, a =>
    (project? a).map fun b => .object [(name, codec.write b)]

/-- The value after the name and its colon; an alternative without a value has `null`
there. -/
def readValue : Case α → Reader α
  | constant _ value _, cs =>
    match skipSpace cs with
    | [] => .error .early
    | 'n' :: cs => (expect ['u', 'l', 'l'] cs).map fun cs => (value, cs)
    | cs => .error (wrongKind cs)
  | payload _ codec inject _, cs => (codec.read cs).map fun (b, cs) => (inject b, cs)

/-- The value of an alternative of which only the name is given. -/
def bare : Case α → Except ReadError α
  | constant _ value _ => .ok value
  | payload _ _ _ _ => .error .mismatched

end Case

/-- The name of an alternative, which is a string literal. -/
def caseName : Reader String := fun cs =>
  match skipSpace cs with
  | [] => .error .early
  | '"' :: cs => literalBody cs
  | _ => .error .malformed

/-- The codec of a type with these alternatives. -/
def Codec.variant {α : Type} (cases : List (Case α)) : Codec α where
  write a := (cases.findSome? (·.write? a)).getD .null
  read cs :=
    match skipSpace cs with
    | [] => .error .early
    | '\x7b' :: cs => do
      let (name, cs) ← caseName cs
      match cases.find? (·.name == name) with
      -- an unknown name is reported before its value is looked at
      | none => .error .mismatched
      | some c => do
        let cs ← colon cs
        let (a, cs) ← c.readValue cs
        match skipSpace cs with
        | [] => .error .early
        | '\x7d' :: cs => .ok (a, cs)
        -- one member only
        | _ => .error .malformed
    | '"' :: cs => do
      let (name, cs) ← literalBody cs
      match cases.find? (·.name == name) with
      | none => .error .mismatched
      | some c => c.bare.map fun a => (a, cs)
    | _ => .error .malformed

end Recommend.Json
