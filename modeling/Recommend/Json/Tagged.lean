import Recommend.Json.Variant

/-!
Alternatives told apart by a member.

The name of the alternative stands in a member of its own, in any position; the other
members are those of its value.  All of them are collected before the value is made, so
that whatever is wrong with the value is one of shape.  As an array the name comes first
and the fields of the value follow.
-/

namespace Recommend.Json

namespace Case

variable {α : Type}

/-- The value from the collected members or items. -/
def ofTree : Case α → Json → Except ReadError α
  | constant _ value _, _ => .ok value
  | payload _ codec inject _, j =>
    match codec.ofTree j with
    | .ok b => .ok (inject b)
    -- the text itself was fine, since its tree has been made
    | .error _ => .error .mismatched

/-- The members with the name among them, if the value is of this alternative. -/
def writeTagged? (tag : String) : Case α → α → Option Json
  | constant name _ holds, a => if holds a then some (.object [(tag, .text name)]) else none
  | payload name codec _ project?, a =>
    (project? a).map fun b =>
      match codec.write b with
      | .object members => .object ((tag, .text name) :: members)
      -- every payload is written as an object
      | j => j

end Case

namespace Tagged

/-- A name that is known. -/
def readName (names : List String) : Reader String := fun cs => do
  let (name, cs) ← Codec.text.read cs
  if names.contains name then .ok (name, cs) else .error .mismatched

/-- One member or more, and the closing brace: the name, once, and the other members in
order. -/
def readMembers (tag : String) (names : List String) (depth : Nat) :
    Nat → Option String → Reader (Option String × List (String × Json))
  | 0, _, _ => .error .early
  | n + 1, found, cs =>
    match skipSpace cs with
    | [] => .error .early
    | '"' :: cs => do
      let (member, cs) ← literalBody cs
      let (found, value, cs) ←
        if member = tag then
          if found.isSome then .error .mismatched
          else do
            let cs ← colon cs
            let (name, cs) ← readName names cs
            .ok (some name, [], cs)
        else do
          let cs ← colon cs
          -- not read yet: which codec applies is known with the name only
          let (j, cs) ← tree depth cs
          .ok (found, [(member, j)], cs)
      match skipSpace cs with
      | [] => .error .early
      | ',' :: cs =>
        (readMembers tag names depth n found cs).map fun ((found, ms), cs) =>
          ((found, value ++ ms), cs)
      | '\x7d' :: cs => .ok ((found, value), cs)
      | _ => .error .malformed
    | _ => .error .malformed

/-- The items after the name, and the closing bracket. -/
def readItems (depth : Nat) : Nat → Reader (List Json)
  | 0, _ => .error .early
  | n + 1, cs =>
    match skipSpace cs with
    | [] => .error .early
    | ']' :: cs => .ok ([], cs)
    | ',' :: cs =>
      match skipSpace cs with
      | [] => .error .early
      | ']' :: _ => .error .malformed
      | cs => do
        let (j, cs) ← tree depth cs
        (readItems depth n cs).map fun (js, cs) => (j :: js, cs)
    | _ => .error .malformed

end Tagged

/-- The codec of a type whose alternatives are told apart by the member `tag`; its other
members nest at most `depth` containers. -/
def Codec.tagged {α : Type} (tag : String) (depth : Nat) (cases : List (Case α)) :
    Codec α where
  write a := (cases.findSome? (·.writeTagged? tag a)).getD .null
  read cs :=
    let names := cases.map Case.name
    let make (name : Option String) (j : Json) : Except ReadError α :=
      match cases.find? (fun c => name == some c.name) with
      | none => .error .mismatched
      | some c => c.ofTree j
    match skipSpace cs with
    | [] => .error .early
    | '\x7b' :: cs =>
      match skipSpace cs with
      | [] => .error .early
      | '\x7d' :: _ => .error .mismatched
      | cs => do
        -- the name may come last, so everything is collected first
        let ((name, members), cs) ←
          Tagged.readMembers tag names depth (cs.length + 1) none cs
        let a ← make name (.object members)
        .ok (a, cs)
    | '[' :: cs =>
      match skipSpace cs with
      | [] => .error .early
      | ']' :: _ => .error .mismatched
      | cs => do
        let (name, cs) ← Tagged.readName names cs
        let (items, cs) ← Tagged.readItems depth (cs.length + 1) cs
        let a ← make (some name) (.array items)
        .ok (a, cs)
    | cs => .error (wrongKind cs)

end Recommend.Json
