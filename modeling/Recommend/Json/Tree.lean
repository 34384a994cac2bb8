import Recommend.Json.Scan

/-!
Reading a whole document into its tree.
-/

namespace Recommend.Json

mutual

/-- A value that nests at most `depth` containers. -/
def readTree : Nat → Nat → Reader Json
  | 0, _, _ => .error .early
  | n + 1, depth, cs =>
    match skipSpace cs with
    | [] => .error .early
    | 'n' :: cs => (expect ['u', 'l', 'l'] cs).map fun cs => (.null, cs)
    | 't' :: cs => (expect ['r', 'u', 'e'] cs).map fun cs => (.bool true, cs)
    | 'f' :: cs => (expect ['a', 'l', 's', 'e'] cs).map fun cs => (.bool false, cs)
    | '"' :: cs => (literalBody cs).map fun (s, cs) => (.text s, cs)
    | '[' :: cs =>
      match depth with
      -- too deep
      | 0 => .error .malformed
      | depth + 1 =>
        match skipSpace cs with
        | [] => .error .early
        | ']' :: cs => .ok (.array [], cs)
        | cs => (readItems n depth cs).map fun (items, cs) => (.array items, cs)
    | '\x7b' :: cs =>
      match depth with
      | 0 => .error .malformed
      | depth + 1 =>
        match skipSpace cs with
        | [] => .error .early
        | '\x7d' :: cs => .ok (.object [], cs)
        | cs => (readMembers n depth cs).map fun (members, cs) => (.object members, cs)
    | c :: cs =>
      if c = '-' ∨ isDigit c then do
        let (numeral, rest) ← numeral (c :: cs)
        -- a number that is too large is no JSON number
        if numeral.value?.isSome then .ok (.number numeral, rest) else .error .malformed
      else .error .malformed

/-- One item or more, and the closing bracket. -/
def readItems : Nat → Nat → Reader (List Json)
  | 0, _, _ => .error .early
  | n + 1, depth, cs => do
    let (j, cs) ← readTree n depth cs
    match skipSpace cs with
    | [] => .error .early
    | ',' :: cs => (readItems n depth cs).map fun (js, cs) => (j :: js, cs)
    | ']' :: cs => .ok ([j], cs)
    | _ => .error .malformed

/-- One member or more, and the closing brace. -/
def readMembers : Nat → Nat → Reader (List (String × Json))
  | 0, _, _ => .error .early
  | n + 1, depth, cs =>
    match skipSpace cs with
    | [] => .error .early
    | '"' :: cs => do
      let (name, cs) ← literalBody cs
      let cs ← colon cs
      let (j, cs) ← readTree n depth cs
      match skipSpace cs with
      | [] => .error .early
      | ',' :: cs => (readMembers n depth cs).map fun (ms, cs) => ((name, j) :: ms, cs)
      | '\x7d' :: cs => .ok ([(name, j)], cs)
      | _ => .error .malformed
    | _ => .error .malformed

end

/-- A value in front of other text; it nests at most `depth` containers. -/
def tree (depth : Nat) : Reader Json := fun cs => readTree (2 * cs.length + 2) depth cs

/-- How many containers may nest in a document. -/
def nestingLimit : Nat := 127

/-- The rest of a document after its value: white space only. -/
def ending (cs : List Char) : Except ReadError Unit :=
  match skipSpace cs with
  | [] => .ok ()
  | _ => .error .malformed

/-- The tree of a whole text. -/
def parse (text : String) : Except ReadError Json := do
  let (j, rest) ← tree nestingLimit text.toList
  ending rest
  .ok j

end Recommend.Json
