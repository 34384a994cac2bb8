import Recommend.Number.Numeral

/-!
JSON documents as trees.

Members of an object are kept in written order, repetitions included: what they mean is
up to the reader.
-/

namespace Recommend

/-- A JSON document. -/
inductive Json where
  | null
  | bool (b : Bool)
  | number (n : Numeral)
  | text (s : String)
  | array (items : List Json)
  | object (members : List (String × Json))
  deriving Repr, Inhabited

namespace Json

/-- A natural number as a JSON number. -/
def ofNat (n : Nat) : Json := .number (.ofNat n)

/-- A whole number as a JSON number. -/
def ofInt (n : Int) : Json := .number (.ofInt n)

/-- The last member of that name, if this is an object with one. -/
def member? (j : Json) (name : String) : Option Json :=
  match j with
  | .object members => (members.reverse.find? (·.1 == name)).map Prod.snd
  | _ => none

end Json

end Recommend
