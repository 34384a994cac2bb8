import Recommend.Number.Single
import Recommend.SortedMap

/-!
Features: typed lists of values under caller-assigned field numbers, and contexts:
feature maps under scope numbers.
-/

namespace Recommend

/-- The caller's number for a field; there is no built-in schema. -/
abbrev FieldId := Int32

/-- The number of one scope of a request's context. -/
abbrev ScopeId := Int32

/-- An id that carries a weight. -/
inductive WeightedId where
  | bytes (s : String)
  | int (n : Int64)
  deriving DecidableEq

/-- An id and its weight. -/
structure IdWeight where
  id : WeightedId
  weight : Single
  deriving DecidableEq

/-- A list of values of one kind; a scalar is a list of one. -/
inductive FeatureList where
  | bytes (values : List String)
  | ints (values : List Int64)
  | floats (values : List Single)
  | weighted (values : List IdWeight)
  deriving DecidableEq

/-- The kinds of feature lists. -/
inductive FeatureKind where
  | bytes
  | int
  | float
  | weighted
  deriving DecidableEq

/-- Features by their fields. -/
abbrev FeatureMap := SortedMap FieldId FeatureList

/-- Feature maps by their scopes. -/
abbrev Context := SortedMap ScopeId FeatureMap

namespace FeatureList

/-- The kind of the values of a list. -/
def kind : FeatureList → FeatureKind
  | bytes _ => .bytes
  | ints _ => .int
  | floats _ => .float
  | weighted _ => .weighted

/-- How many values a list holds. -/
def length : FeatureList → Nat
  | bytes values => values.length
  | ints values => values.length
  | floats values => values.length
  | weighted values => values.length

/-- The values of a list of bytes. -/
def bytes? : FeatureList → Option (List String)
  | bytes values => some values
  | _ => none

end FeatureList

end Recommend
