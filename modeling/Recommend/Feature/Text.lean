import Recommend.Feature.Basic

/-!
Features as text: the terms under which values are indexed, and whole maps on one line.
-/

namespace Recommend

/-- The marks between the parts of a feature map on one line. -/
structure FeatureLayout where
  /-- Between fields. -/
  between : String := "|"
  /-- Between the values of a field. -/
  inner : String := ";"
  /-- After a field number. -/
  field : String := ":"
  /-- Between an id and its weight. -/
  weight : String := "="
  deriving DecidableEq

/-- The term of a whole number. -/
def intTerm (n : Int64) : String := Decimal.ofInt n.toInt

/-- The term of a number: always three decimals. -/
def floatTerm (x : Single) : String := x.term

/-- An id as it stands in a term. -/
def WeightedId.term : WeightedId → String
  | bytes s => s
  | int n => intTerm n

/-- The term of a weighted id: the id and the weight, with a separator between. -/
def IdWeight.term (layout : FeatureLayout) (w : IdWeight) : String :=
  w.id.term ++ layout.weight ++ floatTerm w.weight

namespace FeatureList

/-- Every value as a term. -/
def terms (layout : FeatureLayout) : FeatureList → List String
  | bytes values => values
  | ints values => values.map intTerm
  | floats values => values.map floatTerm
  | weighted values => values.map (IdWeight.term layout)

/-- The terms with the inner mark between them. -/
def line (layout : FeatureLayout) (l : FeatureList) : String :=
  layout.inner.intercalate (l.terms layout)

end FeatureList

/-- A feature map on one line, in field order. -/
def FeatureMap.line (layout : FeatureLayout) (m : FeatureMap) : String :=
  layout.between.intercalate <|
    m.toList.map fun (field, list) =>
      Decimal.ofInt field.toInt ++ layout.field ++ list.line layout

end Recommend
