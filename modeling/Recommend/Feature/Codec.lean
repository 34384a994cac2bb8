import Recommend.Feature.Basic
import Recommend.Json.Record
import Recommend.Json.Variant

/-!
The written form of features.
-/

namespace Recommend

open Json

/-- An id as an object whose one member says what kind of id it is. -/
def WeightedId.codec : Codec WeightedId :=
  .variant
    [.payload "id_bytes" .text .bytes fun
      | .bytes s => some s
      | _ => none,
     .payload "id_int" .int64 .int fun
      | .int n => some n
      | _ => none]

/-- A weighted id as an object of the id and the weight. -/
def IdWeight.codec : Codec IdWeight :=
  .record (required "id" WeightedId.codec <| required "weight" .single .done)
    (fun (id, weight, ()) => ⟨id, weight⟩)
    (fun w => (w.id, w.weight, ()))

/-- A list as an object whose one member says what kind of values it holds. -/
def FeatureList.codec : Codec FeatureList :=
  .variant
    [.payload "bytes_list" (.list .text) .bytes fun
      | .bytes values => some values
      | _ => none,
     .payload "int_list" (.list .int64) .ints fun
      | .ints values => some values
      | _ => none,
     .payload "float_list" (.list .single) .floats fun
      | .floats values => some values
      | _ => none,
     .payload "weighted_list" (.list IdWeight.codec) .weighted fun
      | .weighted values => some values
      | _ => none]

/-- A feature map as an object with the fields, in digits, for member names. -/
def FeatureMap.codec : Codec FeatureMap := .map .int32 FeatureList.codec

/-- A context as an object with the scopes, in digits, for member names. -/
def Context.codec : Codec Context := .map .int32 FeatureMap.codec

end Recommend
