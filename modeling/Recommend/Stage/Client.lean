import Recommend.Index.Search

/-!
What stages call: an index, a context stage, a retrieval stage.

A client is what it answers.  Whether the answer comes from this process or from a peer
is decided where the client is made.
-/

namespace Recommend

/-- Something that answers index requests. -/
structure IndexerClient where
  forward : ForwardRequest → Except Status IndexerReply
  inverted : InvertedRequest → Except Status IndexerReply

/-- The client of an index in this process. -/
def IndexerClient.ofIndex (ix : Index) : IndexerClient :=
  ⟨ix.answerForward, ix.answerInverted⟩

/-- Something that answers like a context stage. -/
abbrev ContextClient := RecRequest → Except Status ContextReply

/-- Something that answers like a retrieval stage. -/
abbrev RetrievalClient := RecRequest → Except Status ItemReply

/-- The place of a feature in the context of a request. -/
structure FeatureRef where
  scope : ScopeId
  field : FieldId
  deriving DecidableEq

namespace FeatureRef

/-- The feature at a place; a request without it is cancelled. -/
def get (ref : FeatureRef) (request : RecRequest) : Except Status FeatureList :=
  match request.context.find? ref.scope with
  | none =>
    .error (.cancelled ("request has no context scope " ++ Decimal.ofInt ref.scope.toInt))
  | some features =>
    match features.find? ref.field with
    | none =>
      .error <| .cancelled <|
        "scope " ++ Decimal.ofInt ref.scope.toInt ++ " has no field " ++
          Decimal.ofInt ref.field.toInt
    | some list => .ok list

end FeatureRef

end Recommend
