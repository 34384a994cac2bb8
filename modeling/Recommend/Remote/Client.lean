import Recommend.Message.Codec
import Recommend.Remote.Channel
import Recommend.Stage.Client

/-!
Clients of stages and indexes that a peer serves, and the paths under which it serves
them.
-/

namespace Recommend

open Json

namespace ServicePath

/-- The path of these segments, each behind a slash. -/
def ofSegments (segments : List String) : String :=
  String.join (segments.map ("/" ++ ·))

/-- Where an index is looked up by key. -/
def forward (indexer : String) : String := ofSegments ["indexer", indexer, "forward"]

/-- Where an index is searched by content. -/
def inverted (indexer : String) : String := ofSegments ["indexer", indexer, "inverted"]

/-- Where the context stage that writes a scope is asked. -/
def context (scope : ScopeId) : String := ofSegments ["context", Decimal.ofInt scope.toInt]

/-- Where a retrieval stage is asked. -/
def retrieval (id : RetrievalId) : String :=
  ofSegments ["retrieval", Decimal.ofInt id.toInt]

/-- Where the recommender is asked. -/
def recommend : String := ofSegments ["recommend"]

end ServicePath

namespace Channel

/-- Post a message and read the reply; a call without one has failed. -/
def ask {α β : Type} (ch : Channel) (net : Network) (path : String) (request : Codec α)
    (reply : Codec β) (a : α) : Except Status β :=
  (ch.call net path (request.write a) reply).mapError CallFailure.status

/-- The client of an index of the peer. -/
def indexer (ch : Channel) (net : Network) (name : String) : IndexerClient where
  forward := ch.ask net (ServicePath.forward name) ForwardRequest.codec IndexerReply.codec
  inverted :=
    ch.ask net (ServicePath.inverted name) InvertedRequest.codec IndexerReply.codec

/-- The client of a context stage of the peer. -/
def context (ch : Channel) (net : Network) (scope : ScopeId) : ContextClient :=
  ch.ask net (ServicePath.context scope) RecRequest.codec ContextReply.codec

/-- The client of a retrieval stage of the peer. -/
def retrieval (ch : Channel) (net : Network) (id : RetrievalId) : RetrievalClient :=
  ch.ask net (ServicePath.retrieval id) RecRequest.codec ItemReply.codec

/-- The client of the recommender of the peer. -/
def recommend (ch : Channel) (net : Network) : RecRequest → Except Status ItemReply :=
  ch.ask net ServicePath.recommend RecRequest.codec ItemReply.codec

end Channel

end Recommend
