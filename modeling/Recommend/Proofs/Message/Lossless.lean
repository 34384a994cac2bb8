import Recommend.Proofs.Message.Codec

/-!
Nothing is lost on the wire.

`Codec.Lossless c singles` says that every value reads back from the text written for it
once its binary32 numbers, which `singles` lists, read back on their own.
`lossless_messages` says so of every message that is both written and read, of bulk
formats and of snapshot descriptions; these are also written with a member a line, and
read back from that as well.
-/

namespace Recommend

open Json

/-- Values read back from their texts whenever their binary32 numbers do. -/
def Json.Codec.Lossless {α : Type} (c : Codec α) (singles : α → List Single) : Prop :=
  ∀ a, (∀ x ∈ singles a, x.ReadsBack) → c.decode (c.encode a) = .ok a

namespace Json.Codec

variable {α : Type} {c : Codec α}

/-- A codec is lossless if values recover whenever their numbers do. -/
theorem lossless_of_recovers {singles : α → List Single}
    (h : ∀ {a}, (∀ x ∈ singles a, x.ReadsBack) → c.Recovers a) : c.Lossless singles := by
  intro a ha
  exact (h ha).decode_encode

/-- Without binary32 numbers there is nothing to lose. -/
theorem lossless_of_forall (h : ∀ a, c.Recovers a) : c.Lossless fun _ => [] := by
  intro a _
  exact (h a).decode_encode

end Json.Codec

/-! ### Descriptions -/

/-- A description reads back from its indented text: all its members are scalars. -/
theorem SnapshotMeta.decode_pretty (m : SnapshotMeta) :
    SnapshotMeta.codec.decode (SnapshotMeta.codec.write m).pretty = .ok m := by
  refine Codec.decode_pretty_record (by decide) m.accepts_fields ?_ rfl
  intro member hmember
  simp only [fields, required, Fields.members, List.mem_cons, List.not_mem_nil, or_false]
    at hmember
  rcases hmember with rfl | rfl | rfl | rfl
  · rfl
  · rfl
  · rfl
  · rfl

/-! ### All of them -/

/-- **All messages are lossless**, and so are formats and descriptions, the latter also
with a member a line. -/
theorem lossless_messages :
    FeatureList.codec.Lossless FeatureList.singles ∧
    FeatureMap.codec.Lossless FeatureMap.singles ∧
    Context.codec.Lossless Context.singles ∧
    ForwardRequest.codec.Lossless (fun _ => []) ∧
    MatchValue.codec.Lossless MatchValue.singles ∧
    SearchItem.codec.Lossless SearchItem.singles ∧
    SearchClause.codec.Lossless SearchClause.singles ∧
    InvertedRequest.codec.Lossless InvertedRequest.singles ∧
    IndexItem.codec.Lossless (fun i => FeatureMap.singles i.fields) ∧
    IndexerReply.codec.Lossless IndexerReply.singles ∧
    RecRequest.codec.Lossless (fun r => Context.singles r.context) ∧
    ContextReply.codec.Lossless (fun r => FeatureMap.singles r.context) ∧
    RetrievalInfo.codec.Lossless (fun _ => []) ∧
    RecItem.codec.Lossless (fun i => FeatureMap.singles i.itemId) ∧
    ItemReply.codec.Lossless ItemReply.singles ∧
    BulkFormat.codec.Lossless (fun _ => []) ∧
    SnapshotMeta.codec.Lossless (fun _ => []) ∧
    Code.codec.Lossless (fun _ => []) ∧
    ErrorBody.codec.Lossless (fun _ => []) ∧
    ∀ m, SnapshotMeta.codec.decode (SnapshotMeta.codec.write m).pretty = .ok m := by
  refine ⟨?features, ?map, ?context, ?forward, ?value, ?item, ?clause, ?inverted,
    ?indexItem, ?indexReply, ?recommend, ?contextReply, ?info, ?recItem, ?itemReply,
    ?format, ?description, ?code, ?failure, ?pretty⟩
  case features => exact Codec.lossless_of_recovers FeatureList.recovers
  case map => exact Codec.lossless_of_recovers FeatureMap.recovers
  case context => exact Codec.lossless_of_recovers Context.recovers
  case forward => exact Codec.lossless_of_forall ForwardRequest.recovers
  case value => exact Codec.lossless_of_recovers MatchValue.recovers
  case item => exact Codec.lossless_of_recovers SearchItem.recovers
  case clause => exact Codec.lossless_of_recovers SearchClause.recovers
  case inverted => exact Codec.lossless_of_recovers InvertedRequest.recovers
  case indexItem => exact Codec.lossless_of_recovers IndexItem.recovers
  case indexReply => exact Codec.lossless_of_recovers IndexerReply.recovers
  case recommend => exact Codec.lossless_of_recovers RecRequest.recovers
  case contextReply => exact Codec.lossless_of_recovers ContextReply.recovers
  case info => exact Codec.lossless_of_forall RetrievalInfo.recovers
  case recItem => exact Codec.lossless_of_recovers RecItem.recovers
  case itemReply => exact Codec.lossless_of_recovers ItemReply.recovers
  case format => exact Codec.lossless_of_forall BulkFormat.recovers
  case description => exact Codec.lossless_of_forall SnapshotMeta.recovers
  case code => exact Codec.lossless_of_forall Code.recovers
  case failure => exact Codec.lossless_of_forall ErrorBody.recovers
  case pretty => exact SnapshotMeta.decode_pretty

/-- A clause with a text of quotes, controls and other scripts, the least 64-bit number
and a weight of minus three tenths. -/
def awkwardClause : SearchClause :=
  ⟨.ofList [(-2147483648, .matching (.bytes "\"\\\n\x01\u00e9\u4e16")),
    (0, .matching (.int (-9223372036854775808))), (7, .unset),
    (2147483647, .weighted ⟨.bytes "", .round true (3 * Single.unitsPerOne) 10⟩)]⟩

/-- The clause reads back, as its one number does. -/
theorem lossless_messages_awkward :
    (∀ x ∈ awkwardClause.singles, x.ReadsBack) ∧
      SearchClause.codec.decode (SearchClause.codec.encode awkwardClause) =
        .ok awkwardClause := by
  have hsingles : ∀ x ∈ awkwardClause.singles, x.ReadsBack := by decide +kernel
  obtain ⟨_features, _map, _context, _forward, _value, _item, hclause, _others⟩ :=
    lossless_messages
  exact ⟨hsingles, hclause awkwardClause hsingles⟩

end Recommend
