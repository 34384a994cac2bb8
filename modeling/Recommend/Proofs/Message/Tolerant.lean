import Recommend.Proofs.Message.Codec

/-!
Messages are read the same whatever the order of their members, which of the defaults
are left out, and what else stands among them (`tolerant_messages`).

That holds at every depth of a message, wherever its form has a record.
-/

namespace Recommend

open Json

/-- What is written for a value is a text of the form, and from every text of the form
the value is read, whenever its binary32 numbers read back. -/
def Json.Codec.Tolerates {α : Type} (c : Codec α) (form : Form)
    (singles : α → List Single) : Prop :=
  ∀ a, (∀ x ∈ singles a, x.ReadsBack) → form (c.write a) (c.write a).chars ∧
    ∀ text, form (c.write a) text → c.decode (String.ofList text) = .ok a

/-- A codec tolerates a form if values are accepted whenever their numbers read back. -/
theorem Json.Codec.tolerates_of_accepts {α : Type} {c : Codec α} {form : Form}
    {singles : α → List Single}
    (h : ∀ {a}, (∀ x ∈ singles a, x.ReadsBack) → c.Accepts form a) :
    c.Tolerates form singles := by
  intro a ha
  exact ⟨(h ha).written, fun text htext => ((h ha).read text htext).decode⟩

/-- **A message is read from every text of its form.**  In its records, at whatever
depth, members may come in any order, those that hold their default may be left out, and
others may stand among them; the written form is one of these texts. -/
theorem tolerant_messages :
    ForwardRequest.codec.Tolerates ForwardRequest.form (fun _ => []) ∧
    SearchClause.codec.Tolerates SearchClause.form SearchClause.singles ∧
    InvertedRequest.codec.Tolerates InvertedRequest.form InvertedRequest.singles ∧
    IndexItem.codec.Tolerates IndexItem.form (fun i => FeatureMap.singles i.fields) ∧
    IndexerReply.codec.Tolerates IndexerReply.form IndexerReply.singles ∧
    RecRequest.codec.Tolerates RecRequest.form (fun r => Context.singles r.context) ∧
    ContextReply.codec.Tolerates ContextReply.form (fun r => FeatureMap.singles r.context) ∧
    RetrievalInfo.codec.Tolerates RetrievalInfo.form (fun _ => []) ∧
    RecItem.codec.Tolerates RecItem.form (fun i => FeatureMap.singles i.itemId) ∧
    ItemReply.codec.Tolerates ItemReply.form ItemReply.singles ∧
    IdWeight.codec.Tolerates IdWeight.form (fun w => [w.weight]) ∧
    BulkFormat.codec.Tolerates BulkFormat.form (fun _ => []) ∧
    SnapshotMeta.codec.Tolerates SnapshotMeta.form (fun _ => []) ∧
    ErrorBody.codec.Tolerates ErrorBody.form (fun _ => []) := by
  refine ⟨?forward, ?clause, ?inverted, ?indexItem, ?indexReply, ?recommend,
    ?contextReply, ?info, ?recItem, ?itemReply, ?weight, ?format, ?description,
    ?failure⟩
  case forward => exact Codec.tolerates_of_accepts fun _ => ForwardRequest.accepts _
  case clause => exact Codec.tolerates_of_accepts SearchClause.accepts
  case inverted => exact Codec.tolerates_of_accepts InvertedRequest.accepts
  case indexItem => exact Codec.tolerates_of_accepts IndexItem.accepts
  case indexReply => exact Codec.tolerates_of_accepts IndexerReply.accepts
  case recommend => exact Codec.tolerates_of_accepts RecRequest.accepts
  case contextReply => exact Codec.tolerates_of_accepts ContextReply.accepts
  case info => exact Codec.tolerates_of_accepts fun _ => RetrievalInfo.accepts _
  case recItem => exact Codec.tolerates_of_accepts RecItem.accepts
  case itemReply => exact Codec.tolerates_of_accepts ItemReply.accepts
  case weight => exact Codec.tolerates_of_accepts fun h =>
    IdWeight.accepts (h _ List.mem_cons_self)
  case format => exact Codec.tolerates_of_accepts fun _ => BulkFormat.accepts _
  case description => exact Codec.tolerates_of_accepts fun _ => SnapshotMeta.accepts _
  case failure => exact Codec.tolerates_of_accepts fun _ => ErrorBody.accepts _

/-- One item with a weighted id, and no retrievals that it comes from. -/
def weighedReply : ItemReply :=
  ⟨"r", [⟨.ofList [(7, .weighted [⟨.int 3, .round false Single.unitsPerOne 2⟩])], []⟩]⟩

/-- A value with blanks, a numeral in a spelling of its own and half of a surrogate
pair. -/
theorem wellFormed_stray : WellFormed "[ -0.5e+07 , \x7b\"\\ud800\":null\x7d]".toList := by
  have hblank : Blank [' '] := blank_of_all rfl
  have hnumeral : WellFormed "-0.5e+07".toList :=
    .numeral (.mk (.inr rfl) .zero (.digits (List.cons_ne_nil 5 []))
      (.digits (.inl rfl) (.inr (.inr rfl)) (List.cons_ne_nil 0 [7])))
  have hobject : WellFormed "\x7b\"\\ud800\":null\x7d".toList := by
    refine @WellFormed.object ⟨[], "\\ud800".toList, [],
      ⟨[], "null".toList, []⟩⟩ [] ?_ ?_ ?_
    · exact List.forall_mem_singleton.2 ⟨blank_nil, blank_nil, blank_nil, blank_nil⟩
    · exact List.forall_mem_singleton.2 ⟨["\\ud800".toList],
        List.forall_mem_singleton.2 (.hex rfl rfl rfl rfl), rfl⟩
    · exact List.forall_mem_singleton.2 .null
  refine @WellFormed.array ⟨[' '], "-0.5e+07".toList, [' ']⟩
    [⟨[' '], "\x7b\"\\ud800\":null\x7d".toList, []⟩] ?_ ?_
  · exact List.forall_mem_cons.2 ⟨⟨hblank, hblank⟩,
      List.forall_mem_singleton.2 ⟨hblank, blank_nil⟩⟩
  · exact List.forall_mem_cons.2 ⟨hnumeral, List.forall_mem_singleton.2 hobject⟩

/-- The members of the weighted id are swapped, the retrievals are left out, a member
comes before the item id, and the items before the request id. -/
theorem tolerant_messages_weighed :
    let stray := "[ -0.5e+07 , \x7b\"\\ud800\":null\x7d]".toList
    let weight := "\x7b\"weight\":0.5,\"id\":\x7b\"id_int\":3\x7d\x7d".toList
    let itemId := "\x7b\"7\":\x7b\"weighted_list\":[".toList ++ weight ++ "]\x7d\x7d".toList
    let item :=
      "\x7b\"x\\u0031\":".toList ++ stray ++ ",\"item_id\":".toList ++ itemId ++
        "\x7d".toList
    let text := "\x7b\"items\":[".toList ++ item ++ "],\"request_id\":\"r\"\x7d".toList
    (∀ x ∈ weighedReply.singles, x.ReadsBack) ∧
      ItemReply.form (ItemReply.codec.write weighedReply) text ∧
      ItemReply.codec.decode (String.ofList text) = .ok weighedReply := by
  intro stray weight itemId item text
  have hsingles : ∀ x ∈ weighedReply.singles, x.ReadsBack := by decide +kernel
  -- from the inside out: the weighted id first, then what holds it
  have hweight : IdWeight.form
      (IdWeight.codec.write ⟨.int 3, .round false Single.unitsPerOne 2⟩) weight := by
    refine ⟨_, [("id", .plain "id" "\x7b\"id_int\":3\x7d".toList),
        ("weight", .plain "weight" "0.5".toList)],
      [], _, [], rfl, .keep rfl rfl (.keep rfl ?_ .nil), List.forall_mem_nil _,
      .swap _ _ _, ?_, blank_nil, rfl⟩
    · show _ = _
      decide +kernel
    · exact List.forall_mem_cons.2 ⟨Member.isBlank_plain _ _,
        List.forall_mem_singleton.2 (Member.isBlank_plain _ _)⟩
  have hitemId : FeatureMap.form (FeatureMap.codec.write
      (.ofList [(7, .weighted [⟨.int 3, .round false Single.unitsPerOne 2⟩])])) itemId :=
    ⟨_, _, rfl,
      .cons
        ⟨_, .inr ⟨"weighted_list", _, _, rfl, ⟨_, _, rfl, .cons hweight .nil, rfl⟩, rfl⟩,
          rfl⟩
        .nil,
      rfl⟩
  have hitem : RecItem.form (RecItem.codec.write
      ⟨.ofList [(7, .weighted [⟨.int 3, .round false Single.unitsPerOne 2⟩])], []⟩)
      item := by
    refine ⟨_, [("item_id", .plain "item_id" itemId)],
      [("x1", ⟨[], "x\\u0031".toList, [], ⟨[], stray, []⟩⟩)], _, [], rfl,
      .keep rfl hitemId (.leaveOut rfl .nil),
      List.forall_mem_singleton.2 ⟨by decide, ?_, wellFormed_stray⟩,
      .swap _ _ _, ?_, blank_nil, rfl⟩
    · have hdigit : Denotes "\\u0031".toList '1' :=
        @Denotes.hex '0' '0' '3' '1' 0x31 rfl rfl rfl
      exact ⟨[(['x'], 'x'), ("\\u0031".toList, '1')], List.forall_mem_cons.2
        ⟨.plain (by decide) (by decide) (by decide), List.forall_mem_singleton.2 hdigit⟩,
          rfl, rfl⟩
    · exact List.forall_mem_cons.2 ⟨⟨blank_nil, blank_nil, blank_nil, blank_nil⟩,
        List.forall_mem_singleton.2 (Member.isBlank_plain _ _)⟩
  have hreply : ItemReply.form (ItemReply.codec.write weighedReply) text := by
    refine ⟨_, [("request_id", .plain "request_id" "\"r\"".toList),
        ("items", .plain "items" ('[' :: (item ++ [']'])))],
      [], _, [], rfl, .keep rfl rfl (.keep rfl ⟨_, _, rfl, .cons hitem .nil, rfl⟩ .nil),
      List.forall_mem_nil _, .swap _ _ _, ?_, blank_nil, rfl⟩
    exact List.forall_mem_cons.2 ⟨Member.isBlank_plain _ _,
      List.forall_mem_singleton.2 (Member.isBlank_plain _ _)⟩
  obtain ⟨-, -, -, -, -, -, -, -, -, hreplies, -⟩ := tolerant_messages
  exact ⟨hsingles, hreply, (hreplies weighedReply hsingles).2 text hreply⟩

end Recommend
