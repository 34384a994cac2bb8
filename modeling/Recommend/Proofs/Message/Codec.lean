import Recommend.Bulk.Format
import Recommend.Message.Codec
import Recommend.Proofs.Json.Spelling
import Recommend.Snapshot.Basic
import Recommend.Status

/-!
Messages, formats and descriptions as they are written and read.

Every message has a form (`ForwardRequest.form` and so on), which lists its members with
their defaults.  It says in which parts of the written form, at whatever depth, a text
may differ: the records.  Maps have no such freedom, nor have alternatives, which may
only differ in the records that they hold.

A message is read from every text of its form.  The only values that may be lost on the
way are binary32 numbers: infinities are written as `null`.  So it is enough that each
of its numbers reads back on its own (`Single.ReadsBack`), and a message without such
numbers is always read.
-/

namespace Recommend

open Json

namespace Json

/-- A member that has to be there. -/
def Form.Field.required (name : String) (form : Form) : Form.Field := ⟨name, none, form⟩

/-- A member that may be left out where it is written like this. -/
def Form.Field.defaulted (name : String) (absent : Json) (form : Form) : Form.Field :=
  ⟨name, some absent, form⟩

/-- A value that is written like the default is the default. -/
theorem Codec.Accepts.eq_of_write_eq {α : Type} {c : Codec α} {form : Form} {a d : α}
    (ha : c.Accepts form a) (hd : c.Accepts form d)
    (h : some (c.write d) = some (c.write a)) :
    some d = some a := by
  -- what is written for both is read as both
  have hread := hd.read _ hd.written [] trivial
  rw [Option.some.inj h, ha.read _ ha.written [] trivial] at hread
  cases hread
  rfl

end Json

/-- The number reads back from its own text. -/
def Single.ReadsBack (x : Single) : Prop :=
  Codec.single.decode (Codec.single.encode x) = .ok x

instance (x : Single) : Decidable x.ReadsBack :=
  decidable_of_iff ((Codec.single.decode (Codec.single.encode x)).toOption = some x) <| by
    rw [Single.ReadsBack]
    cases Codec.single.decode (Codec.single.encode x) with
    | error e => simp [Except.toOption]
    | ok y => simp [Except.toOption]

/-! ### The binary32 numbers of a message -/

/-- The binary32 numbers in a list. -/
def FeatureList.singles : FeatureList → List Single
  | .bytes _ => []
  | .ints _ => []
  | .floats values => values
  | .weighted values => values.map (·.weight)

/-- The binary32 numbers in a feature map. -/
def FeatureMap.singles (m : FeatureMap) : List Single := m.toList.flatMap (·.2.singles)

/-- The binary32 numbers in a context. -/
def Context.singles (c : Context) : List Single := c.toList.flatMap (FeatureMap.singles ·.2)

/-- The binary32 number in a value to match. -/
def MatchValue.singles : MatchValue → List Single
  | .bytes _ => []
  | .int _ => []
  | .float x => [x]

/-- The binary32 numbers in what is asked of a field. -/
def SearchItem.singles : SearchItem → List Single
  | .matching value => value.singles
  | .weighted w => [w.weight]
  | .unset => []

/-- The binary32 numbers in a clause. -/
def SearchClause.singles (c : SearchClause) : List Single :=
  c.items.toList.flatMap (·.2.singles)

/-- The binary32 numbers in a search. -/
def InvertedRequest.singles (q : InvertedRequest) : List Single :=
  q.clauses.flatMap (·.singles)

/-- The binary32 numbers in the reply of an index. -/
def IndexerReply.singles (r : IndexerReply) : List Single :=
  r.items.flatMap (FeatureMap.singles ·.fields)

/-- The binary32 numbers in the reply of a retrieval. -/
def ItemReply.singles (r : ItemReply) : List Single :=
  r.items.flatMap (FeatureMap.singles ·.itemId)

/-! ### Scalars -/

theorem accepts_text (s : String) : Codec.text.Accepts .exact s :=
  Codec.accepts_exact Codec.passesBlanks_text (Codec.recovers_text s)

theorem accepts_int32 (n : Int32) : Codec.int32.Accepts .exact n :=
  Codec.accepts_exact (Codec.passesBlanks_readInteger _ _) (Codec.recovers_int32 n)

theorem accepts_uint32 (n : UInt32) : Codec.uint32.Accepts .exact n :=
  Codec.accepts_exact (Codec.passesBlanks_readInteger _ _) (Codec.recovers_uint32 n)

theorem accepts_uint64 (n : UInt64) : Codec.uint64.Accepts .exact n :=
  Codec.accepts_exact (Codec.passesBlanks_readInteger _ _) (Codec.recovers_uint64 n)

theorem accepts_single {x : Single} (h : x.ReadsBack) : Codec.single.Accepts .exact x :=
  Codec.accepts_exact Codec.passesBlanks_single (Codec.recovers_single h)

theorem accepts_texts (l : List String) : (Codec.list .text).Accepts .exact l :=
  Codec.accepts_exact (Codec.passesBlanks_list _)
    (Codec.recovers_list fun s _ => Codec.recovers_text s)

theorem accepts_fields (l : List FieldId) : (Codec.list .int32).Accepts .exact l :=
  Codec.accepts_exact (Codec.passesBlanks_list _)
    (Codec.recovers_list fun n _ => Codec.recovers_int32 n)

/-! ### Features -/

/-- The texts of a weighted id. -/
def IdWeight.form : Form := .record [.required "id" .exact, .required "weight" .exact]

/-- Of the lists, only weighted ones hold records. -/
def FeatureList.form : Form :=
  .variant fun name => if name = "weighted_list" then .array IdWeight.form else .exact

/-- The texts of a feature map. -/
def FeatureMap.form : Form := .map FeatureList.form

/-- The texts of a context. -/
def Context.form : Form := .map FeatureMap.form

theorem WeightedId.recovers (w : WeightedId) : WeightedId.codec.Recovers w := by
  cases w with
  | bytes s => exact Codec.recovers_payload rfl rfl (Codec.recovers_text s) rfl
  | int n => exact Codec.recovers_payload rfl rfl (Codec.recovers_int64 n) rfl

/-- A weighted id is read if its weight reads back. -/
theorem IdWeight.accepts {w : IdWeight} (h : w.weight.ReadsBack) :
    IdWeight.codec.Accepts IdWeight.form w :=
  Codec.accepts_record (by decide)
    ⟨rfl, Codec.accepts_exact (Codec.passesBlanks_variant _) (WeightedId.recovers w.id),
      nofun, rfl, accepts_single h, nofun, trivial⟩ rfl

/-- A list is read if its numbers read back. -/
theorem FeatureList.accepts {l : FeatureList} (h : ∀ x ∈ l.singles, x.ReadsBack) :
    FeatureList.codec.Accepts FeatureList.form l := by
  cases l with
  | bytes values => exact Codec.accepts_payload rfl rfl (accepts_texts values) rfl
  | ints values =>
    exact Codec.accepts_payload rfl rfl (Codec.accepts_exact (Codec.passesBlanks_list _)
      (Codec.recovers_list fun n _ => Codec.recovers_int64 n)) rfl
  | floats values =>
    exact Codec.accepts_payload rfl rfl (Codec.accepts_exact (Codec.passesBlanks_list _)
      (Codec.recovers_list fun x hx => Codec.recovers_single (h x hx))) rfl
  | weighted values =>
    refine Codec.accepts_payload rfl rfl (Codec.accepts_list ?_) rfl
    intro w hw
    exact IdWeight.accepts (h w.weight (List.mem_map_of_mem hw))

/-- A feature map is read if its numbers read back. -/
theorem FeatureMap.accepts {m : FeatureMap} (h : ∀ x ∈ FeatureMap.singles m, x.ReadsBack) :
    FeatureMap.codec.Accepts FeatureMap.form m := by
  apply Codec.accepts_map Codec.Key.recovers_int32
  intro e he
  exact FeatureList.accepts fun x hx => h x (List.mem_flatMap.2 ⟨e, he, hx⟩)

/-- A context is read if its numbers read back. -/
theorem Context.accepts {c : Context} (h : ∀ x ∈ Context.singles c, x.ReadsBack) :
    Context.codec.Accepts Context.form c := by
  apply Codec.accepts_map Codec.Key.recovers_int32
  intro e he
  exact FeatureMap.accepts fun x hx => h x (List.mem_flatMap.2 ⟨e, he, hx⟩)

/-! ### Requests -/

/-- The texts of a lookup. -/
def ForwardRequest.form : Form :=
  .record [.required "key_field" .exact, .required "keys" .exact,
    .defaulted "requested_fields" (.array []) .exact]

/-- Of the constraints, only weighted ones hold a record. -/
def SearchItem.form : Form :=
  .variant fun name => if name = "weighted" then IdWeight.form else .exact

/-- The texts of a clause. -/
def SearchClause.form : Form := .record [.required "items" (.map SearchItem.form)]

/-- The texts of a search. -/
def InvertedRequest.form : Form :=
  .record [.required "clauses" (.array SearchClause.form), .required "max_results" .exact,
    .defaulted "requested_fields" (.array []) .exact]

/-- The texts of a request. -/
def RecRequest.form : Form :=
  .record [.required "request_id" .exact, .defaulted "context" (.object []) Context.form]

/-- A lookup is always read. -/
theorem ForwardRequest.accepts (q : ForwardRequest) :
    ForwardRequest.codec.Accepts ForwardRequest.form q :=
  Codec.accepts_record (by decide)
    ⟨rfl, accepts_int32 q.keyField, nofun, rfl, accepts_texts q.keys, nofun,
      rfl, accepts_fields q.requestedFields,
      (accepts_fields q.requestedFields).eq_of_write_eq (accepts_fields []), trivial⟩ rfl

/-- A value to match reads back if its number does. -/
theorem MatchValue.recovers {v : MatchValue} (h : ∀ x ∈ v.singles, x.ReadsBack) :
    MatchValue.codec.Recovers v := by
  cases v with
  | bytes s => exact Codec.recovers_payload rfl rfl (Codec.recovers_text s) rfl
  | int n => exact Codec.recovers_payload rfl rfl (Codec.recovers_int64 n) rfl
  | float x =>
    exact Codec.recovers_payload rfl rfl
      (Codec.recovers_single (h x List.mem_cons_self)) rfl

/-- What is asked of a field is read if its numbers read back. -/
theorem SearchItem.accepts {i : SearchItem} (h : ∀ x ∈ i.singles, x.ReadsBack) :
    SearchItem.codec.Accepts SearchItem.form i := by
  cases i with
  | matching value =>
    exact Codec.accepts_payload rfl rfl
      (Codec.accepts_exact (Codec.passesBlanks_variant _) (MatchValue.recovers h)) rfl
  | weighted w =>
    exact Codec.accepts_payload rfl rfl
      (IdWeight.accepts (h w.weight List.mem_cons_self)) rfl
  | unset => exact Codec.accepts_constant rfl rfl

theorem SearchClause.accepts {c : SearchClause} (h : ∀ x ∈ c.singles, x.ReadsBack) :
    SearchClause.codec.Accepts SearchClause.form c := by
  refine Codec.accepts_record (by decide) ⟨rfl, ?_, nofun, trivial⟩ rfl
  apply Codec.accepts_map Codec.Key.recovers_int32
  intro e he
  exact SearchItem.accepts fun x hx => h x (List.mem_flatMap.2 ⟨e, he, hx⟩)

/-- A search is read if its numbers read back. -/
theorem InvertedRequest.accepts {q : InvertedRequest} (h : ∀ x ∈ q.singles, x.ReadsBack) :
    InvertedRequest.codec.Accepts InvertedRequest.form q := by
  refine Codec.accepts_record (by decide) ⟨rfl, Codec.accepts_list ?_, nofun,
    rfl, accepts_uint64 q.maxResults, nofun, rfl, accepts_fields q.requestedFields,
    (accepts_fields q.requestedFields).eq_of_write_eq (accepts_fields []), trivial⟩ rfl
  intro c hc
  exact SearchClause.accepts fun x hx => h x (List.mem_flatMap.2 ⟨c, hc, hx⟩)

/-- A request is read if its numbers read back. -/
theorem RecRequest.accepts {r : RecRequest}
    (h : ∀ x ∈ Context.singles r.context, x.ReadsBack) :
    RecRequest.codec.Accepts RecRequest.form r :=
  have hcontext := Context.accepts h
  -- an empty context may be left out, as it is what is read in its place
  have hempty : Context.codec.Accepts Context.form .empty :=
    Context.accepts (List.forall_mem_nil _)
  Codec.accepts_record (by decide)
    ⟨rfl, accepts_text r.requestId, nofun, rfl, hcontext, hcontext.eq_of_write_eq hempty,
      trivial⟩ rfl

/-! ### Replies -/

/-- The texts of a record. -/
def IndexItem.form : Form := .record [.required "fields" FeatureMap.form]

/-- The texts of the reply of an index. -/
def IndexerReply.form : Form := .record [.required "items" (.array IndexItem.form)]

/-- The texts of the reply of a context stage. -/
def ContextReply.form : Form :=
  .record [.required "request_id" .exact, .defaulted "context" (.object []) FeatureMap.form]

/-- The texts of where an item was found. -/
def RetrievalInfo.form : Form :=
  .record [.required "retrieval_id" .exact, .required "num_items" .exact]

/-- The texts of an item. -/
def RecItem.form : Form :=
  .record [.required "item_id" FeatureMap.form,
    .defaulted "retrieval_infos" (.array []) (.array RetrievalInfo.form)]

/-- The texts of the reply of a retrieval. -/
def ItemReply.form : Form :=
  .record [.required "request_id" .exact,
    .defaulted "items" (.array []) (.array RecItem.form)]

theorem IndexItem.accepts {i : IndexItem}
    (h : ∀ x ∈ FeatureMap.singles i.fields, x.ReadsBack) :
    IndexItem.codec.Accepts IndexItem.form i :=
  Codec.accepts_record (by decide) ⟨rfl, FeatureMap.accepts h, nofun, trivial⟩ rfl

/-- The reply of an index is read if its numbers read back. -/
theorem IndexerReply.accepts {r : IndexerReply} (h : ∀ x ∈ r.singles, x.ReadsBack) :
    IndexerReply.codec.Accepts IndexerReply.form r := by
  refine Codec.accepts_record (by decide) ⟨rfl, Codec.accepts_list ?_, nofun, trivial⟩ rfl
  intro i hi
  exact IndexItem.accepts fun x hx => h x (List.mem_flatMap.2 ⟨i, hi, hx⟩)

/-- The reply of a context stage is read if its numbers read back. -/
theorem ContextReply.accepts {r : ContextReply}
    (h : ∀ x ∈ FeatureMap.singles r.context, x.ReadsBack) :
    ContextReply.codec.Accepts ContextReply.form r :=
  have hcontext := FeatureMap.accepts h
  have hempty : FeatureMap.codec.Accepts FeatureMap.form .empty :=
    FeatureMap.accepts (List.forall_mem_nil _)
  Codec.accepts_record (by decide)
    ⟨rfl, accepts_text r.requestId, nofun, rfl, hcontext, hcontext.eq_of_write_eq hempty,
      trivial⟩ rfl

theorem RetrievalInfo.accepts (i : RetrievalInfo) :
    RetrievalInfo.codec.Accepts RetrievalInfo.form i :=
  Codec.accepts_record (by decide)
    ⟨rfl, accepts_int32 i.retrievalId, nofun, rfl, accepts_uint64 i.numItems, nofun,
      trivial⟩ rfl

/-- An item is read if its numbers read back. -/
theorem RecItem.accepts {i : RecItem} (h : ∀ x ∈ FeatureMap.singles i.itemId, x.ReadsBack) :
    RecItem.codec.Accepts RecItem.form i :=
  have hinfos : ∀ infos,
      (Codec.list RetrievalInfo.codec).Accepts (.array RetrievalInfo.form) infos :=
    fun _ => Codec.accepts_list fun info _ => RetrievalInfo.accepts info
  Codec.accepts_record (by decide)
    ⟨rfl, FeatureMap.accepts h, nofun, rfl, hinfos i.retrievalInfos,
      (hinfos i.retrievalInfos).eq_of_write_eq (hinfos []), trivial⟩ rfl

/-- The reply of a retrieval is read if its numbers read back. -/
theorem ItemReply.accepts {r : ItemReply} (h : ∀ x ∈ r.singles, x.ReadsBack) :
    ItemReply.codec.Accepts ItemReply.form r :=
  have hitems : (Codec.list RecItem.codec).Accepts (.array RecItem.form) r.items :=
    Codec.accepts_list fun i hi => RecItem.accepts fun x hx =>
      h x (List.mem_flatMap.2 ⟨i, hi, hx⟩)
  have hnone : (Codec.list RecItem.codec).Accepts (.array RecItem.form) [] :=
    Codec.accepts_list (by simp)
  Codec.accepts_record (by decide)
    ⟨rfl, accepts_text r.requestId, nofun, rfl, hitems, hitems.eq_of_write_eq hnone,
      trivial⟩ rfl

/-! ### Formats, descriptions and failures -/

/-- The texts of a bulk format. -/
def BulkFormat.form : Form :=
  .record [.required "field_ids" .exact, .defaulted "between_delimiter" (.text ",") .exact,
    .defaulted "inner_delimiter" .null .exact]

/-- The texts of a description. -/
def SnapshotMeta.form : Form :=
  .record [.required "num_items" .exact, .required "key_field" .exact,
    .required "created_at" .exact, .required "version" .exact]

/-- The texts of a failure. -/
def ErrorBody.form : Form := .record [.required "code" .exact, .required "message" .exact]

/-- A bulk format is always read. -/
theorem BulkFormat.accepts (f : BulkFormat) : BulkFormat.codec.Accepts BulkFormat.form f :=
  have hinner : ∀ s, (Codec.option .text).Accepts .exact s := fun s =>
    Codec.accepts_exact (Codec.passesBlanks_option _) (Codec.recovers_option_text s)
  Codec.accepts_record (by decide)
    ⟨rfl, accepts_fields f.fieldIds, nofun,
      rfl, accepts_text f.between,
      (accepts_text f.between).eq_of_write_eq (accepts_text ","),
      rfl, hinner f.inner, (hinner f.inner).eq_of_write_eq (hinner none), trivial⟩ rfl

/-- Each member of a description is read as it was written. -/
theorem SnapshotMeta.accepts_fields (m : SnapshotMeta) :
    SnapshotMeta.fields.Accepts
      (SnapshotMeta.fields.names.map fun name => ⟨name, none, .exact⟩)
      (m.numItems, m.keyField, m.createdAt, m.version, ()) :=
  ⟨rfl, accepts_uint64 m.numItems, nofun, rfl, accepts_int32 m.keyField, nofun,
    rfl, accepts_text m.createdAt, nofun, rfl, accepts_uint32 m.version, nofun, trivial⟩

/-- Descriptions are written with a member a line: the form has room for white space
around members. -/
theorem SnapshotMeta.accepts (m : SnapshotMeta) :
    SnapshotMeta.codec.Accepts SnapshotMeta.form m :=
  Codec.accepts_record (by decide) m.accepts_fields rfl

theorem Code.ofInt32_toInt32 (c : Code) : Code.ofInt32 c.toInt32 = c := by
  cases c <;> rfl

theorem Code.recovers (c : Code) : Code.codec.Recovers c :=
  (Codec.recovers_int32 c.toInt32).via (Code.ofInt32_toInt32 c)

/-- A failure is always read. -/
theorem ErrorBody.accepts (b : ErrorBody) : ErrorBody.codec.Accepts ErrorBody.form b :=
  have hcode : Code.codec.Accepts .exact b.code :=
    Codec.accepts_exact ((Codec.passesBlanks_readInteger _ _).via _ _)
      (Code.recovers b.code)
  Codec.accepts_record (by decide) ⟨rfl, hcode, nofun, rfl, accepts_text b.message, nofun,
    trivial⟩ rfl

/-! ### Reading back -/

theorem IdWeight.recovers {w : IdWeight} (h : w.weight.ReadsBack) :
    IdWeight.codec.Recovers w :=
  (IdWeight.accepts h).recovers

theorem FeatureList.recovers {l : FeatureList} (h : ∀ x ∈ l.singles, x.ReadsBack) :
    FeatureList.codec.Recovers l := (FeatureList.accepts h).recovers

theorem FeatureMap.recovers {m : FeatureMap} (h : ∀ x ∈ FeatureMap.singles m, x.ReadsBack) :
    FeatureMap.codec.Recovers m := (FeatureMap.accepts h).recovers

theorem Context.recovers {c : Context} (h : ∀ x ∈ Context.singles c, x.ReadsBack) :
    Context.codec.Recovers c := (Context.accepts h).recovers

theorem ForwardRequest.recovers (q : ForwardRequest) : ForwardRequest.codec.Recovers q :=
  (ForwardRequest.accepts q).recovers

theorem SearchItem.recovers {i : SearchItem} (h : ∀ x ∈ i.singles, x.ReadsBack) :
    SearchItem.codec.Recovers i := (SearchItem.accepts h).recovers

theorem SearchClause.recovers {c : SearchClause} (h : ∀ x ∈ c.singles, x.ReadsBack) :
    SearchClause.codec.Recovers c := (SearchClause.accepts h).recovers

theorem InvertedRequest.recovers {q : InvertedRequest} (h : ∀ x ∈ q.singles, x.ReadsBack) :
    InvertedRequest.codec.Recovers q := (InvertedRequest.accepts h).recovers

theorem RecRequest.recovers {r : RecRequest}
    (h : ∀ x ∈ Context.singles r.context, x.ReadsBack) :
    RecRequest.codec.Recovers r := (RecRequest.accepts h).recovers

theorem IndexItem.recovers {i : IndexItem}
    (h : ∀ x ∈ FeatureMap.singles i.fields, x.ReadsBack) :
    IndexItem.codec.Recovers i := (IndexItem.accepts h).recovers

theorem IndexerReply.recovers {r : IndexerReply} (h : ∀ x ∈ r.singles, x.ReadsBack) :
    IndexerReply.codec.Recovers r := (IndexerReply.accepts h).recovers

theorem ContextReply.recovers {r : ContextReply}
    (h : ∀ x ∈ FeatureMap.singles r.context, x.ReadsBack) : ContextReply.codec.Recovers r :=
  (ContextReply.accepts h).recovers

theorem RetrievalInfo.recovers (i : RetrievalInfo) : RetrievalInfo.codec.Recovers i :=
  (RetrievalInfo.accepts i).recovers

theorem RecItem.recovers {i : RecItem}
    (h : ∀ x ∈ FeatureMap.singles i.itemId, x.ReadsBack) :
    RecItem.codec.Recovers i := (RecItem.accepts h).recovers

theorem ItemReply.recovers {r : ItemReply} (h : ∀ x ∈ r.singles, x.ReadsBack) :
    ItemReply.codec.Recovers r := (ItemReply.accepts h).recovers

theorem BulkFormat.recovers (f : BulkFormat) : BulkFormat.codec.Recovers f :=
  (BulkFormat.accepts f).recovers

theorem SnapshotMeta.recovers (m : SnapshotMeta) : SnapshotMeta.codec.Recovers m :=
  (SnapshotMeta.accepts m).recovers

theorem ErrorBody.recovers (b : ErrorBody) : ErrorBody.codec.Recovers b :=
  (ErrorBody.accepts b).recovers

end Recommend
