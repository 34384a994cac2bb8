import Mathlib.Data.List.Forall2
import Mathlib.Data.List.Nodup
import Mathlib.Data.List.Perm.Subperm
import Recommend.Proofs.SortedMap
import Recommend.Proofs.Text.Bytes
import Recommend.Snapshot.Layout

/-!
The binary form of an index reads back, and reads back only whole.

`Reads small read bytes a` says both halves of one decoder and one value:

* in front of anything, `bytes` is read as `a`, and what follows is left over;
* `bytes` cut short anywhere is refused.

Decoders one after the other read bytes one after the other (`Reads.bind`), so either
half is proved once for sequences and then only for the parts: numbers, texts, lists and
map entries.

A map lists its entries in any order.  `Listing.Lists` relates a listing to the index
whose maps it lists, and the index is what the listing makes up (`Lists.toIndex_eq`), so
the order does not matter.  The main result is `decode_encode_of_lists`.
-/

namespace Recommend

namespace Listing

variable {α β : Type} {small : Prop}

/-! ### Decoders -/

/-- In front of anything the bytes are read as `a`; cut short they are refused.  If no
text is as long as none can be (`small`), the only reason is that the bytes are damaged. -/
structure Reads (small : Prop) (read : Decoder α) (bytes : Bytes) (a : α) : Prop where
  whole : ∀ rest, read (bytes ++ rest) = .ok (a, rest)
  cut : ∀ part, part <+: bytes → part ≠ bytes →
    ∃ e, read part = .error e ∧ (small → e = .damaged)

/-- Nothing is read. -/
theorem Reads.pure (a : α) : Reads small (fun bs => .ok (a, bs)) [] a where
  whole _ := rfl
  cut _ hpart hne := absurd (List.prefix_nil.1 hpart) hne

theorem Reads.map {read : Decoder α} {bytes : Bytes} {a : α} (h : Reads small read bytes a)
    (f : α → β) :
    Reads small (fun bs => (read bs).map fun r => (f r.1, r.2)) bytes (f a) where
  whole rest := by
    rw [h.whole rest]
    rfl
  cut part hpart hne := by
    obtain ⟨e, hread, he⟩ := h.cut part hpart hne
    exact ⟨e, by rw [hread]; rfl, he⟩

/-- A part of two sequences ends in the first one, or in the second one. -/
theorem prefix_append_cases {part first second : Bytes} (h : part <+: first ++ second)
    (hne : part ≠ first ++ second) :
    (part <+: first ∧ part ≠ first) ∨
      ∃ tail, part = first ++ tail ∧ tail <+: second ∧ tail ≠ second := by
  obtain ⟨missing, hmissing⟩ := h
  rcases List.append_eq_append_iff.1 hmissing
    with ⟨between, hfirst, -⟩ | ⟨tail, hpart, hsecond⟩
  · by_cases hall : part = first
    · refine .inr ⟨[], by rw [hall, List.append_nil], List.nil_prefix, ?_⟩
      rintro rfl
      exact hne (by rw [hall, List.append_nil])
    · exact .inl ⟨⟨between, hfirst.symm⟩, hall⟩
  · refine .inr ⟨tail, hpart, ⟨missing, hsecond.symm⟩, ?_⟩
    rintro rfl
    exact hne hpart

/-- One decoder after the other. -/
theorem Reads.bind {read : Decoder α} {first second : Bytes} {a : α} {b : β}
    (h : Reads small read first a) (next : α → Decoder β)
    (hnext : Reads small (next a) second b) :
    Reads small (fun bs => read bs >>= fun r => next r.1 r.2) (first ++ second) b where
  whole rest := by
    rw [List.append_assoc, h.whole]
    exact hnext.whole rest
  cut part hpart hne := by
    rcases prefix_append_cases hpart hne with ⟨hfirst, hshort⟩ | ⟨tail, rfl, htail, hshort⟩
    · obtain ⟨e, hread, he⟩ := h.cut part hfirst hshort
      exact ⟨e, by rw [hread]; rfl, he⟩
    · -- the first value is there whole, and the bytes end in the second one
      obtain ⟨e, hread, he⟩ := hnext.cut tail htail hshort
      refine ⟨e, ?_, he⟩
      rw [h.whole]
      exact hread

/-! ### Numbers -/

/-- Numbers of a fixed width, least byte first. -/
theorem reads_number (width n : Nat) (h : n < Nat.pow 256 width) :
    Reads small (readNumber width) (littleEndian width n) n := by
  induction width generalizing n with
  | zero =>
    have hn : n = 0 := Nat.lt_one_iff.1 h
    subst hn
    exact .pure 0
  | succ width ih =>
    have hdiv : n / 256 < Nat.pow 256 width := (Nat.div_lt_iff_lt_mul (by decide)).2 h
    have hrest := ih (n / 256) hdiv
    -- the first byte is the remainder, and the others are the quotient
    have hbyte : (UInt8.ofNat n).toNat = n % 256 := UInt8.toNat_ofNat'
    constructor
    · intro rest
      rw [littleEndian, List.cons_append, readNumber, hrest.whole rest]
      dsimp only [Except.map]
      rw [hbyte, Nat.mod_add_div]
    · intro part hpart hne
      -- nothing is there, or the bytes end behind the first one
      rcases List.prefix_cons_iff.1 hpart with rfl | ⟨tail, rfl, htail⟩
      · exact ⟨.damaged, rfl, fun _ => rfl⟩
      · obtain ⟨e, hread, he⟩ := hrest.cut tail htail fun heq => hne (by rw [heq]; rfl)
        exact ⟨e, by rw [readNumber, hread]; rfl, he⟩

/-- What a count of eight bytes stays below. -/
def countLimit : Nat := Nat.pow 2 64

theorem reads_count {n : Nat} (h : n < countLimit) :
    Reads small readCount (writeCount n) n :=
  reads_number 8 n h

theorem reads_field (field : FieldId) : Reads small readField (writeField field) field := by
  have hnumber : Reads small (readNumber 4) (writeField field) field.toUInt32.toNat :=
    reads_number 4 _ field.toUInt32.toNat_lt
  have hfield := hnumber.map fun n => (UInt32.ofNat n).toInt32
  rw [UInt32.ofNat_toNat, Int32.toInt32_toUInt32] at hfield
  exact hfield

/-! ### Texts -/

/-- The number of bytes of a text. -/
def textSize (s : String) : Nat := (Bytes.ofText s).length

/-- So many bytes, whatever they are. -/
theorem reads_bytes {bytes : Bytes} (h : small → bytes.length < textLimit) :
    Reads small (readBytes bytes.length) bytes bytes where
  whole rest := by
    rw [readBytes, List.take_left, List.drop_left]
    exact if_pos rfl
  cut part hpart hne := by
    have hshort : part.length < bytes.length := by
      refine Nat.lt_of_le_of_ne hpart.length_le ?_
      intro hlen
      exact hne (hpart.eq_of_length hlen)
    have htake : (part.take bytes.length).length ≠ bytes.length := by
      rw [List.take_of_length_le (Nat.le_of_lt hshort)]
      exact Nat.ne_of_lt hshort
    unfold readBytes
    dsimp only
    rw [if_neg htake]
    -- a length that no text can have is told apart from bytes that are missing
    by_cases hlimit : bytes.length < textLimit
    · exact ⟨.damaged, if_pos hlimit, fun _ => rfl⟩
    · exact ⟨.oversized, if_neg hlimit, fun hsmall => absurd (h hsmall) hlimit⟩

/-- A text with its length in front. -/
theorem reads_text {s : String} (hcount : textSize s < countLimit)
    (hsmall : small → textSize s < textLimit) : Reads small readText (writeText s) s := by
  have hlength : Reads small readCount (writeCount (Bytes.ofText s).length)
      (Bytes.ofText s).length :=
    reads_count hcount
  have hbytes : Reads small (readBytes (Bytes.ofText s).length) (Bytes.ofText s)
      (Bytes.ofText s) :=
    reads_bytes hsmall
  constructor
  · intro rest
    rw [readText, writeText, List.append_assoc, hlength.whole]
    dsimp only [bind, Except.bind]
    rw [hbytes.whole]
    dsimp only
    rw [Bytes.text?_ofText]
  · intro part hpart hne
    obtain ⟨e, hread, he⟩ := (hlength.bind readBytes hbytes).cut part hpart hne
    refine ⟨e, ?_, he⟩
    -- a part fails before its bytes are looked at as a text
    rw [readText]
    cases hn : readCount part with
    | error e' =>
      rw [hn] at hread
      cases hread
      rfl
    | ok r =>
      rw [hn] at hread
      dsimp only [bind, Except.bind] at hread ⊢
      rw [hread]

/-! ### Lists and entries -/

/-- So many values one after the other. -/
theorem reads_times {read : Decoder α} {write : α → Bytes} {as : List α}
    (h : ∀ a ∈ as, Reads small read (write a) a) :
    Reads small (readTimes read as.length) (as.flatMap write) as := by
  induction as with
  | nil => exact .pure []
  | cons a as ih =>
    have hhead := h a List.mem_cons_self
    have htail := ih fun x hx => h x (List.mem_cons_of_mem a hx)
    -- one value, then the others, and then nothing more
    have hread := hhead.bind
      (fun a bs => readTimes read as.length bs >>= fun r => .ok (a :: r.1, r.2))
      (htail.bind (fun as bs => .ok (a :: as, bs)) (.pure (a :: as)))
    rw [List.append_nil] at hread
    exact hread

theorem reads_many {read : Decoder α} {write : α → Bytes} {as : List α}
    (hcount : as.length < countLimit) (h : ∀ a ∈ as, Reads small read (write a) a) :
    Reads small (readMany read) (writeMany write as) as :=
  (reads_count hcount).bind (readTimes read) (reads_times h)

theorem reads_entry {key : Decoder α} {value : Decoder β} {writeKey : α → Bytes}
    {writeValue : β → Bytes} {e : α × β} (hkey : Reads small key (writeKey e.1) e.1)
    (hvalue : Reads small value (writeValue e.2) e.2) :
    Reads small (readEntry key value) (writeEntry writeKey writeValue e) e := by
  have hread := hkey.bind (fun k bs => value bs >>= fun r => .ok ((k, r.1), r.2))
    (hvalue.bind (fun a bs => .ok ((e.1, a), bs)) (.pure e))
  rw [List.append_nil] at hread
  exact hread

/-! ### Listings of maps -/

section Maps

variable {κ : Type} [Ord κ]

/-- The entries of a map in some order, with what each value corresponds to. -/
def ListsMap (R : α → β → Prop) (es : List (κ × α)) (m : SortedMap κ β) : Prop :=
  ∃ es', es'.Perm es ∧ List.Forall₂ (fun e e' => e.1 = e'.1 ∧ R e.2 e'.2) es' m.toList

theorem ListsMap.length_eq {R : α → β → Prop} {es : List (κ × α)} {m : SortedMap κ β}
    (h : ListsMap R es m) : es.length = m.size := by
  obtain ⟨es', hperm, hrel⟩ := h
  rw [← hperm.length_eq, hrel.length_eq]
  rfl

theorem ListsMap.exists_of_mem {R : α → β → Prop} {es : List (κ × α)} {m : SortedMap κ β}
    (h : ListsMap R es m) {e : κ × α} (he : e ∈ es) :
    ∃ b, (e.1, b) ∈ m.toList ∧ R e.2 b := by
  obtain ⟨es', hperm, hrel⟩ := h
  have hmem : e ∈ es' := hperm.mem_iff.2 he
  -- the order does not matter for membership, so the listing is taken in that of the map
  clear hperm he
  generalize m.toList = entries at hrel
  induction hrel with
  | nil => cases hmem
  | @cons e₁ e₂ es₁ es₂ hee _ ih =>
    rcases List.mem_cons.1 hmem with rfl | hmem
    · exact ⟨e₂.2, by rw [hee.1]; exact List.mem_cons_self, hee.2⟩
    · obtain ⟨b, hb, hR⟩ := ih hmem
      exact ⟨b, List.mem_cons_of_mem e₂ hb, hR⟩

variable [Std.TransOrd κ] [Std.LawfulEqOrd κ]

/-- A map is made up of its entries in any order. -/
theorem ofList_of_perm {es : List (κ × α)} {m : SortedMap κ α} (h : es.Perm m.toList) :
    SortedMap.ofList es = m := by
  have hnodup : (es.map Prod.fst).Nodup := (h.map Prod.fst).nodup_iff.2 m.nodup_keys
  -- no key comes twice, so an entry is found iff it is in the list
  apply SortedMap.ext_find?
  intro k
  apply Option.ext
  intro a
  rw [SortedMap.find?_ofList hnodup, h.mem_iff, SortedMap.mem_toList_iff]

/-- A listing makes up the map that it lists. -/
theorem ListsMap.ofList_map {R : α → β → Prop} {make : α → β}
    (hmake : ∀ a b, R a b → make a = b) {es : List (κ × α)} {m : SortedMap κ β}
    (h : ListsMap R es m) : SortedMap.ofList (es.map fun e => (e.1, make e.2)) = m := by
  obtain ⟨es', hperm, hrel⟩ := h
  have hentries : es'.map (fun e => (e.1, make e.2)) = m.toList := by
    clear hperm
    generalize m.toList = entries at hrel
    induction hrel with
    | nil => rfl
    | cons hee _ ih => rw [List.map_cons, ih, hee.1, hmake _ _ hee.2]
  apply ofList_of_perm
  rw [← hentries]
  exact (hperm.map _).symm

end Maps

/-- There are no more than `2 ^ 32` fields. -/
theorem size_lt_countLimit (m : SortedMap FieldId α) : m.size < countLimit := by
  have hinj : Function.Injective fun field : FieldId => field.toUInt32.toNat := by
    intro a b hab
    rw [← Int32.toInt32_toUInt32 a, ← Int32.toInt32_toUInt32 b, UInt32.toNat_inj.1 hab]
  have hnodup := List.Nodup.map hinj m.nodup_keys
  -- the keys are different numbers of four bytes each
  have hrange :
      (m.keys.map fun field => field.toUInt32.toNat) ⊆ List.range UInt32.size := by
    intro n hn
    obtain ⟨field, -, rfl⟩ := List.mem_map.1 hn
    exact List.mem_range.2 field.toUInt32.toNat_lt
  have hle := (hnodup.subperm hrange).length_le
  rw [List.length_map, List.length_range, SortedMap.keys, List.length_map] at hle
  exact Nat.lt_of_le_of_lt hle (by decide)

end Listing

/-! ### Sizes -/

namespace Index

open Listing (countLimit textSize)

/-- The counts are below `countLimit`, and every text has fewer than `limit` bytes. -/
def Sized (limit : Nat) (ix : Index) : Prop :=
  ix.size < countLimit ∧
  (∀ e ∈ ix.forward.toList, textSize e.1 < limit ∧
    ∀ v ∈ e.2.toList, v.2.length < countLimit ∧ ∀ s ∈ v.2, textSize s < limit) ∧
  ∀ e ∈ ix.inverted.toList, e.2.size < countLimit ∧
    ∀ p ∈ e.2.toList, textSize p.1 < limit ∧ p.2.length < countLimit ∧
      ∀ s ∈ p.2, textSize s < limit

instance (limit : Nat) (ix : Index) : Decidable (ix.Sized limit) :=
  inferInstanceAs (Decidable (_ ∧ _ ∧ _))

end Index

/-! ### Listings of an index -/

namespace Listing

/-- The listing holds the stores of the index, the entries of each of their maps in some
order. -/
structure Lists (l : Listing) (ix : Index) : Prop where
  keyField : l.keyField = ix.keyField
  forward : ListsMap (fun es record => es.Perm record.toList) l.forward ix.forward
  inverted : ListsMap (fun es postings => es.Perm postings.toList) l.inverted ix.inverted

variable {l : Listing} {ix : Index}

/-- A map lists its own entries. -/
theorem listsMap_toList {κ κ' β : Type} [Ord κ] [Ord κ']
    (m : SortedMap κ (SortedMap κ' β)) :
    ListsMap (fun es inner => es.Perm inner.toList)
      (m.toList.map fun e => (e.1, e.2.toList)) m := by
  refine ⟨_, List.Perm.refl _, ?_⟩
  rw [List.forall₂_map_left_iff, List.forall₂_same]
  intro e _
  exact ⟨rfl, List.Perm.refl _⟩

/-- The stores are written as a listing of their own. -/
theorem lists_ofIndex (ix : Index) : (ofIndex ix).Lists ix where
  keyField := rfl
  forward := listsMap_toList ix.forward
  inverted := listsMap_toList ix.inverted

/-- A listing makes up the index that it lists. -/
theorem Lists.toIndex_eq (h : l.Lists ix) : l.toIndex = ix := by
  rw [toIndex, h.keyField, h.forward.ofList_map fun _ _ => ofList_of_perm,
    h.inverted.ofList_map fun _ _ => ofList_of_perm]

/-- The decoder of the forward store. -/
def readForward : Decoder (List (String × List (FieldId × List String))) :=
  readMany (readEntry readText (readMany (readEntry readField (readMany readText))))

/-- The decoder of the inverted store. -/
def readInverted : Decoder (List (FieldId × List (String × List String))) :=
  readMany (readEntry readField (readMany (readEntry readText (readMany readText))))

/-- The stores, and what follows them. -/
def readStores : Decoder Listing := fun bs =>
  readField bs >>= fun key => readForward key.2 >>= fun forward =>
    readInverted forward.2 >>= fun inverted =>
      .ok (⟨key.1, forward.1, inverted.1⟩, inverted.2)

theorem decode_eq_map_readStores (bs : Bytes) :
    decode bs = (readStores bs).map Prod.fst := by
  -- the two differ in what they do with the bytes behind the stores
  unfold decode readStores
  dsimp only [bind, Except.bind]
  cases readField bs with
  | error e => rfl
  | ok key =>
    rw [← readForward, ← readInverted]
    dsimp only
    cases readForward key.2 with
    | error e => rfl
    | ok forward =>
      dsimp only
      cases readInverted forward.2 with
      | error e => rfl
      | ok inverted => rfl

theorem reads_forward (h : l.Lists ix) (hsize : ix.Sized countLimit) :
    Reads (ix.Sized textLimit) readForward
      (writeMany
        (writeEntry writeText (writeMany (writeEntry writeField (writeMany writeText))))
        l.forward) l.forward := by
  -- the bounds are those of the index, whose entries the listing has in another order
  refine reads_many (by rw [h.forward.length_eq]; exact hsize.1) fun e he => ?_
  obtain ⟨record, hmem, hperm⟩ := h.forward.exists_of_mem he
  obtain ⟨hkey, hvalues⟩ := hsize.2.1 _ hmem
  refine reads_entry (reads_text hkey fun hsmall => (hsmall.2.1 _ hmem).1) ?_
  refine reads_many (by rw [hperm.length_eq]; exact size_lt_countLimit record) ?_
  intro v hv
  have hv' := hperm.mem_iff.1 hv
  obtain ⟨hcount, htexts⟩ := hvalues v hv'
  refine reads_entry (reads_field v.1) (reads_many hcount fun s hs => ?_)
  exact reads_text (htexts s hs) fun hsmall => ((hsmall.2.1 _ hmem).2 v hv').2 s hs

theorem reads_inverted (h : l.Lists ix) (hsize : ix.Sized countLimit) :
    Reads (ix.Sized textLimit) readInverted
      (writeMany
        (writeEntry writeField (writeMany (writeEntry writeText (writeMany writeText))))
        l.inverted) l.inverted := by
  refine reads_many (by rw [h.inverted.length_eq]; exact size_lt_countLimit _) ?_
  intro e he
  obtain ⟨postings, hmem, hperm⟩ := h.inverted.exists_of_mem he
  obtain ⟨hterms, hpostings⟩ := hsize.2.2 _ hmem
  refine reads_entry (reads_field e.1) ?_
  -- the number of terms is a bound of its own, since terms are texts
  refine reads_many (by rw [hperm.length_eq]; exact hterms) fun p hp => ?_
  have hp' := hperm.mem_iff.1 hp
  obtain ⟨hterm, hcount, hkeys⟩ := hpostings p hp'
  refine reads_entry (reads_text hterm fun hsmall => ((hsmall.2.2 _ hmem).2 p hp').1) ?_
  refine reads_many hcount fun s hs => ?_
  exact reads_text (hkeys s hs) fun hsmall => ((hsmall.2.2 _ hmem).2 p hp').2.2 s hs

/-- The stores of an index, one after the other. -/
theorem reads_stores (h : l.Lists ix) (hsize : ix.Sized countLimit) :
    Reads (ix.Sized textLimit) readStores l.encode l := by
  -- put together from the end, each part with what follows it
  have hlast := (reads_inverted h hsize).bind
    (fun inverted bs => .ok (Listing.mk l.keyField l.forward inverted, bs)) (.pure l)
  have hstores := (reads_forward h hsize).bind
    (fun forward bs =>
      readInverted bs >>= fun r => .ok (Listing.mk l.keyField forward r.1, r.2)) hlast
  have hall := (reads_field l.keyField).bind
    (fun key bs => readForward bs >>= fun f => readInverted f.2 >>= fun r =>
      .ok (Listing.mk key f.1 r.1, r.2)) hstores
  rw [List.append_nil, ← List.append_assoc] at hall
  exact hall

end Listing

/-! ### Reading an index -/

namespace Index

open Listing (Lists countLimit textLimit)

theorem decode_encode_append {ix : Index} {l : Listing} (hlists : l.Lists ix)
    (hsize : ix.Sized countLimit) (rest : Bytes) : decode (l.encode ++ rest) = .ok ix := by
  rw [decode, Listing.decode_eq_map_readStores,
    (Listing.reads_stores hlists hsize).whole rest]
  show Except.ok l.toIndex = _
  rw [hlists.toIndex_eq]

/-- **An index reads back from its stores, in whatever order their maps are listed, and
from no less than all of them.**  What follows the stores is not looked at.  The stores
cut short anywhere are refused, as damaged unless some text is longer than any can be. -/
theorem decode_encode_of_lists {ix : Index} {l : Listing} (hlists : l.Lists ix)
    (hsize : ix.Sized countLimit) :
    (∀ rest, decode (l.encode ++ rest) = .ok ix) ∧
      ∀ part, part <+: l.encode → part ≠ l.encode →
        ∃ e, decode part = .error e ∧ (ix.Sized textLimit → e = .damaged) := by
  constructor
  · exact decode_encode_append hlists hsize
  · intro part hpart hne
    obtain ⟨e, hread, he⟩ := (Listing.reads_stores hlists hsize).cut part hpart hne
    refine ⟨e, ?_, he⟩
    rw [decode, Listing.decode_eq_map_readStores, hread]
    rfl

/-- Maps listed against their order, an empty key and an empty value, a text beyond
ASCII, a field without values, and stores that do not agree. -/
theorem decode_encode_of_lists_unordered :
    let ix : Index := ⟨100, .ofList [("", .ofList [(-1, []), (7, ["é", ""])]),
      ("k", .ofList [(7, ["x"])])],
      .ofList [(-1, .ofList [("é", ["k", "k"]), ("", [])]), (7, .ofList [("x", ["gone"])])]⟩
    let l : Listing := ⟨100, [("k", [(7, ["x"])]), ("", [(7, ["é", ""]), (-1, [])])],
      [(7, [("x", ["gone"])]), (-1, [("é", ["k", "k"]), ("", [])])]⟩
    l.Lists ix ∧ ix.Sized countLimit ∧ decode (l.encode ++ [0, 255]) = .ok ix ∧
      decode (l.encode.take 60) = .error .damaged := by
  intro ix l
  have hforward : Listing.ListsMap
      (fun es (record : Record) => es.Perm record.toList) l.forward ix.forward := by
    refine ⟨l.forward.reverse, List.reverse_perm _, ?_⟩
    exact .cons ⟨rfl, by decide⟩ (.cons ⟨rfl, by decide⟩ .nil)
  have hinverted : Listing.ListsMap
      (fun es (postings : Postings) => es.Perm postings.toList) l.inverted ix.inverted := by
    refine ⟨l.inverted.reverse, List.reverse_perm _, ?_⟩
    exact .cons ⟨rfl, by decide⟩ (.cons ⟨rfl, by decide⟩ .nil)
  have hlists : l.Lists ix := ⟨rfl, hforward, hinverted⟩
  have hsize : ix.Sized countLimit := by decide +kernel
  obtain ⟨hwhole, hcut⟩ := decode_encode_of_lists hlists hsize
  refine ⟨hlists, hsize, hwhole [0, 255], ?_⟩
  obtain ⟨e, hread, he⟩ :=
    hcut (l.encode.take 60) (List.take_prefix 60 _) (by decide +kernel)
  rw [hread, he (by decide +kernel)]

end Index

end Recommend
