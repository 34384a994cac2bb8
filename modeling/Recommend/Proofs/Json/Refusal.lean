import Recommend.Proofs.Json.Record

/-!
Values that are refused when what is written for them is read.

An infinity is written as `null`, and no number is read from that.  The refusal of one
value is the refusal of all that it is part of: readers go from left to right, so it is
enough that everything before it recovers.  `c.Refuses a` says it of one value and the
codec `c`, in front of any text that does not continue a numeral.
-/

namespace Recommend.Json

namespace Codec

variable {α β κ : Type}

/-- The written form of the value is of another shape than what is read. -/
def Refuses (c : Codec α) (a : α) : Prop :=
  ∀ rest, Stops rest → c.read ((c.write a).chars ++ rest) = .error .mismatched

theorem Refuses.yields {c : Codec α} {a : α} (h : c.Refuses a) :
    c.Yields (c.write a).chars (.error .mismatched) := h

theorem Yields.refuses {c : Codec α} {a : α}
    (h : c.Yields (c.write a).chars (.error .mismatched)) :
    c.Refuses a := h

theorem refuses_infinite (negative : Bool) : single.Refuses (.infinite negative) := by
  intro rest _
  rfl

/-- A list is refused if one of its items is and the others read back. -/
theorem refuses_list {c : Codec α} {as : List α} (h : ∀ a ∈ as, c.Recovers a ∨ c.Refuses a)
    (hbad : ∃ a ∈ as, c.Refuses a) : (list c).Refuses as := by
  have hitems : Sequence c.Yields ((as.map c.write).map chars) (.error .mismatched) := by
    rw [List.map_map]
    apply sequence_error
    · rw [List.forall_mem_map]
      exact fun a ha => (h a ha).imp (fun hok => ⟨a, hok.yields⟩) Refuses.yields
    · obtain ⟨a, ha, hbad⟩ := hbad
      exact ⟨_, List.mem_map_of_mem ha, hbad.yields⟩
  apply Yields.refuses
  show (list c).Yields (Json.array (as.map c.write)).chars _
  rw [chars_array]
  exact yields_list hitems (List.forall_mem_map.2 fun j _ => starts_chars j)

/-- A map is refused if one of its values is and the others read back. -/
theorem refuses_map [Ord κ] [Std.TransOrd κ] [Std.LawfulEqOrd κ] {k : Key κ} {c : Codec α}
    {m : SortedMap κ α} (hkey : ∀ x, k.Recovers x)
    (h : ∀ e ∈ m.toList, c.Recovers e.2 ∨ c.Refuses e.2)
    (hbad : ∃ e ∈ m.toList, c.Refuses e.2) :
    (Codec.map k c).Refuses m := by
  have hentries : Sequence (Entry k c)
      (m.toList.map fun e => literal (k.write e.1) ++ ':' :: (c.write e.2).chars)
      (.error .mismatched) := by
    apply sequence_error
    · rw [List.forall_mem_map]
      exact fun e he => (h e he).imp (fun hok => ⟨e, .mk e.1 hok.yields⟩) fun hbad =>
        .mk e.1 hbad.yields
    · obtain ⟨e, he, hbad⟩ := hbad
      exact ⟨_, List.mem_map_of_mem he, .mk e.1 hbad.yields⟩
  apply Yields.refuses
  rw [chars_map]
  exact yields_map hkey hentries (List.forall_mem_map.2 fun e _ => ⟨_, rfl⟩)

/-- An alternative is refused if its value is. -/
theorem refuses_payload {cases : List (Case α)} {a : α} {name : String}
    {codec : Codec β} {inject : β → α} {project? : α → Option β} {b : β}
    (hwrite : cases.findSome? (·.write? a) = some (.object [(name, codec.write b)]))
    (hfind : cases.find? (·.name == name) = some (.payload name codec inject project?))
    (hb : codec.Refuses b) : (variant cases).Refuses a := by
  apply Yields.refuses
  rw [write_variant hwrite, chars_object]
  exact yields_payload hfind hb.yields

end Codec

/-! ### Records -/

namespace Fields

variable {α σ τ : Type}

/-- Every field reads back or is refused. -/
def Decides : {σ τ : Type} → Fields σ τ → τ → Prop
  | _, _, .done, _ => True
  | _, _, .field _ codec _ rest, (a, b) =>
    (codec.Recovers a ∨ codec.Refuses a) ∧ rest.Decides b

/-- Some field is refused. -/
def Refuses : {σ τ : Type} → Fields σ τ → τ → Prop
  | _, _, .done, _ => False
  | _, _, .field _ codec _ rest, (a, b) => codec.Refuses a ∨ rest.Refuses b

/-- The member of the first field is read by its codec. -/
theorem gives_first {name : String} {codec : Codec α} {absent : Option α}
    {fields : Fields σ τ} {a : α} {b : τ} {v : List Char} {r : Except ReadError Unit}
    (h : codec.Yields v (r.map fun _ => a)) :
    (field name codec absent fields).Gives name (Member.plain name v).value r (a, b) := by
  refine .inl ⟨rfl, fun rest hrest => ?_⟩
  have htext : (Member.plain name v).value.text = v := List.append_nil v
  rw [htext, h rest hrest]
  cases r <;> rfl

/-- Of every member it is decided whether it is read or refused. -/
theorem gives_or_gives {fields : Fields σ τ} {t : τ} (h : fields.Decides t)
    {m : String × Json} (hm : m ∈ fields.members t) :
    fields.Gives m.1 (Member.plain m.1 m.2.chars).value (.ok ()) t ∨
      fields.Gives m.1 (Member.plain m.1 m.2.chars).value (.error .mismatched) t := by
  induction fields with
  | done => cases hm
  | field name codec absent fields ih =>
    obtain ⟨a, b⟩ := t
    -- on the fields, as members are written in their order
    rcases List.mem_cons.1 hm with rfl | hm
    · exact h.1.imp (fun hok => gives_first hok.yields) fun hbad => gives_first hbad.yields
    · exact (ih h.2 hm).imp .inr .inr

/-- A field that is refused has a member that is. -/
theorem exists_gives_error {fields : Fields σ τ} {t : τ} (h : fields.Refuses t) :
    ∃ m ∈ fields.members t,
      fields.Gives m.1 (Member.plain m.1 m.2.chars).value (.error .mismatched) t := by
  induction fields with
  | done => cases h
  | field name codec absent fields ih =>
    obtain ⟨a, b⟩ := t
    rcases h with ha | hb
    · exact ⟨_, List.mem_cons_self, gives_first ha.yields⟩
    · obtain ⟨m, hm, hgives⟩ := ih hb
      exact ⟨m, List.mem_cons_of_mem _ hm, .inr hgives⟩

end Fields

/-- A record is refused if one of its fields is and the others read back. -/
theorem Codec.refuses_record {α σ τ : Type} {fields : Fields σ τ} {pack : τ → α}
    {unpack : α → τ} {a : α} (hnames : fields.names.Nodup)
    (h : fields.Decides (unpack a)) (hbad : fields.Refuses (unpack a)) :
    (Codec.record fields pack unpack).Refuses a := by
  have hadds : ∀ {m : String × Json} {r : Except ReadError Unit},
      fields.Gives m.1 (Member.plain m.1 m.2.chars).value r (unpack a) →
        fields.Adds (unpack a) (m.1, Member.plain m.1 m.2.chars) r :=
    fun hgives => Fields.adds_of_gives hnames hgives rfl (Member.isBlank_plain _ _)
  have hmembers : Sequence (fields.Adds (unpack a))
      (plainMembers (fields.members (unpack a))) (.error .mismatched) := by
    apply sequence_error
    · rw [plainMembers, List.forall_mem_map]
      exact fun m hm => (Fields.gives_or_gives h hm).imp (fun hok => ⟨(), hadds hok⟩) hadds
    · obtain ⟨m, hm, hgives⟩ := Fields.exists_gives_error hbad
      exact ⟨_, List.mem_map_of_mem hm, hadds hgives⟩
  apply Yields.refuses
  show (record fields pack unpack).Yields (Json.object (fields.members (unpack a))).chars _
  rw [chars_object_eq_objectText]
  apply yields_record pack unpack blank_nil (isBlank_plainMembers _) hmembers
  apply Fields.pairwise_apart_of_nodup
  rw [map_fst_plainMembers, fields.map_fst_members]
  exact hnames

end Recommend.Json
