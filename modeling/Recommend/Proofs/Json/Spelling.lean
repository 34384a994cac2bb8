import Mathlib.Data.List.Perm.Basic
import Recommend.Proofs.Json.Record

/-!
The texts in which a written form may be found.

A `Form` says which texts stand for a written form.  `exact` allows the compact text
alone, arrays, maps and alternatives allow what their parts do, and nothing else: order
and further members matter there.  A record (`Form.record`) may have its members in any
order, those left out that hold their default, and others inserted whose names it does
not know, with any well-formed values.

`c.Accepts form a` says that the codec `c` reads `a` from each of these texts for what
it writes for `a`.  A container accepts its values if the codecs of its parts do.  In a
record, a member that is known fills its slot, and any other is read over and changes
nothing.
-/

namespace Recommend.Json

/-! ### Forms -/

/-- Which texts stand for a written form. -/
abbrev Form := Json → List Char → Prop

namespace Form

/-- The compact text. -/
def exact : Form := fun j text => text = j.chars

/-- Items in order. -/
def array (item : Form) : Form := fun j text =>
  ∃ items texts, j = .array items ∧ List.Forall₂ item items texts ∧
    text = '[' :: listed ']' texts

/-- Members in order, under their names. -/
def map (value : Form) : Form := fun j text =>
  ∃ members texts, j = .object members ∧
    List.Forall₂ (fun m t => ∃ v, value m.2 v ∧ t = literal m.1 ++ ':' :: v) members texts ∧
    text = '\x7b' :: listed '\x7d' texts

/-- A name, or one member under it. -/
def variant (payload : String → Form) : Form := fun j text =>
  (∃ name, j = .text name ∧ text = literal name) ∨
    ∃ name value v, j = .object [(name, value)] ∧ payload name value v ∧
      text = '\x7b' :: (literal name ++ ':' :: (v ++ ['\x7d']))

/-- A member of a record: its name, the written form of its default if it has one, and
its form. -/
structure Field where
  name : String
  absent : Option Json
  form : Form

/-- The members of a record that are put down: those that hold their default may be left
out. -/
inductive Keeps : List Field → List (String × Json) → List (String × Member) → Prop
  | nil : Keeps [] [] []
  | keep {f : Field} {fs : List Field} {j : Json} {js : List (String × Json)} {m : Member}
    {ms : List (String × Member)} (hname : m.name = f.name.toList.flatMap escapeChar)
    (hvalue : f.form j m.value.core) (h : Keeps fs js ms) :
    Keeps (f :: fs) ((f.name, j) :: js) ((f.name, m) :: ms)
  | leaveOut {f : Field} {fs : List Field} {j : Json} {js : List (String × Json)}
    {ms : List (String × Member)} (habsent : f.absent = some j) (h : Keeps fs js ms) :
    Keeps (f :: fs) ((f.name, j) :: js) ms

/-- Members that are kept have their names as these are written. -/
theorem Keeps.name_eq {fs : List Field} {js : List (String × Json)}
    {kept : List (String × Member)} (h : Keeps fs js kept) {p : String × Member}
    (hp : p ∈ kept) :
    p.2.name = p.1.toList.flatMap escapeChar := by
  induction h with
  | nil => cases hp
  | keep hname _ _ ih =>
    rcases List.mem_cons.1 hp with rfl | hp
    · exact hname
    · exact ih hp
  | leaveOut _ _ ih => exact ih hp

/-- A member that is not among those of a record. -/
structure Stray (fields : List Field) (p : String × Member) : Prop where
  unknown : p.1 ∉ fields.map Field.name
  name : Spells p.2.name p.1
  value : WellFormed p.2.value.core

/-- Members in any order, without some that hold their default, and with others. -/
def record (fields : List Field) : Form := fun j text =>
  ∃ members, ∃ kept others parts : List (String × Member), ∃ gap, j = .object members ∧
    Keeps fields members kept ∧ (∀ p ∈ others, Stray fields p) ∧
    parts.Perm (kept ++ others) ∧ (∀ p ∈ parts, p.2.IsBlank) ∧ Blank gap ∧ text = objectText gap (parts.map Prod.snd)

end Form

/-! ### Reading a form -/

namespace Codec

variable {α β κ : Type}

/-- White space in front of a value does not matter. -/
def PassesBlanks (c : Codec α) : Prop :=
  ∀ gap cs, Blank gap → c.read (gap ++ cs) = c.read cs

/-- The value is read from every text that stands for what is written for it. -/
structure Accepts (c : Codec α) (form : Form) (a : α) : Prop where
  blanks : c.PassesBlanks
  written : form (c.write a) (c.write a).chars
  starts : ∀ text, form (c.write a) text → Starts text
  read : ∀ text, form (c.write a) text → c.Yields text (.ok a)

/-- The written form itself is one of the texts. -/
theorem Accepts.recovers {c : Codec α} {form : Form} {a : α} (h : c.Accepts form a) :
    c.Recovers a :=
  (h.read _ h.written).recovers

/-- A value between blanks is read up to the blanks behind it. -/
theorem Accepts.padded {c : Codec α} {form : Form} {a : α} (h : c.Accepts form a)
    {p : Padded} (hp : form (c.write a) p.core) (hblank : p.IsBlank) {rest : List Char}
    (hrest : Stops rest) :
    c.read (p.text ++ rest) = .ok (a, p.after ++ rest) := by
  rw [Padded.text, List.append_assoc, List.append_assoc, h.blanks _ _ hblank.before]
  exact h.read p.core hp _ (stops_append hblank.after hrest)

/-- A value that reads back is accepted in its compact text. -/
theorem accepts_exact {c : Codec α} {a : α} (hblanks : c.PassesBlanks) (h : c.Recovers a) :
    c.Accepts Form.exact a where
  blanks := hblanks
  written := rfl
  starts := by
    rintro _ rfl
    exact starts_chars (c.write a)
  read := by
    rintro _ rfl
    exact h.yields

/-! ### White space in front -/

theorem passesBlanks_text : text.PassesBlanks := by
  intro gap cs hgap
  simp only [text, skipSpace_append hgap]

theorem readNumber_append {gap : List Char} (hgap : Blank gap) (cs : List Char) :
    readNumber (gap ++ cs) = readNumber cs := by
  rw [readNumber, readNumber, skipSpace_append hgap]

theorem passesBlanks_readInteger (write : α → Json) (ofInt? : Int → Option α) :
    PassesBlanks ⟨write, readInteger ofInt?⟩ := by
  intro gap cs hgap
  show readInteger ofInt? (gap ++ cs) = readInteger ofInt? cs
  rw [readInteger, readInteger, readNumber_append hgap]

theorem passesBlanks_single : single.PassesBlanks := by
  intro gap cs hgap
  simp only [single, readNumber_append hgap]

theorem passesBlanks_list (c : Codec α) : (list c).PassesBlanks := by
  intro gap cs hgap
  simp only [list, skipSpace_append hgap]

theorem passesBlanks_option (c : Codec α) : (option c).PassesBlanks := by
  intro gap cs hgap
  simp only [option, skipSpace_append hgap]

theorem passesBlanks_map [Ord κ] [Std.TransOrd κ] [Std.LawfulEqOrd κ] (k : Key κ)
    (c : Codec α) :
    (map k c).PassesBlanks := by
  intro gap cs hgap
  simp only [map, skipSpace_append hgap]

theorem passesBlanks_record {σ τ : Type} (fields : Fields σ τ) (pack : τ → α)
    (unpack : α → τ) :
    (record fields pack unpack).PassesBlanks := by
  intro gap cs hgap
  simp only [record, skipSpace_append hgap]

theorem passesBlanks_variant (cases : List (Case α)) : (variant cases).PassesBlanks := by
  intro gap cs hgap
  simp only [variant, skipSpace_append hgap]

theorem PassesBlanks.via {c : Codec α} (h : c.PassesBlanks) (forth : α → β) (back : β → α) :
    (c.via forth back).PassesBlanks := by
  intro gap cs hgap
  simp only [Codec.via, h gap cs hgap]

/-! ### Containers -/

/-- A list is accepted if its items are. -/
theorem accepts_list {c : Codec α} {item : Form} {as : List α}
    (h : ∀ a ∈ as, c.Accepts item a) :
    (list c).Accepts (.array item) as where
  blanks := passesBlanks_list c
  written := by
    refine ⟨as.map c.write, (as.map c.write).map chars, rfl, ?_,
      chars_array (as.map c.write)⟩
    rw [List.map_map, List.forall₂_map_left_iff, List.forall₂_map_right_iff,
      List.forall₂_same]
    exact fun a ha => (h a ha).written
  starts := by
    rintro _ ⟨items, texts, -, -, rfl⟩
    exact ⟨'[', _, rfl, rfl, by decide⟩
  read := by
    rintro _ ⟨items, texts, hitems, htexts, rfl⟩
    have hwrite : as.map c.write = items := Json.array.inj hitems
    rw [← hwrite, List.forall₂_map_left_iff] at htexts
    have hparts := (List.forall₂_and_left _ _).2 ⟨h, htexts⟩
    apply yields_list (sequence_ok (hparts.imp fun a t ht => ht.1.read t ht.2))
    exact forall_mem_of_forall₂ hparts fun a t ht => ht.1.starts t ht.2

/-- A map is accepted if its values are. -/
theorem accepts_map [Ord κ] [Std.TransOrd κ] [Std.LawfulEqOrd κ] {k : Key κ}
    (hkey : ∀ x, k.Recovers x) {c : Codec α} {value : Form} {m : SortedMap κ α}
    (h : ∀ e ∈ m.toList, c.Accepts value e.2) :
    (map k c).Accepts (.map value) m where
  blanks := passesBlanks_map k c
  written := by
    refine ⟨m.toList.map fun e => (k.write e.1, c.write e.2),
      m.toList.map fun e => literal (k.write e.1) ++ ':' :: (c.write e.2).chars,
      rfl, ?_, ?_⟩
    · rw [List.forall₂_map_left_iff, List.forall₂_map_right_iff, List.forall₂_same]
      exact fun e he => ⟨_, (h e he).written, rfl⟩
    · exact chars_map k c m
  starts := by
    rintro _ ⟨members, texts, -, -, rfl⟩
    exact ⟨'\x7b', _, rfl, rfl, by decide⟩
  read := by
    rintro _ ⟨members, texts, hmembers, htexts, rfl⟩
    have hwrite : m.toList.map (fun e => (k.write e.1, c.write e.2)) = members :=
      Json.object.inj hmembers
    rw [← hwrite, List.forall₂_map_left_iff] at htexts
    have hparts := (List.forall₂_and_left _ _).2 ⟨h, htexts⟩
    have hentries : Sequence (Entry k c) texts (.ok m.toList) := by
      apply sequence_ok
      refine hparts.imp fun e t ht => ?_
      obtain ⟨he, v, hv, rfl⟩ := ht
      exact .mk e.1 (he.read v hv)
    have hread : (map k c).Yields ('\x7b' :: listed '\x7d' texts)
        (.ok (SortedMap.ofList m.toList)) := by
      apply yields_map hkey hentries
      refine forall_mem_of_forall₂ hparts fun e t ht => ?_
      obtain ⟨-, v, -, rfl⟩ := ht
      exact ⟨_, rfl⟩
    rwa [SortedMap.ofList_toList] at hread

theorem starts_variant {payload : String → Form} {j : Json} {text : List Char}
    (h : Form.variant payload j text) : Starts text := by
  rcases h with ⟨_, -, rfl⟩ | ⟨_, _, _, -, -, rfl⟩
  · exact ⟨'"', _, rfl, rfl, by decide⟩
  · exact ⟨'\x7b', _, rfl, rfl, by decide⟩

/-- An alternative is accepted if its value is. -/
theorem accepts_payload {cases : List (Case α)} {a : α} {name : String}
    {codec : Codec β} {inject : β → α} {project? : α → Option β} {b : β}
    {payload : String → Form}
    (hwrite : cases.findSome? (·.write? a) = some (.object [(name, codec.write b)]))
    (hfind : cases.find? (·.name == name) = some (.payload name codec inject project?))
    (hb : codec.Accepts (payload name) b) (ha : inject b = a) :
    (variant cases).Accepts (.variant payload) a := by
  have hform := write_variant hwrite
  -- the text of the one member, as forms have it
  have htext : ∀ v, '\x7b' :: listed '\x7d' [literal name ++ ':' :: v] =
      '\x7b' :: (literal name ++ ':' :: (v ++ ['\x7d'])) := by
    intro v
    rw [listed, followed, List.append_assoc, List.cons_append]
  refine ⟨passesBlanks_variant cases, ?_, fun text => starts_variant, ?_⟩
  · rw [hform]
    refine .inr ⟨name, codec.write b, (codec.write b).chars, rfl, hb.written, ?_⟩
    rw [chars_object, ← htext]
    rfl
  · intro text h
    rw [hform] at h
    rcases h with ⟨_, h, -⟩ | ⟨_, _, v, h, hv, rfl⟩
    · cases h
    · cases h
      rw [← htext, ← ha]
      exact yields_payload hfind (hb.read v hv)

/-- An alternative without a value is accepted. -/
theorem accepts_constant {cases : List (Case α)} {a : α} {name : String} {holds : α → Bool}
    {payload : String → Form} (hwrite : cases.findSome? (·.write? a) = some (.text name))
    (hfind : cases.find? (·.name == name) = some (.constant name a holds)) :
    (variant cases).Accepts (.variant payload) a := by
  have hform := write_variant hwrite
  refine ⟨passesBlanks_variant cases, ?_, fun text => starts_variant, ?_⟩
  · rw [hform]
    exact .inl ⟨name, rfl, by rw [chars]⟩
  · intro text h
    rw [hform] at h
    rcases h with ⟨_, h, rfl⟩ | ⟨_, _, _, h, -, -⟩
    · cases h
      exact yields_constant hfind
    · cases h

end Codec

/-! ### Records -/

namespace Fields

variable {α σ τ : Type}

/-- The fields are those of the form: under their names, each value is accepted in its
form, and left out only if the field has it as its default. -/
def Accepts : {σ τ : Type} → Fields σ τ → List Form.Field → τ → Prop
  | _, _, .done, [], _ => True
  | _, _, .field name codec absent rest, f :: fs, (a, b) =>
    f.name = name ∧ codec.Accepts f.form a ∧
      (f.absent = some (codec.write a) → absent = some a) ∧
      rest.Accepts fs b
  | _, _, _, _, _ => False

/-- The form has the names of the fields. -/
theorem Accepts.names_eq {fields : Fields σ τ} {fs : List Form.Field} {t : τ}
    (h : fields.Accepts fs t) :
    fs.map Form.Field.name = fields.names := by
  induction fields generalizing fs with
  | done =>
    cases fs with
    | nil => rfl
    | cons f fs => exact h.elim
  | field name codec absent rest ih =>
    cases fs with
    | nil => exact h.elim
    | cons f fs =>
      obtain ⟨rfl, -, -, hrest⟩ := h
      rw [List.map_cons, ih hrest, names]

/-- All members may be kept, as they are written. -/
theorem Accepts.keeps {fields : Fields σ τ} {fs : List Form.Field} {t : τ}
    (h : fields.Accepts fs t) {parts : List (String × Member)}
    (hparts : List.Forall₂ IsWritten (fields.members t) parts) :
    Form.Keeps fs (fields.members t) parts := by
  -- fields, form and members go along together
  induction fields generalizing fs parts with
  | done =>
    cases fs with
    | nil =>
      cases hparts
      exact .nil
    | cons f fs => exact h.elim
  | field name codec absent rest ih =>
    cases fs with
    | nil => exact h.elim
    | cons f fs =>
      obtain ⟨a, b⟩ := t
      obtain ⟨rfl, ha, -, hrest⟩ := h
      cases hparts with
      | @cons _ p _ _ hp hparts =>
        obtain ⟨_, m⟩ := p
        obtain rfl := hp.key
        refine .keep hp.name ?_ (ih hrest hparts)
        rw [hp.core]
        exact ha.written

/-- Written members make up a text of the form. -/
theorem Accepts.form {fields : Fields σ τ} {fs : List Form.Field} {t : τ}
    (h : fields.Accepts fs t) {parts : List (String × Member)}
    (hparts : List.Forall₂ IsWritten (fields.members t) parts) :
    Form.record fs (.object (fields.members t)) (objectText [] (parts.map Prod.snd)) :=
  ⟨_, parts, [], parts, [], rfl, h.keeps hparts,
    List.forall_mem_nil _, by rw [List.append_nil],
    forall_mem_of_forall₂ hparts fun _ _ hp => hp.blank, blank_nil, rfl⟩

/-- The names that are kept come in the order of the fields. -/
theorem sublist_names_of_keeps {fs : List Form.Field} {js : List (String × Json)}
    {kept : List (String × Member)} (h : Form.Keeps fs js kept) :
    (kept.map Prod.fst).Sublist (fs.map Form.Field.name) := by
  induction h with
  | nil => exact .slnil
  | keep _ _ _ ih => exact ih.cons_cons _
  | leaveOut _ _ ih => exact ih.cons _

/-- Fields whose members are not kept hold their defaults. -/
theorem supplied_of_keeps {fields : Fields σ τ} {fs : List Form.Field} {t : τ}
    (h : fields.Accepts fs t) {kept : List (String × Member)}
    (hkept : Form.Keeps fs (fields.members t) kept) {found : List String}
    (hfound : ∀ p ∈ kept, p.1 ∈ found) : fields.Supplied found t := by
  -- the fields, their form and the members that are kept go along together
  induction fields generalizing fs kept with
  | done => trivial
  | field name codec absent rest ih =>
    cases fs with
    | nil => exact h.elim
    | cons f fs =>
      obtain ⟨a, b⟩ := t
      obtain ⟨rfl, -, habsent, hrest⟩ := h
      cases hkept with
      | keep _ _ hkept =>
        rw [List.forall_mem_cons] at hfound
        exact ⟨.inl hfound.1, ih hrest hkept hfound.2⟩
      | leaveOut hdefault hkept => exact ⟨.inr (habsent hdefault), ih hrest hkept hfound⟩

/-- Members that are kept are those of their fields. -/
theorem gives_of_keeps {fields : Fields σ τ} {fs : List Form.Field} {t : τ}
    (h : fields.Accepts fs t) {kept : List (String × Member)}
    (hkept : Form.Keeps fs (fields.members t) kept) {p : String × Member}
    (hp : p ∈ kept) (hblank : p.2.IsBlank) : fields.Gives p.1 p.2.value (.ok ()) t := by
  induction fields generalizing fs kept with
  | done =>
    cases hkept
    cases hp
  | field name codec absent fields ih =>
    cases fs with
    | nil => exact h.elim
    | cons f fs =>
      obtain ⟨a, b⟩ := t
      obtain ⟨rfl, ha, -, hrest⟩ := h
      cases hkept with
      | keep _ hvalue hkept =>
        rcases List.mem_cons.1 hp with rfl | hp
        · exact .inl ⟨rfl, fun rest hstops => ha.padded hvalue hblank.value hstops⟩
        · exact .inr (ih hrest hkept hp)
      -- a member that is left out is not the one in question
      | leaveOut _ hkept => exact .inr (ih hrest hkept hp)

/-- A name that no field has is not known. -/
theorem offer_of_notMem {fields : Fields σ τ} {name : String} (h : name ∉ fields.names)
    (slots : σ) :
    fields.offer slots name = .unknown := by
  induction fields with
  | done => rfl
  | field name' codec absent rest ih =>
    obtain ⟨slot, slots⟩ := slots
    rw [names, List.mem_cons, not_or] at h
    rw [offer, if_neg h.1, ih h.2]

/-- A member that is not known is read over. -/
theorem adds_of_stray {fields : Fields σ τ} {fs : List Form.Field} {t : τ}
    (h : fields.Accepts fs t) {p : String × Member} (hp : Form.Stray fs p)
    (hblank : p.2.IsBlank) :
    fields.Adds t p (.ok ()) := by
  intro found n tail _ htail
  have hunknown : p.1 ∉ fields.names := by
    rw [← h.names_eq]
    exact hp.unknown
  rw [readMembers, skipSpace_text hblank]
  show (literalBody _ >>= _) = _
  rw [literalBody_of_spells hp.name]
  dsimp only [bind, Except.bind]
  -- the name is read, but no slot takes the value, so it is read over
  rw [offer_of_notMem hunknown]
  show Except.bind (colon _) _ = _
  rw [colon_append hblank.after]
  show Except.bind ((skip (p.2.value.text ++ tail)).map _) _ = _
  rw [skip_wellFormed hp.value hblank.value htail, filled_cons_of_notMem _ _ _ hunknown]
  exact fields.proceed_append n _ hblank.value.after tail

/-- Kept members are told apart by their names, and other members from them. -/
theorem pairwise_apart {fields : Fields σ τ} (hnames : fields.names.Nodup)
    {fs : List Form.Field} {t : τ} (h : fields.Accepts fs t)
    {kept others parts : List (String × Member)}
    (hkept : Form.Keeps fs (fields.members t) kept)
    (hothers : ∀ p ∈ others, Form.Stray fs p) (hparts : parts.Perm (kept ++ others)) :
    parts.Pairwise (Apart fields.names) := by
  have hunknown : ∀ p ∈ others, p.1 ∉ fields.names := by
    intro p hp
    rw [← h.names_eq]
    exact (hothers p hp).unknown
  -- whether members are told apart does not depend on their order
  rw [hparts.pairwise_iff apart_symm, List.pairwise_append]
  refine ⟨?_, ?_, ?_⟩
  · apply pairwise_apart_of_nodup
    rw [← h.names_eq] at hnames
    exact hnames.sublist (sublist_names_of_keeps hkept)
  · exact List.pairwise_of_forall_mem_list fun p hp q _ _ => hunknown p hp
  · intro p _ q hq heq
    rw [heq]
    exact hunknown q hq

end Fields

namespace Codec

variable {α σ τ : Type}

/-- A record is accepted if its fields are. -/
theorem accepts_record {fields : Fields σ τ} {fs : List Form.Field} {pack : τ → α}
    {unpack : α → τ} {a : α} (hnames : fields.names.Nodup)
    (h : fields.Accepts fs (unpack a)) (hpack : pack (unpack a) = a) :
    (record fields pack unpack).Accepts (.record fs) a where
  blanks := passesBlanks_record fields pack unpack
  written := by
    show Form.record fs (.object (fields.members (unpack a)))
        (Json.object (fields.members (unpack a))).chars
    rw [chars_object_eq_objectText]
    exact h.form (isWritten_plainMembers _)
  starts := by
    rintro _ ⟨members, kept, others, parts, gap, -, -, -, -, -, -, rfl⟩
    cases parts with
    | nil => exact ⟨'\x7b', _, rfl, rfl, by decide⟩
    | cons p ps => exact ⟨'\x7b', _, rfl, rfl, by decide⟩
  read := by
    rintro _ ⟨members, kept, others, parts, gap, hform, hkept, hothers, hparts, hblank,
      hgap, rfl⟩
    have hmembers : fields.members (unpack a) = members := Json.object.inj hform
    rw [← hmembers] at hkept
    -- each member is one that is kept or a stray one
    have hadds : ∀ p ∈ parts, fields.Adds (unpack a) p (.ok ()) := by
      intro p hp
      rcases List.mem_append.1 (hparts.mem_iff.1 hp) with hk | ho
      · exact Fields.adds_of_gives hnames (Fields.gives_of_keeps h hkept hk (hblank p hp))
          (hkept.name_eq hk) (hblank p hp)
      · exact Fields.adds_of_stray h (hothers p ho) (hblank p hp)
    have hsequence : Sequence (fields.Adds (unpack a)) parts
        (.ok (parts.map fun _ => ())) := by
      apply sequence_ok
      rw [List.forall₂_map_left_iff, List.forall₂_same]
      exact hadds
    have hread := yields_record pack unpack hgap hblank hsequence
      (Fields.pairwise_apart hnames h hkept hothers hparts)
    -- all that is not found has its value as its default
    have hfinish : fields.finish (fields.filled (parts.map Prod.fst).reverse (unpack a)) =
        .ok (unpack a) := by
      apply Fields.finish_filled (Fields.supplied_of_keeps h hkept _)
      intro p hp
      rw [List.mem_reverse]
      exact List.mem_map_of_mem (hparts.mem_iff.2 (List.mem_append_left others hp))
    rw [hfinish] at hread
    rw [← hpack]
    exact hread

/-- A record of scalars reads back from its indented text too. -/
theorem decode_pretty_record {fields : Fields σ τ} {pack : τ → α} {unpack : α → τ} {a : α}
    (hnames : fields.names.Nodup)
    (h : fields.Accepts (fields.names.map fun name => ⟨name, none, .exact⟩) (unpack a))
    (hscalar : ∀ m ∈ fields.members (unpack a), isScalar m.2 = true)
    (hpack : pack (unpack a) = a) :
    (record fields pack unpack).decode ((record fields pack unpack).write a).pretty =
      .ok a := by
  have hform :=
    h.form (isWritten_lines (blank_newline 1) (blank_newline 0) (fields.members (unpack a)))
  rw [← prettyChars_object hscalar] at hform
  exact ((accepts_record hnames h hpack).read _ hform).decode

end Codec

end Recommend.Json
