import Recommend.Json.Record
import Recommend.Proofs.Json.Codec

/-!
Records.

The reader of a record fills a slot for every field as members come in.  `Fields.filled`
is what the slots hold when the fields of some names have been found.  A member whose
field has not been found yet is read into its slot (`offer_of_gives`), and its name
counts as found from then on (`Fields.Adds`).  So members are read one after the other,
in whatever order they come (`readMembers_followed`), and the slots are the record once
every field has been found or has its value as its default (`Fields.Supplied`).

White space may stand around every member and its value.  Without any the text is the
compact one (`chars_object_eq_objectText`), with line breaks and indentation it is the
other one that is written, for records of scalars (`prettyChars_object`).
-/

namespace Recommend.Json

namespace Fields

variable {α σ τ : Type}

/-- The names of the fields, in writing order. -/
def names : {σ τ : Type} → Fields σ τ → List String
  | _, _, .done => []
  | _, _, .field name _ _ rest => name :: rest.names

/-- A record is written with all its names, in order. -/
theorem map_fst_members (fields : Fields σ τ) (t : τ) :
    (fields.members t).map Prod.fst = fields.names := by
  induction fields with
  | done => rfl
  | field name codec absent rest ih =>
    obtain ⟨a, b⟩ := t
    show name :: (rest.members b).map Prod.fst = name :: rest.names
    rw [ih b]

/-! ### Slots -/

/-- The slots of a record of which the fields of some names have been found. -/
def filled (found : List String) : {σ τ : Type} → Fields σ τ → τ → σ
  | _, _, .done, _ => ()
  | _, _, .field name _ _ rest, (a, b) =>
    (if name ∈ found then some a else none, rest.filled found b)

/-- Every field has been found or has its value as its default. -/
def Supplied (found : List String) : {σ τ : Type} → Fields σ τ → τ → Prop
  | _, _, .done, _ => True
  | _, _, .field name _ absent rest, (a, b) =>
    (name ∈ found ∨ absent = some a) ∧ rest.Supplied found b

/-- Before any member the slots are empty. -/
theorem filled_nil (fields : Fields σ τ) (t : τ) : fields.filled [] t = fields.blank := by
  induction fields with
  | done => rfl
  | field name codec absent rest ih =>
    obtain ⟨a, b⟩ := t
    rw [filled, blank, ih b]
    simp

/-- Names of other fields do not matter. -/
theorem filled_cons_of_notMem (fields : Fields σ τ) (t : τ) {name : String}
    (found : List String) (h : name ∉ fields.names) :
    fields.filled (name :: found) t = fields.filled found t := by
  induction fields with
  | done => rfl
  | field name' codec absent rest ih =>
    obtain ⟨a, b⟩ := t
    have hne : name' ≠ name := fun heq => h (heq ▸ List.mem_cons_self)
    have hrest : name ∉ rest.names := fun hmem => h (List.mem_cons_of_mem name' hmem)
    rw [filled, filled, ih b hrest]
    simp [hne]

/-- Slots that are filled or have a default make up the record. -/
theorem finish_filled {fields : Fields σ τ} {t : τ} {found : List String}
    (h : fields.Supplied found t) : fields.finish (fields.filled found t) = .ok t := by
  have hcomplete : fields.complete? (fields.filled found t) = some t := by
    induction fields with
    | done => rfl
    | field name codec absent rest ih =>
      obtain ⟨a, b⟩ := t
      -- what was found goes before the default
      have hslot : ((if name ∈ found then some a else none) <|> absent) = some a := by
        by_cases hmem : name ∈ found
        · rw [if_pos hmem]
          rfl
        · rw [if_neg hmem]
          exact h.1.resolve_left hmem
      rw [filled, complete?, hslot, ih h.2]
      rfl
  rw [finish, hcomplete]

/-! ### Offering a member -/

/-- The member is that of one of the fields, and reading its value succeeds with what
the record holds there, or fails. -/
def Gives (name : String) (value : Padded) (r : Except ReadError Unit) :
    {σ τ : Type} → Fields σ τ → τ → Prop
  | _, _, .done, _ => False
  | _, _, .field name' codec _ fields, (a, b) =>
    (name = name' ∧ ∀ rest, Stops rest →
      codec.read (value.text ++ rest) = r.map fun _ => (a, value.after ++ rest)) ∨
    fields.Gives name value r b

theorem mem_names_of_gives {name : String} {value : Padded} {r : Except ReadError Unit}
    {fields : Fields σ τ} {t : τ} (h : fields.Gives name value r t) :
    name ∈ fields.names := by
  induction fields with
  | done => cases h
  | field name' codec absent fields ih =>
    obtain ⟨a, b⟩ := t
    rcases h with ⟨rfl, -⟩ | h
    · exact List.mem_cons_self
    · exact List.mem_cons_of_mem name' (ih h)

/-- A member whose field has not been found is read into its slot. -/
theorem offer_of_gives {name : String} {value : Padded} {r : Except ReadError Unit}
    {fields : Fields σ τ} {t : τ} (hnames : fields.names.Nodup)
    (h : fields.Gives name value r t) {found : List String} (hfresh : name ∉ found) :
    ∃ read, fields.offer (fields.filled found t) name = .fresh read ∧
      ∀ rest, Stops rest → read (value.text ++ rest) =
        r.map fun _ => (fields.filled (name :: found) t, value.after ++ rest) := by
  induction fields with
  | done => cases h
  | field name' codec absent fields ih =>
    obtain ⟨a, b⟩ := t
    obtain ⟨hname, htail⟩ := List.nodup_cons.1 hnames
    rcases h with ⟨rfl, hread⟩ | h
    · -- the member is that of this field: later fields have other names
      refine ⟨fun cs =>
        (codec.read cs).map fun r => ((some r.1, fields.filled found b), r.2), ?_, ?_⟩
      · have hslot : (if name ∈ found then some a else none) = none := if_neg hfresh
        rw [filled, hslot, offer, if_pos rfl]
        rfl
      · intro rest hrest
        dsimp only
        rw [hread rest hrest, filled, if_pos List.mem_cons_self,
          filled_cons_of_notMem _ _ _ hname]
        cases r <;> rfl
    -- the member is that of a later field, so this slot stays as it is
    · obtain ⟨read, hoffer, hread⟩ := ih htail h
      have hne : name ≠ name' := by
        rintro rfl
        exact hname (mem_names_of_gives h)
      refine ⟨_, by rw [filled, offer, if_neg hne, hoffer], ?_⟩
      intro rest hrest
      have hslot : (name' ∈ name :: found) = (name' ∈ found) := by simp [Ne.symm hne]
      show (read (value.text ++ rest)).map _ = _
      rw [hread rest hrest, filled]
      simp only [hslot]
      cases r <;> rfl

/-! ### Reading members -/

/-- What the reader does behind a member. -/
def proceed (fields : Fields σ τ) (n : Nat) (slots : σ) (tail : List Char) :
    Except ReadError (σ × List Char) :=
  match skipSpace tail with
  | [] => .error .early
  | ',' :: cs => fields.readMembers n slots cs
  | '\x7d' :: cs => .ok (slots, cs)
  | _ => .error .malformed

/-- The outcome of reading the member, whose name counts as found from then on; if it is
that of a field, it may not have been found before. -/
def Adds (fields : Fields σ τ) (t : τ) (p : String × Member) (r : Except ReadError Unit) :
    Prop :=
  ∀ found n tail, (p.1 ∈ fields.names → p.1 ∉ found) → Stops tail →
    fields.readMembers (n + 1) (fields.filled found t) (p.2.text ++ tail) =
      r.bind fun _ => fields.proceed n (fields.filled (p.1 :: found) t) tail

theorem text_append (m : Member) (tail : List Char) :
    m.text ++ tail = m.before ++
      '"' :: (m.name ++ '"' :: (m.after ++ ':' :: (m.value.text ++ tail))) := by
  simp [Member.text]

/-- A member starts with the quote of its name, behind blanks. -/
theorem skipSpace_text {m : Member} (hblank : m.IsBlank) (tail : List Char) :
    skipSpace (m.text ++ tail) =
      '"' :: (m.name ++ '"' :: (m.after ++ ':' :: (m.value.text ++ tail))) := by
  have hquote : isSpace '"' = false := rfl
  rw [text_append, skipSpace_append hblank.before, skipSpace_cons hquote]

theorem proceed_append (fields : Fields σ τ) (n : Nat) (slots : σ) {gap : List Char}
    (hgap : Blank gap) (tail : List Char) :
    fields.proceed n slots (gap ++ tail) = fields.proceed n slots tail := by
  rw [proceed, proceed, skipSpace_append hgap]

/-- The member of a field is read into its slot. -/
theorem adds_of_gives {fields : Fields σ τ} (hnames : fields.names.Nodup) {t : τ}
    {p : String × Member} {r : Except ReadError Unit}
    (h : fields.Gives p.1 p.2.value r t)
    (hname : p.2.name = p.1.toList.flatMap escapeChar) (hblank : p.2.IsBlank) :
    fields.Adds t p r := by
  intro found n tail hfresh htail
  obtain ⟨read, hoffer, hread⟩ := offer_of_gives hnames h (hfresh (mem_names_of_gives h))
  rw [readMembers, skipSpace_text hblank, hname]
  show (literalBody _ >>= _) = _
  rw [literalBody_flatMap]
  dsimp only [bind, Except.bind]
  rw [hoffer]
  show Except.bind (colon _) _ = _
  rw [colon_append hblank.after]
  show Except.bind (read (p.2.value.text ++ tail)) _ = _
  rw [hread tail htail]
  cases r with
  | error e => rfl
  | ok u => exact fields.proceed_append n _ hblank.value.after tail

/-- Behind a member stands a comma with the next one, or the closing brace. -/
theorem proceed_followed (fields : Fields σ τ) (n : Nat) (slots : σ) (ts : List (List Char))
    (rest : List Char) :
    fields.proceed n slots (followed '\x7d' ts ++ rest) =
      match ts with
      | [] => .ok (slots, rest)
      | t :: ts => fields.readMembers n slots (t ++ (followed '\x7d' ts ++ rest)) := by
  cases ts with
  | nil => rfl
  | cons t ts =>
    rw [followed, List.cons_append, List.append_assoc]
    rfl

/-- Two members are told apart by their names, unless no field has the name. -/
def Apart (names : List String) (p q : String × Member) : Prop := p.1 = q.1 → p.1 ∉ names

theorem apart_symm {names : List String} {p q : String × Member} (h : Apart names p q) :
    Apart names q p := by
  intro heq
  rw [heq]
  exact h heq.symm

theorem pairwise_apart_of_nodup {names : List String} {parts : List (String × Member)}
    (h : (parts.map Prod.fst).Nodup) : parts.Pairwise (Apart names) :=
  (List.pairwise_map.1 h).imp fun hne heq => absurd heq hne

/-- Members are read one after the other, in whatever order they come. -/
theorem readMembers_followed {fields : Fields σ τ} {t : τ} {p : String × Member}
    {ps : List (String × Member)} {r : Except ReadError (List Unit)}
    (h : Sequence (fields.Adds t) (p :: ps) r)
    (hapart : (p :: ps).Pairwise (Apart fields.names)) {found : List String}
    (hfresh : ∀ x ∈ p :: ps, x.1 ∈ fields.names → x.1 ∉ found) {n : Nat}
    (hn : ps.length < n) (rest : List Char) :
    fields.readMembers n (fields.filled found t)
        (p.2.text ++ (followed '\x7d' (ps.map fun x => x.2.text) ++ rest)) =
      r.map fun _ =>
        (fields.filled (((p :: ps).map Prod.fst).reverse ++ found) t, rest) := by
  -- by induction on the members that are left; the names found so far grow by one each time
  have hbrace : endsNumeral '\x7d' = true := rfl
  induction ps generalizing p r n found with
  | nil =>
    obtain ⟨n, rfl⟩ : ∃ m, n = m + 1 := ⟨n - 1, by omega⟩
    have hstops := stops_followed hbrace [] rest
    cases h with
    | stop hp => rw [List.map_nil, hp found n _ (hfresh p List.mem_cons_self) hstops]; rfl
    | cons hp h =>
      cases h
      rw [List.map_nil, hp found n _ (hfresh p List.mem_cons_self) hstops]
      rfl
  | cons q ps ih =>
    obtain ⟨n, rfl⟩ : ∃ m, n = m + 1 := ⟨n - 1, by omega⟩
    have hstops := stops_followed hbrace ((q :: ps).map fun x => x.2.text) rest
    cases h with
    | stop hp => rw [hp found n _ (hfresh p List.mem_cons_self) hstops]; rfl
    | @cons _ _ _ r hp h =>
      rw [List.pairwise_cons] at hapart
      -- members of fields are told apart by their names, so the next one is still fresh
      have hfresh' : ∀ x ∈ q :: ps, x.1 ∈ fields.names → x.1 ∉ p.1 :: found := by
        intro x hx hknown hfound
        rcases List.mem_cons.1 hfound with heq | hfound
        · exact hapart.1 x hx heq.symm (heq ▸ hknown)
        · exact hfresh x (List.mem_cons_of_mem p hx) hknown hfound
      have hothers := ih h hapart.2 hfresh' (Nat.lt_of_succ_lt_succ hn)
      rw [hp found n _ (hfresh p List.mem_cons_self) hstops]
      show fields.proceed n (fields.filled (p.1 :: found) t)
        (followed '\x7d' ((q :: ps).map fun x => x.2.text) ++ rest) = _
      rw [proceed_followed, List.map_cons]
      show fields.readMembers n _ (q.2.text ++ _) = _
      rw [hothers]
      cases r with
      | error e => rfl
      | ok us =>
        show Except.ok (fields.filled _ t, rest) = Except.ok (fields.filled _ t, rest)
        simp

theorem readMembers_skipSpace (fields : Fields σ τ) (n : Nat) (slots : σ) (cs : List Char) :
    fields.readMembers n slots (skipSpace cs) = fields.readMembers n slots cs := by
  cases n with
  | zero => rfl
  | succ n => rw [readMembers, readMembers, skipSpace_skipSpace]

end Fields

namespace Codec

variable {α σ τ : Type}

/-- What follows the opening brace is looked at without the white space in front of it. -/
theorem read_record_skipSpace (fields : Fields σ τ) (pack : τ → α) (unpack : α → τ)
    (cs : List Char) :
    (record fields pack unpack).read ('\x7b' :: skipSpace cs) =
      (record fields pack unpack).read ('\x7b' :: cs) := by
  have hopen : isSpace '\x7b' = false := rfl
  unfold record
  dsimp only
  rw [skipSpace_cons hopen, skipSpace_cons hopen]
  split
  next heq => cases heq
  next heq =>
    cases heq
    rw [skipSpace_skipSpace]
  next heq => cases heq
  next hbrace _ => exact absurd rfl (hbrace _)

/-- A record is read from its members: they decide, and then whether all fields are
there. -/
theorem yields_record {fields : Fields σ τ} (pack : τ → α) (unpack : α → τ) {t : τ}
    {parts : List (String × Member)} {gap : List Char} (hgap : Blank gap)
    (hblank : ∀ p ∈ parts, p.2.IsBlank) {r : Except ReadError (List Unit)}
    (h : Sequence (fields.Adds t) parts r)
    (hapart : parts.Pairwise (Fields.Apart fields.names)) :
    (record fields pack unpack).Yields (objectText gap (parts.map Prod.snd))
      (r.bind fun _ =>
        (fields.finish (fields.filled (parts.map Prod.fst).reverse t)).map pack) := by
  intro rest _
  cases parts with
  | nil =>
    cases h
    have hbrace : isSpace '\x7d' = false := rfl
    rw [List.map_nil, objectText, List.cons_append, List.append_assoc,
      List.singleton_append, ← read_record_skipSpace, skipSpace_append hgap,
      skipSpace_cons hbrace, List.map_nil, List.reverse_nil, fields.filled_nil]
    show (fields.finish fields.blank >>= _) =
        Except.map _ ((fields.finish fields.blank).map pack)
    cases fields.finish fields.blank <;> rfl
  | cons p ps =>
    have hstart := Fields.skipSpace_text (hblank p List.mem_cons_self)
      (followed '\x7d' (ps.map fun x => x.2.text) ++ rest)
    have hfresh : ∀ x ∈ p :: ps, x.1 ∈ fields.names → x.1 ∉ ([] : List String) := by simp
    -- every member takes a character at least, so there are steps enough
    have hfuel : ps.length < (skipSpace (p.2.text ++
        (followed '\x7d' (ps.map fun x => x.2.text) ++ rest))).length + 1 := by
      have hlength := length_followed '\x7d' (ps.map fun x => x.2.text)
      rw [List.length_map] at hlength
      rw [hstart]
      simp only [List.length_append, List.length_cons]
      omega
    have hread := Fields.readMembers_followed h hapart hfresh hfuel rest
    rw [← fields.readMembers_skipSpace, hstart, fields.filled_nil, List.append_nil] at hread
    have htext : objectText gap ((p :: ps).map Prod.snd) ++ rest =
        '\x7b' :: (p.2.text ++ (followed '\x7d' (ps.map fun x => x.2.text) ++ rest)) := by
      rw [List.map_cons, objectText, List.map_map, List.cons_append, List.append_assoc]
      rfl
    rw [htext, ← read_record_skipSpace, hstart]
    show (fields.readMembers (('"' :: _).length + 1) fields.blank ('"' :: _) >>= _) = _
    rw [hread]
    cases r with
    | error e => rfl
    | ok us =>
      show (fields.finish _ >>= _) = Except.map _ ((fields.finish _).map pack)
      cases fields.finish (fields.filled ((p :: ps).map Prod.fst).reverse t) <;> rfl

end Codec

/-! ### Written records -/

/-- A member without white space. -/
def Member.plain (name : String) (value : List Char) : Member :=
  ⟨[], name.toList.flatMap escapeChar, [], ⟨[], value, []⟩⟩

theorem Member.text_plain (name : String) (value : List Char) :
    (plain name value).text = literal name ++ ':' :: value := by
  simp [plain, text, Padded.text, literal]

theorem Member.isBlank_plain (name : String) (value : List Char) :
    (plain name value).IsBlank :=
  ⟨blank_nil, blank_nil, blank_nil, blank_nil⟩

/-- The members of an object as they are written in compact text. -/
def plainMembers (ms : List (String × Json)) : List (String × Member) :=
  ms.map fun m => (m.1, Member.plain m.1 m.2.chars)

theorem isBlank_plainMembers (ms : List (String × Json)) :
    ∀ p ∈ plainMembers ms, p.2.IsBlank := by
  intro p hp
  obtain ⟨m, -, rfl⟩ := List.mem_map.1 hp
  exact Member.isBlank_plain m.1 m.2.chars

theorem map_fst_plainMembers (ms : List (String × Json)) :
    (plainMembers ms).map Prod.fst = ms.map Prod.fst := by
  rw [plainMembers, List.map_map]
  rfl

theorem objectText_nil (ms : List Member) :
    objectText [] ms = '\x7b' :: listed '\x7d' (ms.map Member.text) := by
  cases ms <;> rfl

/-- The compact text of an object has no white space. -/
theorem chars_object_eq_objectText (ms : List (String × Json)) :
    (Json.object ms).chars = objectText [] ((plainMembers ms).map Prod.snd) := by
  rw [chars_object, objectText_nil, plainMembers, List.map_map, List.map_map]
  congr 2
  apply List.map_congr_left
  intro m _
  exact (Member.text_plain m.1 m.2.chars).symm

/-- A member as it is written, with some white space around its parts. -/
structure IsWritten (m : String × Json) (p : String × Member) : Prop where
  key : p.1 = m.1
  name : p.2.name = m.1.toList.flatMap escapeChar
  core : p.2.value.core = m.2.chars
  blank : p.2.IsBlank

theorem isWritten_plainMembers (ms : List (String × Json)) :
    List.Forall₂ IsWritten ms (plainMembers ms) := by
  rw [plainMembers, List.forall₂_map_right_iff, List.forall₂_same]
  exact fun m _ => ⟨rfl, rfl, rfl, Member.isBlank_plain m.1 m.2.chars⟩

/-! ### Records of scalars, with a member a line -/

/-- Neither an array nor an object. -/
def isScalar : Json → Bool
  | .array _ => false
  | .object _ => false
  | _ => true

/-- A scalar is written in the same way at any depth. -/
theorem prettyChars_of_isScalar (depth : Nat) {j : Json} (h : isScalar j = true) :
    prettyChars depth j = j.chars := by
  cases j with
  | array items => cases h
  | object members => cases h
  | null => rw [prettyChars]
  | bool b => rw [prettyChars]
  | number n => rw [prettyChars, chars]
  | text s => rw [prettyChars, chars]

/-- Members on lines of their own, and a last line for the brace. -/
def lines (gap close : List Char) : List (String × Json) → List (String × Member)
  | [] => []
  | [m] => [(m.1, ⟨gap, m.1.toList.flatMap escapeChar, [], ⟨[' '], m.2.chars, close⟩⟩)]
  | m :: ms =>
    (m.1, ⟨gap, m.1.toList.flatMap escapeChar, [], ⟨[' '], m.2.chars, []⟩⟩) ::
      lines gap close ms

/-- Members on lines of their own are written members. -/
theorem isWritten_lines {gap close : List Char} (hgap : Blank gap) (hclose : Blank close)
    (ms : List (String × Json)) : List.Forall₂ IsWritten ms (lines gap close ms) := by
  have hblank : Blank [' '] := blank_of_all rfl
  induction ms with
  | nil => exact .nil
  | cons m ms ih =>
    cases ms with
    | nil => exact .cons ⟨rfl, rfl, rfl, hgap, blank_nil, hblank, hclose⟩ .nil
    | cons m' ms => exact .cons ⟨rfl, rfl, rfl, hgap, blank_nil, hblank, blank_nil⟩ ih

/-- The indented text of members that are scalars. -/
theorem newline_append_prettyMembers (depth : Nat) (close : List Char) (m : String × Json)
    (ms : List (String × Json)) (h : ∀ x ∈ m :: ms, isScalar x.2 = true) :
    newline depth ++ prettyMembers depth (m :: ms) ++ close ++ ['\x7d'] =
      listed '\x7d' ((lines (newline depth) close (m :: ms)).map fun p => p.2.text) := by
  induction ms generalizing m with
  | nil =>
    have hm := prettyChars_of_isScalar depth (h m List.mem_cons_self)
    simp [prettyMembers, lines, listed, followed, Member.text, Padded.text, literal, hm]
  | cons m' ms ih =>
    have hm := prettyChars_of_isScalar depth (h m List.mem_cons_self)
    have hrest := ih m' (List.forall_mem_cons.1 h).2
    -- the line break before the next member counts as white space of that member
    have htext : newline depth ++ prettyMembers depth (m :: m' :: ms) ++ close ++ ['\x7d'] =
        newline depth ++ (literal m.1 ++ ':' :: ' ' :: m.2.chars) ++
          ',' ::
            (newline depth ++ prettyMembers depth (m' :: ms) ++ close ++ ['\x7d']) := by
      rw [prettyMembers, hm]
      · simp
      · exact List.cons_ne_nil m' ms
    rw [htext, hrest]
    cases ms <;> simp [lines, listed, followed, Member.text, Padded.text, literal]

theorem blank_newline (depth : Nat) : Blank (newline depth) := by
  intro c hc
  rcases List.mem_cons.1 hc with rfl | hblank
  · rfl
  · rw [List.eq_of_mem_replicate hblank]
    rfl

/-- The indented text of an object whose members are scalars. -/
theorem prettyChars_object {ms : List (String × Json)} (h : ∀ m ∈ ms, isScalar m.2 = true) :
    prettyChars 0 (.object ms) =
      objectText [] ((lines (newline 1) (newline 0) ms).map Prod.snd) := by
  rw [objectText_nil, List.map_map]
  cases ms with
  | nil => rw [prettyChars]; rfl
  | cons m ms =>
    rw [prettyChars, newline_append_prettyMembers 1 (newline 0) m ms h]
    rfl

end Recommend.Json
