import Recommend.Proofs.Json.Literal
import Recommend.Proofs.Json.Scan

/-!
Well-formed JSON text, and reading over it.

`WellFormed` is the grammar of values: white space may stand around every item, name and
value, numerals may be of any size and in any spelling, escapes need not denote
characters, and containers nest to any depth.  Every well-formed value is read over
exactly, in front of any text that does not continue a numeral (`skip_wellFormed`).

Items of a container are put down as a first one and what follows it: `followed close
ts` has a comma in front of each further text and ends with the closing character.  A
reader that has read an item then finds a comma or the end, with no need to know which
item is the last.
-/

namespace Recommend.Json

/-! ### The grammar -/

/-- A text between blanks. -/
structure Padded where
  before : List Char
  core : List Char
  after : List Char

/-- The text with what stands around it. -/
def Padded.text (p : Padded) : List Char := p.before ++ (p.core ++ p.after)

/-- Only white space stands around the text. -/
structure Padded.IsBlank (p : Padded) : Prop where
  before : Blank p.before
  after : Blank p.after

/-- A member: what stands between the quotes of its name, and its value, with blanks
around them. -/
structure Member where
  before : List Char
  name : List Char
  after : List Char
  value : Padded

/-- A member with its name, its value and what stands around them. -/
def Member.text (m : Member) : List Char :=
  m.before ++ '"' :: (m.name ++ '"' :: (m.after ++ ':' :: m.value.text))

/-- Only white space stands around name and value. -/
structure Member.IsBlank (m : Member) : Prop where
  before : Blank m.before
  after : Blank m.after
  value : m.value.IsBlank

/-- The texts with a comma in front of each, and what closes them. -/
def followed (close : Char) : List (List Char) → List Char
  | [] => [close]
  | t :: ts => ',' :: (t ++ followed close ts)

/-- The texts with commas between them, and what closes them. -/
def listed (close : Char) : List (List Char) → List Char
  | [] => [close]
  | t :: ts => t ++ followed close ts

/-- The text of an object; an empty one may have a gap between its braces. -/
def objectText (gap : List Char) : List Member → List Char
  | [] => '\x7b' :: (gap ++ ['\x7d'])
  | m :: ms => '\x7b' :: (m.text ++ followed '\x7d' (ms.map Member.text))

/-- A well-formed value. -/
inductive WellFormed : List Char → Prop
  | null : WellFormed ['n', 'u', 'l', 'l']
  | truth : WellFormed ['t', 'r', 'u', 'e']
  | falsehood : WellFormed ['f', 'a', 'l', 's', 'e']
  | numeral {text : List Char} (h : IsNumeral text) : WellFormed text
  | literal {body : List Char} (h : IsLiteral body) : WellFormed ('"' :: (body ++ ['"']))
  | emptyArray {gap : List Char} (hgap : Blank gap) : WellFormed ('[' :: (gap ++ [']']))
  | array {first : Padded} {others : List Padded}
    (hblank : ∀ p ∈ first :: others, p.IsBlank)
    (h : ∀ p ∈ first :: others, WellFormed p.core) :
    WellFormed ('[' :: (first.text ++ followed ']' (others.map Padded.text)))
  | emptyObject {gap : List Char} (hgap : Blank gap) :
    WellFormed ('\x7b' :: (gap ++ ['\x7d']))
  | object {first : Member} {others : List Member}
    (hblank : ∀ m ∈ first :: others, m.IsBlank)
    (hnames : ∀ m ∈ first :: others, IsLiteral m.name)
    (h : ∀ m ∈ first :: others, WellFormed m.value.core) :
    WellFormed ('\x7b' :: (first.text ++ followed '\x7d' (others.map Member.text)))

/-- There is a character for every text and one more, which gives a reader steps enough. -/
theorem length_followed (close : Char) (ts : List (List Char)) :
    ts.length < (followed close ts).length := by
  induction ts with
  | nil => exact Nat.zero_lt_one
  | cons t ts ih =>
    rw [followed, List.length_cons, List.length_cons, List.length_append]
    omega

/-- Both a comma and a closing character end a numeral. -/
theorem stops_followed {close : Char} (hclose : endsNumeral close = true)
    (ts : List (List Char)) (rest : List Char) : Stops (followed close ts ++ rest) := by
  cases ts with
  | nil => exact hclose
  | cons t ts => rfl

/-! ### Values -/

theorem skipValue_append {gap : List Char} (hgap : Blank gap) (n : Nat) (cs : List Char) :
    skipValue n (gap ++ cs) = skipValue n cs := by
  cases n with
  | zero => rfl
  | succ n => rw [skipValue, skipValue, skipSpace_append hgap]

/-- The text is read over as a value, given steps enough. -/
def IsSkipped (text : List Char) : Prop :=
  ∀ n rest, 2 * text.length ≤ n → Stops rest → skipValue n (text ++ rest) = .ok rest

/-- A text between blanks is read over, and so are the blanks before it. -/
theorem IsSkipped.padded {p : Padded} (h : IsSkipped p.core) (hblank : p.IsBlank) {n : Nat}
    (hn : 2 * p.text.length ≤ n) {rest : List Char} (hrest : Stops rest) :
    skipValue n (p.text ++ rest) = .ok (p.after ++ rest) := by
  rw [Padded.text, List.length_append, List.length_append] at hn
  rw [Padded.text, List.append_assoc, List.append_assoc, skipValue_append hblank.before]
  exact h n _ (by omega) (stops_append hblank.after hrest)

/-- What stands behind a padded text is seen when the blanks are skipped. -/
theorem skipSpace_followed {gap : List Char} (hgap : Blank gap) {close : Char}
    (hclose : isSpace close = false) (ts : List (List Char)) (rest : List Char) :
    skipSpace (gap ++ (followed close ts ++ rest)) = followed close ts ++ rest := by
  rw [skipSpace_append hgap]
  cases ts with
  | nil => exact skipSpace_cons hclose rest
  | cons t ts => rfl

/-- One item is read over, and a comma or the closing bracket follows. -/
theorem skipItems_step {p : Padded} (hblank : p.IsBlank) (h : IsSkipped p.core) {n : Nat}
    (hn : 2 * p.text.length ≤ n) (ts : List (List Char)) (rest : List Char) :
    skipItems (n + 1) (p.text ++ (followed ']' ts ++ rest)) =
      match ts with
      | [] => .ok rest
      | t :: ts => skipItems n (t ++ (followed ']' ts ++ rest)) := by
  have hbracket : endsNumeral ']' = true := rfl
  rw [skipItems, h.padded hblank hn (stops_followed hbracket ts rest)]
  dsimp only [bind, Except.bind]
  rw [skipSpace_followed hblank.after rfl]
  cases ts with
  | nil => rfl
  | cons t ts =>
    rw [followed, List.cons_append, List.append_assoc]
    rfl

/-- All items of an array are read over. -/
theorem skipItems_followed {first : Padded} {others : List Padded}
    (hblank : ∀ p ∈ first :: others, p.IsBlank)
    (h : ∀ p ∈ first :: others, IsSkipped p.core) {n : Nat}
    (hn : 2 * (first.text.length + (followed ']' (others.map Padded.text)).length) ≤ n)
    (rest : List Char) :
    skipItems n (first.text ++ (followed ']' (others.map Padded.text) ++ rest)) =
      .ok rest := by
  -- on the items that are left; an item and what separates it are two characters, enough
  -- for two steps
  induction others generalizing first n with
  | nil =>
    rw [List.map_nil, followed, List.length_singleton] at hn
    obtain ⟨n, rfl⟩ : ∃ m, n = m + 1 := ⟨n - 1, by omega⟩
    rw [List.map_nil, skipItems_step (hblank first List.mem_cons_self)
      (h first List.mem_cons_self) (by omega)]
  | cons p others ih =>
    rw [List.map_cons, followed, List.length_cons, List.length_append] at hn
    obtain ⟨n, rfl⟩ : ∃ m, n = m + 1 := ⟨n - 1, by omega⟩
    rw [List.map_cons, skipItems_step (hblank first List.mem_cons_self)
      (h first List.mem_cons_self) (by omega)]
    exact ih (List.forall_mem_cons.1 hblank).2 (List.forall_mem_cons.1 h).2 (by omega)

/-- One member is read over, and a comma or the closing brace follows. -/
theorem skipMembers_step {m : Member} (hblank : m.IsBlank) (hname : IsLiteral m.name)
    (h : IsSkipped m.value.core) {n : Nat} (hn : 2 * m.text.length ≤ n)
    (ts : List (List Char)) (rest : List Char) :
    skipMembers (n + 1) (m.text ++ (followed '\x7d' ts ++ rest)) =
      match ts with
      | [] => .ok rest
      | t :: ts => skipMembers n (t ++ (followed '\x7d' ts ++ rest)) := by
  have hbrace : endsNumeral '\x7d' = true := rfl
  have hvalue : 2 * m.value.text.length ≤ n := by
    simp only [Member.text, List.length_append, List.length_cons] at hn
    omega
  have htext : m.text ++ (followed '\x7d' ts ++ rest) = m.before ++ '"' :: (m.name ++
      '"' :: (m.after ++ ':' :: (m.value.text ++ (followed '\x7d' ts ++ rest)))) := by
    simp [Member.text]
  rw [htext, skipMembers, skipSpace_append hblank.before]
  -- name, colon and value one after the other, each in front of all that is left
  show (skipLiteral _ >>= _) = _
  rw [skipLiteral_of_isLiteral hname]
  show (colon _ >>= _) = _
  rw [colon_append hblank.after]
  show (skipValue n _ >>= _) = _
  rw [h.padded hblank.value hvalue (stops_followed hbrace ts rest)]
  dsimp only [bind, Except.bind]
  rw [skipSpace_followed hblank.value.after rfl]
  cases ts with
  | nil => rfl
  | cons t ts =>
    rw [followed, List.cons_append, List.append_assoc]
    rfl

/-- All members of an object are read over. -/
theorem skipMembers_followed {first : Member} {others : List Member}
    (hblank : ∀ m ∈ first :: others, m.IsBlank)
    (hnames : ∀ m ∈ first :: others, IsLiteral m.name)
    (h : ∀ m ∈ first :: others, IsSkipped m.value.core) {n : Nat}
    (hn : 2 * (first.text.length + (followed '\x7d' (others.map Member.text)).length) ≤ n)
    (rest : List Char) :
    skipMembers n (first.text ++ (followed '\x7d' (others.map Member.text) ++ rest)) =
      .ok rest := by
  induction others generalizing first n with
  | nil =>
    rw [List.map_nil, followed, List.length_singleton] at hn
    obtain ⟨n, rfl⟩ : ∃ m, n = m + 1 := ⟨n - 1, by omega⟩
    rw [List.map_nil, skipMembers_step (hblank first List.mem_cons_self)
      (hnames first List.mem_cons_self) (h first List.mem_cons_self) (by omega)]
  | cons m others ih =>
    rw [List.map_cons, followed, List.length_cons, List.length_append] at hn
    obtain ⟨n, rfl⟩ : ∃ m, n = m + 1 := ⟨n - 1, by omega⟩
    rw [List.map_cons, skipMembers_step (hblank first List.mem_cons_self)
      (hnames first List.mem_cons_self) (h first List.mem_cons_self) (by omega)]
    exact ih (List.forall_mem_cons.1 hblank).2 (List.forall_mem_cons.1 hnames).2
      (List.forall_mem_cons.1 h).2 (by omega)

/-- A well-formed value starts with a character that is neither white space nor closes
anything. -/
theorem WellFormed.exists_cons {text : List Char} (h : WellFormed text) :
    ∃ c cs, text = c :: cs ∧ isSpace c = false ∧ c ≠ ']' ∧ c ≠ '\x7d' := by
  cases h with
  | numeral h =>
    obtain ⟨c, cs, rfl, hc⟩ := h.exists_cons
    refine ⟨c, cs, rfl, isSpace_eq_false hc, ?_, ?_⟩
    all_goals
      rintro rfl
      exact absurd hc (by decide)
  | _ => exact ⟨_, _, rfl, by decide⟩

theorem skipValue_skipSpace (n : Nat) (cs : List Char) :
    skipValue n (skipSpace cs) = skipValue n cs := by
  cases n with
  | zero => rfl
  | succ n => rw [skipValue, skipValue, skipSpace_skipSpace]

theorem skipItems_skipSpace (n : Nat) (cs : List Char) :
    skipItems n (skipSpace cs) = skipItems n cs := by
  cases n with
  | zero => rfl
  | succ n => rw [skipItems, skipItems, skipValue_skipSpace]

theorem skipMembers_skipSpace (n : Nat) (cs : List Char) :
    skipMembers n (skipSpace cs) = skipMembers n cs := by
  cases n with
  | zero => rfl
  | succ n => rw [skipMembers, skipMembers, skipSpace_skipSpace]

theorem skipValue_bracket (n : Nat) (cs : List Char) :
    skipValue (n + 1) ('[' :: cs) =
      match skipSpace cs with
      | [] => .error .early
      | ']' :: cs => .ok cs
      | cs => skipItems n cs := rfl

theorem skipValue_brace (n : Nat) (cs : List Char) :
    skipValue (n + 1) ('\x7b' :: cs) =
      match skipSpace cs with
      | [] => .error .early
      | '\x7d' :: cs => .ok cs
      | cs => skipMembers n cs := rfl

/-- An array that does not close at once has items. -/
theorem skipValue_array {c : Char} {tail cs : List Char} (h : skipSpace tail = c :: cs)
    (hc : c ≠ ']')
    (n : Nat) : skipValue (n + 1) ('[' :: tail) = skipItems n tail := by
  rw [skipValue_bracket, ← skipItems_skipSpace n tail, h]
  split
  next heq => cases heq
  next heq => exact absurd (List.cons.inj heq).1 hc
  next => rfl

/-- An object that does not close at once has members. -/
theorem skipValue_object {c : Char} {tail cs : List Char} (h : skipSpace tail = c :: cs)
    (hc : c ≠ '\x7d') (n : Nat) :
    skipValue (n + 1) ('\x7b' :: tail) = skipMembers n tail := by
  rw [skipValue_brace, ← skipMembers_skipSpace n tail, h]
  split
  next heq => cases heq
  next heq => exact absurd (List.cons.inj heq).1 hc
  next => rfl

/-- A numeral is read over. -/
theorem skipValue_numeral {text : List Char} (h : IsNumeral text) (n : Nat)
    {rest : List Char} (hrest : Stops rest) :
    skipValue (n + 1) (text ++ rest) = .ok rest := by
  have hskip : skipNumeral (text ++ rest) = .ok rest := by
    obtain ⟨n, hn⟩ := exists_numeral h hrest
    rw [skipNumeral, hn]
  obtain ⟨c, cs, rfl, hstart⟩ := h.exists_cons
  rw [List.cons_append] at hskip ⊢
  rw [skipValue, skipSpace_cons (isSpace_eq_false hstart)]
  split
  case h_1 heq => cases heq
  case h_8 heq =>
    obtain ⟨rfl, rfl⟩ := List.cons.inj heq
    rw [if_pos hstart, hskip]
  -- no other kind of value starts like a numeral
  case h_2 heq | h_3 heq | h_4 heq | h_5 heq | h_6 heq | h_7 heq =>
    obtain ⟨rfl, -⟩ := List.cons.inj heq
    exact absurd hstart (by decide)

/-- A text that takes one step is read over. -/
theorem isSkipped_of_succ {c : Char} {cs : List Char}
    (h : ∀ n rest, Stops rest → skipValue (n + 1) (c :: cs ++ rest) = .ok rest) :
    IsSkipped (c :: cs) := by
  intro n rest hn hrest
  rw [List.length_cons] at hn
  obtain ⟨n, rfl⟩ : ∃ m, n = m + 1 := ⟨n - 1, by omega⟩
  exact h n rest hrest

/-- An array is read over if its items are. -/
theorem isSkipped_array {first : Padded} {others : List Padded}
    (hblank : ∀ p ∈ first :: others, p.IsBlank) (hfirst : WellFormed first.core)
    (h : ∀ p ∈ first :: others, IsSkipped p.core) :
    IsSkipped ('[' :: (first.text ++ followed ']' (others.map Padded.text))) := by
  intro n rest hn _
  rw [List.length_cons, List.length_append] at hn
  obtain ⟨n, rfl⟩ : ∃ m, n = m + 1 := ⟨n - 1, by omega⟩
  -- the reader looks at the first character only to see that the array is not empty
  obtain ⟨c, cs, hcore, hspace, hc, -⟩ := hfirst.exists_cons
  have hstart : skipSpace (first.text ++ (followed ']' (others.map Padded.text) ++ rest)) =
      c :: (cs ++ (first.after ++ (followed ']' (others.map Padded.text) ++ rest))) := by
    rw [Padded.text, List.append_assoc, List.append_assoc,
      skipSpace_append (hblank first List.mem_cons_self).before, hcore, List.cons_append,
      skipSpace_cons hspace]
  rw [List.cons_append, List.append_assoc, skipValue_array hstart hc]
  exact skipItems_followed hblank h (by omega) rest

/-- An object is read over if its values are. -/
theorem isSkipped_object {first : Member} {others : List Member}
    (hblank : ∀ m ∈ first :: others, m.IsBlank)
    (hnames : ∀ m ∈ first :: others, IsLiteral m.name)
    (h : ∀ m ∈ first :: others, IsSkipped m.value.core) :
    IsSkipped ('\x7b' :: (first.text ++ followed '\x7d' (others.map Member.text))) := by
  intro n rest hn _
  rw [List.length_cons, List.length_append] at hn
  obtain ⟨n, rfl⟩ : ∃ m, n = m + 1 := ⟨n - 1, by omega⟩
  have hquote : isSpace '"' = false := rfl
  -- behind the brace stands the quote of a name, so the object does not close at once
  obtain ⟨cs, hstart⟩ : ∃ cs, skipSpace
      (first.text ++ (followed '\x7d' (others.map Member.text) ++ rest)) = '"' :: cs := by
    rw [Member.text, List.append_assoc,
      skipSpace_append (hblank first List.mem_cons_self).before,
      List.cons_append, skipSpace_cons hquote]
    exact ⟨_, rfl⟩
  rw [List.cons_append, List.append_assoc, skipValue_object hstart (by decide)]
  exact skipMembers_followed hblank hnames h (by omega) rest

/-- Every well-formed value is read over. -/
theorem WellFormed.isSkipped {text : List Char} (h : WellFormed text) : IsSkipped text := by
  induction h with
  | null => exact isSkipped_of_succ fun n rest _ => rfl
  | truth => exact isSkipped_of_succ fun n rest _ => rfl
  | falsehood => exact isSkipped_of_succ fun n rest _ => rfl
  | numeral h =>
    obtain ⟨c, cs, rfl, -⟩ := h.exists_cons
    exact isSkipped_of_succ fun n rest hrest => skipValue_numeral h n hrest
  | literal h =>
    apply isSkipped_of_succ
    intro n rest _
    rw [List.cons_append, List.append_assoc]
    exact skipLiteral_of_isLiteral h rest
  | emptyArray hgap =>
    apply isSkipped_of_succ
    intro n rest _
    rw [List.cons_append, List.append_assoc, skipValue_bracket, skipSpace_append hgap]
    rfl
  -- containers take their items from the induction hypothesis
  | array hblank h ih => exact isSkipped_array hblank (h _ List.mem_cons_self) ih
  | emptyObject hgap =>
    apply isSkipped_of_succ
    intro n rest _
    rw [List.cons_append, List.append_assoc, skipValue_brace, skipSpace_append hgap]
    rfl
  | object hblank hnames _ ih => exact isSkipped_object hblank hnames ih

/-- Reading over a value that stands between blanks. -/
theorem skip_wellFormed {p : Padded} (h : WellFormed p.core) (hblank : p.IsBlank)
    {rest : List Char} (hrest : Stops rest) :
    skip (p.text ++ rest) = .ok (p.after ++ rest) := by
  apply h.isSkipped.padded hblank _ hrest
  rw [List.length_append]
  omega

end Recommend.Json
