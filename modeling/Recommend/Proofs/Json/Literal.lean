import Recommend.Json.Codec
import Recommend.Proofs.Text.Bytes

/-!
String literals.

A literal is a row of units, each of them a character or an escape.  `IsLiteral` says
that of what stands between the quotes: it can be read over, whether or not the escapes
denote characters.  `Spells` says which text the units denote, and that text is read
from them; there is one spelling that is written (`spells_flatMap`), but there are
others.
-/

namespace Recommend.Json

/-! ### Reading over a literal -/

/-- One character of a literal, or one escape. -/
inductive IsUnit : List Char → Prop
  | plain {c : Char} (hcontrol : ¬c.toNat < 0x20) (hquote : c ≠ '"') (hslash : c ≠ '\\') :
    IsUnit [c]
  | short {c : Char} (hc : c ∈ ['"', '\\', '/', 'b', 'f', 'n', 'r', 't']) : IsUnit ['\\', c]
  | hex {a b c d : Char}
    (ha : (hexDigit? a).isSome = true) (hb : (hexDigit? b).isSome = true)
    (hc : (hexDigit? c).isSome = true) (hd : (hexDigit? d).isSome = true) :
    IsUnit ['\\', 'u', a, b, c, d]

/-- What stands between the quotes of a literal. -/
def IsLiteral (body : List Char) : Prop :=
  ∃ units : List (List Char), (∀ u ∈ units, IsUnit u) ∧ body = units.flatten

/-- A unit is read over in one step. -/
theorem skipLiteralChars_unit {u : List Char} (h : IsUnit u) (b : Char)
    (bound rest : List Char) :
    skipLiteralChars (b :: bound) (u ++ rest) = skipLiteralChars bound rest := by
  cases h with
  | plain hcontrol hquote hslash =>
    rw [List.singleton_append, skipLiteralChars, if_neg hcontrol]
    · exact fun h => hquote h
    · exact fun h => hslash h
  | @short c hc =>
    show (skipEscape (c :: rest) >>= skipLiteralChars bound) = _
    have hskip : skipEscape (c :: rest) = .ok rest := by
      unfold skipEscape
      split
      next heq => cases heq
      next heq =>
        -- the letter of a hexadecimal escape is not among the short ones
        obtain ⟨rfl, -⟩ := List.cons.inj heq
        exact absurd hc (by decide)
      next heq =>
        obtain ⟨rfl, rfl⟩ := List.cons.inj heq
        exact if_pos hc
    rw [hskip]
    rfl
  | @hex a b' c d ha hb hc hd =>
    obtain ⟨a', ha⟩ := Option.isSome_iff_exists.1 ha
    obtain ⟨b'', hb⟩ := Option.isSome_iff_exists.1 hb
    obtain ⟨c', hc⟩ := Option.isSome_iff_exists.1 hc
    obtain ⟨d', hd⟩ := Option.isSome_iff_exists.1 hd
    show (skipEscape ('u' :: a :: b' :: c :: d :: rest) >>= skipLiteralChars bound) = _
    have hskip : skipEscape ('u' :: a :: b' :: c :: d :: rest) = .ok rest := by
      show (hexFour (a :: b' :: c :: d :: rest)).map Prod.snd = _
      rw [hexFour, ha, hb, hc, hd]
      rfl
    rw [hskip]
    rfl

/-- Units are read over up to the closing quote. -/
theorem skipLiteralChars_flatten {units : List (List Char)} (h : ∀ u ∈ units, IsUnit u)
    (bound rest : List Char) (hbound : units.length < bound.length) :
    skipLiteralChars bound (units.flatten ++ '"' :: rest) = .ok rest := by
  -- a unit takes one step, so there has to be a step for each and one for the quote
  induction units generalizing bound with
  | nil =>
    cases bound with
    | nil => cases hbound
    | cons b bound => rfl
  | cons u units ih =>
    rw [List.forall_mem_cons] at h
    cases bound with
    | nil => cases hbound
    | cons b bound =>
      rw [List.flatten_cons, List.append_assoc, skipLiteralChars_unit h.1]
      exact ih h.2 bound (Nat.lt_of_succ_lt_succ hbound)

theorem IsUnit.ne_nil {u : List Char} (h : IsUnit u) : u ≠ [] := by
  cases h <;> exact List.cons_ne_nil _ _

/-- A literal is read over. -/
theorem skipLiteral_of_isLiteral {body : List Char} (h : IsLiteral body)
    (rest : List Char) :
    skipLiteral (body ++ '"' :: rest) = .ok rest := by
  obtain ⟨units, hunits, rfl⟩ := h
  apply skipLiteralChars_flatten hunits
  -- every unit takes a character at least
  have hlength : units.length ≤ units.flatten.length := by
    have hle := length_le_length_flatMap fun u hu => (hunits u hu).ne_nil
    rwa [List.flatMap_id'] at hle
  rw [List.length_cons, List.length_append]
  omega

/-! ### The text of a literal -/

/-- The number that four hexadecimal digits stand for. -/
def hexValue? (a b c d : Char) : Option Nat := do
  let a ← hexDigit? a
  let b ← hexDigit? b
  let c ← hexDigit? c
  let d ← hexDigit? d
  some (((a * 16 + b) * 16 + c) * 16 + d)

/-- The escapes of one letter, and what they stand for. -/
def shortEscapes : List (Char × Char) :=
  [('"', '"'), ('\\', '\\'), ('/', '/'), ('b', '\x08'), ('f', '\x0c'), ('n', '\n'),
    ('r', '\r'), ('t', '\t')]

/-- A character of a literal or an escape, and the character that it denotes. -/
inductive Denotes : List Char → Char → Prop
  | plain {c : Char} (hcontrol : ¬c.toNat < 0x20) (hquote : c ≠ '"') (hslash : c ≠ '\\') :
    Denotes [c] c
  | short {e c : Char} (h : (e, c) ∈ shortEscapes) : Denotes ['\\', e] c
  | hex {a b c d : Char} {n : Nat} (h : hexValue? a b c d = some n)
    (hlow : isLowSurrogate n = false) (hhigh : isHighSurrogate n = false) :
    Denotes ['\\', 'u', a, b, c, d] (Char.ofNat n)
  | pair {a b c d a' b' c' d' : Char} {high low : Nat} (h : hexValue? a b c d = some high)
    (h' : hexValue? a' b' c' d' = some low) (hhigh : isHighSurrogate high = true)
    (hlow : isLowSurrogate low = true) :
    Denotes ['\\', 'u', a, b, c, d, '\\', 'u', a', b', c', d']
      (Char.ofNat (0x10000 + (high - 0xd800) * 0x400 + (low - 0xdc00)))

/-- What stands between the quotes of a literal for this text. -/
def Spells (body : List Char) (s : String) : Prop :=
  ∃ units : List (List Char × Char), (∀ u ∈ units, Denotes u.1 u.2) ∧
    body = (units.map Prod.fst).flatten ∧ s = String.ofList (units.map Prod.snd)

/-- Four hexadecimal digits are read as the number they stand for. -/
theorem hexFour_of_hexValue? {a b c d : Char} {n : Nat} (h : hexValue? a b c d = some n)
    (rest : List Char) : hexFour (a :: b :: c :: d :: rest) = .ok (n, rest) := by
  simp only [hexValue?, Option.bind_eq_bind, Option.bind_eq_some_iff] at h
  obtain ⟨a', ha, b', hb, c', hc, d', hd, hn⟩ := h
  rw [hexFour, ha, hb, hc, hd, ← Option.some.inj hn]

theorem not_isLowSurrogate_of_isHighSurrogate {n : Nat} (h : isHighSurrogate n = true) :
    isLowSurrogate n = false := by
  simp only [isHighSurrogate, isLowSurrogate, Bool.and_eq_true, Bool.and_eq_false_iff,
    decide_eq_true_eq, decide_eq_false_iff_not] at h ⊢
  omega

/-- An escape that is no surrogate is read as a character of its own. -/
theorem escape_hex {a b c d : Char} {n : Nat} (h : hexValue? a b c d = some n)
    (hlow : isLowSurrogate n = false) (hhigh : isHighSurrogate n = false)
    (rest : List Char) :
    escape ('u' :: a :: b :: c :: d :: rest) = .ok (Char.ofNat n, rest) := by
  show (hexFour _ >>= _) = _
  rw [hexFour_of_hexValue? h]
  dsimp only [bind, Except.bind]
  rw [hlow, hhigh]
  rfl

/-- Two surrogates are read as one character. -/
theorem escape_pair {a b c d a' b' c' d' : Char} {high low : Nat}
    (h : hexValue? a b c d = some high) (h' : hexValue? a' b' c' d' = some low)
    (hhigh : isHighSurrogate high = true) (hlow : isLowSurrogate low = true)
    (rest : List Char) :
    escape ('u' :: a :: b :: c :: d :: '\\' :: 'u' :: a' :: b' :: c' :: d' :: rest) =
      .ok (Char.ofNat (0x10000 + (high - 0xd800) * 0x400 + (low - 0xdc00)), rest) := by
  show (hexFour _ >>= _) = _
  rw [hexFour_of_hexValue? h]
  dsimp only [bind, Except.bind]
  rw [not_isLowSurrogate_of_isHighSurrogate hhigh, hhigh]
  show (hexFour (a' :: b' :: c' :: d' :: rest) >>= _) = _
  rw [hexFour_of_hexValue? h']
  dsimp only [bind, Except.bind]
  rw [hlow]
  rfl

/-- A unit is read as the character that it denotes. -/
theorem literalChars_denotes {u : List Char} {c : Char} (h : Denotes u c) (b : Char)
    (bound read rest : List Char) :
    literalChars (b :: bound) read (u ++ rest) = literalChars bound (c :: read) rest := by
  cases h with
  | plain hcontrol hquote hslash =>
    rw [List.singleton_append, literalChars, if_neg hcontrol]
    · exact fun h => hquote h
    · exact fun h => hslash h
  | @short e _ h =>
    have hescape : escape (e :: rest) = .ok (c, rest) := by
      simp only [shortEscapes, List.mem_cons, Prod.mk.injEq, List.not_mem_nil, or_false]
        at h
      rcases h with ⟨rfl, rfl⟩ | ⟨rfl, rfl⟩ | ⟨rfl, rfl⟩ | ⟨rfl, rfl⟩ | ⟨rfl, rfl⟩ |
        ⟨rfl, rfl⟩ | ⟨rfl, rfl⟩ | ⟨rfl, rfl⟩
      all_goals rfl
    show (escape (e :: rest) >>= _) = _
    rw [hescape]
    rfl
  | hex h hlow hhigh =>
    show (escape ('u' :: _ :: _ :: _ :: _ :: rest) >>= _) = _
    rw [escape_hex h hlow hhigh]
    rfl
  | pair h h' hhigh hlow =>
    show (escape ('u' :: _ :: _ :: _ :: _ :: '\\' :: 'u' :: _ :: _ :: _ :: _ :: rest) >>=
        _) = _
    rw [escape_pair h h' hhigh hlow]
    rfl

/-- Units are read as the characters that they denote, up to the closing quote. -/
theorem literalChars_spells {units : List (List Char × Char)}
    (h : ∀ u ∈ units, Denotes u.1 u.2) (bound read rest : List Char)
    (hbound : units.length < bound.length) :
    literalChars bound read ((units.map Prod.fst).flatten ++ '"' :: rest) =
      .ok (read.reverse ++ units.map Prod.snd, rest) := by
  -- on the units that are left; characters pile up in `read`, the last one on top
  induction units generalizing bound read with
  | nil =>
    cases bound with
    | nil => cases hbound
    | cons b bound =>
      rw [List.map_nil, List.map_nil, List.append_nil]
      rfl
  | cons u units ih =>
    rw [List.forall_mem_cons] at h
    cases bound with
    | nil => cases hbound
    | cons b bound =>
      rw [List.map_cons, List.flatten_cons, List.append_assoc, literalChars_denotes h.1,
        ih h.2 bound _ (Nat.lt_of_succ_lt_succ hbound)]
      simp

theorem Denotes.ne_nil {u : List Char} {c : Char} (h : Denotes u c) : u ≠ [] := by
  cases h <;> exact List.cons_ne_nil _ _

/-- A text reads back from whatever literal stands for it. -/
theorem literalBody_of_spells {body : List Char} {s : String} (h : Spells body s)
    (rest : List Char) :
    literalBody (body ++ '"' :: rest) = .ok (s, rest) := by
  obtain ⟨units, hunits, rfl, rfl⟩ := h
  -- every unit takes a character at least, so there are steps enough
  have hlength : units.length ≤ (units.map Prod.fst).flatten.length := by
    have hle := length_le_length_flatMap fun u hu => (hunits u hu).ne_nil
    rwa [List.flatMap_def] at hle
  rw [literalBody, literalChars_spells hunits]
  · rfl
  · rw [List.length_cons, List.length_append]
    omega

/-! ### Written literals -/

theorem hexDigit?_digitChar {n : Nat} (h : n < 16) :
    hexDigit? (Nat.digitChar n) = some n := by
  revert n
  decide

/-- The escape that is written for a control character. -/
theorem denotes_control {c : Char} (h : c.toNat < 0x20) :
    Denotes ['\\', 'u', '0', '0', Nat.digitChar (c.toNat / 16),
      Nat.digitChar (c.toNat % 16)] c := by
  have hvalue : hexValue? '0' '0' (Nat.digitChar (c.toNat / 16))
      (Nat.digitChar (c.toNat % 16)) = some c.toNat := by
    rw [hexValue?, hexDigit?_digitChar (by omega), hexDigit?_digitChar (by omega)]
    show some (((0 * 16 + 0) * 16 + c.toNat / 16) * 16 + c.toNat % 16) = _
    have hn : ((0 * 16 + 0) * 16 + c.toNat / 16) * 16 + c.toNat % 16 = c.toNat := by omega
    rw [hn]
  -- control characters are far from the surrogates
  have hlow : isLowSurrogate c.toNat = false := by
    simp only [isLowSurrogate, Bool.and_eq_false_iff, decide_eq_false_iff_not]
    omega
  have hhigh : isHighSurrogate c.toNat = false := by
    simp only [isHighSurrogate, Bool.and_eq_false_iff, decide_eq_false_iff_not]
    omega
  have hdenotes := Denotes.hex hvalue hlow hhigh
  rwa [Char.ofNat_toNat] at hdenotes

/-- A character is written as something that denotes it. -/
theorem denotes_escapeChar (c : Char) : Denotes (escapeChar c) c := by
  unfold escapeChar
  split
  -- what is no short escape is written as it is, unless it is a control character
  case h_8 hquote hslash _ _ _ _ _ =>
    split
    next hcontrol => exact denotes_control hcontrol
    next hplain => exact .plain hplain hquote hslash
  all_goals exact .short (by decide)

/-- What is written for a text spells it. -/
theorem spells_flatMap (s : String) : Spells (s.toList.flatMap escapeChar) s := by
  refine ⟨s.toList.map fun c => (escapeChar c, c), ?_, ?_, ?_⟩
  · intro u hu
    obtain ⟨c, -, rfl⟩ := List.mem_map.1 hu
    exact denotes_escapeChar c
  · rw [List.map_map, List.flatMap_def]
    rfl
  · rw [List.map_map]
    show s = String.ofList (s.toList.map id)
    rw [List.map_id, String.ofList_toList]

/-- Every text reads back from its literal, whose opening quote has been read. -/
theorem literalBody_flatMap (s : String) (rest : List Char) :
    literalBody (s.toList.flatMap escapeChar ++ '"' :: rest) = .ok (s, rest) :=
  literalBody_of_spells (spells_flatMap s) rest

theorem literal_append (s : String) (rest : List Char) :
    literal s ++ rest = '"' :: (s.toList.flatMap escapeChar ++ '"' :: rest) := by
  simp [literal]

end Recommend.Json
