import Recommend.Json.Codec
import Recommend.Proofs.Number.Decimal
import Recommend.Proofs.Text.Bytes

/-!
White space and numerals.

Every numeral of the grammar is read (`exists_numeral`), and a written one reads back
(`numeral_text`).  A scanner is run on a text followed by a rest that is arbitrary, but
for a numeral: it ends where the text cannot go on as a numeral (`Stops`).  All that
follows a value in a document is white space, a comma, a closing bracket or brace, or
nothing.
-/

namespace Recommend.Json

open Decimal

/-! ### What may follow a numeral -/

/-- The text does not go on with a digit. -/
def NoDigit : List Char → Prop
  | [] => True
  | c :: _ => isDigit c = false

/-- Whether a numeral cannot go on with the character. -/
def endsNumeral (c : Char) : Bool := !isDigit c && c != '.' && c != 'e' && c != 'E'

/-- The text does not go on as a numeral. -/
def Stops : List Char → Prop
  | [] => True
  | c :: _ => endsNumeral c = true

theorem Stops.noDigit {rest : List Char} (h : Stops rest) : NoDigit rest := by
  cases rest with
  | nil => trivial
  | cons c rest =>
    show isDigit c = false
    have hc : endsNumeral c = true := h
    simp only [endsNumeral, Bool.and_eq_true, Bool.not_eq_true'] at hc
    exact hc.1.1.1

/-! ### White space -/

/-- White space, or nothing. -/
def Blank (cs : List Char) : Prop := ∀ c ∈ cs, isSpace c = true

theorem blank_nil : Blank [] := by
  intro c hc
  cases hc

theorem blank_of_all {cs : List Char} (h : cs.all isSpace = true) : Blank cs :=
  List.all_eq_true.1 h

theorem skipSpace_cons {c : Char} (h : isSpace c = false) (cs : List Char) :
    skipSpace (c :: cs) = c :: cs := by
  rw [skipSpace, List.dropWhile_cons_of_neg]
  simp [h]

theorem skipSpace_append {gap : List Char} (h : Blank gap) (cs : List Char) :
    skipSpace (gap ++ cs) = skipSpace cs :=
  List.dropWhile_append_of_pos h

/-- White space is skipped once and for all. -/
theorem skipSpace_skipSpace (cs : List Char) : skipSpace (skipSpace cs) = skipSpace cs := by
  induction cs with
  | nil => rfl
  | cons c cs ih =>
    cases hc : isSpace c with
    | true =>
      have hskip : skipSpace (c :: cs) = skipSpace cs := List.dropWhile_cons_of_pos hc
      rw [hskip, ih]
    | false => rw [skipSpace_cons hc, skipSpace_cons hc]

/-- White space may stand before a colon. -/
theorem colon_append {gap : List Char} (hgap : Blank gap) (cs : List Char) :
    colon (gap ++ ':' :: cs) = .ok cs := by
  rw [colon, skipSpace_append hgap]
  rfl

/-- White space ends a numeral. -/
theorem endsNumeral_of_isSpace {c : Char} (h : isSpace c = true) :
    endsNumeral c = true := by
  simp only [isSpace, Bool.or_eq_true, beq_iff_eq] at h
  rcases h with ((rfl | rfl) | rfl) | rfl <;> rfl

/-- A numeral ends in front of white space. -/
theorem stops_append {gap rest : List Char} (hgap : Blank gap) (hrest : Stops rest) :
    Stops (gap ++ rest) := by
  cases gap with
  | nil => exact hrest
  | cons c gap => exact endsNumeral_of_isSpace (hgap c List.mem_cons_self)

/-! ### Digits -/

theorem isDigit_digitChar (d : Fin 10) : isDigit (digitChar d) = true := by
  rw [isDigit, digit?_digitChar, Option.isSome_some]

/-- Digits are read up to a text that does not go on with one. -/
theorem digits_map_append (ds : List (Fin 10)) {rest : List Char} (h : NoDigit rest) :
    digits (ds.map digitChar ++ rest) = (ds, rest) := by
  have hall : ∀ c ∈ ds.map digitChar, isDigit c = true := by
    intro c hc
    obtain ⟨d, -, rfl⟩ := List.mem_map.1 hc
    exact isDigit_digitChar d
  -- the digits end where the rest begins
  have hrest : rest.takeWhile isDigit = [] ∧ rest.dropWhile isDigit = rest := by
    cases rest with
    | nil => exact ⟨rfl, rfl⟩
    | cons c rest =>
      have hc : isDigit c = false := h
      simp [hc]
  rw [digits, List.takeWhile_append_of_pos hall, List.dropWhile_append_of_pos hall,
    hrest.1, hrest.2, List.append_nil, List.filterMap_map]
  have hsome : digit? ∘ digitChar = some := by
    funext d
    exact digit?_digitChar d
  rw [hsome, List.filterMap_some]

/-- At least one digit is read where there is one. -/
theorem someDigits_map_append {ds : List (Fin 10)} (hne : ds ≠ []) {rest : List Char}
    (h : NoDigit rest) : someDigits (ds.map digitChar ++ rest) = .ok (ds, rest) := by
  rw [someDigits, digits_map_append ds h]
  cases ds with
  | nil => exact absurd rfl hne
  | cons d ds => rfl

/-! ### The grammar of numerals -/

/-- A zero, or digits that do not start with one. -/
inductive IsWhole : List Char → Prop
  | zero : IsWhole ['0']
  | digits {d : Fin 10} (hd : d ≠ 0) (ds : List (Fin 10)) :
    IsWhole ((d :: ds).map digitChar)

/-- Nothing, or a point with digits. -/
inductive IsFraction : List Char → Prop
  | absent : IsFraction []
  | digits {ds : List (Fin 10)} (hne : ds ≠ []) : IsFraction ('.' :: ds.map digitChar)

/-- Nothing, or a mark with digits, which may have a sign. -/
inductive IsExponent : List Char → Prop
  | absent : IsExponent []
  | digits {mark : Char} (hmark : mark = 'e' ∨ mark = 'E') {sign : List Char}
    (hsign : sign = [] ∨ sign = ['-'] ∨ sign = ['+']) {ds : List (Fin 10)} (hne : ds ≠ []) :
    IsExponent (mark :: (sign ++ ds.map digitChar))

/-- A numeral of any size. -/
inductive IsNumeral : List Char → Prop
  | mk {sign whole fraction exponent : List Char} (hsign : sign = [] ∨ sign = ['-'])
    (hwhole : IsWhole whole) (hfraction : IsFraction fraction)
    (hexponent : IsExponent exponent) :
    IsNumeral (sign ++ (whole ++ (fraction ++ exponent)))

/-- An exponent does not start with a digit. -/
theorem IsExponent.noDigit {exponent rest : List Char} (h : IsExponent exponent)
    (hrest : Stops rest) :
    NoDigit (exponent ++ rest) := by
  cases h with
  | absent => exact hrest.noDigit
  | digits hmark =>
    rcases hmark with rfl | rfl
    · rfl
    · rfl

/-- An exponent does not start with a point. -/
theorem IsExponent.ne_point {exponent rest : List Char} (h : IsExponent exponent)
    (hrest : Stops rest) (tail : List Char) : exponent ++ rest ≠ '.' :: tail := by
  intro heq
  cases h with
  | absent =>
    rw [List.nil_append] at heq
    rw [heq] at hrest
    cases hrest
  | digits hmark =>
    obtain ⟨rfl, -⟩ := List.cons.inj heq
    rcases hmark with hmark | hmark
    · cases hmark
    · cases hmark

theorem IsFraction.noDigit {fraction rest : List Char} (h : IsFraction fraction)
    (hrest : NoDigit rest) :
    NoDigit (fraction ++ rest) := by
  cases h with
  | absent => exact hrest
  | digits hne => rfl

theorem IsWhole.exists_cons {whole : List Char} (h : IsWhole whole) :
    ∃ d cs, whole = digitChar d :: cs := by
  cases h with
  | zero => exact ⟨0, _, rfl⟩
  | @digits d _ ds => exact ⟨d, _, rfl⟩

/-- A numeral starts with a minus sign or a digit. -/
theorem IsNumeral.exists_cons {text : List Char} (h : IsNumeral text) :
    ∃ c cs, text = c :: cs ∧ (c = '-' ∨ isDigit c = true) := by
  cases h with
  | mk hsign hwhole _ _ =>
    rcases hsign with rfl | rfl
    · obtain ⟨d, cs, rfl⟩ := hwhole.exists_cons
      exact ⟨digitChar d, _, rfl, .inr (isDigit_digitChar d)⟩
    · exact ⟨'-', _, rfl, .inl rfl⟩

/-- What starts a numeral is no white space. -/
theorem isSpace_eq_false {c : Char} (h : c = '-' ∨ isDigit c = true) :
    isSpace c = false := by
  cases hc : isSpace c with
  | false => rfl
  | true =>
    simp only [isSpace, Bool.or_eq_true, beq_iff_eq] at hc
    rcases hc with ((rfl | rfl) | rfl) | rfl
    all_goals exact absurd h (by decide)

/-! ### Reading numerals -/

/-- The digits of the whole part: a zero may only stand on its own. -/
theorem wholePart_map_append {d : Fin 10} {ds : List (Fin 10)} (hlead : d = 0 → ds = [])
    {rest : List Char} (h : NoDigit rest) :
    wholePart ((d :: ds).map digitChar ++ rest) = .ok (value (d :: ds), rest) := by
  by_cases hzero : d = 0
  · -- a zero stands on its own, and no digit follows it
    obtain rfl := hlead hzero
    subst hzero
    show wholePart ('0' :: rest) = .ok (0, rest)
    cases rest with
    | nil => rfl
    | cons c rest =>
      have hc : isDigit c = false := h
      simp [wholePart, hc]
  · have hchar : digitChar d ≠ '0' := by
      intro heq
      have hd := digit?_digitChar d
      rw [heq] at hd
      exact hzero (Option.some.inj hd).symm
    show wholePart (digitChar d :: (ds.map digitChar ++ rest)) = _
    unfold wholePart
    split
    next heq => cases heq
    next heq => exact absurd (List.cons.inj heq).1 hchar
    next heq => exact absurd (List.cons.inj heq).1 hchar
    next =>
      show (someDigits ((d :: ds).map digitChar ++ rest)).map _ = _
      rw [someDigits_map_append (List.cons_ne_nil d ds) h]
      rfl

theorem fractionPart_absent {rest : List Char} (hpoint : ∀ tail, rest ≠ '.' :: tail) :
    fractionPart rest = .ok ([], rest) := by
  unfold fractionPart
  split
  next tail => exact absurd rfl (hpoint tail)
  next => rfl

theorem exponentPart_absent {rest : List Char} (h : Stops rest) :
    exponentPart rest = .ok (none, rest) := by
  cases rest with
  | nil => rfl
  | cons c rest =>
    have hc : endsNumeral c = true := h
    simp only [endsNumeral, Bool.and_eq_true, bne_iff_ne] at hc
    have hmark : ¬(c = 'e' ∨ c = 'E') := by
      rintro (he | he)
      · exact hc.1.2 he
      · exact hc.2 he
    exact if_neg hmark

/-- What an exponent with these digits is, under a minus sign or not. -/
def signed (sign : List Char) (ds : List (Fin 10)) : Int :=
  if sign = ['-'] then -Int.ofNat (value ds) else Int.ofNat (value ds)

/-- An exponent is read with its sign. -/
theorem exponentPart_map_append {mark : Char} (hmark : mark = 'e' ∨ mark = 'E')
    {sign : List Char} (hsign : sign = [] ∨ sign = ['-'] ∨ sign = ['+'])
    {ds : List (Fin 10)} (hne : ds ≠ []) {rest : List Char} (h : NoDigit rest) :
    exponentPart (mark :: (sign ++ ds.map digitChar) ++ rest) =
      .ok (some (signed sign ds), rest) := by
  have hdigits := someDigits_map_append hne h
  rw [List.cons_append, List.append_assoc]
  rcases hsign with rfl | rfl | rfl
  · -- without a sign the reader has to see that the first digit is none
    cases ds with
    | nil => exact absurd rfl hne
    | cons d ds =>
      have hsign : ∀ c tail, digitChar d :: (ds.map digitChar ++ rest) = c :: tail →
          digit? c = none → False := by
        intro c tail heq hc
        rw [← (List.cons.inj heq).1, digit?_digitChar] at hc
        cases hc
      rw [List.nil_append, List.map_cons, List.cons_append, exponentPart, if_pos hmark]
      · show (someDigits ((d :: ds).map digitChar ++ rest)).map _ = _
        rw [hdigits]
        rfl
      · exact fun tail heq => hsign '-' tail heq rfl
      · exact fun tail heq => hsign '+' tail heq rfl
  · show (if mark = 'e' ∨ mark = 'E' then
        (someDigits (ds.map digitChar ++ rest)).map _ else _) = _
    rw [if_pos hmark, hdigits]
    rfl
  · show (if mark = 'e' ∨ mark = 'E' then
        (someDigits (ds.map digitChar ++ rest)).map _ else _) = _
    rw [if_pos hmark, hdigits]
    rfl

/-- A numeral is read part by part. -/
theorem unsignedNumeral_of_parts {negative : Bool} {cs cs' cs'' rest : List Char}
    {n : Numeral} (hwhole : wholePart cs = .ok (n.whole, cs'))
    (hfraction : fractionPart cs' = .ok (n.fraction, cs''))
    (hexponent : exponentPart cs'' = .ok (n.exponent, rest))
    (hnegative : n.negative = negative) :
    unsignedNumeral negative cs = .ok (n, rest) := by
  rw [unsignedNumeral, hwhole]
  show (fractionPart _ >>= _) = _
  rw [hfraction]
  show (exponentPart _ >>= _) = _
  rw [hexponent, ← hnegative]
  rfl

/-- The first digit is no minus sign. -/
theorem numeral_of_isWhole {whole : List Char} (h : IsWhole whole) (cs : List Char) :
    numeral (whole ++ cs) = unsignedNumeral false (whole ++ cs) := by
  obtain ⟨d, ds, rfl⟩ := h.exists_cons
  unfold numeral
  split
  next heq => exact absurd (List.cons.inj heq).1 (digitChar_ne (by decide) d)
  next => rfl

/-- A whole part of the grammar is read. -/
theorem exists_wholePart {whole rest : List Char} (h : IsWhole whole)
    (hrest : NoDigit rest) :
    ∃ n, wholePart (whole ++ rest) = .ok (n, rest) := by
  cases h with
  | zero => exact ⟨_, @wholePart_map_append 0 [] (fun _ => rfl) _ hrest⟩
  | digits hd ds => exact ⟨_, wholePart_map_append (fun hzero => absurd hzero hd) hrest⟩

/-- A fraction of the grammar is read. -/
theorem exists_fractionPart {fraction rest : List Char} (h : IsFraction fraction)
    (hrest : NoDigit rest) (hpoint : ∀ tail, rest ≠ '.' :: tail) :
    ∃ ds, fractionPart (fraction ++ rest) = .ok (ds, rest) := by
  cases h with
  | absent => exact ⟨[], fractionPart_absent hpoint⟩
  | @digits ds hne => exact ⟨ds, someDigits_map_append hne hrest⟩

/-- An exponent of the grammar is read. -/
theorem exists_exponentPart {exponent rest : List Char} (h : IsExponent exponent)
    (hrest : Stops rest) :
    ∃ e, exponentPart (exponent ++ rest) = .ok (e, rest) := by
  cases h with
  | absent => exact ⟨none, exponentPart_absent hrest⟩
  | digits hmark hsign hne =>
    exact ⟨_, exponentPart_map_append hmark hsign hne hrest.noDigit⟩

/-- Every numeral of the grammar is read as a numeral. -/
theorem exists_numeral {text rest : List Char} (h : IsNumeral text) (hrest : Stops rest) :
    ∃ n, numeral (text ++ rest) = .ok (n, rest) := by
  cases h with
  | mk hsign hwhole hfraction hexponent =>
    -- each part is read in front of the next ones, of which it has to be told apart
    have hend := hexponent.noDigit hrest
    obtain ⟨w, hw⟩ := exists_wholePart hwhole (hfraction.noDigit hend)
    obtain ⟨ds, hds⟩ := exists_fractionPart hfraction hend (hexponent.ne_point hrest)
    obtain ⟨e, he⟩ := exists_exponentPart hexponent hrest
    rcases hsign with rfl | rfl
    · refine ⟨⟨false, w, ds, e⟩, ?_⟩
      rw [List.nil_append, List.append_assoc, List.append_assoc, numeral_of_isWhole hwhole]
      exact unsignedNumeral_of_parts hw hds he rfl
    · refine ⟨⟨true, w, ds, e⟩, ?_⟩
      rw [List.append_assoc, List.append_assoc, List.append_assoc]
      exact unsignedNumeral_of_parts hw hds he rfl

/-! ### Written numerals -/

/-- The point and the digits after it, as they are written. -/
def fractionText (ds : List (Fin 10)) : List Char :=
  if ds.isEmpty then [] else '.' :: ds.map digitChar

/-- The exponent as it is written. -/
def exponentText : Option Int → List Char
  | none => []
  | some e => 'e' :: (if e < 0 then '-' else '+') :: natText e.natAbs

/-- What is written for a natural number is a whole part. -/
theorem isWhole_natText (n : Nat) : IsWhole (natText n) := by
  obtain ⟨ds, htext, -, hne, hlead⟩ := natText_eq_map n
  rw [htext]
  cases ds with
  | nil => exact absurd rfl hne
  | cons d ds =>
    by_cases hzero : d = 0
    · obtain rfl := hlead ds (by rw [hzero])
      subst hzero
      exact .zero
    · exact .digits hzero ds

theorem isFraction_fractionText (ds : List (Fin 10)) : IsFraction (fractionText ds) := by
  cases ds with
  | nil => exact .absent
  | cons d ds => exact .digits (List.cons_ne_nil d ds)

/-- The sign of an exponent is always written. -/
theorem exists_exponentText_eq (e : Int) :
    ∃ sign ds, (sign = [] ∨ sign = ['-'] ∨ sign = ['+']) ∧ ds ≠ [] ∧
      exponentText (some e) = 'e' :: (sign ++ ds.map digitChar) ∧
      signed sign ds = e := by
  obtain ⟨ds, htext, hvalue, hne, -⟩ := natText_eq_map e.natAbs
  -- the sign goes with the digits of the absolute value
  by_cases hneg : e < 0
  · refine ⟨['-'], ds, .inr (.inl rfl), hne, by simp [exponentText, hneg, htext], ?_⟩
    show -Int.ofNat (value ds) = e
    rw [hvalue]
    show -(e.natAbs : Int) = e
    omega
  · refine ⟨['+'], ds, .inr (.inr rfl), hne, by simp [exponentText, hneg, htext], ?_⟩
    show Int.ofNat (value ds) = e
    rw [hvalue]
    show (e.natAbs : Int) = e
    omega

theorem isExponent_exponentText (e : Option Int) : IsExponent (exponentText e) := by
  cases e with
  | none => exact .absent
  | some e =>
    obtain ⟨sign, ds, hsign, hne, htext, -⟩ := exists_exponentText_eq e
    rw [htext]
    exact .digits (.inl rfl) hsign hne

theorem wholePart_natText (n : Nat) {rest : List Char} (h : NoDigit rest) :
    wholePart (natText n ++ rest) = .ok (n, rest) := by
  obtain ⟨ds, htext, hvalue, hne, hlead⟩ := natText_eq_map n
  cases ds with
  | nil => exact absurd rfl hne
  | cons d ds =>
    rw [htext, wholePart_map_append (fun hzero => hlead ds (by rw [hzero])) h, hvalue]

theorem fractionPart_fractionText (ds : List (Fin 10)) {rest : List Char} (h : NoDigit rest)
    (hpoint : ∀ tail, rest ≠ '.' :: tail) :
    fractionPart (fractionText ds ++ rest) = .ok (ds, rest) := by
  cases ds with
  | nil => exact fractionPart_absent hpoint
  | cons d ds => exact someDigits_map_append (List.cons_ne_nil d ds) h

theorem exponentPart_exponentText (e : Option Int) {rest : List Char} (h : Stops rest) :
    exponentPart (exponentText e ++ rest) = .ok (e, rest) := by
  cases e with
  | none => exact exponentPart_absent h
  | some e =>
    obtain ⟨sign, ds, hsign, hne, htext, hvalue⟩ := exists_exponentText_eq e
    rw [htext, exponentPart_map_append (.inl rfl) hsign hne h.noDigit, hvalue]

/-- A written numeral, part by part. -/
theorem numeral_text_eq (n : Numeral) :
    n.text = (if n.negative then ['-'] else []) ++
      (natText n.whole ++ (fractionText n.fraction ++ exponentText n.exponent)) := by
  obtain ⟨negative, whole, fraction, exponent⟩ := n
  cases exponent <;> simp [Numeral.text, fractionText, exponentText]

/-- What is written for a numeral is one of the grammar. -/
theorem isNumeral_text (n : Numeral) : IsNumeral n.text := by
  rw [numeral_text_eq]
  refine .mk ?_ (isWhole_natText n.whole) (isFraction_fractionText n.fraction)
    (isExponent_exponentText n.exponent)
  cases n.negative with
  | true => exact .inr rfl
  | false => exact .inl rfl

/-- Every numeral reads back from its text. -/
theorem numeral_text (n : Numeral) {rest : List Char} (h : Stops rest) :
    numeral (n.text ++ rest) = .ok (n, rest) := by
  have hexponent := isExponent_exponentText n.exponent
  have hend := hexponent.noDigit h
  have hwhole :=
    wholePart_natText n.whole ((isFraction_fractionText n.fraction).noDigit hend)
  have hfraction := fractionPart_fractionText n.fraction hend (hexponent.ne_point h)
  have hread := @unsignedNumeral_of_parts n.negative _ _ _ _ n hwhole hfraction
    (exponentPart_exponentText n.exponent h) rfl
  rw [numeral_text_eq, List.append_assoc, List.append_assoc, List.append_assoc]
  cases hnegative : n.negative with
  | true =>
    rw [hnegative] at hread
    exact hread
  | false =>
    rw [hnegative] at hread
    exact (numeral_of_isWhole (isWhole_natText n.whole) _).trans hread

/-- What is read where a numeral stands in front of a rest. -/
def denoted (n : Numeral) (rest : List Char) : Except ReadError (Number × List Char) :=
  match n.value? with
  | some v => .ok (v, rest)
  | none => .error .malformed

/-- A written numeral is read as the number that it denotes. -/
theorem finiteNumber_text (n : Numeral) {rest : List Char} (h : Stops rest) :
    finiteNumber (n.text ++ rest) = denoted n rest := by
  rw [finiteNumber, numeral_text n h]
  rfl

/-! ### Documents -/

/-- The text starts with something that is neither white space nor a closing bracket. -/
def Starts (text : List Char) : Prop := ∃ c cs, text = c :: cs ∧ isSpace c = false ∧ c ≠ ']'

theorem IsNumeral.starts {text : List Char} (h : IsNumeral text) : Starts text := by
  obtain ⟨c, cs, rfl, hc⟩ := h.exists_cons
  refine ⟨c, cs, rfl, isSpace_eq_false hc, ?_⟩
  rintro rfl
  exact absurd hc (by decide)

/-- A document starts with something. -/
theorem starts_chars (j : Json) : Starts j.chars := by
  cases j with
  | null => exact ⟨'n', _, by rw [chars], rfl, by decide⟩
  | bool b => cases b <;> exact ⟨_, _, by rw [chars], rfl, by decide⟩
  | number n =>
    rw [chars]
    exact (isNumeral_text n).starts
  | text s => exact ⟨'"', _, by rw [chars, literal], rfl, by decide⟩
  | array items => exact ⟨'[', _, by rw [chars], rfl, by decide⟩
  | object members => exact ⟨'\x7b', _, by rw [chars], rfl, by decide⟩

end Recommend.Json
