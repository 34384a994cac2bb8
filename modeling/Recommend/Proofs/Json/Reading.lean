import Mathlib.Data.List.Forall2
import Recommend.Json.Variant
import Recommend.Proofs.Json.Grammar
import Recommend.Proofs.SortedMap

/-!
What a reader makes of a text, given what the readers of its parts make of theirs.

`c.Yields text r` says that the codec `c` reads the text with the outcome `r`, a value
or an error, and leaves what follows it, which may be anything that does not continue a
numeral.  Readers of containers go from left to right and stop at the first error;
`Sequence` says so once for items, entries and members.

Values that read back from what is written for them, values that are refused there and
values that are read from other texts too are all cases of these lemmas.
-/

namespace Recommend.Json

/-! ### From left to right -/

section Sequence

variable {ι β : Type} {Y : ι → Except ReadError β → Prop}

/-- The outcomes of parts, one after the other up to the first error. -/
inductive Sequence (Y : ι → Except ReadError β → Prop) :
    List ι → Except ReadError (List β) → Prop
  | nil : Sequence Y [] (.ok [])
  | cons {i : ι} {is : List ι} {b : β} {r : Except ReadError (List β)} (hi : Y i (.ok b))
    (h : Sequence Y is r) : Sequence Y (i :: is) (r.map (b :: ·))
  | stop {i : ι} {is : List ι} {e : ReadError} (hi : Y i (.error e)) :
    Sequence Y (i :: is) (.error e)

/-- Where every part succeeds, so does the whole. -/
theorem sequence_ok {bs : List β} {is : List ι}
    (h : List.Forall₂ (fun b i => Y i (.ok b)) bs is) :
    Sequence Y is (.ok bs) := by
  induction h with
  | nil => exact .nil
  | cons hi _ ih => exact .cons hi ih

theorem forall_mem_of_forall₂ {R : β → ι → Prop} {P : ι → Prop} {bs : List β} {is : List ι}
    (h : List.Forall₂ R bs is) (himp : ∀ b i, R b i → P i) : ∀ i ∈ is, P i := by
  induction h with
  | nil => exact List.forall_mem_nil _
  | cons hi _ ih => exact List.forall_mem_cons.2 ⟨himp _ _ hi, ih⟩

/-- Where every part succeeds or fails with the same error, one failure is enough. -/
theorem sequence_error {e : ReadError} {is : List ι}
    (h : ∀ i ∈ is, (∃ b, Y i (.ok b)) ∨ Y i (.error e))
    (hbad : ∃ i ∈ is, Y i (.error e)) : Sequence Y is (.error e) := by
  induction is with
  | nil =>
    obtain ⟨i, hi, -⟩ := hbad
    cases hi
  | cons i is ih =>
    rw [List.forall_mem_cons] at h
    -- if the first part does not fail, the failure is among the others
    by_cases hi : Y i (.error e)
    · exact .stop hi
    · obtain ⟨b, hb⟩ := h.1.resolve_right hi
      obtain ⟨j, hj, hbad⟩ := hbad
      rcases List.mem_cons.1 hj with rfl | hj
      · exact absurd hbad hi
      · exact .cons hb (ih h.2 ⟨j, hj, hbad⟩)

end Sequence

/-! ### Written containers -/

/-- The items of an array as they are written. -/
theorem charsItems_close (js : List Json) :
    charsItems js ++ [']'] = listed ']' (js.map chars) := by
  induction js with
  | nil => rfl
  | cons j js ih =>
    cases js with
    | nil => rw [charsItems, List.map_singleton, listed, followed]
    | cons j' js =>
      rw [charsItems, List.append_assoc, List.cons_append, ih]
      · rfl
      · exact List.cons_ne_nil j' js

/-- The members of an object as they are written. -/
theorem charsMembers_close (ms : List (String × Json)) :
    charsMembers ms ++ ['\x7d'] =
      listed '\x7d' (ms.map fun m => literal m.1 ++ ':' :: m.2.chars) := by
  induction ms with
  | nil => rfl
  | cons m ms ih =>
    cases ms with
    | nil => rw [charsMembers, List.map_singleton, listed, followed]
    | cons m' ms =>
      rw [charsMembers, List.append_assoc, List.cons_append, ih]
      · rfl
      · exact List.cons_ne_nil m' ms

theorem chars_array (js : List Json) :
    (Json.array js).chars = '[' :: listed ']' (js.map chars) := by
  rw [chars, charsItems_close]

theorem chars_object (ms : List (String × Json)) :
    (Json.object ms).chars =
      '\x7b' :: listed '\x7d' (ms.map fun m => literal m.1 ++ ':' :: m.2.chars) := by
  rw [chars, charsMembers_close]

namespace Codec

variable {α β κ : Type}

/-- The outcome of reading the text, whatever stands behind it that does not continue a
numeral. -/
def Yields (c : Codec α) (text : List Char) (r : Except ReadError α) : Prop :=
  ∀ rest, Stops rest → c.read (text ++ rest) = r.map fun a => (a, rest)

/-- A text from which a value is read is a document of that value. -/
theorem Yields.decode {c : Codec α} {text : List Char} {a : α} (h : c.Yields text (.ok a)) :
    c.decode (String.ofList text) = .ok a := by
  have hread := h [] trivial
  rw [List.append_nil] at hread
  rw [Codec.decode, String.toList_ofList, decodeWhole, hread]
  rfl

/-! ### Lists -/

/-- An item is read, and a comma with the next one or the closing bracket follows. -/
theorem readList_step {c : Codec α} {t : List Char} {r : Except ReadError α}
    (h : c.Yields t r) (n : Nat) (ts : List (List Char)) (rest : List Char) :
    readList c.read (n + 1) (t ++ (followed ']' ts ++ rest)) =
      r.bind fun a =>
        match ts with
        | [] => .ok ([a], rest)
        | t :: ts =>
          (readList c.read n (t ++ (followed ']' ts ++ rest))).map
            fun p => (a :: p.1, p.2) := by
  have hbracket : endsNumeral ']' = true := rfl
  rw [readList, h _ (stops_followed hbracket ts rest)]
  cases r with
  | error e => rfl
  | ok a =>
    cases ts with
    | nil => rfl
    | cons t ts =>
      rw [followed, List.cons_append, List.append_assoc]
      rfl

/-- Items are read one after the other. -/
theorem readList_followed {c : Codec α} {t : List Char} {ts : List (List Char)}
    {r : Except ReadError (List α)} (h : Sequence c.Yields (t :: ts) r) {n : Nat}
    (hn : ts.length < n) (rest : List Char) :
    readList c.read n (t ++ (followed ']' ts ++ rest)) = r.map fun as => (as, rest) := by
  -- on the items behind the first one; an error ends the run, with whatever follows unread
  induction ts generalizing t r n with
  | nil =>
    obtain ⟨n, rfl⟩ : ∃ m, n = m + 1 := ⟨n - 1, by omega⟩
    cases h with
    | stop ht => rw [readList_step ht]; rfl
    | cons ht h =>
      cases h
      rw [readList_step ht]
      rfl
  | cons t' ts ih =>
    obtain ⟨n, rfl⟩ : ∃ m, n = m + 1 := ⟨n - 1, by omega⟩
    cases h with
    | stop ht => rw [readList_step ht]; rfl
    | @cons _ _ a r ht h =>
      rw [readList_step ht]
      show (readList c.read n (t' ++ (followed ']' ts ++ rest))).map _ = _
      rw [ih h (Nat.lt_of_succ_lt_succ hn)]
      cases r <;> rfl

theorem read_list_cons (c : Codec α) {x : Char} (hspace : isSpace x = false)
    (hbracket : x ≠ ']')
    (cs : List Char) :
    (list c).read ('[' :: x :: cs) = readList c.read ((x :: cs).length + 1) (x :: cs) := by
  have hopen : isSpace '[' = false := rfl
  rw [list]
  dsimp only
  rw [skipSpace_cons hopen]
  split
  next heq => cases heq
  next heq =>
    cases heq
    rw [skipSpace_cons hspace]
    split
    next hnil => cases hnil
    -- a bracket would close the list at once, but an item comes first
    next hclose => exact absurd (List.cons.inj hclose).1 hbracket
    next => rfl
  next hother => exact absurd rfl (hother (x :: cs))

/-- A list is read from the texts of its items. -/
theorem yields_list {c : Codec α} {ts : List (List Char)} {r : Except ReadError (List α)}
    (h : Sequence c.Yields ts r) (hstarts : ∀ t ∈ ts, Starts t) :
    (list c).Yields ('[' :: listed ']' ts) r := by
  intro rest _
  cases ts with
  | nil =>
    cases h
    rfl
  | cons t ts =>
    -- the reader looks at the first character only to see that the list is not empty
    obtain ⟨x, cs, rfl, hspace, hbracket⟩ := hstarts t List.mem_cons_self
    have hlength := length_followed ']' ts
    rw [List.cons_append, listed, List.append_assoc, List.cons_append,
      read_list_cons c hspace hbracket]
    apply readList_followed h
    simp only [List.length_cons, List.length_append]
    omega

/-! ### Maps -/

/-- The entries of a map as they are written. -/
theorem chars_map [Ord κ] [Std.TransOrd κ] [Std.LawfulEqOrd κ] (k : Key κ) (c : Codec α)
    (m : SortedMap κ α) : ((map k c).write m).chars =
      '\x7b' :: listed '\x7d'
        (m.toList.map fun e => literal (k.write e.1) ++ ':' :: (c.write e.2).chars) := by
  show (Json.object (m.toList.map fun e => (k.write e.1, c.write e.2))).chars = _
  rw [chars_object, List.map_map]
  rfl

/-- A key reads back from the name written for it, whose opening quote has been read. -/
def Key.Recovers (k : Key κ) (x : κ) : Prop :=
  ∀ rest, k.read ((k.write x).toList.flatMap escapeChar ++ '"' :: rest) = .ok (x, rest)

/-- The outcome of reading an entry: its key is as it is written, and its value decides. -/
inductive Entry (k : Key κ) (c : Codec α) : List Char → Except ReadError (κ × α) → Prop
  | mk {v : List Char} {r : Except ReadError α} (x : κ) (h : c.Yields v r) :
    Entry k c (literal (k.write x) ++ ':' :: v) (r.map fun a => (x, a))

/-- An entry is read, and a comma with the next one or the closing brace follows. -/
theorem readEntries_step {k : Key κ} (hkey : ∀ x, k.Recovers x) {c : Codec α}
    {t : List Char} {r : Except ReadError (κ × α)} (h : Entry k c t r) (n : Nat)
    (ts : List (List Char)) (rest : List Char) :
    readEntries k.read c.read (n + 1) (t ++ (followed '\x7d' ts ++ rest)) =
      r.bind fun e =>
        match ts with
        | [] => .ok ([e], rest)
        | t :: ts =>
          (readEntries k.read c.read n (t ++ (followed '\x7d' ts ++ rest))).map fun p =>
            (e :: p.1, p.2) := by
  have hbrace : endsNumeral '\x7d' = true := rfl
  obtain ⟨x, h⟩ := h
  rw [List.append_assoc, literal_append]
  -- the key first, and then the value in front of what follows the entry
  show (k.read _ >>= _) = _
  rw [hkey x]
  show (c.read (_ ++ (followed '\x7d' ts ++ rest)) >>= _) = _
  rw [h _ (stops_followed hbrace ts rest)]
  rename_i r
  cases r with
  | error e => rfl
  | ok a =>
    cases ts with
    | nil => rfl
    | cons t ts =>
      rw [followed, List.cons_append, List.append_assoc]
      rfl

/-- Entries are read one after the other. -/
theorem readEntries_followed {k : Key κ} (hkey : ∀ x, k.Recovers x) {c : Codec α}
    {t : List Char} {ts : List (List Char)} {r : Except ReadError (List (κ × α))}
    (h : Sequence (Entry k c) (t :: ts) r) {n : Nat} (hn : ts.length < n)
    (rest : List Char) :
    readEntries k.read c.read n (t ++ (followed '\x7d' ts ++ rest)) =
      r.map fun es => (es, rest) := by
  induction ts generalizing t r n with
  | nil =>
    obtain ⟨n, rfl⟩ : ∃ m, n = m + 1 := ⟨n - 1, by omega⟩
    cases h with
    | stop ht => rw [readEntries_step hkey ht]; rfl
    | cons ht h =>
      cases h
      rw [readEntries_step hkey ht]
      rfl
  | cons t' ts ih =>
    obtain ⟨n, rfl⟩ : ∃ m, n = m + 1 := ⟨n - 1, by omega⟩
    cases h with
    | stop ht => rw [readEntries_step hkey ht]; rfl
    | @cons _ _ e r ht h =>
      rw [readEntries_step hkey ht]
      show (readEntries k.read c.read n (t' ++ (followed '\x7d' ts ++ rest))).map _ = _
      rw [ih h (Nat.lt_of_succ_lt_succ hn)]
      cases r <;> rfl

/-- A map is read from the texts of its entries. -/
theorem yields_map [Ord κ] [Std.TransOrd κ] [Std.LawfulEqOrd κ] {k : Key κ}
    (hkey : ∀ x, k.Recovers x)
    {c : Codec α} {ts : List (List Char)} {r : Except ReadError (List (κ × α))}
    (h : Sequence (Entry k c) ts r) (hquotes : ∀ t ∈ ts, ∃ cs, t = '"' :: cs) :
    (map k c).Yields ('\x7b' :: listed '\x7d' ts) (r.map SortedMap.ofList) := by
  intro rest _
  cases ts with
  | nil =>
    cases h
    rfl
  | cons t ts =>
    have hlength := length_followed '\x7d' ts
    have hread :=
      readEntries_followed hkey h (n := (t ++ (followed '\x7d' ts ++ rest)).length + 1)
        (by simp only [List.length_append]; omega) rest
    -- the reader looks whether the brace closes at once, so the first quote has to be seen
    obtain ⟨cs, rfl⟩ := hquotes t List.mem_cons_self
    rw [List.cons_append, listed, List.append_assoc]
    show (readEntries k.read c.read (('"' :: (cs ++ (followed '\x7d' ts ++ rest))).length + 1)
      ('"' :: (cs ++ (followed '\x7d' ts ++ rest)))).map _ = _
    rw [List.cons_append] at hread
    rw [hread]
    cases r <;> rfl

/-! ### Alternatives -/

theorem write_variant {cases : List (Case α)} {a : α} {j : Json}
    (h : cases.findSome? (·.write? a) = some j) : (variant cases).write a = j := by
  show (cases.findSome? (·.write? a)).getD .null = _
  rw [h, Option.getD_some]

/-- An alternative with a value: the value decides. -/
theorem yields_payload {cases : List (Case α)} {name : String} {codec : Codec β}
    {inject : β → α} {project? : α → Option β} {v : List Char} {r : Except ReadError β}
    (hfind : cases.find? (·.name == name) = some (.payload name codec inject project?))
    (h : codec.Yields v r) :
    (variant cases).Yields ('\x7b' :: listed '\x7d' [literal name ++ ':' :: v])
      (r.map inject) := by
  intro rest _
  rw [List.cons_append, listed, followed, List.append_assoc, List.append_assoc,
    literal_append]
  show (literalBody _ >>= _) = _
  rw [literalBody_flatMap]
  dsimp only [bind, Except.bind]
  rw [hfind]
  show Except.bind ((codec.read (v ++ '\x7d' :: rest)).map _) _ = _
  -- the brace that closes the object ends the value
  rw [h ('\x7d' :: rest) rfl]
  cases r <;> rfl

/-- An alternative without a value. -/
theorem yields_constant {cases : List (Case α)} {a : α} {name : String} {holds : α → Bool}
    (hfind : cases.find? (·.name == name) = some (.constant name a holds)) :
    (variant cases).Yields (literal name) (.ok a) := by
  intro rest _
  rw [literal_append]
  show (literalBody _ >>= _) = _
  rw [literalBody_flatMap]
  dsimp only [bind, Except.bind]
  rw [hfind]
  rfl

end Codec

end Recommend.Json
