import Recommend.Text.Bytes
import Recommend.Text.Split

/-!
Text and its bytes, and text cut at separators.
-/

namespace Recommend

/-- What gives at least one element for each of a list gives at least as many. -/
theorem length_le_length_flatMap {α β : Type} {f : α → List β} {as : List α}
    (h : ∀ a ∈ as, f a ≠ []) : as.length ≤ (as.flatMap f).length := by
  induction as with
  | nil => exact Nat.le_refl 0
  | cons a as ih =>
    have hpos : 0 < (f a).length := List.length_pos_iff.2 (h a List.mem_cons_self)
    have hrest := ih fun x hx => h x (List.mem_cons_of_mem a hx)
    rw [List.flatMap_cons, List.length_append, List.length_cons]
    omega

namespace Bytes

/-! ### Encoding -/

/-- The bytes of a text are those of its characters one after the other. -/
theorem ofText_ofList (cs : List Char) :
    ofText (String.ofList cs) = cs.flatMap String.utf8EncodeChar := by
  rw [ofText, String.toUTF8_eq_toByteArray, String.toByteArray_ofList, List.utf8Encode,
    List.toList_data_toByteArray]

theorem ofText_eq_flatMap (s : String) :
    ofText s = s.toList.flatMap String.utf8EncodeChar := by
  rw [← ofText_ofList, String.ofList_toList]

/-- The bytes of one text behind another are those of both. -/
theorem ofText_append (s t : String) : ofText (s ++ t) = ofText s ++ ofText t := by
  rw [ofText_eq_flatMap, String.toList_append, List.flatMap_append, ← ofText_eq_flatMap,
    ← ofText_eq_flatMap]

/-- The text of bytes has just these bytes. -/
theorem ofText_of_text? {bytes : Bytes} {s : String} (h : bytes.text? = some s) :
    ofText s = bytes := by
  rw [text?, String.fromUTF8?] at h
  split at h
  next hvalid =>
    cases h
    rfl
  next => cases h

/-- Every text reads back from its bytes. -/
theorem text?_ofText (s : String) : (ofText s).text? = some s := by
  have hbytes : (⟨(ofText s).toArray⟩ : ByteArray) = s.toByteArray := rfl
  rw [text?, hbytes, String.fromUTF8?, dif_pos s.isValidUTF8]
  rfl

/-- Only the empty text has no bytes. -/
theorem ofText_eq_nil_iff {s : String} : ofText s = [] ↔ s = "" := by
  constructor
  · intro h
    have hempty : (ofText "").text? = some "" := text?_ofText ""
    have hread := text?_ofText s
    rw [h] at hread
    exact Option.some.inj (hread.symm.trans hempty)
  · rintro rfl
    rfl

theorem chars_ofText (stray : List Char) (s : String) :
    (ofText s).chars stray = s.toList := by
  rw [chars, text?_ofText]

/-- A character of ASCII is one byte. -/
theorem utf8EncodeChar_of_lt {c : Char} (h : c.toNat < 128) :
    String.utf8EncodeChar c = [UInt8.ofNat c.toNat] := by
  have hsize : c.utf8Size = 1 := by
    rw [Char.utf8Size_eq_one_iff, UInt32.le_iff_toNat_le]
    exact Nat.le_of_lt_succ h
  rw [String.utf8EncodeChar_eq_singleton hsize]
  rfl

/-- A byte of ASCII comes from its own character only: the bytes of a longer code are
all above. -/
theorem toNat_of_mem_utf8EncodeChar {c : Char} {b : UInt8}
    (hmem : b ∈ String.utf8EncodeChar c) (hb : b.toNat < 128) : c.toNat = b.toNat := by
  by_cases hc : c.toNat < 128
  · rw [utf8EncodeChar_of_lt hc, List.mem_singleton] at hmem
    rw [hmem, UInt8.toNat_ofNat']
    omega
  -- two, three or four bytes, each with its highest bit set
  · have hbyte : 128 ≤ b.toNat := by
      have hle : ¬c.val.toNat ≤ 127 := fun hle => hc (Nat.lt_succ_of_le hle)
      unfold String.utf8EncodeChar at hmem
      dsimp only at hmem
      rw [if_neg hle] at hmem
      split at hmem
      next =>
        simp only [List.mem_cons, List.not_mem_nil, or_false] at hmem
        rcases hmem with rfl | rfl <;> rw [UInt8.toNat_ofNat'] <;> omega
      next =>
        split at hmem
        next =>
          simp only [List.mem_cons, List.not_mem_nil, or_false] at hmem
          rcases hmem with rfl | rfl | rfl <;> rw [UInt8.toNat_ofNat'] <;> omega
        next =>
          simp only [List.mem_cons, List.not_mem_nil, or_false] at hmem
          rcases hmem with rfl | rfl | rfl | rfl <;> rw [UInt8.toNat_ofNat'] <;> omega
    omega

/-- A text without line feeds has none among its bytes. -/
theorem lf_notMem_ofText {cs : List Char} (h : '\n' ∉ cs) :
    10 ∉ ofText (String.ofList cs) := by
  rw [ofText_ofList, List.mem_flatMap]
  rintro ⟨c, hc, hbyte⟩
  have hcode : c.toNat = '\n'.toNat := toNat_of_mem_utf8EncodeChar hbyte (by decide)
  obtain rfl := Char.toNat_inj.1 hcode
  exact h hc

end Bytes

namespace Text

/-! ### Separators -/

variable {α : Type}

/-- The first piece of a text is what stands before the first separator. -/
theorem splitBy_eq_cons (p : α → Bool) (cs : List α) :
    ∃ pieces, splitBy p cs = (cs.takeWhile fun c => !p c) :: pieces := by
  induction cs with
  | nil => exact ⟨[], rfl⟩
  | cons c cs ih =>
    obtain ⟨pieces, hpieces⟩ := ih
    rw [splitBy]
    by_cases hc : p c = true
    · rw [if_pos hc, List.takeWhile_cons_of_neg (by simp [hc])]
      exact ⟨_, rfl⟩
    · rw [if_neg hc, List.takeWhile_cons_of_pos (by simp [hc]), hpieces]
      exact ⟨pieces, rfl⟩

/-- A text without separators is put before the first piece of what follows it. -/
theorem splitBy_append {p : α → Bool} {cs : List α} (h : ∀ c ∈ cs, p c = false)
    {rest piece : List α} {pieces : List (List α)}
    (hrest : splitBy p rest = piece :: pieces) :
    splitBy p (cs ++ rest) = (cs ++ piece) :: pieces := by
  induction cs with
  | nil => exact hrest
  | cons c cs ih =>
    have hc : p c = false := h c List.mem_cons_self
    rw [List.cons_append, splitBy, hc, ih fun x hx => h x (List.mem_cons_of_mem c hx)]
    rfl

/-- A separator divides the pieces before it from those after it. -/
theorem splitBy_append_cons {p : α → Bool} {mark : α} (hmark : p mark = true)
    (cs rest : List α) :
    splitBy p (cs ++ mark :: rest) = splitBy p cs ++ splitBy p rest := by
  induction cs with
  | nil => simp [splitBy, hmark]
  | cons c cs ih =>
    rw [List.cons_append, splitBy, splitBy, ih]
    by_cases hc : p c = true
    · rw [if_pos hc, if_pos hc, List.cons_append]
    · rw [if_neg hc, if_neg hc]
      -- there is always a first piece, to which the character is added
      cases hpieces : splitBy p cs with
      | nil => exact absurd hpieces (splitBy_ne_nil p cs)
      | cons piece pieces => rfl

/-- The pieces are what is left of a text without its separators. -/
theorem flatten_splitBy (p : α → Bool) (cs : List α) :
    (splitBy p cs).flatten = cs.filter fun c => !p c := by
  induction cs with
  | nil => rfl
  | cons c cs ih =>
    rw [splitBy]
    by_cases hc : p c = true
    · rw [if_pos hc, List.flatten_cons, List.nil_append, ih]
      simp [hc]
    · rw [if_neg hc, List.filter_cons_of_pos (by simpa using hc), ← ih]
      cases hpieces : splitBy p cs with
      | nil => exact absurd hpieces (splitBy_ne_nil p cs)
      | cons piece pieces => rfl

/-- Pieces with a separator before each of them are found again, after the empty piece
before the first separator. -/
theorem splitBy_flatMap {p : α → Bool} {mark : α} (hmark : p mark = true)
    {pieces : List (List α)} (h : ∀ piece ∈ pieces, ∀ c ∈ piece, p c = false) :
    splitBy p (pieces.flatMap (mark :: ·)) = [] :: pieces := by
  induction pieces with
  | nil => rfl
  | cons piece pieces ih =>
    have hrest := ih fun s hs => h s (List.mem_cons_of_mem piece hs)
    -- the piece has no separator, so it is joined to the empty one before the next
    have hpiece := splitBy_append (h piece List.mem_cons_self) hrest
    rw [List.flatMap_cons, List.cons_append, splitBy, hmark, hpiece, List.append_nil]
    rfl

end Text

end Recommend
