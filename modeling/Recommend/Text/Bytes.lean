/-!
Byte sequences and the text they encode in UTF-8.

Where bytes are expected a text may be given: it stands for its encoding.
-/

namespace Recommend

/-- A sequence of bytes: the content of a file, a name or a path in a file tree, a body. -/
abbrev Bytes := List UInt8

namespace Bytes

/-- The UTF-8 encoding of a text. -/
@[coe] def ofText (s : String) : Bytes := s.toUTF8.data.toList

instance : Coe String Bytes := ⟨ofText⟩

/-- The text whose UTF-8 encoding this is, if there is one. -/
def text? (bs : Bytes) : Option String := String.fromUTF8? ⟨bs.toArray⟩

/-- The characters from position `i` on, with `stray` in place of each byte that belongs
to none. -/
def charsFrom (stray : List Char) (a : ByteArray) : Nat → Nat → List Char
  | 0, _ => []
  | n + 1, i =>
    if i < a.size then
      match a.utf8DecodeChar? i with
      | none => stray ++ charsFrom stray a n (i + 1)
      | some c => c :: charsFrom stray a n (i + c.utf8Size)
    else []

/-- The characters that a byte sequence encodes, with `stray` in place of each byte that
belongs to none. -/
def chars (stray : List Char) (bs : Bytes) : List Char :=
  match bs.text? with
  | some s => s.toList
  -- every character takes a byte at least, so there are no more of them than bytes
  | none => charsFrom stray ⟨bs.toArray⟩ bs.length 0

end Bytes

end Recommend
