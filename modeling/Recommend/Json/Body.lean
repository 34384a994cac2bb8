import Recommend.Json.Codec
import Recommend.Text.Bytes

/-!
JSON text that arrives as bytes and need not be UTF-8 throughout.

A byte that encodes no character may stand in a string that is read over, but neither in
one that is read nor outside of strings.  An escape of half a surrogate pair is just as
welcome, so such a byte is read as if one stood there.
-/

namespace Recommend.Json

/-- What is read for a byte that encodes no character.  The letter keeps a backslash
before it from being the start of an escape; the second of two lower halves cannot be
part of a pair, whatever stands before them. -/
def strayByte : List Char := "x\\udc00\\udc00".toList

/-- The text of a body. -/
def bodyText (body : Bytes) : List Char := body.chars strayByte

namespace Codec

variable {α : Type}

/-- The value that a body consists of. -/
def decodeBody (c : Codec α) (body : Bytes) : Except ReadError α :=
  c.decodeWhole (bodyText body)

/-- The value at the beginning of a body. -/
def decodeBodyLeading (c : Codec α) (body : Bytes) : Except ReadError α :=
  c.decodeLeading (bodyText body)

end Codec

end Recommend.Json
