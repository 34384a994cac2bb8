import Recommend.Index.Basic
import Recommend.Text.Bytes

/-!
The binary form of an index.

Numbers are little endian of fixed width: four bytes for field numbers, eight for counts
and lengths.  A text is its length in bytes and its UTF-8 encoding; a list or a map is
its count and its elements, an element of a map being its key and its value.  A map may
list its elements in any order, which is what `Listing` stands for; of repeated keys the
last one counts.  What follows the second store is not looked at.
-/

namespace Recommend

/-- The stores of an index with the elements of their maps in some order. -/
structure Listing where
  keyField : FieldId
  forward : List (String × List (FieldId × List String))
  inverted : List (FieldId × List (String × List String))

namespace Listing

/-- The stores of an index in key order. -/
def ofIndex (ix : Index) : Listing :=
  ⟨ix.keyField, ix.forward.toList.map fun e => (e.1, e.2.toList),
    ix.inverted.toList.map fun e => (e.1, e.2.toList)⟩

/-- The index that the stores make up. -/
def toIndex (l : Listing) : Index :=
  ⟨l.keyField, .ofList (l.forward.map fun e => (e.1, .ofList e.2)),
    .ofList (l.inverted.map fun e => (e.1, .ofList e.2))⟩

/-! ### Writing -/

/-- `width` bytes of a number, the least significant first. -/
def littleEndian : Nat → Nat → Bytes
  | 0, _ => []
  | width + 1, n => UInt8.ofNat n :: littleEndian width (n / 256)

/-- A count, in eight bytes. -/
def writeCount (n : Nat) : Bytes := littleEndian 8 n

/-- A field, in four bytes. -/
def writeField (field : FieldId) : Bytes := littleEndian 4 field.toUInt32.toNat

/-- A text with the number of its bytes in front. -/
def writeText (s : String) : Bytes :=
  let bytes := Bytes.ofText s
  writeCount bytes.length ++ bytes

/-- A list with its length in front. -/
def writeMany {α : Type} (write : α → Bytes) (as : List α) : Bytes :=
  writeCount as.length ++ as.flatMap write

/-- An entry of a map: the key and then the value. -/
def writeEntry {α β : Type} (key : α → Bytes) (value : β → Bytes) (e : α × β) : Bytes :=
  key e.1 ++ value e.2

/-- The bytes of a listing. -/
def encode (l : Listing) : Bytes :=
  writeField l.keyField
    ++ writeMany (writeEntry writeText
      (writeMany (writeEntry writeField (writeMany writeText)))) l.forward
    ++ writeMany (writeEntry writeField
      (writeMany (writeEntry writeText (writeMany writeText)))) l.inverted

end Listing

/-! ### Reading -/

/-- Why bytes are not the stores of an index. -/
inductive LayoutError where
  /-- The bytes end early, or are no text where one should be. -/
  | damaged
  /-- A text is announced that is longer than anything can be. -/
  | oversized
  deriving DecidableEq

/-- What is reported about stores that cannot be read. -/
def LayoutError.message : LayoutError → String
  | damaged => "the stores are damaged"
  | oversized => "capacity overflow"

namespace Listing

/-- A reader of the bytes that remain. -/
abbrev Decoder (α : Type) := Bytes → Except LayoutError (α × Bytes)

/-- A number of `width` bytes. -/
def readNumber : Nat → Decoder Nat
  | 0, bs => .ok (0, bs)
  | _ + 1, [] => .error .damaged
  | width + 1, b :: bs => (readNumber width bs).map fun (n, bs) => (b.toNat + 256 * n, bs)

/-- A count, in eight bytes. -/
def readCount : Decoder Nat := readNumber 8

/-- A field, in four bytes. -/
def readField : Decoder FieldId := fun bs =>
  (readNumber 4 bs).map fun (n, bs) => ((UInt32.ofNat n).toInt32, bs)

/-- Half of what eight bytes can count: no text has as many bytes. -/
def textLimit : Nat := Nat.pow 2 63

/-- That many bytes of a text. -/
def readBytes (n : Nat) : Decoder Bytes := fun bs =>
  -- room for all of them is made first, which fails for a length that no text has
  let taken := bs.take n
  if taken.length = n then .ok (taken, bs.drop n)
  else if n < textLimit then .error .damaged
  else .error .oversized

/-- A text behind the number of its bytes. -/
def readText : Decoder String := fun bs => do
  let (n, bs) ← readCount bs
  let (taken, bs) ← readBytes n bs
  match taken.text? with
  | some s => .ok (s, bs)
  | none => .error .damaged

/-- That many elements. -/
def readTimes {α : Type} (read : Decoder α) : Nat → Decoder (List α)
  | 0, bs => .ok ([], bs)
  | n + 1, bs => do
    let (a, bs) ← read bs
    let (as, bs) ← readTimes read n bs
    .ok (a :: as, bs)

/-- A list behind its length. -/
def readMany {α : Type} (read : Decoder α) : Decoder (List α) := fun bs => do
  let (n, bs) ← readCount bs
  readTimes read n bs

/-- An entry of a map: the key and then the value. -/
def readEntry {α β : Type} (key : Decoder α) (value : Decoder β) : Decoder (α × β) :=
  fun bs => do
    let (k, bs) ← key bs
    let (a, bs) ← value bs
    .ok ((k, a), bs)

/-- The stores at the beginning of a byte sequence. -/
def decode (bs : Bytes) : Except LayoutError Listing := do
  let (keyField, bs) ← readField bs
  let (forward, bs) ←
    readMany (readEntry readText (readMany (readEntry readField (readMany readText)))) bs
  -- what is left is not looked at
  let (inverted, _) ←
    readMany (readEntry readField (readMany (readEntry readText (readMany readText)))) bs
  .ok ⟨keyField, forward, inverted⟩

end Listing

namespace Index

/-- The stores of an index in bytes, their maps in ascending order. -/
def encode (ix : Index) : Bytes := (Listing.ofIndex ix).encode

/-- The index whose stores the bytes are. -/
def decode (bs : Bytes) : Except LayoutError Index :=
  (Listing.decode bs).map Listing.toIndex

end Index

end Recommend
