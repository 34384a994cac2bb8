/-!
Whole numbers as decimal text.
-/

namespace Recommend.Decimal

/-- The decimal digits of `n`, without leading zeros. -/
def natText (n : Nat) : List Char := Nat.toDigits 10 n

/-- Decimal digits after a minus sign for numbers below zero. -/
def intText (n : Int) : List Char :=
  if n < 0 then '-' :: natText n.natAbs else natText n.natAbs

/-- The decimal text of a natural number. -/
def ofNat (n : Nat) : String := String.ofList (natText n)

/-- The decimal text of a whole number. -/
def ofInt (n : Int) : String := String.ofList (intText n)

/-- The value of a decimal digit. -/
def digit? (c : Char) : Option (Fin 10) :=
  if h : '0'.toNat ≤ c.toNat ∧ c.toNat ≤ '9'.toNat then
    some ⟨c.toNat - '0'.toNat, by
      have h₀ : '0'.toNat = 48 := rfl
      have h₉ : '9'.toNat = 57 := rfl
      omega⟩
  else none

/-- The character of a decimal digit. -/
def digitChar (d : Fin 10) : Char := Nat.digitChar d.val

/-- The number spelled by digits, most significant first. -/
def value (digits : List (Fin 10)) : Nat := digits.foldl (fun n d => 10 * n + d.val) 0

/-- One or more digits, leading zeros allowed, and nothing else. -/
def readNat? (cs : List Char) : Option Nat :=
  if cs.isEmpty then none else (cs.mapM digit?).map value

/-- A number with an optional sign of either kind. -/
def readInt? : List Char → Option Int
  | '+' :: cs => (readNat? cs).map Int.ofNat
  | '-' :: cs => (readNat? cs).map fun n => -Int.ofNat n
  | cs => (readNat? cs).map Int.ofNat

/-- A whole number that a signed 32-bit word can hold. -/
def int32OfInt? (n : Int) : Option Int32 :=
  if Int32.minValue.toInt ≤ n ∧ n ≤ Int32.maxValue.toInt then some (Int32.ofInt n) else none

/-- The 32-bit number that a whole text spells, with an optional sign. -/
def readInt32? (s : String) : Option Int32 := (readInt? s.toList).bind int32OfInt?

end Recommend.Decimal
