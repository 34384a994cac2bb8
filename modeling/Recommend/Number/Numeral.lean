import Recommend.Number.Binary64
import Recommend.Number.Decimal

/-!
Decimal numerals: a sign, a whole part, digits after the point, an exponent.

A numeral is what stands in a text; its value is decided afterwards.  Numerals without
point and exponent that fit a 64-bit word denote that whole number exactly; all others
denote a binary64 number, computed from the leading digits that fit an unsigned 64-bit
word and a power of ten.  A numeral beyond the finite range has no value.
-/

namespace Recommend

/-- A decimal numeral.  No digits after the point and no exponent spell a whole number. -/
structure Numeral where
  negative : Bool
  whole : Nat
  fraction : List (Fin 10)
  exponent : Option Int
  deriving DecidableEq, Repr

/-- What a numeral denotes: a whole number, or a binary64 magnitude with its sign. -/
inductive Number where
  | integer (n : Int)
  | real (negative : Bool) (units : Nat)
  deriving DecidableEq, Repr

namespace Numeral

/-- The numeral of a whole number. -/
def ofInt (n : Int) : Numeral := ⟨decide (n < 0), n.natAbs, [], none⟩

/-- The numeral of a natural number. -/
def ofNat (n : Nat) : Numeral := ⟨false, n, [], none⟩

/-- The text: `-`, the whole part, `.` and digits, `e` and a signed exponent, each where
present. -/
def text (n : Numeral) : List Char :=
  (if n.negative then ['-'] else []) ++ Decimal.natText n.whole
    ++ (if n.fraction.isEmpty then [] else '.' :: n.fraction.map Decimal.digitChar)
    ++ (match n.exponent with
      | none => []
      | some e => 'e' :: (if e < 0 then '-' else '+') :: Decimal.natText e.natAbs)

/-! ### The significand -/

/-- The largest significand: that of an unsigned 64-bit word. -/
def maxSignificand : Nat := Nat.pow 2 64 - 1

/-- The leading digits that fit, and how many digits were left out. -/
def leadingDigits : List (Fin 10) → Nat → Nat × Nat
  | [], s => (s, 0)
  | d :: ds, s =>
    if 10 * s + d.val ≤ maxSignificand then leadingDigits ds (10 * s + d.val)
    -- the digits left out still count as places
    else (s, ds.length + 1)

/-- Digits after the point that still fit, and how many were used. -/
def trailingDigits : List (Fin 10) → Nat → Nat × Nat
  | [], s => (s, 0)
  | d :: ds, s =>
    if 10 * s + d.val ≤ maxSignificand then
      let (s', used) := trailingDigits ds (10 * s + d.val)
      (s', used + 1)
    -- digits left out behind the point do not count at all
    else (s, 0)

/-- The digits of the whole part. -/
def wholeDigits (n : Numeral) : List (Fin 10) :=
  (Decimal.natText n.whole).filterMap Decimal.digit?

/-- The significand and the power of ten it is to be multiplied with, the written
exponent aside. -/
def significand (n : Numeral) : Nat × Int :=
  let (s, dropped) := leadingDigits n.wholeDigits 0
  let (s', used) := trailingDigits n.fraction s
  (s', Int.ofNat dropped - Int.ofNat used)

/-! ### The value -/

/-- Exponents beyond this count as unbounded. -/
def maxExponent : Int := Int32.maxValue.toInt

/-- The binary64 magnitude, if it is in the finite range. -/
def units? (n : Numeral) : Option Nat :=
  let (s, shift) := n.significand
  let e := n.exponent.getD 0
  -- such an exponent decides alone, unless all digits are zero
  if e > maxExponent then (if s = 0 then some 0 else none)
  else if e < -maxExponent then some 0
  else Binary64.scale? s (shift + e)

/-- What the numeral denotes; nothing if it is beyond the finite range.  A negative zero
is not a whole number. -/
def value? (n : Numeral) : Option Number :=
  let real := n.units?.map (Number.real n.negative)
  if n.fraction.isEmpty ∧ n.exponent = none then
    if n.negative then
      -- the least number of 64 bits is one further away from zero than the largest
      if 0 < n.whole ∧ n.whole ≤ Nat.pow 2 63 then some (.integer (-Int.ofNat n.whole))
      else real
    else if n.whole ≤ maxSignificand then some (.integer (Int.ofNat n.whole))
    else real
  else real

end Numeral

end Recommend
