import Recommend.Number.Rounding

/-!
Magnitudes of binary64 numbers, counted in units of the smallest positive one, `2 ^
(-1074)`.

Only what a decimal numeral needs on its way to a value: whole numbers, products and
quotients, each rounded to 53 bits, and the scaling of a significand by a power of ten.
-/

namespace Recommend.Binary64

open Rounding

/-- How many units make one. -/
def unitsPerOne : Nat := Nat.pow 2 1074

/-- Magnitudes from here on are beyond the finite range. -/
def limit : Nat := Nat.pow 2 2098

/-- The number nearest to a natural number. -/
def ofNat (n : Nat) : Nat := toBits 53 (n * unitsPerOne) 1

/-- The number nearest to a product. -/
def mul (a b : Nat) : Nat := toBits 53 (a * b) unitsPerOne

/-- The number nearest to a quotient. -/
def div (a b : Nat) : Nat := toBits 53 (a * unitsPerOne) b

/-- The largest power of ten in the finite range. -/
def maxPower : Nat := 308

/-- The number nearest to `10 ^ e`. -/
def powerOfTen (e : Nat) : Nat := ofNat (Nat.pow 10 e)

/-- Divide by `10 ^ e`, in steps of the largest power at hand; zero is reached early. -/
def scaleDown : Nat → Nat → Nat → Nat
  | 0, a, e => div a (powerOfTen e)
  | steps + 1, a, e =>
    if e ≤ maxPower then div a (powerOfTen e)
    -- nothing is left to divide
    else if a = 0 then 0
    else scaleDown steps (div a (powerOfTen maxPower)) (e - maxPower)

/-- `significand * 10 ^ exponent`, or nothing if that is beyond the finite range. -/
def scale? (significand : Nat) (exponent : Int) : Option Nat :=
  let a := ofNat significand
  if exponent < 0 then
    let e := exponent.natAbs
    some (scaleDown (e / maxPower + 1) a e)
  else if exponent.toNat ≤ maxPower then
    -- one power of ten is enough, as a larger one is beyond the range itself
    let b := mul a (powerOfTen exponent.toNat)
    if b < limit then some b else none
  else if a = 0 then some 0
  else none

end Recommend.Binary64
