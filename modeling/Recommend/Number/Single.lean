import Recommend.Number.Numeral

/-!
Binary32 numbers, their fixed text and their shortest text.

A finite number is a sign and a magnitude counted in units of `2 ^ (-149)`, the smallest
positive number; the magnitude has at most 24 significant bits and lies below `2 ^ 277`.
There is no not-a-number: no text spells one.

* `Single.term` writes exactly three decimals of the exact value, a half to the even
  neighbour.
* `Single.numeral?` writes the fewest digits that identify the number; infinities have
  no numeral.
-/

namespace Recommend

/-- The magnitude of a finite binary32 number, in units of `2 ^ (-149)`. -/
structure Magnitude where
  units : Nat
  fits : Rounding.Fits 24 277 units
  deriving DecidableEq

/-- A binary32 number. -/
inductive Single where
  | finite (negative : Bool) (magnitude : Magnitude)
  | infinite (negative : Bool)
  deriving DecidableEq

namespace Single

open Rounding

/-- How many units make one. -/
def unitsPerOne : Nat := Nat.pow 2 149

/-- The number of that many units; a magnitude outside the format is infinite. -/
def ofUnits (negative : Bool) (units : Nat) : Single :=
  if h : Fits 24 277 units then .finite negative ⟨units, h⟩ else .infinite negative

/-- The nearest number to `num / den` units. -/
def round (negative : Bool) (num den : Nat) : Single := ofUnits negative (toBits 24 num den)

/-- The nearest number to what a numeral denotes. -/
def ofNumber : Number → Single
  | .integer n => round (decide (n < 0)) (n.natAbs * unitsPerOne) 1
  | .real negative units => round negative (units * unitsPerOne) Binary64.unitsPerOne

instance : Inhabited Single := ⟨ofUnits false 0⟩

/-! ### Three decimals -/

/-- `n` thousandths as digits, a point and three digits. -/
def thousandths (n : Nat) : List Char :=
  let places := Decimal.natText (n % 1000)
  Decimal.natText (n / 1000) ++ '.' :: (List.replicate (3 - places.length) '0' ++ places)

/-- The text of a number as a search term: three decimals, the sign also on zero. -/
def term : Single → String
  | .finite negative m =>
    let digits := thousandths (halfEven (m.units * 1000) unitsPerOne)
    String.ofList (if negative then '-' :: digits else digits)
  | .infinite negative => if negative then "-inf" else "inf"

/-! ### Shortest digits -/

/-- The interval of reals that round to a magnitude, in quarters of a unit, and whether
its ends belong to it. -/
structure Interval where
  low : Nat
  high : Nat
  closed : Bool

/-- The numbers nearer to `units` than to its neighbours in the format.  Below a power
of two the neighbours are half as far apart; the ends round to `units` iff its last
significant bit is zero. -/
def interval (units : Nat) : Interval :=
  let k := surplus 24 units
  let gap := Nat.pow 2 k
  let below := if 0 < k ∧ units = Nat.pow 2 (k + 23) then gap / 2 else gap
  ⟨4 * units - 2 * below, 4 * units + 2 * gap, units / gap % 2 == 0⟩

/-- The quotient that compares `c * 10 ^ x` with quarters of a unit: numerator and
denominator. -/
def quarters (c : Nat) (x : Int) : Nat × Nat :=
  if x < 0 then (c * 4 * unitsPerOne, Nat.pow 10 x.natAbs)
  else (c * Nat.pow 10 x.toNat * 4 * unitsPerOne, 1)

/-- Whether `c * 10 ^ x` rounds to the magnitude whose interval is given. -/
def Interval.holds (i : Interval) (c : Nat) (x : Int) : Bool :=
  let (num, den) := quarters c x
  if i.closed then i.low * den ≤ num && num ≤ i.high * den
  else i.low * den < num && num < i.high * den

/-- The multiple of `10 ^ x` that identifies `units`, the nearer of two, the even of two
equally near. -/
def onGrid? (units : Nat) (x : Int) : Option Nat :=
  -- the magnitude as a multiple of `10 ^ x`
  let (num, den) :=
    if x < 0 then (units * Nat.pow 10 x.natAbs, unitsPerOne)
    else (units, unitsPerOne * Nat.pow 10 x.toNat)
  let c := num / den
  let i := interval units
  -- zero does not count as digits
  let down := 0 < c && i.holds c x
  let up := i.holds (c + 1) x
  match down, up with
  | true, true => some (halfEven num den)
  | true, false => some c
  | false, true => some (c + 1)
  | false, false => none

/-- The coarsest power of ten tried: above the largest number. -/
def topExponent : Int := 39

/-- The fewest digits `c` and their power of ten `x` such that `c * 10 ^ x` identifies
`units`, trying ever finer powers of ten. -/
def shortest (units : Nat) : Nat × Int :=
  ((List.range 100).findSome? fun i =>
    -- from coarse to fine, so the first hit has the fewest digits
    let x := topExponent - Int.ofNat i
    (onGrid? units x).map fun c => (c, x)).getD (0, 0)

/-! ### Layout -/

/-- Where the exponent form of shortest digits begins on either side. -/
structure Layout where
  /-- The least decimal exponent written without exponent. -/
  least : Int
  /-- The first decimal exponent above it written with exponent. -/
  bound : Int

/-- Numbers are written plainly from `0.000001` up to below `10000000000000`. -/
def layout : Layout := ⟨-6, 13⟩

/-- The numeral for digits `c` times `10 ^ x`: one digit before the point in exponent
form, at least one digit after it in plain form. -/
def Layout.numeral (l : Layout) (negative : Bool) (c : Nat) (x : Int) : Numeral :=
  let digits := (Decimal.natText c).filterMap Decimal.digit?
  let e := x + Int.ofNat digits.length - 1
  -- zero is written `0.0`
  if c = 0 then ⟨negative, 0, [0], none⟩
  else if e < l.least ∨ l.bound ≤ e then
    ⟨negative, Decimal.value (digits.take 1), digits.drop 1, some e⟩
  else if x < 0 then
    let places := x.natAbs
    -- zeros in front, so that there are digits for all places
    let padded := List.replicate (places - digits.length) 0 ++ digits
    ⟨negative, Decimal.value (padded.take (padded.length - places)),
      padded.drop (padded.length - places), none⟩
  else ⟨negative, c * Nat.pow 10 x.toNat, [0], none⟩

/-- The numeral of a finite number: the fewest digits that identify it. -/
def numeral? : Single → Option Numeral
  | .finite negative m =>
    if m.units = 0 then some (layout.numeral negative 0 0)
    else
      let (c, x) := shortest m.units
      some (layout.numeral negative c x)
  | .infinite _ => none

end Single

end Recommend
