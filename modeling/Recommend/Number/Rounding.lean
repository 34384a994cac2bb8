/-!
Rounding of quotients of natural numbers.

A binary floating point format is, up to its sign and its unit, the set of natural
numbers of at most `bits` significant bits below a limit: the unit is the smallest
positive number of the format, so the subnormal numbers are simply the small ones.
`toBits` rounds a quotient into that set, and `Fits` says which numbers lie in it.
-/

namespace Recommend.Rounding

/-- `num / den` to the nearest natural number; a half goes to the even neighbour. -/
def halfEven (num den : Nat) : Nat :=
  let q := num / den
  let r := num % den
  if 2 * r < den then q
  else if den < 2 * r then q + 1
  else if q % 2 = 0 then q
  else q + 1

/-- How many low bits of `n` must be zero for it to have at most `bits` significant
ones. -/
def surplus (bits n : Nat) : Nat := n.log2 + 1 - bits

/-- `num / den` to the nearest number of at most `bits` significant bits, a half to the
even one. -/
def toBits (bits num den : Nat) : Nat :=
  -- rounding up may reach the next power of two, which has few enough bits as well
  let k := surplus bits (num / den)
  halfEven num (den * Nat.pow 2 k) * Nat.pow 2 k

/-- The numbers below `2 ^ limit` with at most `bits` significant bits. -/
def Fits (bits limit n : Nat) : Prop :=
  n % Nat.pow 2 (surplus bits n) = 0 ∧ n < Nat.pow 2 limit

instance (bits limit n : Nat) : Decidable (Fits bits limit n) :=
  inferInstanceAs (Decidable (_ ∧ _))

end Recommend.Rounding
